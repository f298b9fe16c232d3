import CodeMarkup.Kind.Taxonomy
import CodeMarkup.Value

/-!
References to kinds. A caller gives a kind itself or a value, and of the values only a text can name
a kind. A reference that does not resolve is reported as it was given.
-/

namespace CodeMarkup

/-- What a caller gives where a kind is expected. -/
inductive KindRef where
  | kind (k : Kind)
  | value (v : Value)
  deriving Inhabited

/-- A kind is missing: none is meant by the reference, or what is needed to render it is not there.
The text is that of the token, if there is one. -/
structure UnknownKind where
  ref : KindRef
  text : Option String

namespace KindRef

def path (dotted : String) : KindRef := .value (.text dotted)

/-- The form in which messages show a reference. -/
def quoted : KindRef → String
  | kind k => k.text
  | value v => v.quoted

/-- The taxonomy once a reference has been made: a kind that is given exists. -/
def register (t : Taxonomy) : KindRef → Taxonomy
  | kind k => t.declare k
  | value _ => t

/-- The kind that is meant, if the reference resolves. -/
def resolve? (t : Taxonomy) : KindRef → Option Kind
  | kind k => some k
  | value (.text dotted) => t.find? dotted
  | value _ => none

def resolve (t : Taxonomy) (r : KindRef) : Except UnknownKind Kind :=
  match r.resolve? t with
  | some k => .ok k
  | none => .error ⟨r, none⟩

/-- Whether two references are one key of a mapping: a kind and a path never are. -/
def sameKey : KindRef → KindRef → Bool
  | kind j, kind k => j = k
  | value (.text a), value (.text b) => a = b
  | _, _ => false

end KindRef

def UnknownKind.message (e : UnknownKind) : String :=
  "Unknown token kind: " ++ e.ref.quoted ++
    match e.text with
    | some text => " for " ++ Text.quoted text
    | none => ""

end CodeMarkup
