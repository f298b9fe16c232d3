import CodeMarkup.Dictionary
import CodeMarkup.Kind.Reference
import CodeMarkup.Kind.Standard

/-!
Short names of kinds, used as class names in markup. A kind without a short name of its own takes
that of its nearest ancestor with one; the empty name stands for text that is not tagged at all.
-/

namespace CodeMarkup

/-- Short names by kind. A kind may be listed without a name. -/
structure ShortNames where
  names : Dictionary Kind (Option String)

inductive UnusableKey where
  | list
  | record
  deriving DecidableEq, Repr

def UnusableKey.message : UnusableKey → String
  | list => "unhashable type: 'list'"
  | record => "unhashable type: 'dict'"

/-- Why entries give no short names: a key cannot be one, or it is no kind. -/
inductive EntriesError where
  | unusableKey (e : UnusableKey)
  | unknownKind (e : UnknownKind)

/-- What is wrong with a reference as a key: lists and records cannot be keys. -/
def KindRef.unusableKey? : KindRef → Option UnusableKey
  | .value (.list _) => some .list
  | .value (.record _) => some .record
  | _ => none

/-- The short name that a value stands for. A value that counts as absent is the empty name. -/
def Value.shortName? : Value → Option String
  | null => none
  | v => some (if v.isPresent then v.plain else "")

namespace ShortNames

def standard : ShortNames :=
  ⟨.ofList (Kind.standard.map fun (k, name) => (k, some name))⟩

/-- Adds an entry to a mapping: an equal key keeps its place and takes the new value. -/
def putKey (r : KindRef) (v : Value) : List (KindRef × Value) → List (KindRef × Value)
  | [] => [(r, v)]
  | e :: es => if e.1.sameKey r then (e.1, v) :: es else e :: putKey r v es

/-- The mapping that a list of entries makes, unless one of its keys cannot be a key. -/
def mapping (es : List (KindRef × Value)) : Except UnusableKey (List (KindRef × Value)) :=
  match es.findSome? (·.1.unusableKey?) with
  | some e => .error e
  | none => .ok (es.foldl (fun m e => putKey e.1 e.2 m) [])

/-- Adds the entries of a mapping, whose keys are resolved one after the other. -/
def extend (t : Taxonomy) (d : Dictionary Kind (Option String)) :
    List (KindRef × Value) → Except UnknownKind (Dictionary Kind (Option String))
  | [] => .ok d
  | (r, v) :: es => do
    let k ← r.resolve t
    extend t (d.put k v.shortName?) es

/-- The short names that a mapping gives. Of two keys that resolve to one kind the later counts. -/
def ofMapping (t : Taxonomy) (es : List (KindRef × Value)) : Except UnknownKind ShortNames :=
  (extend t .empty es).map ShortNames.mk

/-- The short names that a list of entries gives, of which equal keys are one entry. -/
def ofEntries (t : Taxonomy) (es : List (KindRef × Value)) : Except EntriesError ShortNames := do
  let m ← (mapping es).mapError .unusableKey
  (ofMapping t m).mapError .unknownKind

/-- The name under which a kind is listed, if it has one. -/
def own? (s : ShortNames) (k : Kind) : Option String :=
  (s.names.get? k).join

/-- The short name of a kind: that of the nearest of the kind and its ancestors with a name. -/
def find? (s : ShortNames) (k : Kind) : Option String :=
  k.nearest? s.own?

def size (s : ShortNames) : Nat :=
  s.names.size

/-- Whether a reference is listed as it stands. -/
def contains (s : ShortNames) (r : KindRef) : Except UnusableKey Bool :=
  match r, r.unusableKey? with
  | _, some e => .error e
  | .kind k, none => .ok (s.names.contains k)
  | .value _, none => .ok false

end ShortNames

end CodeMarkup
