import CodeMarkup.Decimal.Double
import CodeMarkup.Layout
import CodeMarkup.Options.Problem
import CodeMarkup.Text.Integer

/-!
Settings as callers give them, and what each kind of option reads from one. Switches and numbers may
be given as texts.
-/

namespace CodeMarkup

/-- What a caller gives for an option: a value, a source of a theme, or short names as a mapping or
ready for use. -/
inductive Setting where
  | value (v : Value)
  | theme (s : ThemeSource)
  | mapping (entries : List (KindRef × Value))
  | names (s : ShortNames)

/-- A problem, with the key and the setting that has it. -/
structure Issue where
  key : String
  problem : Problem
  input : Setting

namespace Setting

/-- The texts that stand for true, in lower case. -/
def trueTexts : List String := ["1", "on", "t", "true", "y", "yes"]

/-- The texts that stand for false, in lower case. -/
def falseTexts : List String := ["0", "off", "f", "false", "n", "no"]

/-- A text, or none at all. -/
def toText : Setting → Except Problem (Option String)
  | value .null => .ok none
  | value (.text s) => .ok (some s)
  | _ => .error .notText

def toLayout : Setting → Except Problem Layout
  | value v => match Layout.ofValue? v with
    | some l => .ok l
    | none => .error .notLayout
  | _ => .error .notLayout

/-- A truth value by a number: one and zero stand for true and false. -/
def boolOfInt (i : Int) : Except Problem Bool :=
  if i = 1 then .ok true else if i = 0 then .ok false else .error .unreadableBool

/-- Whether an integer fits into 64 bits. -/
def isWord (i : Int) : Bool :=
  -0x8000000000000000 ≤ i && i < 0x8000000000000000

/-- Whether an integer lies strictly between the ends of the range of 64 bits. -/
def isInnerWord (i : Int) : Bool :=
  -0x8000000000000000 < i && i < 0x8000000000000000

/-- A truth value. Integers have to fit into 64 bits, and floats to lie inside their range; the case
of a text does not matter. -/
def toBool : Setting → Except Problem Bool
  | value (.bool b) => .ok b
  | value (.int i) => if isWord i then boolOfInt i else .error .notBool
  | value (.float x) => match (Decimal.Double.ofFloat x).toInt? with
    | some i => if isInnerWord i then boolOfInt i else .error .notBool
    | none => .error .notBool
  | value (.text s) =>
    let s := String.ofList (s.toList.map Char.toLower)
    if s ∈ trueTexts then .ok true
    else if s ∈ falseTexts then .ok false
    else .error .unreadableBool
  | _ => .error .notBool

/-- An integer. The value of a float has to lie inside the range of 64 bits. -/
def toInt : Setting → Except Problem Int
  | value (.bool b) => .ok (if b then 1 else 0)
  | value (.int i) => .ok i
  | value (.float x) => match Decimal.Double.ofFloat x with
    | .finite negative m e => match (Decimal.Double.finite negative m e).toInt? with
      | some i => if isInnerWord i then .ok i else .error .longInt
      | none => .error .fractionalInt
    | _ => .error .infiniteInt
  | value (.text s) => match Text.strictInt s with
    | .ok i => .ok i
    | .error .unreadable => .error .unreadableInt
    | .error .tooLong => .error .longInt
  | _ => .error .notInt

/-- The source of a theme; a mapping and short names are shown by their types. -/
def themeSource : Setting → ThemeSource
  | value v => .value v
  | theme s => s
  | mapping _ => .typeName "dict"
  | names _ => .typeName "ShortNames"

def toTheme (s : Setting) : Except Problem (Option Theme) :=
  s.themeSource.theme?.mapError .theme

def namesOf (t : Taxonomy) (es : List (KindRef × Value)) : Except Problem ShortNames :=
  (ShortNames.ofMapping t es).mapError (.names ∘ .unknownKind)

/-- Short names: a mapping, a record whose keys are paths, or null for the standard ones. -/
def toNames (t : Taxonomy) : Setting → Except Problem ShortNames
  | value .null => .ok .standard
  | value (.record fields) => namesOf t (fields.map fun (path, v) => (.path path, v))
  | value v => .error (.names (.unusable v.quoted))
  | mapping es => namesOf t es
  | names s => .ok s
  | theme _ => .error (.names (.unusable "a theme"))

end Setting

end CodeMarkup
