import CodeMarkup.Decimal.Shortest
import CodeMarkup.Text.Quoted

/-!
Values that a caller may pass where a setting or the name of a kind is expected, and the quoted form
in which messages show them.
-/

namespace CodeMarkup

/-- A value of no particular type. The fields of a record are in the order given. -/
inductive Value where
  | null
  | bool (b : Bool)
  | int (i : Int)
  | float (x : Float)
  | text (s : String)
  | list (items : List Value)
  | record (fields : List (String × Value))
  deriving Inhabited

namespace Value

/-- The exponent part of a number, with a sign and at least two digits. -/
def exponentText (e : Int) : List Char :=
  let digits := Nat.toDigits 10 e.natAbs
  'e' :: (if e < 0 then '-' else '+') :: List.replicate (2 - digits.length) '0' ++ digits

/-- Significant digits with the decimal point at `point`: written out from four zeros after the
point up to sixteen digits in front of it, with an exponent otherwise. -/
def placePoint (digits : List Char) (point : Int) : List Char :=
  if -4 < point ∧ point ≤ 0 then
    '0' :: '.' :: List.replicate (-point).toNat '0' ++ digits
  else if 0 < point ∧ point ≤ 16 then
    let n := point.toNat
    let whole := digits.take n ++ List.replicate (n - digits.length) '0'
    let fraction := digits.drop n
    whole ++ '.' :: if fraction.isEmpty then ['0'] else fraction
  else
    let fraction := digits.drop 1
    digits.take 1 ++ (if fraction.isEmpty then [] else '.' :: fraction) ++ exponentText (point - 1)

/-- A float by the fewest digits that read back. -/
def floatText (x : Float) : String :=
  match Decimal.Double.ofFloat x with
  | .nan => "nan"
  | .infinite negative => if negative then "-inf" else "inf"
  | .finite negative m e =>
    let digits :=
      if m = 0 then ['0', '.', '0']
      else
        let (digits, point) := Decimal.shortestDigits m e
        placePoint digits point
    String.ofList (if negative then '-' :: digits else digits)

mutual

def quoted : Value → String
  | null => "None"
  | bool b => if b then "True" else "False"
  | int i => toString i
  | float x => floatText x
  | text s => Text.quoted s
  | list items => "[" ++ ", ".intercalate (quotedItems items) ++ "]"
  | record fields => "\x7b" ++ ", ".intercalate (quotedFields fields) ++ "\x7d"

def quotedItems : List Value → List String
  | [] => []
  | v :: vs => v.quoted :: quotedItems vs

/-- The quoted forms of the fields of a record, each after its name. -/
def quotedFields : List (String × Value) → List String
  | [] => []
  | (name, v) :: fields => (Text.quoted name ++ ": " ++ v.quoted) :: quotedFields fields

end

/-- A value as plain text: a text is itself, any other value its quoted form. -/
def plain : Value → String
  | text s => s
  | v => v.quoted

/-- Whether a value counts as present: neither null nor false, zero or empty. -/
def isPresent : Value → Bool
  | null => false
  | bool b => b
  | int i => i != 0
  | float x => x != 0
  | text s => s != ""
  | list items => !items.isEmpty
  | record fields => !fields.isEmpty

end Value

end CodeMarkup
