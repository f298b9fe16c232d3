import CodeMarkup.Text.Blank
import CodeMarkup.Text.Pieces

/-!
Integers read from texts. Both readers allow blanks around the number, one sign, leading zeros and
a single underscore between two digits. The lenient reader takes the decimal digits of every script.
The strict one takes ASCII digits and an optional zero fraction; it drops the leading zeros together
with all underscores among them, and a minus sign may follow them as well as precede them.
-/

namespace CodeMarkup.Text

def asciiDigit? (c : Char) : Option Nat :=
  if c.isDigit then some (c.toNat - 48) else none

/-- The code points of the zeros of the scripts of Unicode 14; their digits follow in order. -/
def zeroDigits : List Nat := [
  0x30, 0x660, 0x6f0, 0x7c0, 0x966, 0x9e6, 0xa66, 0xae6, 0xb66, 0xbe6, 0xc66, 0xce6, 0xd66, 0xde6,
  0xe50, 0xed0, 0xf20, 0x1040, 0x1090, 0x17e0, 0x1810, 0x1946, 0x19d0, 0x1a80, 0x1a90, 0x1b50,
  0x1bb0, 0x1c40, 0x1c50, 0xa620, 0xa8d0, 0xa900, 0xa9d0, 0xa9f0, 0xaa50, 0xabf0, 0xff10, 0x104a0,
  0x10d30, 0x11066, 0x110f0, 0x11136, 0x111d0, 0x112f0, 0x11450, 0x114d0, 0x11650, 0x116c0,
  0x11730, 0x118e0, 0x11950, 0x11c50, 0x11d50, 0x11da0, 0x16a60, 0x16ac0, 0x16b50, 0x1d7ce,
  0x1d7d8, 0x1d7e2, 0x1d7ec, 0x1d7f6, 0x1e140, 0x1e2f0, 0x1e950, 0x1fbf0]

/-- The value of a decimal digit of any script. -/
def decimalDigit? (c : Char) : Option Nat :=
  (zeroDigits.find? fun nought => nought ≤ c.toNat && c.toNat ≤ nought + 9).map (c.toNat - ·)

/-- The digits of a number, where an underscore may stand between two digits. -/
def digits? : List Char → Option (List Nat)
  | [] => none
  | [c] => (decimalDigit? c).map ([·])
  | c :: '_' :: cs => do
    let d ← decimalDigit? c
    let ds ← digits? cs
    return d :: ds
  | c :: cs => do
    let d ← decimalDigit? c
    let ds ← digits? cs
    return d :: ds

def ofDigits (ds : List Nat) : Nat :=
  ds.foldl (fun n d => 10 * n + d) 0

/-- One sign in front of a number, if there is one. -/
def cutSign : List Char → Bool × List Char
  | '-' :: cs => (true, cs)
  | '+' :: cs => (false, cs)
  | cs => (false, cs)

def signed (negative : Bool) (n : Nat) : Int :=
  if negative then -(n : Int) else n

def numberLimit : Nat := 4300

/-- Why the strict reader takes no integer from a text. -/
inductive IntegerFault where
  | unreadable
  | tooLong
  deriving DecidableEq, Repr

/-- Whether a number without leading zeros may start with a character. -/
def startsNumber (c : Char) : Bool :=
  c == '-' || ('1' ≤ c && c ≤ '9')

/-- What is left of a number after `last` and the zeros and underscores that follow it. The last of
these is kept at the end of the number and in front of a fraction. -/
def dropZerosAfter? (last : Char) : List Char → Option (List Char)
  | [] => some [last]
  | c :: cs =>
    if c = '0' ∨ c = '_' then dropZerosAfter? c cs
    else if c = '.' then some (last :: c :: cs)
    else if startsNumber c then some (c :: cs)
    else none

/-- A number without its leading zeros and the underscores among them. -/
def dropZeros? : List Char → Option (List Char)
  | [] => none
  | c :: cs =>
    if c = '0' then dropZerosAfter? c cs else if startsNumber c then some (c :: cs) else none

/-- A number without its fraction, if that consists of zeros. -/
def dropZeroFraction (cs : List Char) : List Char :=
  match cutFirst? '.' cs with
  | some (whole, fraction) => if fraction ≠ [] ∧ fraction.all (· == '0') then whole else cs
  | none => cs

/-- Whether each underscore stands alone between two other characters. -/
def partsDigits (cs : List Char) : Bool :=
  (cut '_' cs).all (· ≠ [])

/-- A number without its underscores, if they stand where they may. -/
def dropUnderscores (cs : List Char) : List Char :=
  if partsDigits cs then cs.filter (· ≠ '_') else cs

/-- Whether a number has a minus sign, and the number without it. -/
def cutMinus : List Char → Bool × List Char
  | '-' :: cs => (true, cs)
  | cs => (false, cs)

/-- Reads a number of ASCII digits, not too many, that has no leading zeros, perhaps after a minus
sign. -/
def plainInt? (cs : List Char) : Option Int :=
  let (negative, cs) := cutMinus cs
  let plain := cs = ['0'] ∨ cs ≠ [] ∧ cs.head? ≠ some '0'
  if plain ∧ cs.length ≤ numberLimit then
    (cs.mapM asciiDigit?).map fun ds => signed negative (ofDigits ds)
  else none

/-- Whether a text starts, perhaps after a minus sign, with too many ASCII digits for a number. With
a zero in front no number is seen. -/
def startsTooLong (cs : List Char) : Bool :=
  let digits := (cutMinus cs).2.takeWhile Char.isDigit
  digits.head? ≠ some '0' && numberLimit < digits.length

/-- Whether a number has a minus sign, and the number without its sign. A minus sign may not follow
another sign directly. -/
def cutOneSign? : List Char → Option (Bool × List Char)
  | '+' :: '-' :: _ => none
  | '-' :: '-' :: _ => none
  | cs => some (cutSign cs)

/-- A text without the blanks around it, and without what a plain number has not: a plus sign,
leading zeros, a zero fraction and underscores. -/
def cleaned? (cs : List Char) : Option (List Char) := do
  let (negative, cs) ← cutOneSign? (trim cs)
  let cs ← dropZeros? cs
  let cs := dropUnderscores (dropZeroFraction cs)
  return if negative then '-' :: cs else cs

/-- Reads an integer in ASCII digits, with an optional zero fraction. Only a text that starts with
too many digits as it stands is called too long. -/
def strictInt (s : String) : Except IntegerFault Int :=
  if startsTooLong s.toList then .error .tooLong
  else match (cleaned? s.toList).bind plainInt? with
    | some n => .ok n
    | none => .error .unreadable

/-- Reads an integer in the digits of any script. -/
def lenientInt? (s : String) : Option Int := do
  let (negative, cs) := cutSign (trim s.toList)
  let ds ← digits? cs
  if ds.length ≤ numberLimit then return signed negative (ofDigits ds) else none

end CodeMarkup.Text
