/-!
Reading UTF-8. A byte that starts no sequence, a byte that continues none and the end of the data
inside a sequence are told apart, and an error covers the longest valid head of the sequence at
fault, or its first byte if the head is empty.
-/

namespace CodeMarkup.Text

inductive Utf8Fault where
  | start
  | continuation
  | endOfData
  deriving DecidableEq, Repr

/-- The bytes at fault: `width` of them from `position` on, the first of which is `byte`. -/
structure Utf8Error where
  fault : Utf8Fault
  position : Nat
  width : Nat
  byte : UInt8
  deriving DecidableEq, Repr

/-- What a first byte announces: its own bits, the number of bytes to follow, and the range in which
the second byte has to lie. -/
def utf8Lead? (b : UInt8) : Option (Nat × Nat × Nat × Nat) :=
  let n := b.toNat
  if 0xc2 ≤ n ∧ n ≤ 0xdf then some (n - 0xc0, 1, 0x80, 0xbf)
  else if n = 0xe0 then some (0, 2, 0xa0, 0xbf)
  else if n = 0xed then some (0xd, 2, 0x80, 0x9f)
  else if 0xe1 ≤ n ∧ n ≤ 0xef then some (n - 0xe0, 2, 0x80, 0xbf)
  else if n = 0xf0 then some (0, 3, 0x90, 0xbf)
  else if 0xf1 ≤ n ∧ n ≤ 0xf3 then some (n - 0xf0, 3, 0x80, 0xbf)
  else if n = 0xf4 then some (4, 3, 0x80, 0x8f)
  else none

/-- Reads `more` further bytes of a sequence whose bits so far are `bits`, the first of them between
`low` and `high`; `taken` bytes are read already. -/
def utf8Tail (bits taken low high : Nat) :
    Nat → List UInt8 → Except (Utf8Fault × Nat) (Nat × List UInt8)
  | 0, bs => .ok (bits, bs)
  | _ + 1, [] => .error (.endOfData, taken)
  | more + 1, b :: bs =>
    if low ≤ b.toNat ∧ b.toNat ≤ high then
      utf8Tail (64 * bits + (b.toNat - 0x80)) (taken + 1) 0x80 0xbf more bs
    else .error (.continuation, taken)

/-- Reads one character that starts at `position` with the byte `b`, and the bytes left. -/
def utf8Char (position : Nat) (b : UInt8) (bs : List UInt8) :
    Except Utf8Error (Char × List UInt8) :=
  if b.toNat < 0x80 then .ok (Char.ofNat b.toNat, bs)
  else match utf8Lead? b with
    | none => .error ⟨.start, position, 1, b⟩
    | some (bits, more, low, high) =>
      match utf8Tail bits 1 low high more bs with
      | .ok (n, rest) => .ok (Char.ofNat n, rest)
      | .error (fault, width) => .error ⟨fault, position, width, b⟩

/-- Reads characters from `position` on until the bytes are used up; `fuel` bounds their number. -/
def utf8Chars : (position fuel : Nat) → List UInt8 → Except Utf8Error (List Char)
  | _, _, [] => .ok []
  | _, 0, _ :: _ => .ok []
  | position, fuel + 1, b :: bs => do
    let (c, rest) ← utf8Char position b bs
    return c :: (← utf8Chars (position + c.utf8Size) fuel rest)

def decodeUtf8 (bs : List UInt8) : Except Utf8Error (List Char) :=
  utf8Chars 0 bs.length bs

end CodeMarkup.Text
