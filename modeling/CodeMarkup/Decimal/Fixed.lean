import CodeMarkup.Decimal.Double

/-!
Decimals with a fixed number of places. The exact value is rounded to the nearest, and a value
halfway between two decimals goes to the even one; a negative value keeps its sign even where it
rounds to zero.
-/

namespace CodeMarkup.Decimal

/-- The integer nearest to `num / den`, the even one of two that are equally near. -/
def roundEven (num den : Nat) : Nat :=
  let q := num / den
  let r := num % den
  if 2 * r < den ∨ (2 * r = den ∧ q % 2 = 0) then q else q + 1

/-- The digits of `n` with `places` of them after the point. -/
def withPoint (places n : Nat) : List Char :=
  let digits := Nat.toDigits 10 n
  let padded := List.replicate (places + 1 - digits.length) '0' ++ digits
  padded.take (padded.length - places) ++ '.' :: padded.drop (padded.length - places)

def fixed (places : Nat) : Double → List Char
  | .finite negative m e =>
    let n := roundEven (m * power 10 places * power 2 e) (power 2 (-e))
    if negative then '-' :: withPoint places n else withPoint places n
  | .infinite negative => if negative then ['-', 'i', 'n', 'f'] else ['i', 'n', 'f']
  | .nan => ['n', 'a', 'n']

end CodeMarkup.Decimal
