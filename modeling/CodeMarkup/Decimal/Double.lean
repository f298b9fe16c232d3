/-!
Floating-point numbers of double width as exact values: a sign, a natural significand and a power of
two.
-/

namespace CodeMarkup.Decimal

/-- A double: `finite negative m e` is `m * 2 ^ e` with its sign, which zero has too. -/
inductive Double where
  | finite (negative : Bool) (significand : Nat) (exponent : Int)
  | infinite (negative : Bool)
  | nan
  deriving DecidableEq, Repr

/-- A base to the power of an exponent, or one if the exponent is negative. -/
def power (base : Nat) (exponent : Int) : Nat :=
  base.pow exponent.toNat

/-- The least significand of a double that is not among the smallest ones. -/
def normal : Nat := 0x10000000000000

/-- The exact value of a float. -/
def Double.ofFloat (x : Float) : Double :=
  let bits := x.toBits.toNat
  let negative := bits / (normal * 0x800) == 1
  let biased := bits / normal % 0x800
  let fraction := bits % normal
  if biased = 2047 then if fraction = 0 then .infinite negative else .nan
  else if biased = 0 then .finite negative fraction (-1074)
  else .finite negative (fraction + normal) (Int.ofNat biased - 1075)

def Double.toInt? : Double → Option Int
  | .finite negative m e =>
    let n := m * power 2 e
    let d := power 2 (-e)
    if n % d = 0 then some (if negative then -((n / d : Nat) : Int) else (n / d : Nat)) else none
  | _ => none

end CodeMarkup.Decimal
