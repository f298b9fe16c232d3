import CodeMarkup.Decimal.Double

/-!
The shortest decimal that reads back. A finite double stands for every real that rounds to it; among
the decimals in that interval those with the fewest digits are sought, one digit count after the
other, and of two such neighbours of the exact value the nearer one is taken.
-/

namespace CodeMarkup.Decimal

def digitCount (n : Nat) : Nat :=
  (Nat.toDigits 10 n).length

/-- The exponent of the first decimal digit of the positive quotient `num / den`. -/
def leadingExponent (num den : Nat) : Int :=
  if den ≤ num then (digitCount (num / den) : Int) - 1
  else -(digitCount ((den - 1) / num) : Int)

/-- The reals that round to a double: from `low` to `high`, around `value`, all over `den`. -/
structure Interval where
  low : Nat
  value : Nat
  high : Nat
  den : Nat
  closed : Bool

/-- The interval of the positive double `m * 2 ^ e`. Below a power of two the gap to the next double
is half as wide. -/
def Interval.ofDouble (m : Nat) (e : Int) : Interval :=
  let unit := power 2 e
  let below := if m = normal ∧ -1074 < e then 1 else 2
  ⟨(4 * m - below) * unit, 4 * m * unit, (4 * m + 2) * unit, 4 * power 2 (-e), m % 2 == 0⟩

/-- Whether the decimal `c * 10 ^ k` lies in the interval. -/
def Interval.holds (i : Interval) (c : Nat) (k : Int) : Bool :=
  let point := c * power 10 k * i.den
  let scale := power 10 (-k)
  if i.closed then i.low * scale ≤ point && point ≤ i.high * scale
  else i.low * scale < point && point < i.high * scale

/-- The decimal of exponent `k` that lies in the interval and is nearest to its value. -/
def Interval.decimal? (i : Interval) (k : Int) : Option Nat :=
  let scale := power 10 (-k)
  let unit := i.den * power 10 k
  let c := i.value * scale / unit
  let twice := 2 * i.value * scale
  let middle := (2 * c + 1) * unit
  let nearer := if twice < middle ∨ (twice = middle ∧ c % 2 = 0) then c else c + 1
  let other := if nearer = c then c + 1 else c
  if i.holds nearer k then some nearer else if i.holds other k then some other else none

/-- The decimal of the least digit count up to 17 in the interval, and its exponent. -/
def Interval.shortest (i : Interval) : Nat × Int :=
  let top := leadingExponent i.value i.den
  ((List.range 17).findSome? fun (n : Nat) =>
    (i.decimal? (top - n)).map fun c => (c, top - n)).getD (0, 0)

/-- The significant digits of a positive double, without zeros at the end, and the place of the
decimal point in them: the value is `0.d₁d₂…` times ten to that power. -/
def shortestDigits (m : Nat) (e : Int) : List Char × Int :=
  let (c, k) := (Interval.ofDouble m e).shortest
  let digits := Nat.toDigits 10 c
  ((digits.reverse.dropWhile (· == '0')).reverse, (digits.length : Int) + k)

end CodeMarkup.Decimal
