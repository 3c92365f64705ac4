/-!
This module contains the precision of numbers. A number is kept in 53 binary digits, so that it is
known only up to the rounding of a decimal to them, and it is written with the fewest decimal digits
that still round to it.
-/

namespace Mediation

/--
The decimal `mantissa * 10 ^ (- exponent)`.
-/
structure Decimal where
  mantissa : Nat
  exponent : Nat
  deriving DecidableEq

/--
The binary number `mantissa * 2 ^ exponent`, whose mantissa has at most 53 digits.
-/
structure Binary where
  mantissa : Nat
  exponent : Int
  deriving DecidableEq

/--
Divide and round to the nearest number, of two to the even one.
-/
def divideToEven (dividend divisor : Nat) : Nat :=
  let quotient := dividend / divisor
  let remainder := dividend % divisor
  if 2 * remainder < divisor then
    quotient
  else if divisor < 2 * remainder then
    quotient + 1
  else
    quotient + quotient % 2

namespace Decimal

/--
Round to a multiple of a power of two.
-/
def roundAt (decimal : Decimal) (exponent : Int) : Nat :=
  divideToEven (decimal.mantissa * Nat.pow 2 (-exponent).toNat)
    (Nat.pow 10 decimal.exponent * Nat.pow 2 exponent.toNat)

/--
Round to 53 binary digits, or to fewer if the last of them would lie beyond the smallest binary
digit. The number of binary digits before the point is known up to one from the logarithms, so that
the finer of two roundings is taken unless it has too many digits.
-/
def round (decimal : Decimal) : Binary :=
  let digits : Int := decimal.mantissa.log2 - (Nat.pow 10 decimal.exponent).log2
  let exponent := max (digits - 53) (-1074)
  let finer := decimal.roundAt exponent
  let coarser := decimal.roundAt (exponent + 1)
  if finer < Nat.pow 2 53 then
    ⟨finer, exponent⟩
  else if coarser < Nat.pow 2 53 then
    ⟨coarser, exponent + 1⟩
  else
    ⟨Nat.pow 2 52, exponent + 2⟩

/--
Write a binary number as a decimal, which is always possible without rounding.
-/
def ofBinary (binary : Binary) : Decimal :=
  {
    mantissa := binary.mantissa * Nat.pow 2 binary.exponent.toNat * Nat.pow 5 (-binary.exponent).toNat
    exponent := (-binary.exponent).toNat
  }

/--
Drop the zeros at the end of a mantissa, as far as they stand behind the point.
-/
def strip (mantissa : Nat) : Nat → Decimal
  | 0 => { mantissa, exponent := 0 }
  | exponent + 1 =>
    if mantissa % 10 = 0 then
      strip (mantissa / 10) exponent
    else
      { mantissa, exponent := exponent + 1 }

/--
Dropping zeros leaves the number as it is.
-/
theorem strip_value (mantissa exponent : Nat) :
    (strip mantissa exponent).mantissa * Nat.pow 10 exponent =
      mantissa * Nat.pow 10 (strip mantissa exponent).exponent := by
  induction exponent generalizing mantissa with
  | zero => rfl
  | succ exponent ih =>
    unfold strip
    split
    next hzero =>
      have hmantissa : mantissa = mantissa / 10 * 10 := by omega
      have hpow : Nat.pow 10 (exponent + 1) = Nat.pow 10 exponent * 10 := rfl
      rw [hpow, ← Nat.mul_assoc, ih, Nat.mul_right_comm, ← hmantissa]
    next => rfl

/--
The nearer of the two neighbours of a decimal on a grid that round to the same binary number as the
decimal itself, if there is one. Of two that are equally near it is the even one.
-/
def neighbour? (decimal : Decimal) (grid : Nat) : Option Decimal :=
  let below := decimal.mantissa / grid
  let nearest := divideToEven decimal.mantissa grid
  let farther := if nearest = below then below + 1 else below
  [nearest, farther].findSome? fun digits =>
    let candidate : Decimal := { decimal with mantissa := digits * grid }
    if candidate.round = decimal.round then some candidate else none

theorem round_eq_of_neighbour? {decimal candidate : Decimal} {grid : Nat}
    (h : decimal.neighbour? grid = some candidate) : candidate.round = decimal.round := by
  obtain ⟨digits, _, hdigits⟩ := List.exists_of_findSome?_eq_some h
  dsimp only at hdigits
  split at hdigits
  next hround =>
    cases hdigits
    exact hround
  next => cases hdigits

/--
The decimal with the fewest digits that rounds to the same binary number, and of those the one that
is nearest to the binary number.
-/
def shortest (decimal : Decimal) : Decimal :=
  let exact := ofBinary decimal.round
  let length := (toString exact.mantissa).length
  let found? := (List.range 17).findSome? fun digits =>
    exact.neighbour? (Nat.pow 10 (length - (digits + 1)))
  let found := found?.getD exact
  strip found.mantissa found.exponent

/--
However short it is written, a number rounds to what its exact value rounds to.
-/
theorem exists_round_eq_shortest (decimal : Decimal) :
    ∃ found : Decimal,
      found.round = (ofBinary decimal.round).round ∧
        decimal.shortest = strip found.mantissa found.exponent := by
  unfold shortest
  dsimp only
  generalize hfound : List.findSome? _ (List.range 17) = found?
  cases found? with
  | none => exact ⟨_, rfl, rfl⟩
  | some found =>
    obtain ⟨digits, _, hdigits⟩ := List.exists_of_findSome?_eq_some hfound
    exact ⟨found, round_eq_of_neighbour? hdigits, rfl⟩

end Decimal

end Mediation
