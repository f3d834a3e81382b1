/-! # Numbers of binary64

The numbers a configuration or a clock can hold: the finite values of the binary64 format, kept as
exact rationals, together with the two infinities and the value that is no number.  `Number.round`
takes an exact rational to the nearest value of the format, ties going to the even significand;
everything above the greatest finite value becomes an infinity.

Zero has one spelling here: the format's negative zero prints and compares like zero wherever this
library looks at it.
-/

namespace ConsoleHarness

/-- A value of the binary64 format, finite values being exact rationals. -/
inductive Number where
  | finite (value : Rat)
  | infinite (negative : Bool)
  | notANumber
  deriving DecidableEq, Repr, Inhabited

namespace Number

/-! ## Rounding -/

/-- The quotient of two naturals, rounded to the nearest, a half to the even neighbour. -/
def divideToEven (num den : Nat) : Nat :=
  let floor := num / den
  let rest := num % den
  if 2 * rest < den then floor
  else if den < 2 * rest then floor + 1
  else if floor % 2 = 0 then floor
  else floor + 1

/-- The greatest `e` with `2 ^ e ≤ num / den`, both being positive. -/
def binaryExponent (num den : Nat) : Int :=
  let guess : Int := (num.log2 : Int) - den.log2
  let reached : Bool :=
    match guess with
    | .ofNat e => Nat.pow 2 e * den ≤ num
    | .negSucc e => den ≤ num * Nat.pow 2 (e + 1)
  if reached then guess else guess - 1

/-- The least exponent of a unit in the last place. -/
def leastUnit : Int := -1074

/-- The first power of two that is too great for the format. -/
def overflowBound : Nat := Nat.pow 2 1024

/-- The magnitude `num / den` rounded to a significand of 53 bits; `none` if it overflows. -/
def roundMagnitude (num den : Nat) : Option Rat :=
  let unit := max (binaryExponent num den - 52) leastUnit
  match unit with
  | .ofNat e =>
    let value := divideToEven num (den * Nat.pow 2 e) * Nat.pow 2 e
    if overflowBound ≤ value then none else some (value : Rat)
  | .negSucc e =>
    some (mkRat (divideToEven (num * Nat.pow 2 (e + 1)) den : Nat) (Nat.pow 2 (e + 1)))

/-- The nearest number of the format to an exact rational. -/
def round (value : Rat) : Number :=
  if value.num = 0 then .finite 0
  else
    let negative := value.num < 0
    match roundMagnitude value.num.natAbs value.den with
    | some magnitude => .finite (if negative then -magnitude else magnitude)
    | none => .infinite negative

/-! ## Decimal literals -/

/-- The decimal digit count of a natural, zero having one digit. -/
def digitCount (n : Nat) : Nat := (Nat.toDigits 10 n).length

/-- The number nearest to `± significand · 10 ^ exponent`.

Exponents far outside the format's range are settled by counting digits, so that no power of ten
larger than the format needs is ever formed. -/
def ofDecimal (negative : Bool) (significand : Nat) (exponent : Int) : Number :=
  if significand = 0 then .finite 0
  else
    let leading := exponent + digitCount significand
    if 320 < leading then .infinite negative
    else if leading < -400 then .finite 0
    else
      let magnitude : Rat :=
        match exponent with
        | .ofNat e => ((significand * Nat.pow 10 e : Nat) : Rat)
        | .negSucc e => mkRat significand (Nat.pow 10 (e + 1))
      round (if negative then -magnitude else magnitude)

/-- The number nearest to an integer. -/
def ofInt (n : Int) : Number := round n

/-- The rational value, if there is one. -/
def toRat? : Number → Option Rat
  | .finite value => some value
  | _ => none

/-- Whether the number is finite and not below zero. -/
def isDuration : Number → Bool
  | .finite value => decide (0 ≤ value)
  | _ => false

@[simp] theorem toRat?_finite (value : Rat) : (Number.finite value).toRat? = some value := rfl
@[simp] theorem isDuration_finite (value : Rat) :
    (Number.finite value).isDuration = decide (0 ≤ value) := rfl
@[simp] theorem isDuration_infinite (negative : Bool) :
    (Number.infinite negative).isDuration = false := rfl
@[simp] theorem isDuration_notANumber : Number.notANumber.isDuration = false := rfl

end Number

end ConsoleHarness
