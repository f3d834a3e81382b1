import ConsoleHarness.Number.Binary64

/-! # The shortest decimal text of a number

A number is written with the fewest significant digits that read back to it; of several such
digit strings the one nearest to the value is taken, and of two equally near ones the even one.
`Number.text` lays the digits out: positionally while the decimal point stands within 21 digits
after the first one or within six zeros before it, with an exponent otherwise.
-/

namespace ConsoleHarness.Number

/-- A positive decimal `digits · 10 ^ exponent`. -/
structure Decimal where
  digits : Nat
  exponent : Int
  deriving DecidableEq, Repr

/-- The value of a decimal. -/
def Decimal.toRat (d : Decimal) : Rat :=
  match d.exponent with
  | .ofNat e => ((d.digits * Nat.pow 10 e : Nat) : Rat)
  | .negSucc e => mkRat d.digits (Nat.pow 10 (e + 1))

/-- The `n` with `10 ^ (n - 1) ≤ num / den < 10 ^ n`, both being positive. -/
def decimalPoint (num den : Nat) : Int :=
  let whole := num / den
  if 0 < whole then digitCount whole
  else
    -- `den / num` lies above one; its digit count gives the number of leading zeros.
    let inverse := (den - 1) / num
    1 - (digitCount inverse : Int)

/-- Where `num / den` lies on the grid of multiples of `10 ^ exponent`: the number of the neighbour
below it, and its distance from that neighbour as a share of the grid's width, a remainder and a
divisor. -/
def gridFloor (num den : Nat) (exponent : Int) : Nat × Nat × Nat :=
  match exponent with
  | .ofNat e =>
    let width := den * Nat.pow 10 e
    (num / width, num % width, width)
  | .negSucc e =>
    let scaled := num * Nat.pow 10 (e + 1)
    (scaled / den, scaled % den, den)

/-- The decimal of `count` digits that reads back to `value`, if there is one: the nearer of the
two neighbours, the even one on a tie. -/
def readsBack? (value : Rat) (count : Nat) : Option Decimal :=
  let num := value.num.natAbs
  let den := value.den
  let exponent := decimalPoint num den - count
  let (below, rest, width) := gridFloor num den exponent
  let low : Decimal := ⟨below, exponent⟩
  let high : Decimal := ⟨below + 1, exponent⟩
  let hits (d : Decimal) : Bool := d.digits ≠ 0 && round d.toRat == .finite value
  let preferLow : Bool := 2 * rest < width || (2 * rest == width && below % 2 == 0)
  if preferLow then
    if hits low then some low else if hits high then some high else none
  else
    if hits high then some high else if hits low then some low else none

/-- The shortest decimal of a positive value: the first digit count that has a decimal reading
back.  Seventeen digits always suffice. -/
def shortest (value : Rat) : Decimal :=
  ((List.range 17).findSome? fun k => readsBack? value (k + 1)).getD ⟨0, 0⟩

/-- Digits without the zeros at their end, and the number of those zeros. -/
def stripZeros (digits : List Char) : List Char × Nat :=
  let zeros := (digits.reverse.takeWhile (· == '0')).length
  (digits.take (digits.length - zeros), zeros)

/-- The layout of a positive decimal. -/
def Decimal.layout (d : Decimal) : List Char :=
  let (digits, zeros) := stripZeros (Nat.toDigits 10 d.digits)
  let count : Int := digits.length
  -- The value is `0.digits · 10 ^ point`.
  let point : Int := count + zeros + d.exponent
  if count ≤ point ∧ point ≤ 21 then
    digits ++ List.replicate (point - count).toNat '0'
  else if 0 < point ∧ point ≤ 21 then
    digits.take point.toNat ++ '.' :: digits.drop point.toNat
  else if -6 < point ∧ point ≤ 0 then
    '0' :: '.' :: (List.replicate (-point).toNat '0' ++ digits)
  else
    let power := point - 1
    let mark := if power < 0 then '-' else '+'
    let exponent := 'e' :: mark :: Nat.toDigits 10 power.natAbs
    match digits with
    | first :: [] => first :: exponent
    | first :: more => first :: '.' :: (more ++ exponent)
    | [] => exponent

/-- The text of a number. -/
def text : Number → String
  | .notANumber => "NaN"
  | .infinite negative => if negative then "-Infinity" else "Infinity"
  | .finite value =>
    if value.num = 0 then "0"
    else if value.num < 0 then String.ofList ('-' :: (shortest (-value)).layout)
    else String.ofList (shortest value).layout

end ConsoleHarness.Number
