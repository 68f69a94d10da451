/-! Double-precision numbers, kept by their exact value: a whole mantissa times a power of two.
Rounding, reading and printing are then arithmetic on natural numbers. -/

namespace ApiShell

/-- A double-precision number. A finite one stands for `mantissa * 2 ^ exponent` with its sign;
`Binary64.nearest` keeps the mantissa below `2 ^ 53` and the exponent between -1074 and 971, with
a mantissa of full width wherever the exponent allows it. -/
inductive Binary64 where
  | nan
  | infinite (negative : Bool)
  | finite (negative : Bool) (mantissa : Nat) (exponent : Int)
  deriving DecidableEq, Repr

namespace Binary64

/-- Zero with a sign. -/
def zero (negative : Bool) : Binary64 :=
  .finite negative 0 (-1074)

/-- The number with the opposite sign. -/
def neg : Binary64 → Binary64
  | .nan => .nan
  | .infinite negative => .infinite !negative
  | .finite negative mantissa exponent => .finite (!negative) mantissa exponent

/-- Whether the number is a zero of either sign. -/
def isZero : Binary64 → Bool
  | .finite _ mantissa _ => mantissa == 0
  | _ => false

/-- The fraction `num / den` times `2 ^ -exponent`, as a numerator and a denominator. -/
def scaled (num den : Nat) (exponent : Int) : Nat × Nat :=
  if 0 ≤ exponent then (num, den * Nat.pow 2 exponent.toNat)
  else (num * Nat.pow 2 (-exponent).toNat, den)

/-- The power of two just below or at a positive fraction. -/
def floorLog2 (num den : Nat) : Int :=
  let guess : Int := (num.log2 : Int) - den.log2
  let (n, d) := scaled num den guess
  if n < d then guess - 1 else guess

/-- A quotient rounded to the nearest whole number, a half going to the even neighbour. -/
def roundEven (num den : Nat) : Nat :=
  let quotient := num / den
  let twice := 2 * (num % den)
  if twice > den ∨ (twice = den ∧ quotient % 2 = 1) then quotient + 1 else quotient

/-- The double-precision number nearest to `num / den`. Above the largest one it is infinite. -/
def nearest (negative : Bool) (num den : Nat) : Binary64 :=
  if num = 0 then zero negative
  else
    let exponent := max (-1074) (floorLog2 num den - 52)
    let (n, d) := scaled num den exponent
    let mantissa := roundEven n d
    let (mantissa, exponent) :=
      if mantissa = Nat.pow 2 53 then (Nat.pow 2 52, exponent + 1) else (mantissa, exponent)
    if exponent > 971 then .infinite negative else .finite negative mantissa exponent

/-- The number nearest to `digits * 10 ^ exponent`. Magnitudes far outside the range are settled
without computing the power. -/
def ofDecimal (negative : Bool) (digits : Nat) (exponent : Int) : Binary64 :=
  if digits = 0 then zero negative
  else
    let magnitude := exponent + (Nat.toDigits 10 digits).length
    if magnitude > 400 then .infinite negative
    else if magnitude < -400 then zero negative
    else if 0 ≤ exponent then nearest negative (digits * Nat.pow 10 exponent.toNat) 1
    else nearest negative digits (Nat.pow 10 (-exponent).toNat)

/-- The number nearest to `n * 2 ^ exponent`. -/
def nearestScaled (negative : Bool) (n : Nat) (exponent : Int) : Binary64 :=
  nearest negative (n * Nat.pow 2 exponent.toNat) (Nat.pow 2 (-exponent).toNat)

/-- The sum of two numbers that are not negative. -/
def add : Binary64 → Binary64 → Binary64
  | .finite _ m i, .finite _ n j =>
    let low := min i j
    nearestScaled false (m * Nat.pow 2 (i - low).toNat + n * Nat.pow 2 (j - low).toNat) low
  | .nan, _ | _, .nan => .nan
  | _, _ => .infinite false

/-- The product of two finite numbers that are not negative. -/
def mul : Binary64 → Binary64 → Binary64
  | .finite _ m i, .finite _ n j => nearestScaled false (m * n) (i + j)
  | .nan, _ | _, .nan => .nan
  | _, _ => .infinite false

end Binary64

end ApiShell
