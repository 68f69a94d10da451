import ApiShell.Binary64.Basic

/-! The shortest decimal of a double-precision number: the fewest digits that read back as the
same number, and among those the ones nearest to it. -/

namespace ApiShell.Binary64

/-- A positive decimal `0.d₁d₂… * 10 ^ point`, its digits written as one natural number. -/
structure Decimal where
  digits : Nat
  point : Int
  deriving DecidableEq, Repr

/-- Four times a positive number with the ends of the interval that rounds to it, over one
denominator. The ends belong to the interval exactly when the mantissa is even. -/
structure Interval where
  low : Nat
  value : Nat
  high : Nat
  den : Nat
  closed : Bool

/-- The interval of reals that round to a positive mantissa times a power of two. Below a power
of two the neighbour lies half as far away. -/
def interval (mantissa : Nat) (exponent : Int) : Interval :=
  let low :=
    if mantissa = Nat.pow 2 52 ∧ exponent > -1074 then 4 * mantissa - 1 else 4 * mantissa - 2
  let up := Nat.pow 2 (exponent - 2).toNat
  { low := low * up
    value := 4 * mantissa * up
    high := (4 * mantissa + 2) * up
    den := Nat.pow 2 (2 - exponent).toNat
    closed := mantissa % 2 == 0 }

/-- Multiplies all parts of an interval by `10 ^ -shift`. -/
def Interval.shift (i : Interval) (shift : Int) : Interval :=
  let up := Nat.pow 10 (-shift).toNat
  { i with low := i.low * up, value := i.value * up, high := i.high * up
           den := i.den * Nat.pow 10 shift.toNat }

/-- Whether a whole number lies in the interval. -/
def Interval.contains (i : Interval) (n : Nat) : Bool :=
  if i.closed then i.low ≤ n * i.den && n * i.den ≤ i.high
  else i.low < n * i.den && n * i.den < i.high

/-- The number of digits before the point of the value: the least `p` with `value < 10 ^ p`. -/
def Interval.point (i : Interval) (exponent2 : Int) : Int :=
  let guess := exponent2 * 30103 / 100000
  let below (p : Int) : Bool := let j := i.shift p; j.value < j.den
  if below guess then guess else if below (guess + 1) then guess + 1 else guess + 2

/-- The whole number of the interval next to its value, looking below and above; of two the
nearer, and the even one of two equally near. -/
def Interval.pick? (i : Interval) : Option Nat :=
  let down := i.value / i.den
  let rest := i.value % i.den
  match i.contains down, i.contains (down + 1) with
  | true, true =>
    if 2 * rest < i.den ∨ (2 * rest = i.den ∧ down % 2 = 0) then some down else some (down + 1)
  | true, false => some down
  | false, true => some (down + 1)
  | false, false => none

/-- Tries ever finer decimal grids, from `count` digits on. -/
def pickDigits (i : Interval) (point : Int) : (more count : Nat) → Decimal
  | 0, count => ⟨(i.shift (point - count)).value / (i.shift (point - count)).den, point⟩
  | more + 1, count =>
    match (i.shift (point - count)).pick? with
    | some n => if n = Nat.pow 10 count then ⟨1, point + 1⟩ else ⟨n, point⟩
    | none => pickDigits i point more (count + 1)

/-- The shortest decimal of a positive mantissa times a power of two. -/
def shortest (mantissa : Nat) (exponent : Int) : Decimal :=
  let i := interval mantissa exponent
  pickDigits i (i.point (mantissa.log2 + exponent)) 17 1

/-- How a number is laid out as text. -/
structure Layout where
  /-- The least power of ten of the first digit that is still written without an exponent. -/
  least : Int
  /-- The first power of ten of the first digit that is written with an exponent. -/
  most : Int
  /-- The least number of digits of the exponent. -/
  width : Nat

/-- Numbers from a ten-thousandth up to below ten to the sixteenth are written without an
exponent, and an exponent has a sign and at least two digits. -/
def Layout.plain : Layout := ⟨-4, 16, 2⟩

/-- The digits of a natural number without zeros at the end. -/
def significant (n : Nat) : List Char :=
  let digits := Nat.toDigits 10 n
  match (digits.reverse.dropWhile (· = '0')).reverse with
  | [] => ['0']
  | ds => ds

/-- Lays out significant digits whose point stands `point` places from the left. -/
def Layout.arrange (l : Layout) (digits : List Char) (point : Int) : List Char :=
  let power := point - 1
  if power < l.least ∨ l.most ≤ power then
    let size := Nat.toDigits 10 power.natAbs
    let head := match digits with
      | d :: e :: rest => d :: '.' :: e :: rest
      | ds => ds
    head ++ 'e' :: (if power < 0 then '-' else '+') ::
      List.replicate (l.width - size.length) '0' ++ size
  else if point ≤ 0 then
    '0' :: '.' :: List.replicate (-point).toNat '0' ++ digits
  else if digits.length ≤ point.toNat then
    digits ++ List.replicate (point.toNat - digits.length) '0' ++ ['.', '0']
  else
    digits.take point.toNat ++ '.' :: digits.drop point.toNat

/-- The shortest text that reads back as the number; a whole number keeps one place. -/
def text : Binary64 → String
  | .nan => "nan"
  | .infinite negative => if negative then "-inf" else "inf"
  | .finite negative mantissa exponent =>
    let body :=
      if mantissa = 0 then ['0', '.', '0']
      else
        let decimal := shortest mantissa exponent
        Layout.plain.arrange (significant decimal.digits) decimal.point
    String.ofList (if negative then '-' :: body else body)

end ApiShell.Binary64
