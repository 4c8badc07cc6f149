/-!
# Decimal numbers

A decimal number is a sign, a coefficient and an exponent of ten.  All three are
kept, so `7.50` and `7.5` are different, and so are `0` and `-0`.

Sums and products are exact as long as the coefficient has at most `precision`
digits, and are rounded to so many digits otherwise, a half going to the even
neighbour.  A sum has the smaller of the two exponents.  A zero is negative only
as a sum of two negative zeros or as a product of different signs.

Numbers are written positionally.  A number whose first digit stands more than
six places behind the point, or whose exponent is above zero, is written with an
exponent.
-/

namespace Descent

/-- The number `± coefficient * 10 ^ exponent`. -/
structure Decimal where
  /-- The sign, also of zero. -/
  negative : Bool
  /-- The digits, without the point. -/
  coefficient : Nat
  /-- The power of ten that the last digit stands for. -/
  exponent : Int
  deriving DecidableEq

namespace Decimal

/-- The number with the given digits before and behind the point. -/
def ofDigits (negative : Bool) (whole fraction : List Char) : Decimal :=
  ⟨negative, Nat.ofDigitChars 10 (whole ++ fraction) 0, -fraction.length⟩

/-- A whole number. -/
def ofInt (n : Int) : Decimal := ⟨n < 0, n.natAbs, 0⟩

/-! ## Order -/

/-- The coefficient with its sign, for an exponent that is not above that of the
number. -/
def scaled (d : Decimal) (exponent : Int) : Int :=
  let magnitude : Int := d.coefficient * Nat.pow 10 (d.exponent - exponent).toNat
  if d.negative then -magnitude else magnitude

/-- Two numbers as multiples of one power of ten. -/
def align (a b : Decimal) : Int × Int :=
  let exponent := min a.exponent b.exponent
  (a.scaled exponent, b.scaled exponent)

/-- The numbers stand for the same quantity. -/
def same (a b : Decimal) : Bool := (align a b).1 == (align a b).2

/-- The first number is the smaller one. -/
def below (a b : Decimal) : Bool := (align a b).1 < (align a b).2

/-! ## Arithmetic -/

/-- The most digits that a sum or a product keeps. -/
def precision : Nat := 28

/-- The quotient by `10 ^ places`, rounded, a half going to the even neighbour. -/
def roundedQuotient (n places : Nat) : Nat :=
  let unit := Nat.pow 10 places
  let quotient := n / unit
  let twice := 2 * (n % unit)
  if unit < twice ∨ (twice = unit ∧ quotient % 2 = 1) then quotient + 1 else quotient

/-- The number with at most `precision` digits. -/
def rounded (d : Decimal) : Decimal :=
  let excess := (Nat.toDigits 10 d.coefficient).length - precision
  if excess = 0 then d
  else
    let quotient := roundedQuotient d.coefficient excess
    if quotient = Nat.pow 10 precision then ⟨d.negative, quotient / 10, d.exponent + excess + 1⟩
    else ⟨d.negative, quotient, d.exponent + excess⟩

/-- The sum of two numbers. -/
def add (a b : Decimal) : Decimal :=
  let sum := (align a b).1 + (align a b).2
  let negative := if sum = 0 then a.negative && b.negative else sum < 0
  rounded ⟨negative, sum.natAbs, min a.exponent b.exponent⟩

/-- The number with the other sign. -/
def negate (d : Decimal) : Decimal := { d with negative := !d.negative }

/-- The difference of two numbers. -/
def sub (a b : Decimal) : Decimal := add a b.negate

/-- The product of two numbers. -/
def mul (a b : Decimal) : Decimal :=
  rounded ⟨a.negative != b.negative, a.coefficient * b.coefficient, a.exponent + b.exponent⟩

/-! ## Written form -/

/-- The furthest place behind the point at which a positional form may begin. -/
def firstPlace : Nat := 6

/-- The digits with a point before the last `places` of them. -/
def positional (digits : List Char) (places : Nat) : List Char :=
  if places = 0 then digits
  else
    let padded := List.replicate (places + 1 - digits.length) '0' ++ digits
    padded.take (padded.length - places) ++ '.' :: padded.drop (padded.length - places)

/-- The first digit, a point before the others, and the exponent of the first. -/
def scientific (digits : List Char) (exponent : Int) : List Char :=
  let fraction := digits.drop 1
  digits.take 1 ++ (if fraction.isEmpty then [] else '.' :: fraction) ++
    'E' :: (if exponent < 0 then '-' else '+') :: Nat.toDigits 10 exponent.natAbs

/-- The written form. -/
def text (d : Decimal) : String :=
  let digits := Nat.toDigits 10 d.coefficient
  let first := d.exponent + digits.length - 1
  let body :=
    if d.exponent ≤ 0 ∧ -firstPlace ≤ first then positional digits d.exponent.natAbs
    else scientific digits first
  String.ofList (if d.negative then '-' :: body else body)

end Decimal

end Descent
