/-!
# Binary floating point with 53 bits

The finite numbers of the double format, without their sign: a mantissa below `2 ^ 53` times a
power of two, the exponent being at least -1074 and at most 971.  A fraction is rounded to the
nearest of them, a tie going to the even mantissa; what would need a larger exponent has no
number.  Products and quotients are those of the exact values, rounded once.
-/

namespace DeviceTwin

/-- The quotient rounded to the nearest natural number, a tie going to the even one. -/
def roundHalfEven (num den : Nat) : Nat :=
  let q := num / den
  let r := num % den
  if 2 * r < den then q
  else if den < 2 * r then q + 1
  else if q % 2 = 0 then q else q + 1

/-- A number `mantissa * 2 ^ exponent`. -/
structure Binary64 where
  mantissa : Nat
  exponent : Int
  deriving DecidableEq, Repr

namespace Binary64

/-- The least exponent. -/
def minExponent : Int := -1074

/-- The greatest exponent. -/
def maxExponent : Int := 971

/-- The least mantissa of 53 bits. -/
def leastFull : Nat := Nat.pow 2 52

/-- Zero. -/
def zero : Binary64 := ⟨0, minExponent⟩

/-- The numerator of the exact value. -/
def num (x : Binary64) : Nat := x.mantissa * Nat.pow 2 x.exponent.toNat

/-- The denominator of the exact value. -/
def den (x : Binary64) : Nat := Nat.pow 2 (-x.exponent).toNat

/-- The quotient `num / den` in units of `2 ^ exponent`, rounded. -/
def scaled (num den : Nat) (exponent : Int) : Nat :=
  roundHalfEven (num * Nat.pow 2 (-exponent).toNat) (den * Nat.pow 2 exponent.toNat)

/-- The exponent with which the quotient `num / den` has a mantissa of 53 bits, or the least
exponent if it is too small for that. -/
def exponentOf (num den : Nat) : Int :=
  let guess : Int := (Nat.log2 num : Int) - (Nat.log2 den : Int) - 52
  let floor := num * Nat.pow 2 (-guess).toNat / (den * Nat.pow 2 guess.toNat)
  max minExponent (if floor < leastFull then guess - 1 else guess)

/-- The number nearest to the quotient `num / den`, if it is not too large. -/
def round (num den : Nat) : Option Binary64 :=
  if num = 0 then some zero
  else
    let exponent := exponentOf num den
    let mantissa := scaled num den exponent
    let x : Binary64 :=
      if mantissa = 2 * leastFull then ⟨leastFull, exponent + 1⟩ else ⟨mantissa, exponent⟩
    if maxExponent < x.exponent then none else some x

/-- The product, if it is not too large. -/
def mul (x y : Binary64) : Option Binary64 := round (x.num * y.num) (x.den * y.den)

/-- The quotient, if it is not too large. -/
def div (x y : Binary64) : Option Binary64 := round (x.num * y.den) (x.den * y.num)

/-- The number nearest to a natural number, if it is not too large. -/
def ofNat (n : Nat) : Option Binary64 := round n 1

end Binary64

end DeviceTwin
