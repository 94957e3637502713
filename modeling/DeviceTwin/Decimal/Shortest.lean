import DeviceTwin.Decimal.Binary64
import DeviceTwin.Text.Numeral

/-!
# The shortest decimal that reads back

Of all decimals that round to a given binary number the one with the fewest digits is chosen, and
of several with that many digits the one nearest to the number; a tie goes to the even digit.
Decimals with `k` digits form a grid around the number, and if any of them reads back then one of
the number's two neighbours on the grid does, so only these are looked at, for one digit more at a
time.  Seventeen digits always suffice.
-/

namespace DeviceTwin

/-- A decimal `digits * 10 ^ exponent`. -/
structure Decimal where
  digits : Nat
  exponent : Int
  deriving DecidableEq, Repr

namespace Decimal

/-- The decimal without trailing zeros among its digits; `fuel` bounds their number. -/
def strip : Nat → Decimal → Decimal
  | 0, d => d
  | fuel + 1, d =>
    if d.digits ≠ 0 ∧ d.digits % 10 = 0 then strip fuel ⟨d.digits / 10, d.exponent + 1⟩ else d

end Decimal

namespace Binary64

/-- The least and the greatest value that round to a positive number, in quarters of the unit of
its exponent.  Below a power of two the numbers lie twice as close. -/
def quarters (x : Binary64) : Nat × Nat :=
  let low := if x.mantissa = leastFull ∧ minExponent < x.exponent then 1 else 2
  (4 * x.mantissa - low, 4 * x.mantissa + 2)

/-- Whether the value `n / d` rounds to the number.  The ends of its interval do so exactly if its
mantissa is even. -/
def isReadFrom (x : Binary64) (n d : Nat) : Bool :=
  let (low, high) := x.quarters
  -- the value in quarters of the unit is `n * 4 / (d * 2 ^ exponent)`
  let value := n * 4 * Nat.pow 2 (-x.exponent).toNat
  let unit := d * Nat.pow 2 x.exponent.toNat
  if x.mantissa % 2 = 0 then low * unit ≤ value && value ≤ high * unit
  else low * unit < value && value < high * unit

/-- The exponent `p` with `10 ^ p ≤ n / d < 10 ^ (p + 1)`, looked for upwards from `p`. -/
def decimalExponentFrom (n d : Nat) : Nat → Int → Int
  | 0, p => p
  | fuel + 1, p =>
    let next := p + 1
    if d * Nat.pow 10 next.toNat ≤ n * Nat.pow 10 (-next).toNat then
      decimalExponentFrom n d fuel next
    else p

/-- The exponent of the leading decimal digit of a positive number. -/
def decimalExponent (x : Binary64) : Int :=
  -- two binary orders more than the mantissa and the exponent say, times the logarithm of two
  let bits : Int := (Nat.log2 x.mantissa : Int) + x.exponent
  decimalExponentFrom x.num x.den 4 (Int.fdiv (bits * 1233) 4096 - 2)

/-- The best decimal on the grid of step `10 ^ exponent`, if one of the two neighbours reads
back. -/
def onGrid (x : Binary64) (exponent : Int) : Option Decimal :=
  let up := Nat.pow 10 exponent.toNat
  let down := Nat.pow 10 (-exponent).toNat
  let n := x.num * down
  let d := x.den * up
  let below := n / d
  let above := below + 1
  let fits := fun (k : Nat) => x.isReadFrom (k * up) down
  match fits below, fits above with
  | true, true => some ⟨roundHalfEven n d, exponent⟩
  | true, false => some ⟨below, exponent⟩
  | false, true => some ⟨above, exponent⟩
  | false, false => none

/-- The first grid with a hit, starting with the step `10 ^ exponent`. -/
def shortestFrom (x : Binary64) : Nat → Int → Decimal
  | 0, exponent =>
    ⟨roundHalfEven (x.num * Nat.pow 10 (-exponent).toNat) (x.den * Nat.pow 10 exponent.toNat),
      exponent⟩
  | fuel + 1, exponent =>
    match x.onGrid exponent with
    | some d => d
    | none => shortestFrom x fuel (exponent - 1)

/-- The shortest decimal that reads back as a positive number. -/
def shortest (x : Binary64) : Decimal :=
  (shortestFrom x 17 x.decimalExponent).strip 20

/-- A number in decimal: with a point and no exponent if the leading digit stands for at least
`10 ^ -5` and less than `10 ^ 16`, else with one digit before the point and the exponent with its
sign. -/
def render (x : Binary64) : Text :=
  if x.mantissa = 0 then "0.0".toList
  else
    let d := x.shortest
    let digits := Numeral.render d.digits
    -- the exponent of the leading digit
    let lead : Int := d.exponent + digits.length - 1
    if -5 ≤ lead ∧ lead < 16 then
      if 0 ≤ d.exponent then
        digits ++ List.replicate d.exponent.toNat '0' ++ ".0".toList
      else if 0 ≤ lead then
        digits.take (lead.toNat + 1) ++ '.' :: digits.drop (lead.toNat + 1)
      else
        "0.".toList ++ List.replicate (-lead - 1).toNat '0' ++ digits
    else
      let fraction := digits.drop 1
      digits.take 1 ++ (if fraction = [] then [] else '.' :: fraction) ++
        (if lead < 0 then "e-".toList else "e+".toList) ++ Numeral.render lead.natAbs

end Binary64

end DeviceTwin
