import Automation.Number.Binary64

/-!
# Shortest decimal text

The text of a number has the fewest digits that read back as the same number; of the decimals with
that many digits it is the one nearest to the number. The digits do not depend on the layout;
a `DecimalLayout` says how they are written.
-/

namespace Automation.Binary64

/-- A decimal `digits · 10 ^ scale`. -/
structure Decimal where
  digits : Nat
  scale : Int
  deriving DecidableEq, Repr

/-- The exponent `e` with `10 ^ e ≤ num / den < 10 ^ (e + 1)`, for a positive ratio. -/
def leadingDecimal (num den : Nat) : Int :=
  let guess : Int := (Nat.toDigits 10 num).length - (Nat.toDigits 10 den).length
  let reaches : Bool :=
    if 0 ≤ guess then den * pow10 guess.toNat ≤ num else den ≤ num * pow10 (-guess).toNat
  if reaches then guess else guess - 1

/-- The numbers that read as `x`, and `x` itself, as multiples of a common unit `1 / den`: the
lower end, `x`, the upper end, and whether the ends belong to the interval. -/
structure Interval where
  low : Nat
  mid : Nat
  high : Nat
  den : Nat
  closed : Bool

/-- The interval of the reals that round to a positive finite number. Below a power of two the next
number is nearer than above. -/
def roundingInterval (x : Binary64) : Interval :=
  let m := x.significand
  let below := if x.fractionField = 0 && 1 < x.exponentField then 1 else 2
  let q := x.exponent - 2
  let up := if 0 ≤ q then pow2 q.toNat else 1
  { low := (4 * m - below) * up
    mid := 4 * m * up
    high := (4 * m + 2) * up
    den := if 0 ≤ q then 1 else pow2 (-q).toNat
    closed := m % 2 = 0 }

/-- The nearest of the two neighbours of the number on the grid of the multiples of `10 ^ scale`
that reads back as it. -/
def neighbourOn? (i : Interval) (scale : Int) : Option Decimal :=
  let up := if 0 ≤ scale then pow10 scale.toNat else 1
  let down := if 0 ≤ scale then 1 else pow10 (-scale).toNat
  -- everything is measured in units of `1 / (den · down)`
  let step := up * i.den
  let mid := i.mid * down
  let inside (n : Nat) : Bool :=
    let here := n * step
    if i.closed then i.low * down ≤ here && here ≤ i.high * down
    else i.low * down < here && here < i.high * down
  let floor := mid / step
  let near := mid - floor * step
  let far := (floor + 1) * step - mid
  match inside floor, inside (floor + 1) with
  | true, true =>
    if near < far || (near == far && floor % 2 == 0) then some ⟨floor, scale⟩
    else some ⟨floor + 1, scale⟩
  | true, false => some ⟨floor, scale⟩
  | false, true => some ⟨floor + 1, scale⟩
  | false, false => none

/-- The shortest decimal of a finite number, without its sign. -/
def shortest (x : Binary64) : Decimal :=
  if x.significand = 0 then ⟨0, 0⟩
  else
    let i := x.roundingInterval
    let lead := leadingDecimal i.mid i.den
    let tries := (List.range 17).filterMap fun (n : Nat) => neighbourOn? i (lead - n)
    tries.headD ⟨0, 0⟩

/-- How the digits of a number are written. -/
structure DecimalLayout where
  /-- texts of the values that have no digits -/
  nan : String
  infinity : String
  negativeInfinity : String
  /-- whether a single digit before an exponent is followed by a point and a zero -/
  pointBeforeExponent : Bool

/-- The digits of a decimal without trailing zeros, and the place of the point behind the first of
them as a power of ten. -/
def digitsAndPoint (d : Decimal) : List Char × Int :=
  let all := Nat.toDigits 10 d.digits
  let kept := (all.reverse.dropWhile (· == '0')).reverse
  (if kept.isEmpty then ['0'] else kept, all.length + d.scale)

/-- The digits of a positive number around its point. From `10 ^ -4` up to `10 ^ 16` they are
positional, with at least one digit behind the point; outside they have an exponent with a sign and
at least two digits. -/
def layOut (layout : DecimalLayout) (digits : List Char) (point : Int) : List Char :=
  if -4 < point && point ≤ 16 then
    if point ≤ 0 then '0' :: '.' :: (List.replicate (-point).toNat '0' ++ digits)
    else
      let whole := digits.take point.toNat
      let rest := digits.drop point.toNat
      whole ++ List.replicate (point.toNat - whole.length) '0'
        ++ '.' :: (if rest.isEmpty then ['0'] else rest)
  else
    let exponent := point - 1
    let ds := Nat.toDigits 10 exponent.natAbs
    let padded := if ds.length < 2 then '0' :: ds else ds
    let mantissa :=
      match digits with
      | [d] => if layout.pointBeforeExponent then [d, '.', '0'] else [d]
      | d :: rest => d :: '.' :: rest
      | [] => []
    mantissa ++ 'e' :: (if exponent < 0 then '-' else '+') :: padded

/-- The characters of a finite number. -/
def finiteChars (layout : DecimalLayout) (x : Binary64) : List Char :=
  let (digits, point) :=
    if x.significand = 0 then (['0'], (1 : Int)) else digitsAndPoint x.shortest
  (if x.isNegative then ['-'] else []) ++ layOut layout digits point

/-- The text of a number. -/
def render (layout : DecimalLayout) (x : Binary64) : String :=
  if x.isNaN then layout.nan
  else if x.isInfinite then
    if x.isNegative then layout.negativeInfinity else layout.infinity
  else String.ofList (finiteChars layout x)

/-- Numbers in messages. -/
def plainLayout : DecimalLayout := ⟨"nan", "inf", "-inf", false⟩

example : finiteChars plainLayout (ofRatio false 1 10) = ['0', '.', '1'] := by decide +kernel
example : finiteChars plainLayout (ofRatio false 5 1) = ['5', '.', '0'] := by decide +kernel
example : finiteChars plainLayout (ofMagnitude true 0) = ['-', '0', '.', '0'] := by decide +kernel
example : finiteChars plainLayout (ofRatio false (pow10 16) 1) =
    ['1', 'e', '+', '1', '6'] := by
  decide +kernel
example : finiteChars plainLayout (ofRatio false (pow10 15) 1) =
    ['1', '0', '0', '0', '0', '0', '0', '0', '0', '0', '0', '0', '0', '0', '0', '0', '.', '0'] := by
  decide +kernel
example : finiteChars plainLayout ⟨1⟩ = ['5', 'e', '-', '3', '2', '4'] := by decide +kernel
example : finiteChars plainLayout (ofRatio true 1 10000) =
    ['-', '0', '.', '0', '0', '0', '1'] := by
  decide +kernel
example : finiteChars plainLayout (ofRatio true 12 1000000) =
    ['-', '1', '.', '2', 'e', '-', '0', '5'] := by
  decide +kernel

end Automation.Binary64
