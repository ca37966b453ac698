/-!
# Binary floating point

Numbers in the 64-bit binary interchange format, kept as their bit pattern, so that two of them are
equal exactly when they are the same pattern. Every operation here is exact integer arithmetic on
the value `significand · 2 ^ exponent`: reading a ratio rounds to the nearest number and a tie to
the even one, and comparing does not round at all.
-/

namespace Automation

/-- A 64-bit binary floating point number, as its bit pattern. -/
structure Binary64 where
  bits : UInt64
  deriving DecidableEq, Repr, Inhabited

namespace Binary64

/-- The power `2 ^ k`. -/
def pow2 (k : Nat) : Nat := Nat.pow 2 k

/-- The power `10 ^ k`. -/
def pow10 (k : Nat) : Nat := Nat.pow 10 k

/-- The sign bit: set for negative numbers and for the negative zero. -/
def isNegative (x : Binary64) : Bool := pow2 63 ≤ x.bits.toNat

/-- The eleven bits of the exponent. -/
def exponentField (x : Binary64) : Nat := x.bits.toNat / pow2 52 % pow2 11

/-- The fifty-two bits of the fraction. -/
def fractionField (x : Binary64) : Nat := x.bits.toNat % pow2 52

def isNaN (x : Binary64) : Bool := x.exponentField == 2047 && x.fractionField != 0

def isInfinite (x : Binary64) : Bool := x.exponentField == 2047 && x.fractionField == 0

def isFinite (x : Binary64) : Bool := x.exponentField != 2047

/-- The integer `m` of the magnitude `m · 2 ^ q` of a finite number. -/
def significand (x : Binary64) : Nat :=
  if x.exponentField = 0 then x.fractionField else x.fractionField + pow2 52

/-- The integer `q` of the magnitude `m · 2 ^ q` of a finite number. -/
def exponent (x : Binary64) : Int :=
  if x.exponentField = 0 then -1074 else (x.exponentField : Int) - 1075

/-- The pattern with the given sign and the given lower 63 bits. -/
def ofMagnitude (negative : Bool) (low : Nat) : Binary64 :=
  ⟨UInt64.ofNat ((if negative then pow2 63 else 0) + low)⟩

def zero : Binary64 := ofMagnitude false 0
def infinity (negative : Bool) : Binary64 := ofMagnitude negative (2047 * pow2 52)

/-- A number that is none, with a mark that tells it from others of the kind. -/
def undefined (mark : Nat) : Binary64 :=
  ofMagnitude false (2047 * pow2 52 + pow2 51 + mark % pow2 51)

def nan : Binary64 := undefined 0

/-- The quotient rounded to the nearest integer, a tie to the even one. -/
def roundDiv (num den : Nat) : Nat :=
  let quotient := num / den
  let twice := 2 * (num % den)
  if twice > den || (twice == den && quotient % 2 == 1) then quotient + 1 else quotient

/-- The exponent of the leading binary digit of a positive ratio. -/
def leadingExponent (num den : Nat) : Int :=
  let guess : Int := (num.log2 : Int) - den.log2
  let reaches : Bool :=
    if 0 ≤ guess then den * pow2 guess.toNat ≤ num else den ≤ num * pow2 (-guess).toNat
  if reaches then guess else guess - 1

/-- The number nearest to `num / den`, for a positive `den`; a tie goes to the even significand.
A magnitude beyond the largest number becomes infinite. -/
def ofRatio (negative : Bool) (num den : Nat) : Binary64 :=
  if num = 0 then ofMagnitude negative 0
  else
    let unit := max (leadingExponent num den - 52) (-1074)
    let m :=
      if 0 ≤ unit then roundDiv num (den * pow2 unit.toNat)
      else roundDiv (num * pow2 (-unit).toNat) den
    -- the hidden bit of a normal significand counts as one in the exponent field
    let low := (unit + 1074).toNat * pow2 52 + m
    if 2047 * pow2 52 ≤ low then infinity negative else ofMagnitude negative low

/-- The number nearest to an integer. -/
def ofInt (n : Int) : Binary64 := ofRatio (n < 0) n.natAbs 1

/-- The number nearest to `digits · 10 ^ scale`. Scales outside the range of the format are cut
off, so that a short text with a huge exponent stays cheap to read. -/
def ofDecimal (negative : Bool) (digits : Nat) (scale : Int) : Binary64 :=
  if digits = 0 then ofMagnitude negative 0
  else if scale > 400 then infinity negative
  else
    let length : Int := (Nat.toDigits 10 digits).length
    if scale + length < -400 then ofMagnitude negative 0
    else if 0 ≤ scale then ofRatio negative (digits * pow10 scale.toNat) 1
    else ofRatio negative digits (pow10 (-scale).toNat)

/-- The opposite number. -/
def neg (x : Binary64) : Binary64 := ⟨x.bits ^^^ 0x8000000000000000⟩

/-- The value of a number: not a number, infinite, or the exact `m · 2 ^ q`. -/
inductive Exact where
  | undefined
  | infinite (negative : Bool)
  | dyadic (m : Int) (q : Int)
  deriving DecidableEq, Repr

/-- The exact value of a number. -/
def exact (x : Binary64) : Exact :=
  if x.isNaN then .undefined
  else if x.isInfinite then .infinite x.isNegative
  else .dyadic (if x.isNegative then -(x.significand : Int) else x.significand) x.exponent

namespace Exact

/-- The exact value of an integer. -/
def ofInt (n : Int) : Exact := .dyadic n 0

/-- The order of two values; undefined values have none. -/
def compare? : Exact → Exact → Option Ordering
  | .undefined, _ => none
  | _, .undefined => none
  | .infinite a, .infinite b => some (if a == b then .eq else if a then .lt else .gt)
  | .infinite a, .dyadic .. => some (if a then .lt else .gt)
  | .dyadic .., .infinite b => some (if b then .gt else .lt)
  | .dyadic m p, .dyadic n q =>
    let low := min p q
    some (compare (m * pow2 (p - low).toNat) (n * pow2 (q - low).toNat))

end Exact

/-- The number nearest to `m · 2 ^ q`. -/
def ofDyadic (m q : Int) : Binary64 :=
  if 0 ≤ q then ofRatio (m < 0) (m.natAbs * pow2 q.toNat) 1
  else ofRatio (m < 0) m.natAbs (pow2 (-q).toNat)

/-- The rounded sum of two numbers. -/
def add (x y : Binary64) : Binary64 :=
  match x.exact, y.exact with
  | .undefined, _ => nan
  | _, .undefined => nan
  | .infinite a, .infinite b => if a == b then infinity a else nan
  | .infinite a, .dyadic .. => infinity a
  | .dyadic .., .infinite b => infinity b
  | .dyadic m p, .dyadic n q =>
    let low := min p q
    ofDyadic (m * pow2 (p - low).toNat + n * pow2 (q - low).toNat) low

/-- The rounded product of two numbers. -/
def mul (x y : Binary64) : Binary64 :=
  let negative := x.isNegative != y.isNegative
  match x.exact, y.exact with
  | .undefined, _ => nan
  | _, .undefined => nan
  | .infinite _, .infinite _ => infinity negative
  | .infinite _, .dyadic n _ => if n = 0 then nan else infinity negative
  | .dyadic m _, .infinite _ => if m = 0 then nan else infinity negative
  | .dyadic m p, .dyadic n q =>
    if m * n = 0 then ofMagnitude negative 0 else ofDyadic (m * n) (p + q)

/-- The integer that a number is, if it is one. -/
def toInt? (x : Binary64) : Option Int :=
  match x.exact with
  | .dyadic m q =>
    if 0 ≤ q then some (m * pow2 q.toNat)
    else if m % pow2 (-q).toNat = 0 then some (m / pow2 (-q).toNat) else none
  | _ => none

def isZero (x : Binary64) : Bool := x.bits.toNat % pow2 63 == 0

example : ofRatio false 1 2 = ⟨0x3FE0000000000000⟩ := by decide +kernel
example : ofRatio true 1 10 = ⟨0xBFB999999999999A⟩ := by decide +kernel
example : ofDecimal false 5 (-324) = ⟨1⟩ := by decide +kernel
example : ofDecimal false 17976931348623157 292 = ⟨0x7FEFFFFFFFFFFFFF⟩ := by decide +kernel
example : ofDecimal false 18 307 = infinity false := by decide +kernel

/-- A value is never equal to an undefined one, itself included. -/
theorem Exact.compare?_undefined (a : Exact) : Exact.compare? .undefined a = none := by
  cases a <;> rfl

end Binary64

end Automation
