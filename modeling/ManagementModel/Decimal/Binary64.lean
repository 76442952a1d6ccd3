/-!
# ManagementModel — double precision numbers as words

A double is the word of its IEEE 754 binary64 form: a sign bit, eleven bits of exponent and
fifty-two of fraction. A finite one is `significand · 2 ^ scale`, and each operation here computes
the exact ratio of two natural numbers and rounds it once, to the nearest double, a tie to the one
with an even significand.
-/

namespace ManagementModel.Binary64

/-- The weight of the sign bit. -/
def signWeight : Nat := 0x8000000000000000

/-- The weight of the lowest bit of the exponent: one more than the largest fraction. -/
def exponentWeight : Nat := 0x10000000000000

def isNegative (bits : UInt64) : Bool :=
  signWeight ≤ bits.toNat

/-- The word without its sign. Among the words of numbers, larger words are larger numbers. -/
def magnitude (bits : UInt64) : Nat :=
  bits.toNat % signWeight

/-- The word of infinity; larger ones without a sign are NaNs. -/
def infinity : Nat := 0x7ff0000000000000

def isFinite (bits : UInt64) : Bool :=
  magnitude bits < infinity

def isNaN (bits : UInt64) : Bool :=
  infinity < magnitude bits

/-- The word with a sign in front of a magnitude. -/
def withSign (negative : Bool) (magnitude : Nat) : UInt64 :=
  ((if negative then signWeight else 0) + magnitude).toUInt64

/-- Doubles are equal as numbers: zero has two forms, and a NaN differs from itself. -/
def numEq (a b : UInt64) : Bool :=
  !isNaN a && !isNaN b && (a == b || (magnitude a == 0 && magnitude b == 0))

/-- The exponent field of a magnitude. -/
def exponentField (mag : Nat) : Nat := mag / exponentWeight

/-- A magnitude is `significand · 2 ^ scale`. -/
def significand (mag : Nat) : Nat :=
  if exponentField mag == 0 then mag else exponentWeight + mag % exponentWeight

def scale (mag : Nat) : Int :=
  max 1 (exponentField mag : Int) - 1075

/-- The ratio `n · 2 ^ e` as a numerator and a denominator. -/
def scaled (n : Nat) (e : Int) : Nat × Nat :=
  (n * Nat.pow 2 e.toNat, Nat.pow 2 (-e).toNat)

/-- The value of a magnitude as a ratio. -/
def ratio (mag : Nat) : Nat × Nat :=
  scaled (significand mag) (scale mag)

/-- The whole number nearest to a ratio, a tie to the even one. -/
def roundToEven (num den : Nat) : Nat :=
  let whole := num / den
  let twice := 2 * (num % den)
  if twice < den then whole
  else if den < twice then whole + 1
  else whole + whole % 2

/-- The magnitude nearest to a ratio. With the scale that gives the quotient fifty-three bits, or
the least scale there is, the quotient is rounded to a whole number; a carry out of the
significand goes into the exponent field, where it belongs. -/
def nearest (num den : Nat) : Nat :=
  if num == 0 then 0 else
    let guess : Int := (Nat.log2 num : Int) - (Nat.log2 den : Int) - 53
    let tooLong := 2 * exponentWeight * (scaled den guess).1 ≤ num * (scaled den guess).2
    let scale := max (-1074) (if tooLong then guess + 1 else guess)
    let m := roundToEven (num * (scaled den scale).2) (scaled den scale).1
    let mag :=
      if m < exponentWeight then m
      else (scale + 1075).toNat * exponentWeight + (m - exponentWeight)
    min mag infinity

/-- The double nearest to a natural number. -/
def ofNat (n : Nat) : Nat :=
  nearest n 1

/-- The rounded product of two finite magnitudes. -/
def mul (a b : Nat) : Nat :=
  nearest ((ratio a).1 * (ratio b).1) ((ratio a).2 * (ratio b).2)

/-- The rounded quotient of two finite magnitudes, the second not zero. -/
def div (a b : Nat) : Nat :=
  nearest ((ratio a).1 * (ratio b).2) ((ratio a).2 * (ratio b).1)

/-- The whole number between zero and a double that is nearest to it, brought into the range of 64
bit words; a NaN counts as zero. -/
def toInt64 (bits : UInt64) : Int64 :=
  let mag := magnitude bits
  if isNaN bits then 0
  else
    let n : Int := if mag == infinity then 2 * signWeight else ((ratio mag).1 / (ratio mag).2 : Nat)
    let n := if isNegative bits then -n else n
    Int64.ofInt (max Int64.minValue.toInt (min Int64.maxValue.toInt n))

end ManagementModel.Binary64
