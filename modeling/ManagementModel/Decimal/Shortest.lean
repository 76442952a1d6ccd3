import ManagementModel.Decimal.Binary64
import ManagementModel.Decimal.Integer

/-!
# ManagementModel — the shortest digits of a double

The decimals that read back as a double are those between the middles to its two neighbours; the
ends belong to them iff the significand is even. Of these decimals the one with the fewest digits
is written, and of several the nearest to the double.

For one digit, two digits and so on, the two decimals of that many digits around the double are
tested in exact arithmetic, and the first that lies in the interval is taken: if any decimal of a
grid lies in the interval, so does one of the two around the double.

How digits become text (where the exponent begins, whether a whole number has a point) is the
format's own decision and stands in a `Layout`.
-/

namespace ManagementModel.Decimal

/-- How the digits of a double become text. -/
structure Layout where
  /-- Of two decimals at one distance, take the one whose last digit is even, not the larger. -/
  tieToEven : Bool
  /-- The decimal exponents from the first up to, but without, the second are written without
  exponent; with `none`, all are. -/
  positional : Option (Int × Int)
  /-- A whole number without exponent ends in `.0`. -/
  pointed : Bool

/-- The decimal `digits · 10 ^ exponent`. -/
structure Digits where
  digits : Nat
  exponent : Int

/-- The largest `x` with `10 ^ x ≤ num / den`, for a positive ratio: the logarithm to base two
gives it up to one. -/
def floorLog10 (num den : Nat) : Int :=
  let guess : Int := ((Nat.log2 num : Int) - (Nat.log2 den : Int)) * 30103 / 100000
  let reaches (x : Int) : Bool := den * Nat.pow 10 x.toNat ≤ num * Nat.pow 10 (-x).toNat
  if reaches (guess + 1) then guess + 1
  else if reaches guess then guess
  else guess - 1

/-- The interval of a magnitude in quarters of the unit of its last place: the lower end, the value
and the upper end. Below a power of two the neighbour is half as far. -/
def interval (mag : Nat) : Nat × Nat × Nat :=
  let m := Binary64.significand mag
  let below := if mag % Binary64.exponentWeight == 0 && 1 < Binary64.exponentField mag then 1 else 2
  (4 * m - below, 4 * m, 4 * m + 2)

/-- The nearest of the decimals `d · 10 ^ k` and `(d + 1) · 10 ^ k` around a magnitude that lies in
its interval. -/
def nearestOnGrid (tieToEven : Bool) (mag : Nat) (k : Int) : Option Digits :=
  let (low, value, high) := interval mag
  let q := Binary64.scale mag - 2
  -- everything in units of `den`: a decimal n · 10 ^ k is n · unit, and a quarter count c is
  -- c · quarter
  let unit := Nat.pow 10 k.toNat * Nat.pow 2 (-q).toNat
  let quarter := Nat.pow 2 q.toNat * Nat.pow 10 (-k).toNat
  let even := Binary64.significand mag % 2 == 0
  let inside (n : Nat) : Bool :=
    if even then low * quarter ≤ n * unit && n * unit ≤ high * quarter
    else low * quarter < n * unit && n * unit < high * quarter
  let d := value * quarter / unit
  let toLower := value * quarter - d * unit
  let toUpper := (d + 1) * unit - value * quarter
  let pickLower := toLower < toUpper || (toLower == toUpper && tieToEven && d % 2 == 0)
  if inside d && (pickLower || !inside (d + 1)) then some ⟨d, k⟩
  else if inside (d + 1) then some ⟨d + 1, k⟩
  else none

/-- Tries grids of more and more digits, `tries` of them from the grid `10 ^ k` downwards. -/
def firstOnGrids (tieToEven : Bool) (mag : Nat) (k : Int) : (tries : Nat) → Digits
  | 0 => ⟨0, 0⟩
  | tries + 1 =>
    match nearestOnGrid tieToEven mag k with
    | some d => d
    | none => firstOnGrids tieToEven mag (k - 1) tries

/-- Takes zeros off the end of the digits. -/
def stripZeros (digits : Nat) (exponent : Int) : (tries : Nat) → Digits
  | 0 => ⟨digits, exponent⟩
  | tries + 1 =>
    if digits % 10 == 0 then stripZeros (digits / 10) (exponent + 1) tries
    else ⟨digits, exponent⟩

/-- The shortest digits of a positive finite magnitude; seventeen are always enough. -/
def shortest (tieToEven : Bool) (mag : Nat) : Digits :=
  let (num, den) := Binary64.ratio mag
  let d := firstOnGrids tieToEven mag (floorLog10 num den) 17
  stripZeros d.digits d.exponent 17

/-- Digits with a point behind the first `before` of them; zeros fill the gaps. -/
def pointAt (layout : Layout) (ds : List Char) (before : Int) : List Char :=
  if before ≤ 0 then '0' :: '.' :: List.replicate (-before).toNat '0' ++ ds
  else
    let n := before.toNat
    if ds.length ≤ n then
      ds ++ List.replicate (n - ds.length) '0' ++ (if layout.pointed then ['.', '0'] else [])
    else ds.take n ++ '.' :: ds.drop n

/-- Digits in scientific notation: a point behind the first digit unless it stands alone, and an
exponent with its sign. -/
def withExponent (ds : List Char) (e : Int) : List Char :=
  let mantissa := match ds with
    | [] => []
    | [d] => [d]
    | d :: rest => d :: '.' :: rest
  mantissa ++ 'e' :: (if e < 0 then '-' else '+') :: natChars e.natAbs

/-- The text of a finite magnitude. -/
def magnitudeChars (layout : Layout) (mag : Nat) : List Char :=
  if mag == 0 then '0' :: (if layout.pointed then ['.', '0'] else [])
  else
    let d := shortest layout.tieToEven mag
    let ds := natChars d.digits
    let e : Int := d.exponent + ds.length - 1
    let plain := match layout.positional with
      | none => true
      | some (low, high) => low ≤ e && e < high
    if plain then pointAt layout ds (e + 1) else withExponent ds e

/-- The text of a finite double; a negative zero keeps its sign. -/
def doubleChars (layout : Layout) (bits : UInt64) : List Char :=
  let text := magnitudeChars layout (Binary64.magnitude bits)
  if Binary64.isNegative bits then '-' :: text else text

end ManagementModel.Decimal
