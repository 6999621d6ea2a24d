/-
Binary floating-point numbers as data: a sign and the exponent and fraction
fields read as one natural number. All arithmetic is exact in `Nat` and then
rounded once, to nearest with ties to even, so every operation here can be
computed and reasoned about without run-time floats.

`Binary.ofRatio` is the one place that rounds. Multiplication, division and
the readers in `SqlAdapter.Binary.Text` are exact ratios handed to it.
-/
import SqlAdapter.Power

namespace SqlAdapter

namespace Binary

/-- A binary interchange format: the widths of its fraction and exponent fields. -/
structure Format where
  fractionBits : Nat
  exponentBits : Nat
  deriving DecidableEq

namespace Format

/-- Thirty-two bits: 23 of fraction, 8 of exponent. -/
def single : Format := ⟨23, 8⟩

/-- Sixty-four bits: 52 of fraction, 11 of exponent. -/
def double : Format := ⟨52, 11⟩

/-- The exponent of the last fraction bit of the smallest numbers. -/
def minExponent (f : Format) : Int :=
  2 - 2 ^ (f.exponentBits - 1) - f.fractionBits

/-- The exponent field that infinities and NaNs carry. -/
def topField (f : Format) : Nat := 2 ^ f.exponentBits - 1

/-- The magnitude of infinity: all ones in the exponent, nothing in the fraction. -/
def infinity (f : Format) : Nat := f.topField * 2 ^ f.fractionBits

/-- How many magnitudes the two fields can hold. -/
def magnitudes (f : Format) : Nat := 2 ^ (f.exponentBits + f.fractionBits)

theorem infinity_lt (f : Format) : f.infinity < f.magnitudes := by
  unfold infinity topField magnitudes
  rw [Nat.pow_add]
  have := Nat.two_pow_pos f.exponentBits
  exact Nat.mul_lt_mul_of_pos_right (by omega) (Nat.two_pow_pos _)

end Format

end Binary

/-- A datum of format `f`. Among the finite data and infinity the order of
magnitudes is the order of absolute values. -/
structure Binary (f : Binary.Format) where
  negative : Bool
  magnitude : Fin f.magnitudes
  deriving DecidableEq

/-- A single-precision number. -/
abbrev Binary32 := Binary .single

/-- A double-precision number. -/
abbrev Binary64 := Binary .double

namespace Binary

variable {f : Format}

/-- The datum with the given sign and magnitude; a magnitude beyond infinity becomes infinity. -/
def ofMagnitude (negative : Bool) (magnitude : Nat) : Binary f :=
  ⟨negative, ⟨min magnitude f.infinity, Nat.lt_of_le_of_lt (Nat.min_le_right _ _) f.infinity_lt⟩⟩

def zero (negative : Bool) : Binary f := ofMagnitude negative 0

def infinite (negative : Bool) : Binary f := ofMagnitude negative f.infinity

/-- The NaN that operations without an answer give. -/
def nan : Binary f :=
  ⟨false, ⟨f.magnitudes - 1, Nat.sub_lt (Nat.lt_of_le_of_lt (Nat.zero_le _) f.infinity_lt) Nat.one_pos⟩⟩

/-- The exponent field. -/
def field (x : Binary f) : Nat := x.magnitude.val / 2 ^ f.fractionBits

def isFinite (x : Binary f) : Bool := x.field < f.topField

def isInfinite (x : Binary f) : Bool := x.magnitude.val = f.infinity

def isNaN (x : Binary f) : Bool := f.infinity < x.magnitude.val

def isZero (x : Binary f) : Bool := x.magnitude.val = 0

/-- The significand of a finite datum: its value is `significand * 2 ^ exponent`. -/
def significand (x : Binary f) : Nat :=
  let fraction := x.magnitude.val % 2 ^ f.fractionBits
  if x.field = 0 then fraction else 2 ^ f.fractionBits + fraction

/-- The exponent that goes with `significand`. -/
def exponent (x : Binary f) : Int := f.minExponent + (x.field - 1 : Nat)

/-- `numerator / denominator` halved `e` times (doubled for negative `e`). -/
def scaleDown (numerator denominator : Nat) (e : Int) : Nat × Nat :=
  if e < 0 then (numerator * 2 ^ e.natAbs, denominator)
  else (numerator, denominator * 2 ^ e.natAbs)

/-- The quotient rounded to the nearest natural number, a half to the even neighbour. -/
def divideToEven (numerator denominator : Nat) : Nat :=
  let quotient := numerator / denominator
  let remainder := numerator % denominator
  if 2 * remainder < denominator then quotient
  else if denominator < 2 * remainder then quotient + 1
  else if quotient % 2 = 0 then quotient else quotient + 1

/-- The datum nearest to `± numerator / denominator`, a half going to the even
significand and everything past the largest finite datum to infinity. -/
def ofRatio (negative : Bool) (numerator denominator : Nat) : Binary f :=
  if numerator = 0 then zero negative
  else
    let guess : Int := (numerator.log2 : Int) - denominator.log2 - f.fractionBits - 1
    let low := max guess f.minExponent
    let (n, d) := scaleDown numerator denominator low
    let e := if n / d < 2 ^ (f.fractionBits + 1) then low else low + 1
    let (n, d) := scaleDown numerator denominator e
    let significand := divideToEven n d
    ofMagnitude negative ((e - f.minExponent).toNat * 2 ^ f.fractionBits + significand)

/-- The datum nearest to `± m * 2 ^ e`. -/
def ofScaled (negative : Bool) (m : Nat) (e : Int) : Binary f :=
  if e < 0 then ofRatio negative m (2 ^ e.natAbs) else ofRatio negative (m * 2 ^ e.natAbs) 1

def ofNat (n : Nat) : Binary f := ofRatio false n 1

def ofInt (i : Int) : Binary f := ofRatio (i < 0) i.natAbs 1

def neg (x : Binary f) : Binary f := { x with negative := !x.negative }

def mul (x y : Binary f) : Binary f :=
  let negative := x.negative != y.negative
  if x.isNaN || y.isNaN then nan
  else if x.isFinite && y.isFinite then
    ofScaled negative (x.significand * y.significand) (x.exponent + y.exponent)
  else if x.isZero || y.isZero then nan
  else infinite negative

/-- Division of finite data by a finite, nonzero one; anything else is NaN. -/
def div (x y : Binary f) : Binary f :=
  let negative := x.negative != y.negative
  if !(x.isFinite && y.isFinite) || y.isZero then nan
  else
    let e := x.exponent - y.exponent
    if e < 0 then ofRatio negative x.significand (y.significand * 2 ^ e.natAbs)
    else ofRatio negative (x.significand * 2 ^ e.natAbs) y.significand

/-- The place of a datum that is not NaN on the line of all data, both zeros at one place. -/
def place (x : Binary f) : Int := if x.negative then -(x.magnitude.val : Int) else x.magnitude.val

/-- Strictly less as numbers; false where either side is NaN. -/
def less (x y : Binary f) : Bool := !x.isNaN && !y.isNaN && x.place < y.place

/-- Equal as numbers: the zeros are equal, NaN equals nothing. -/
def same (x y : Binary f) : Bool := !x.isNaN && !y.isNaN && x.place = y.place

/-- The lesser of two data; a NaN gives way to the other side. -/
def least (x y : Binary f) : Binary f :=
  if x.isNaN then y else if y.isNaN then x else if y.less x then y else x

/-- The greater of two data; a NaN gives way to the other side. -/
def greatest (x y : Binary f) : Binary f :=
  if x.isNaN then y else if y.isNaN then x else if x.less y then y else x

/-- The whole part of a datum held to `0 .. top`; NaN and negative numbers give zero. -/
def toNatWithin (x : Binary f) (top : Nat) : Nat :=
  if x.isNaN || x.negative then 0
  else if !x.isFinite then top
  else
    let (n, d) := scaleDown x.significand 1 (-x.exponent)
    min (n / d) top

/-- Powers by repeated squaring, the low bits of the exponent first: `acc * x ^ n`. -/
def powOnto (x acc : Binary f) (n : Nat) : Binary f :=
  if n = 0 then acc
  else if n = 1 then acc.mul x
  else powOnto (x.mul x) (if n % 2 = 1 then acc.mul x else acc) (n / 2)
  termination_by n

/-- `x ^ n` for a natural exponent, rounding after every multiplication. -/
def pow (x : Binary f) (n : Nat) : Binary f := powOnto x (ofNat 1) n

/-- The same number in double precision, which holds every single-precision number. -/
def widen (x : Binary32) : Binary64 :=
  if x.isNaN then { (nan : Binary64) with negative := x.negative }
  else if x.isFinite then ofScaled x.negative x.significand x.exponent
  else infinite x.negative

end Binary

end SqlAdapter
