/-
Exact decimals: a sign, a whole number below 2^96 and a scale of at most 28
places. The scale belongs to the value: `1.50` and `1.5` are two decimals.

A text with more digits than fit is rounded at its first digit that does not,
halves upward, as long as that digit stands after the point; the characters
after it are not looked at. A double is converted to the decimal of about
fifteen digits that it shows, without trailing zeros.
-/
import SqlAdapter.Binary.Text

namespace SqlAdapter

structure Decimal where
  negative : Bool
  mantissa : Fin (2 ^ 96)
  scale : Fin 29
  deriving DecidableEq

namespace Decimal

/-- The decimal with these parts, zero without a sign; none when they are too large. -/
def make? (negative : Bool) (mantissa scale : Nat) : Option Decimal :=
  if h : mantissa < 2 ^ 96 ∧ scale < 29 then
    some ⟨negative && mantissa ≠ 0, ⟨mantissa, h.1⟩, ⟨scale, h.2⟩⟩
  else none

/-- A whole number; none past 96 bits. -/
def ofInt? (i : Int) : Option Decimal := make? (i < 0) i.natAbs 0

/-- The digits with the point before the last `scale` of them, at least one digit in front. -/
def chars (d : Decimal) : List Char :=
  let digits := decimalChars d.mantissa
  let digits := List.replicate (d.scale + 1 - digits.length) '0' ++ digits
  let whole := digits.length - d.scale
  (if d.negative then ['-'] else []) ++ digits.take whole ++
    (if d.scale.val = 0 then [] else '.' :: digits.drop whole)

def text (d : Decimal) : String := String.ofList d.chars

/-! ## Reading -/

/-- The decimal rounded at its first character too many: up from the digit five. A mantissa that
grows too large by it loses its last digit. -/
def rounded? (negative : Bool) (value scale : Nat) (next : Char) : Option Decimal :=
  let up : Option Bool :=
    if isDigit next then some ('5' ≤ next) else if next = '_' ∨ next = '.' then some false else none
  up.bind fun up =>
    let value := if up then value + 1 else value
    if value < 2 ^ 96 then make? negative value scale
    else if scale = 0 then none
    else make? negative ((value + 4) / 10) (scale - 1)

/-- The mantissa read so far, the places after the point (none before it), and whether there was a digit. -/
def readDigits (negative : Bool) (value : Nat) (places : Option Nat) (any : Bool) :
    List Char → Option Decimal
  | [] => if any then make? negative value (places.getD 0) else none
  | c :: cs =>
    if places = some 28 ∧ any then rounded? negative value 28 c
    else if isDigit c then
      let next := value * 10 + (c.toNat - '0'.toNat)
      if next < 2 ^ 96 then readDigits negative next (places.map (· + 1)) true cs
      else match places with
        | some scale => rounded? negative value scale c
        | none => none
    else if c = '.' ∧ places = none then readDigits negative value (some 0) any cs
    else if c = '_' ∧ any then readDigits negative value places any cs
    else none

/-- A sign, digits with at most one point, underscores after the first digit. -/
def readPlain? (cs : List Char) : Option Decimal :=
  let (negative, digits) := Binary.takeSign cs
  readDigits negative 0 none false digits

/-- The decimal with its point moved: left into the scale, right until no place is left, then by zeros. -/
def shift? (d : Decimal) (exponent : Int) : Option Decimal :=
  let n := exponent.natAbs
  if exponent < 0 then make? d.negative d.mantissa (d.scale + n)
  else if n ≤ d.scale then make? d.negative d.mantissa (d.scale - n)
  else if d.mantissa.val = 0 then make? d.negative 0 0
  else if n ≤ 60 then make? d.negative (d.mantissa * 10 ^ (n - d.scale)) 0
  else none

/-- A number of at most 32 bits, a plus sign in front allowed. -/
def exponentDigits? (cs : List Char) : Option Nat :=
  let digits := match cs with
    | '+' :: digits => digits
    | digits => digits
  if digits = [] ∨ !digits.all isDigit then none
  else if decimalValue digits < 2 ^ 32 then some (decimalValue digits) else none

/-- The exponent part: a minus sign or none, then a number. -/
def exponent? : List Char → Option Int
  | '-' :: cs => (exponentDigits? cs).map fun n => -(n : Int)
  | cs => (exponentDigits? cs).map fun n => (n : Int)

/-- Reads a decimal, with an exponent after `e` if there is one. -/
def read? (cs : List Char) : Option Decimal :=
  let isMark (c : Char) : Bool := c = 'e' || c = 'E'
  let base := cs.takeWhile fun c => !isMark c
  match cs.dropWhile fun c => !isMark c with
  | [] => readPlain? base
  | _ :: exponent => (readPlain? base).bind fun d => (exponent? exponent).bind d.shift?

/-! ## From doubles -/

/-- `bits * 2 ^ -count * 10 ^ e` without the power of two: it is halved while it is even or would
overflow, and otherwise multiplied by five. -/
def takeHalves : (count : Nat) → (bits : Nat) → (e : Int) → Nat × Int
  | 0, bits, e => (bits, e)
  | count + 1, bits, e =>
    if bits % 2 = 0 then takeHalves count (bits / 2) (e + 1)
    else if bits * 5 < 2 ^ 96 then takeHalves count (bits * 5) e
    else takeHalves count (bits / 2) (e + 1)

/-- `bits * 2 ^ count * 10 ^ e` without the power of two: it is doubled while it fits, and otherwise
divided by five. -/
def takeDoubles : (count : Nat) → (bits : Nat) → (e : Int) → Nat × Int
  | 0, bits, e => (bits, e)
  | count + 1, bits, e =>
    if bits < 2 ^ 95 then takeDoubles count (bits * 2) (e - 1) else takeDoubles count (bits / 5) e

/-- A quotient by ten, rounded at the dropped digit, halves upward. -/
def dropDigit (bits : Nat) : Nat := if bits % 10 ≥ 5 then bits / 10 + 1 else bits / 10

/-- Places dropped until at most 28 are left; a number that vanishes has none. -/
def dropPlaces : (count : Nat) → (bits : Nat) → (places : Nat) → Nat × Nat
  | 0, bits, places => (bits, places)
  | count + 1, bits, places =>
    if places ≤ 28 then (bits, places)
    else if bits / 10 = 0 then (0, 0)
    else dropPlaces count (dropDigit bits) (places - 1)

/-- Places dropped until the number is below 2^52, then those that are zero. -/
def trimPlaces (bits : Nat) : (places : Nat) → Nat × Nat
  | 0 => (bits, 0)
  | places + 1 =>
    if 2 ^ 52 ≤ bits then trimPlaces (dropDigit bits) places
    else if bits % 10 = 0 then trimPlaces (bits / 10) places
    else (bits, places + 1)

/-- The decimal that a double shows; none for what is not finite or is too large. -/
def ofBinary64? (x : Binary64) : Option Decimal :=
  if !x.isFinite then none
  else if x.isZero then some ⟨x.negative, 0, 0⟩
  else
    let e := x.exponent
    let (bits, e) :=
      if e < 0 then takeHalves e.natAbs x.significand e else takeDoubles e.natAbs x.significand e
    if 0 < e then
      if e ≤ 40 then make? x.negative (bits * 10 ^ e.natAbs) 0 else none
    else
      let (bits, places) := dropPlaces e.natAbs bits e.natAbs
      let (bits, places) := trimPlaces bits places
      make? x.negative bits places

end Decimal

end SqlAdapter
