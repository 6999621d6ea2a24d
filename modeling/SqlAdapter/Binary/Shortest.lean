/-
The shortest decimal of a binary number: the fewest digits that still read
back, and of those the nearest to the number.

A finite datum stands for every real that rounds to it, an interval around its
value whose ends belong to it when the significand is even. For one digit, two
digits and so on, the two neighbours of the value on that decimal grid are
tried: when any point of a grid lies in the interval, so does one of these
two, so the first grid with a hit has the fewest digits.
-/
import SqlAdapter.Binary.Basic

namespace SqlAdapter

namespace Binary

/-- Where a value lies exactly halfway between two shortest decimals. -/
inductive Tie where
  | even
  | up
  deriving DecidableEq

/-- A decimal `digits * 10 ^ exponent`. -/
structure Digits where
  digits : Nat
  exponent : Int
  deriving DecidableEq

variable {f : Format}

/-- Four times the value and the two ends of its interval, over one power of two:
lower end, value, upper end and the exponent `e` with value `= v / 4 * 2 ^ e`. -/
def interval (x : Binary f) : Nat × Nat × Nat × Int :=
  let m := x.significand
  let closer := x.field > 1 && m = 2 ^ f.fractionBits
  (4 * m - (if closer then 1 else 2), 4 * m, 4 * m + 2, x.exponent)

/-- The number of decimal digits of `n`, one for zero. -/
def digitCount (n : Nat) : Nat := if n < 10 then 1 else digitCount (n / 10) + 1

/-- The greatest `k` with `10 ^ k ≤ n / d`, for `n` and `d` above zero. -/
def floorLog10 (n d : Nat) : Int :=
  if d ≤ n then (digitCount (n / d) : Int) - 1
  else
    let k := digitCount (d / n)
    if n * 10 ^ (k - 1) < d then -(k : Int) else -(k : Int) + 1

/-- `n / d` on the grid of multiples of `10 ^ k`: the quotient and remainder of the scaled ratio. -/
def onGrid (n d : Nat) (k : Int) : Nat × Nat :=
  if k < 0 then (n * 10 ^ k.natAbs, d) else (n, d * 10 ^ k.natAbs)

/-- The nearest point of the grid `10 ^ k` inside the interval, if one is there. -/
def hit? (tie : Tie) (x : Binary f) (k : Int) : Option Nat :=
  let (low, value, high, e) := x.interval
  let (factor, divisor) : Nat × Nat := if e < 0 then (1, 4 * 2 ^ e.natAbs) else (2 ^ e.natAbs, 4)
  let even := x.significand % 2 = 0
  let (n, d) := onGrid (value * factor) divisor k
  let below := n / d
  let above := below + 1
  let inside (p : Nat) : Bool :=
    let (l, dl) := onGrid (low * factor) divisor k
    let (h, dh) := onGrid (high * factor) divisor k
    if even then l ≤ p * dl && p * dh ≤ h else l < p * dl && p * dh < h
  let gap := n - below * d
  match inside below, inside above with
  | false, false => none
  | true, false => some below
  | false, true => some above
  | true, true =>
    if 2 * gap < d then some below
    else if d < 2 * gap then some above
    else match tie with
      | .even => if below % 2 = 0 then some below else some above
      | .up => some above

/-- The first grid, from coarse to fine, with a hit; `count` grids are tried. -/
def firstHit (tie : Tie) (x : Binary f) : (count : Nat) → (k : Int) → Digits
  | 0, k => ⟨0, k⟩
  | count + 1, k =>
    match hit? tie x k with
    | some p => ⟨p, k⟩
    | none => firstHit tie x count (k - 1)

/-- Trailing zeros moved from the digits into the exponent. -/
def stripZeros : (fuel : Nat) → Digits → Digits
  | 0, d => d
  | fuel + 1, d => if d.digits ≠ 0 ∧ d.digits % 10 = 0 then stripZeros fuel ⟨d.digits / 10, d.exponent + 1⟩ else d

/-- The shortest decimal of a finite datum's absolute value. -/
def shortest (tie : Tie) (x : Binary f) : Digits :=
  if x.isZero then ⟨0, 0⟩
  else
    let (n, d) := scaleDown x.significand 1 (-x.exponent)
    let top := floorLog10 n d
    let found := firstHit tie x (f.fractionBits + 2) top
    stripZeros (digitCount found.digits) found

end Binary

end SqlAdapter
