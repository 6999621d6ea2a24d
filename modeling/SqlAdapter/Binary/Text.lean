/-
Decimal text of binary numbers, both ways.

`Binary.read?` takes a sign, digits with at most one point and an exponent, or
one of the words for infinity and NaN, and rounds the exact decimal once.
`Binary.jsonText`, `Binary.plainText` and `Binary.displayText` print the shortest
decimal in the three layouts the adapter writes: the JSON layout with exponents
for very large and very small numbers, the SQL layout, which never has one, and
the layout for messages.
-/
import SqlAdapter.Binary.Shortest
import SqlAdapter.Text.Digits

namespace SqlAdapter

namespace Binary

variable {f : Format}

/-- `± digits * 10 ^ e`, rounded once. Exponents far outside every format are
answered without computing the power. -/
def ofDecimal (negative : Bool) (digits : Nat) (e : Int) : Binary f :=
  if digits = 0 then zero negative
  else
    let reach : Int := 2 ^ (f.exponentBits + 1)
    let size : Int := digitCount digits + e
    if size > reach then infinite negative
    else if size < -reach then zero negative
    else if e < 0 then ofRatio negative digits (10 ^ e.natAbs)
    else ofRatio negative (digits * 10 ^ e.natAbs) 1

/-- A sign character and what follows it: is it a minus, and the rest. -/
def takeSign : List Char → Bool × List Char
  | '-' :: cs => (true, cs)
  | '+' :: cs => (false, cs)
  | cs => (false, cs)

/-- The exponent part of a decimal: nothing, or `e` with an optionally signed whole number. -/
def exponentPart? : List Char → Option Int
  | [] => some 0
  | c :: cs =>
    if c = 'e' ∨ c = 'E' then
      let (negative, digits) := takeSign cs
      if digits = [] ∨ !digits.all isDigit then none
      else some (if negative then -(decimalValue digits : Int) else decimalValue digits)
    else none

/-- Digits with at most one point among them, then an exponent part. -/
def readUnsigned? (negative : Bool) (cs : List Char) : Option (Binary f) :=
  let whole := cs.takeWhile isDigit
  let rest := cs.dropWhile isDigit
  let (fraction, rest) := match rest with
    | '.' :: more => (more.takeWhile isDigit, more.dropWhile isDigit)
    | _ => ([], rest)
  if whole = [] ∧ fraction = [] then none
  else (exponentPart? rest).map fun e =>
    ofDecimal negative (decimalValue (whole ++ fraction)) (e - fraction.length)

/-- Reads a number: an optional sign, then `inf`, `infinity` or `nan` in any
letter case, or a decimal. -/
def read? (text : List Char) : Option (Binary f) :=
  let (negative, body) := takeSign text
  let word := String.ofList (body.map asciiLower)
  if word = "inf" ∨ word = "infinity" then some (infinite negative)
  else if word = "nan" then some { (nan : Binary f) with negative := negative }
  else readUnsigned? negative body

/-- The digits of a decimal with the point after the first `position` of them,
zeros filling the gap on either side; `".0"` after whole numbers if asked for. -/
def positional (digits : List Char) (position : Int) (pointZero : Bool) : List Char :=
  if position ≤ 0 then '0' :: '.' :: (List.replicate position.natAbs '0' ++ digits)
  else if digits.length ≤ position.natAbs then
    digits ++ List.replicate (position.natAbs - digits.length) '0' ++
      (if pointZero then ['.', '0'] else [])
  else digits.take position.natAbs ++ '.' :: digits.drop position.natAbs

/-- One digit, the other digits after a point, and an exponent whose plus sign is written if asked for. -/
def scientific (digits : List Char) (exponent : Int) (plusSign : Bool) : List Char :=
  digits.take 1 ++ (if digits.length ≤ 1 then [] else '.' :: digits.drop 1) ++
    'e' :: (if exponent < 0 then ['-'] else if plusSign then ['+'] else []) ++ decimalChars exponent.natAbs

/-- Which layout a finite number takes. -/
structure Layout where
  tie : Tie
  /-- The exponents of the first digit that are written without an exponent; none means all. -/
  plain : Option (Int × Int)
  pointZero : Bool
  plusSign : Bool

/-- The JSON layout: exponents outside `-5 .. 15` are written, whole numbers end in `.0`. -/
def Layout.json : Layout := ⟨.even, some (-5, 15), true, true⟩

/-- The SQL layout: no exponents and no `.0`. -/
def Layout.sql : Layout := ⟨.up, none, false, false⟩

/-- The layout for messages: exponents outside `-4 .. 15` are written without a plus sign, whole
numbers end in `.0`. -/
def Layout.display : Layout := ⟨.up, some (-4, 15), true, false⟩

/-- A finite number in a layout. -/
def layOut (style : Layout) (x : Binary f) : List Char :=
  let d := x.shortest style.tie
  let digits := decimalChars d.digits
  let first : Int := d.exponent + digits.length - 1
  let plain := match style.plain with
    | none => true
    | some (low, high) => low ≤ first && first ≤ high
  (if x.negative then ['-'] else []) ++
    if x.isZero || plain then positional digits (first + 1) style.pointZero
    else scientific digits first style.plusSign

/-- The words for what is not finite. -/
def wordOf (x : Binary f) : String :=
  if x.isNaN then "NaN" else if x.negative then "-inf" else "inf"

/-- A number in the JSON layout, or the word for what is not finite. -/
def jsonText (x : Binary f) : String :=
  if x.isFinite then String.ofList (x.layOut .json) else x.wordOf

/-- A number in the layout for messages, or the word for what is not finite. -/
def displayText (x : Binary f) : String :=
  if x.isFinite then String.ofList (x.layOut .display) else x.wordOf

/-- A number in the SQL layout, or the word for what is not finite. -/
def plainText (x : Binary f) : String :=
  if x.isFinite then String.ofList (x.layOut .sql) else x.wordOf

end Binary

end SqlAdapter
