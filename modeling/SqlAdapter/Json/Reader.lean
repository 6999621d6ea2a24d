/-
Reading JSON text, one character at a time.

The reader is a machine: a stack of the arrays and objects that are open, and
a mode that says what the next character may be. `Reader.step` takes one
character, `Json.scan?` runs it over a text and asks at the end for exactly one
finished value. Nothing is recovered from: the first character that fits
nowhere refuses the text.

At most 127 arrays and objects may be open at once. Numbers without a point or
an exponent are integers while they fit into 64 bits. All others are doubles:
the digits, as many as fit into an unsigned 64-bit number, are rounded to a
double and then multiplied or divided by a power of ten, rounding again; a
result past the largest double refuses the text.
-/
import SqlAdapter.Json.Basic
import SqlAdapter.Binary.Text

namespace SqlAdapter

namespace Json

/-! ## Numbers -/

/-- The digits that still fit into an unsigned 64-bit number, their value, and the digits left over. -/
def takeDigits (value : Nat) : List Char → Nat × List Char
  | [] => (value, [])
  | c :: cs =>
    let next := value * 10 + (c.toNat - '0'.toNat)
    if next < 2 ^ 64 then takeDigits next cs else (value, c :: cs)

/-- A power of ten as a double. -/
def powerOfTen (n : Nat) : Binary64 := Binary.ofNat (10 ^ n)

/-- `significand * 10 ^ exponent` by one multiplication or by divisions; none past the largest double.
Exponents below -308 are taken off in steps of 308, at most `fuel` of them. -/
def scaled? : (fuel : Nat) → (significand : Binary64) → (exponent : Int) → Option Binary64
  | 0, _, _ => some (Binary.zero false)
  | fuel + 1, x, e =>
    if e.natAbs ≤ 308 then
      if 0 ≤ e then
        let y := x.mul (powerOfTen e.natAbs)
        if y.isInfinite then none else some y
      else some (x.div (powerOfTen e.natAbs))
    else if x.isZero then some x
    else if 0 ≤ e then none
    else scaled? fuel (x.div (powerOfTen 308)) (e + 308)

/-- A double from its whole digits, fraction digits and exponent. -/
def floatOf? (negative : Bool) (whole fraction : List Char) (exponent : Int) : Option Number :=
  let (value, wholeLeft) := takeDigits 0 whole
  let (value, fractionLeft) := takeDigits value fraction
  let shift : Int := wholeLeft.length - (fraction.length - fractionLeft.length : Nat)
  -- Past 31 bits an exponent says zero or out of range by its sign alone
  if exponent.natAbs ≥ 2 ^ 31 then
    if value = 0 ∨ exponent < 0 then
      if h : (Binary.zero negative : Binary64).isFinite = true then some (.float _ h) else none
    else none
  else
    (scaled? 8 (Binary.ofNat value) (shift + exponent)).bind fun x =>
      let signed : Binary64 := { x with negative := negative }
      if h : signed.isFinite = true then some (.float signed h) else none

/-- Reads a whole number token. -/
def Number.read? (token : List Char) : Option Number :=
  let (negative, body) := match token with
    | '-' :: cs => (true, cs)
    | cs => (false, cs)
  let whole := body.takeWhile isDigit
  let rest := body.dropWhile isDigit
  if whole = [] ∨ (whole.head? = some '0' ∧ whole.length ≠ 1) then none
  else
    let asFloat (fraction : List Char) (rest : List Char) : Option Number :=
      (Binary.exponentPart? rest).bind (floatOf? negative whole fraction)
    match rest with
    | [] =>
      let value : Int := if negative then -(decimalValue whole : Int) else decimalValue whole
      if h : inIntegerRange value then
        if negative ∧ value = 0 then asFloat [] [] else some (.integer value h)
      else asFloat [] []
    | '.' :: more =>
      if more.takeWhile isDigit = [] then none
      else asFloat (more.takeWhile isDigit) (more.dropWhile isDigit)
    | rest => asFloat [] rest

/-! ## The machine -/

/-- How far an escape inside a string has been read. -/
inductive Escape where
  /-- No escape is open. -/
  | none
  /-- A backslash was read. -/
  | started
  /-- So many digits of a code unit are still to come; the value so far. -/
  | unit (left : Nat) (value : Nat)
  /-- A leading surrogate was read; a backslash must follow. -/
  | leading (surrogate : Nat)
  /-- A leading surrogate and a backslash were read; a `u` must follow. -/
  | leadingStarted (surrogate : Nat)
  /-- Digits of the trailing surrogate. -/
  | trailing (surrogate : Nat) (left : Nat) (value : Nat)

/-- An open array or object: what it holds so far, in reverse. -/
inductive Frame where
  | array (items : List Json)
  | object (fields : List (String × Json)) (key : String)

/-- What the next character may be. -/
inductive Mode where
  /-- A value. -/
  | value
  /-- A value or the bracket that closes an empty array. -/
  | firstItem
  /-- A key or the brace that closes an empty object. -/
  | firstKey
  /-- A key. -/
  | key
  /-- The colon after a key. -/
  | colon
  /-- What follows a finished value. -/
  | after (value : Json)
  /-- More of a string, read so far in reverse. -/
  | string (isKey : Bool) (chars : List Char) (escape : Escape)
  /-- More of a number, read so far in reverse. -/
  | number (chars : List Char)
  /-- More of a word that stands for a value. -/
  | word (left : List Char) (value : Json)

/-- The machine between two characters. -/
structure Reader where
  stack : List Frame
  mode : Mode

namespace Reader

/-- How many arrays and objects may be open at once. -/
def maxDepth : Nat := 127

def start : Reader := ⟨[], .value⟩

/-- The four characters that may stand between tokens. -/
def isSpace (c : Char) : Bool := c = ' ' || c = '\n' || c = '\t' || c = '\r'

/-- Opens an array or object, unless too many are open. -/
def opened (stack : List Frame) (frame : Frame) (mode : Mode) : Option Reader :=
  if stack.length < maxDepth then some ⟨frame :: stack, mode⟩ else none

/-- The first character of a value. -/
def startValue (stack : List Frame) (c : Char) : Option Reader :=
  if c = '"' then some ⟨stack, .string false [] .none⟩
  else if c = '[' then opened stack (.array []) .firstItem
  else if c = '\x7b' then opened stack (.object [] "") .firstKey
  else if c = '-' || isDigit c then some ⟨stack, .number [c]⟩
  else if c = 't' then some ⟨stack, .word ['r', 'u', 'e'] (.bool true)⟩
  else if c = 'f' then some ⟨stack, .word ['a', 'l', 's', 'e'] (.bool false)⟩
  else if c = 'n' then some ⟨stack, .word ['u', 'l', 'l'] .null⟩
  else none

/-- The character after a finished value, within the innermost open frame. -/
def afterValue (stack : List Frame) (value : Json) (c : Char) : Option Reader :=
  if isSpace c then some ⟨stack, .after value⟩
  else match stack with
    | .array items :: stack =>
      if c = ',' then some ⟨.array (value :: items) :: stack, .value⟩
      else if c = ']' then some ⟨stack, .after (.array (value :: items).reverse)⟩
      else none
    | .object fields key :: stack =>
      if c = ',' then some ⟨.object ((key, value) :: fields) "" :: stack, .key⟩
      else if c = '\x7d' then some ⟨stack, .after (.object ((key, value) :: fields).reverse)⟩
      else none
    | [] => none

/-- A finished string: a value, or the key of the innermost object. -/
def endString (stack : List Frame) (isKey : Bool) (chars : List Char) : Option Reader :=
  let text := String.ofList chars.reverse
  if isKey then match stack with
    | .object fields _ :: stack => some ⟨.object fields text :: stack, .colon⟩
    | _ => none
  else some ⟨stack, .after (.string text)⟩

/-- The character that a one-letter escape stands for. -/
def escaped? (c : Char) : Option Char :=
  if c = '"' || c = '\\' || c = '/' then some c
  else if c = 'b' then some '\x08'
  else if c = 'f' then some '\x0c'
  else if c = 'n' then some '\n'
  else if c = 'r' then some '\r'
  else if c = 't' then some '\t'
  else none

/-- A character inside a string. -/
def inString (stack : List Frame) (isKey : Bool) (chars : List Char) (escape : Escape) (c : Char) :
    Option Reader :=
  let go (chars : List Char) (escape : Escape) : Option Reader := some ⟨stack, .string isKey chars escape⟩
  match escape with
  | .none =>
    if c = '"' then endString stack isKey chars
    else if c = '\\' then go chars .started
    else if c.toNat < 32 then none
    else go (c :: chars) .none
  | .started =>
    if c = 'u' then go chars (.unit 4 0)
    else (escaped? c).bind fun e => go (e :: chars) .none
  | .unit left value =>
    (hexValue? c).bind fun digit =>
      let value := value * 16 + digit
      if left > 1 then go chars (.unit (left - 1) value)
      else if 0xD800 ≤ value ∧ value < 0xDC00 then go chars (.leading value)
      else if 0xDC00 ≤ value ∧ value < 0xE000 then none
      else go (Char.ofNat value :: chars) .none
  | .leading surrogate => if c = '\\' then go chars (.leadingStarted surrogate) else none
  | .leadingStarted surrogate => if c = 'u' then go chars (.trailing surrogate 4 0) else none
  | .trailing surrogate left value =>
    (hexValue? c).bind fun digit =>
      let value := value * 16 + digit
      if left > 1 then go chars (.trailing surrogate (left - 1) value)
      else if 0xDC00 ≤ value ∧ value < 0xE000 then
        go (Char.ofNat (0x10000 + (surrogate - 0xD800) * 0x400 + (value - 0xDC00)) :: chars) .none
      else none

/-- May this character stand in a number? -/
def isNumeric (c : Char) : Bool :=
  isDigit c || c = '-' || c = '+' || c = '.' || c = 'e' || c = 'E'

/-- One character. -/
def step (r : Reader) (c : Char) : Option Reader :=
  match r.mode with
  | .value => if isSpace c then some r else startValue r.stack c
  | .firstItem =>
    if isSpace c then some r
    else if c = ']' then match r.stack with
      | _ :: stack => some ⟨stack, .after (.array [])⟩
      | [] => none
    else startValue r.stack c
  | .firstKey =>
    if isSpace c then some r
    else if c = '\x7d' then match r.stack with
      | _ :: stack => some ⟨stack, .after (.object [])⟩
      | [] => none
    else if c = '"' then some ⟨r.stack, .string true [] .none⟩
    else none
  | .key =>
    if isSpace c then some r
    else if c = '"' then some ⟨r.stack, .string true [] .none⟩
    else none
  | .colon =>
    if isSpace c then some r else if c = ':' then some ⟨r.stack, .value⟩ else none
  | .after value => afterValue r.stack value c
  | .string isKey chars escape => inString r.stack isKey chars escape c
  | .number chars =>
    if isNumeric c then some ⟨r.stack, .number (c :: chars)⟩
    else (Number.read? chars.reverse).bind fun n => afterValue r.stack (.number n) c
  | .word left value => match left with
    | [] => none
    | l :: left =>
      if l = c then some ⟨r.stack, if left = [] then .after value else .word left value⟩ else none

/-- The value that a machine has read when the text ends. -/
def finish? (r : Reader) : Option Json :=
  match r.stack, r.mode with
  | [], .after value => some value
  | [], .number chars => (Number.read? chars.reverse).map .number
  | _, _ => none

/-- The machine run over characters. -/
def run : Reader → List Char → Option Reader
  | r, [] => some r
  | r, c :: cs => (r.step c).bind fun r => run r cs

end Reader

/-- Reads a text as one value, repeated keys kept as they stand. -/
def scan? (text : String) : Option Json := (Reader.start.run text.toList).bind Reader.finish?

/-- Reads a text as one value. A repeated key keeps its first place and takes the last value. -/
def read? (text : String) : Option Json := (scan? text).map distinct

end Json

end SqlAdapter
