/-
Whole numbers in decimal, as characters. `decimalChars` writes and
`decimalValue` reads; the two are the only places where the library turns
numbers into digits or back.
-/
import SqlAdapter.Power

namespace SqlAdapter

/-- Is this an ASCII digit? -/
def isDigit (c : Char) : Bool := '0' ≤ c && c ≤ '9'

/-- Is this an ASCII letter? -/
def isLetter (c : Char) : Bool := ('a' ≤ c && c ≤ 'z') || ('A' ≤ c && c ≤ 'Z')

/-- ASCII letters to lower case, all else unchanged. -/
def asciiLower (c : Char) : Char := if 'A' ≤ c ∧ c ≤ 'Z' then Char.ofNat (c.toNat + 32) else c

/-- Equal up to the case of ASCII letters. -/
def sameIgnoringCase (s t : String) : Bool := s.toList.map asciiLower == t.toList.map asciiLower

/-- The ASCII digit for a number below ten. -/
def digitChar (n : Nat) : Char := Char.ofNat ('0'.toNat + n % 10)

/-- The decimal digits of `n`, most significant first, put in front of `rest`. -/
def decimalOnto (n : Nat) (rest : List Char) : List Char :=
  if n < 10 then digitChar n :: rest else decimalOnto (n / 10) (digitChar n :: rest)
  termination_by n

/-- The decimal digits of `n`. -/
def decimalChars (n : Nat) : List Char := decimalOnto n []

/-- The number that a list of digits denotes, read onto `n`. -/
def decimalValueFrom (n : Nat) : List Char → Nat
  | [] => n
  | c :: cs => decimalValueFrom (n * 10 + (c.toNat - '0'.toNat)) cs

/-- The number that a list of digits denotes. -/
def decimalValue (cs : List Char) : Nat := decimalValueFrom 0 cs

/-- A whole number in decimal, a minus sign in front of the negative ones. -/
def integerChars (i : Int) : List Char :=
  if i < 0 then '-' :: decimalChars i.natAbs else decimalChars i.natAbs

/-- A natural number in decimal. -/
def naturalText (n : Nat) : String := String.ofList (decimalChars n)

/-- A whole number in decimal. -/
def integerText (i : Int) : String := String.ofList (integerChars i)

/-- Reads a whole number: an optional sign, then digits and nothing else. -/
def integer? : List Char → Option Int
  | '-' :: cs => if cs = [] ∨ !cs.all isDigit then none else some (-(decimalValue cs : Int))
  | '+' :: cs => if cs = [] ∨ !cs.all isDigit then none else some (decimalValue cs)
  | cs => if cs = [] ∨ !cs.all isDigit then none else some (decimalValue cs)

/-- The lower-case hexadecimal digit for a number below sixteen. -/
def hexChar (n : Nat) : Char :=
  if n % 16 < 10 then Char.ofNat ('0'.toNat + n % 16) else Char.ofNat ('a'.toNat + (n % 16 - 10))

/-- The value of a hexadecimal digit in either case. -/
def hexValue? (c : Char) : Option Nat :=
  if '0' ≤ c ∧ c ≤ '9' then some (c.toNat - '0'.toNat)
  else if 'a' ≤ c ∧ c ≤ 'f' then some (c.toNat - 'a'.toNat + 10)
  else if 'A' ≤ c ∧ c ≤ 'F' then some (c.toNat - 'A'.toNat + 10)
  else none

/-- The number that a list of hexadecimal digits denotes, if they all are. -/
def hexNumber? (cs : List Char) : Option Nat :=
  cs.foldlM (fun n c => (hexValue? c).map (n * 16 + ·)) 0

/-- The lowest `count` hexadecimal digits of `n`, most significant first. -/
def hexChars : (count : Nat) → (n : Nat) → List Char
  | 0, _ => []
  | count + 1, n => hexChars count (n / 16) ++ [hexChar n]

end SqlAdapter
