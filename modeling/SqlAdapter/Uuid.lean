/-
Universally unique identifiers: 128-bit numbers, written as 32 hexadecimal
digits in five groups. They are read with or without the hyphens; the form with
hyphens may stand in braces or follow `urn:uuid:`.
-/
import SqlAdapter.Text.Digits

namespace SqlAdapter

structure Uuid where
  number : Fin (2 ^ 128)
  deriving DecidableEq

namespace Uuid

/-- Lower-case hexadecimal digits in groups of 8, 4, 4, 4 and 12. -/
def chars (u : Uuid) : List Char :=
  let d := hexChars 32 u.number
  d.take 8 ++ '-' :: (d.drop 8).take 4 ++ '-' :: (d.drop 12).take 4 ++ '-' :: (d.drop 16).take 4 ++
    '-' :: d.drop 20

def text (u : Uuid) : String := String.ofList u.chars

/-- Thirty-two hexadecimal digits. -/
def ofDigits? (digits : List Char) : Option Uuid :=
  if digits.length = 32 then
    (hexNumber? digits).bind fun n => if h : n < 2 ^ 128 then some ⟨⟨n, h⟩⟩ else none
  else none

/-- The groups with hyphens in their four places. -/
def ofGroups? (cs : List Char) : Option Uuid :=
  if cs.length = 36 ∧ cs[8]? = some '-' ∧ cs[13]? = some '-' ∧ cs[18]? = some '-' ∧ cs[23]? = some '-' then
    ofDigits? (cs.take 8 ++ (cs.drop 9).take 4 ++ (cs.drop 14).take 4 ++ (cs.drop 19).take 4 ++ cs.drop 24)
  else none

/-- What stands in front of the groups in the form for names of resources. -/
def resourceMark : List Char := ['u', 'r', 'n', ':', 'u', 'u', 'i', 'd', ':']

/-- Reads any of the four forms, in either letter case. -/
def read? (cs : List Char) : Option Uuid :=
  if cs.length = 32 then ofDigits? cs
  else if cs.length = 36 then ofGroups? cs
  else if cs.length = 38 ∧ cs.head? = some '\x7b' ∧ cs.getLast? = some '\x7d' then
    ofGroups? (cs.drop 1).dropLast
  else if cs.length = 45 ∧ (cs.take 9).map asciiLower = resourceMark then ofGroups? (cs.drop 9)
  else none

end Uuid

end SqlAdapter
