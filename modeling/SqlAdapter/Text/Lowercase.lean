/-
Lower-casing by the Unicode rules that hold in every language: each character
by its own mapping, dotted capital I to two characters, and capital sigma to
its final form at the end of a word.

A sigma is final when a cased letter stands before it and none after it,
passing over characters such as apostrophes and combining marks.
-/
import SqlAdapter.Text.CaseTables

namespace SqlAdapter.Text

/-- Does one of the ranges hold the character? -/
def inRanges (ranges : List (Nat × Nat)) (c : Char) : Bool :=
  ranges.any fun (first, last) => first ≤ c.toNat && c.toNat ≤ last

/-- The lower case of a character that has one of one character; the others unchanged. -/
def lowerChar (c : Char) : Char :=
  let n := c.toNat
  if n < 0x80 then if 'A' ≤ c ∧ c ≤ 'Z' then Char.ofNat (n + 32) else c
  else
    match lowerRuns.find? fun (first, last, step, _) => first ≤ n && n ≤ last && (n - first) % step = 0 with
    | some (first, _, _, lower) => Char.ofNat (lower + (n - first))
    | none => c

/-- Is the nearest character that counts a cased letter? -/
def meetsCased (cs : List Char) : Bool :=
  match cs.dropWhile (inRanges ignorableRanges) with
  | c :: _ => inRanges casedRanges c
  | [] => false

/-- Lower-cases what follows, given all that stands before it in reverse. -/
def lowerFrom (before : List Char) : List Char → List Char
  | [] => []
  | c :: cs =>
    let lower :=
      if c.toNat = 0x3A3 then
        [if meetsCased before && !meetsCased cs then Char.ofNat 0x3C2 else Char.ofNat 0x3C3]
      else if c.toNat = 0x130 then ['i', Char.ofNat 0x307]
      else [lowerChar c]
    lower ++ lowerFrom (c :: before) cs

/-- The text in lower case. -/
def lowercase (text : String) : String := String.ofList (lowerFrom [] text.toList)

end SqlAdapter.Text
