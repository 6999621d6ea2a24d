/-
Compatibility normalization: every character is replaced by its compatibility
decomposition, combining marks are put into the order of their classes, and
pairs are composed again. Texts that look alike, such as full-width and plain
letters, come out the same.

ASCII text is a fixed point, and the definitions answer for ASCII characters
without looking at a table.
-/
import SqlAdapter.Text.Decomposition.Single
import SqlAdapter.Text.Decomposition.Several
import SqlAdapter.Text.Composition
import SqlAdapter.Text.CombiningClass

namespace SqlAdapter.Text

/-- The entry for `n` in blocks that are headed by their last key. -/
def inBlocks {α : Type} (blocks : List (Nat × List α)) (holds : α → Bool) (n : Nat) : Option α :=
  (blocks.find? fun (last, _) => n ≤ last).bind fun (_, block) => block.find? holds

/-! ## Hangul syllables -/

def hangulBase : Nat := 0xAC00
def leadBase : Nat := 0x1100
def vowelBase : Nat := 0x1161
def tailBase : Nat := 0x11A7
def leads : Nat := 19
def vowels : Nat := 21
def tails : Nat := 28

/-- The two or three letters of a Hangul syllable. -/
def hangulLetters (n : Nat) : List Nat :=
  let i := n - hangulBase
  let letters := [leadBase + i / (vowels * tails), vowelBase + i % (vowels * tails) / tails]
  if i % tails = 0 then letters else letters ++ [tailBase + i % tails]

/-- The Hangul syllable of two neighbours, if they form one. -/
def hangulSyllable? (a b : Nat) : Option Nat :=
  if leadBase ≤ a ∧ a < leadBase + leads ∧ vowelBase ≤ b ∧ b < vowelBase + vowels then
    some (hangulBase + ((a - leadBase) * vowels + (b - vowelBase)) * tails)
  else if hangulBase ≤ a ∧ a < hangulBase + leads * vowels * tails ∧ (a - hangulBase) % tails = 0 ∧
      tailBase < b ∧ b < tailBase + tails then
    some (a + (b - tailBase))
  else none

/-! ## Decomposition, order, composition -/

/-- The full compatibility decomposition of a character. -/
def decomposeChar (c : Char) : List Char :=
  let n := c.toNat
  if n < 0xA0 then [c]
  else if hangulBase ≤ n ∧ n < hangulBase + leads * vowels * tails then
    (hangulLetters n).map Char.ofNat
  else
    match inBlocks singleDecompositions (fun (first, count, _) => first ≤ n && n < first + count) n with
    | some (first, _, target) => [Char.ofNat (target + (n - first))]
    | none =>
      match inBlocks severalDecompositions (fun (key, _) => key = n) n with
      | some (_, targets) => targets.map Char.ofNat
      | none => [c]

/-- The canonical combining class; zero for characters that do not combine. -/
def combiningClass (c : Char) : Nat :=
  let n := c.toNat
  if n < 0x300 then 0
  else match inBlocks combiningClasses (fun (first, last, _) => first ≤ n && n ≤ last) n with
    | some (_, _, k) => k
    | none => 0

/-- Puts a mark behind the marks of its own or a lower class that end a reversed text. -/
def insertMark (mark : Char) (k : Nat) : List Char → List Char
  | [] => [mark]
  | c :: cs => if k < combiningClass c then c :: insertMark mark k cs else mark :: c :: cs

/-- The text in canonical order, reversed. -/
def orderOnto : List Char → List Char → List Char
  | done, [] => done
  | done, c :: cs =>
    let k := combiningClass c
    orderOnto (if k = 0 then c :: done else insertMark c k done) cs

/-- The character that stands for two neighbours, if there is one. -/
def compose? (a b : Char) : Option Char :=
  if b.toNat < 0x300 then none
  else
    match hangulSyllable? a.toNat b.toNat with
    | some n => some (Char.ofNat n)
    | none =>
      (inBlocks compositions (fun (second, first, _) => second = b.toNat && first = a.toNat) b.toNat).map
        fun (_, _, whole) => Char.ofNat whole

/-- Composes what follows a starter. `marks` are the characters since the starter that stay,
in reverse, and `last` is the class of the last of them; a starter meets only what nothing blocks. -/
def composeFrom (starter : Char) (marks : List Char) (last : Nat) : List Char → List Char
  | [] => starter :: marks.reverse
  | c :: cs =>
    let k := combiningClass c
    let blocked := marks ≠ [] && k ≤ last
    match if blocked then none else compose? starter c with
    | some whole => composeFrom whole marks last cs
    | none =>
      if k = 0 then starter :: (marks.reverse ++ composeFrom c [] 0 cs)
      else composeFrom starter (c :: marks) k cs

/-- Composes a text that is decomposed and in canonical order. -/
def composeChars : List Char → List Char
  | [] => []
  | c :: cs => if combiningClass c = 0 then composeFrom c [] 0 cs else c :: composeChars cs

/-- The compatibility normal form. -/
def normalizeChars (cs : List Char) : List Char :=
  composeChars (orderOnto [] (cs.flatMap decomposeChar)).reverse

/-- The compatibility normal form. -/
def normalize (text : String) : String := String.ofList (normalizeChars text.toList)

end SqlAdapter.Text
