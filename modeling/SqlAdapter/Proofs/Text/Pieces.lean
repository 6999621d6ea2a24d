/-
Texts taken apart: the white space around a text, the pieces between separators,
and the words between blanks.

Each of the three functions gives back exactly what makes up the text in one way
(`trimChars_eq_iff`, `splitAt_eq_iff`, `words_eq_iff`), so what a caller wrote can
be stated without them.
-/
import Mathlib.Data.List.TakeWhile
import SqlAdapter.Text.Blank

namespace SqlAdapter.Text

/-! ## White space around a text -/

/-- A text with white space around another one. -/
def Around (cs core : List Char) : Prop := ∃ before after, cs = before ++ core ++ after ∧
  (∀ c ∈ before, isBlank c = true) ∧ ∀ c ∈ after, isBlank c = true

theorem trimStart_append {before : List Char} (h : ∀ c ∈ before, isBlank c = true) (cs : List Char) :
    trimStart (before ++ cs) = trimStart cs := List.dropWhile_append_of_pos h

theorem trimStart_of_head {cs : List Char} (h : ∀ c ∈ cs.head?, isBlank c = false) : trimStart cs = cs := by
  cases cs with
  | nil => rfl
  | cons c cs =>
    have hc : ¬ isBlank c = true := by simpa using h c rfl
    exact List.dropWhile_cons_of_neg hc

/-- What is cut off in front is white space. -/
theorem exists_trimStart (cs : List Char) :
    ∃ before, cs = before ++ trimStart cs ∧ ∀ c ∈ before, isBlank c = true :=
  ⟨cs.takeWhile isBlank, List.takeWhile_append_dropWhile.symm, fun _ => List.mem_takeWhile_imp⟩

theorem head_trimStart (cs : List Char) : ∀ c ∈ (trimStart cs).head?, isBlank c = false := by
  intro c hc
  have hhead := List.head?_dropWhile_not isBlank cs
  rw [← trimStart, Option.mem_def.mp hc] at hhead
  exact hhead

theorem around_trimChars (cs : List Char) : Around cs (trimChars cs) := by
  obtain ⟨before, hcs, hbefore⟩ := exists_trimStart cs
  obtain ⟨after, hback, hafter⟩ := exists_trimStart (trimStart cs).reverse
  refine ⟨before, after.reverse, ?_, hbefore, fun c hc => hafter c (List.mem_reverse.mp hc)⟩
  have hfront : trimStart cs = trimChars cs ++ after.reverse := by
    calc trimStart cs = (trimStart cs).reverse.reverse := (List.reverse_reverse _).symm
      _ = (after ++ trimStart (trimStart cs).reverse).reverse := congrArg List.reverse hback
      _ = trimChars cs ++ after.reverse := List.reverse_append
  rw [List.append_assoc, ← hfront]
  exact hcs

/-- Cutting off white space leaves what begins and ends with something else. -/
theorem trimChars_eq_iff {cs core : List Char} (hfirst : ∀ c ∈ core.head?, isBlank c = false)
    (hlast : ∀ c ∈ core.getLast?, isBlank c = false) : trimChars cs = core ↔ Around cs core := by
  constructor
  · intro h
    rw [← h]
    exact around_trimChars cs
  · rintro ⟨before, after, rfl, hbefore, hafter⟩
    have hback : ∀ c ∈ after.reverse, isBlank c = true := fun c hc => hafter c (List.mem_reverse.mp hc)
    have hend : trimStart core.reverse = core.reverse := by
      refine trimStart_of_head fun c hc => hlast c ?_
      rwa [List.head?_reverse] at hc
    cases core with
    | nil =>
      have hnone : trimStart (before ++ [] ++ after) = [] := by
        rw [List.append_nil, trimStart_append hbefore, ← List.append_nil after, trimStart_append hafter]
        rfl
      rw [trimChars, hnone]
      rfl
    | cons c core =>
      have hfront : trimStart (before ++ (c :: core) ++ after) = (c :: core) ++ after := by
        rw [List.append_assoc, trimStart_append hbefore]
        exact trimStart_of_head hfirst
      rw [trimChars, hfront, List.reverse_append, trimStart_append hback, hend, List.reverse_reverse]

/-! ## Pieces between separators -/

theorem splitAt_eq_splitOn (separator : Char) (cs : List Char) : splitAt separator cs = cs.splitOn separator := by
  induction cs with
  | nil => rfl
  | cons c cs ih =>
    rw [splitAt, List.splitOn_cons_eq_if_modifyHead, ← ih]
    by_cases hc : c = separator
    · rw [if_pos hc, if_pos (beq_iff_eq.mpr hc)]
    · rw [if_neg hc, if_neg (mt beq_iff_eq.mp hc)]
      cases hsplit : splitAt separator cs with
      | nil => exact absurd (ih.symm.trans hsplit) (List.splitOn_ne_nil _ _)
      | cons piece pieces => rfl

/-- A text made of pieces with a separator between each two, which stands in none of them. -/
structure Separated (separator : Char) (cs : List Char) (pieces : List (List Char)) : Prop where
  ne_nil : pieces ≠ []
  apart : ∀ piece ∈ pieces, separator ∉ piece
  whole : [separator].intercalate pieces = cs

theorem splitAt_of_separated {separator : Char} {cs : List Char} {pieces : List (List Char)}
    (h : Separated separator cs pieces) : splitAt separator cs = pieces := by
  rw [splitAt_eq_splitOn, ← h.whole]
  exact List.splitOn_intercalate separator h.apart h.ne_nil

theorem notMem_splitAt {separator : Char} {cs : List Char} : ∀ piece ∈ splitAt separator cs, separator ∉ piece := by
  induction cs with
  | nil => simp [splitAt]
  | cons c cs ih =>
    rw [splitAt]
    split
    · exact List.forall_mem_cons.mpr ⟨List.not_mem_nil, ih⟩
    · next hc =>
      have hne : ¬ separator = c := fun h => hc h.symm
      cases hsplit : splitAt separator cs with
      | nil => simp [hne]
      | cons piece pieces =>
        rw [hsplit, List.forall_mem_cons] at ih
        exact List.forall_mem_cons.mpr ⟨by simp [hne, ih.1], ih.2⟩

/-- Splitting a text gives the pieces between the places of the separator. -/
theorem splitAt_eq_iff {separator : Char} {cs : List Char} {pieces : List (List Char)} :
    splitAt separator cs = pieces ↔ Separated separator cs pieces := by
  refine ⟨?_, splitAt_of_separated⟩
  rintro rfl
  refine ⟨?_, notMem_splitAt, ?_⟩
  · rw [splitAt_eq_splitOn]
    exact List.splitOn_ne_nil _ _
  · rw [splitAt_eq_splitOn]
    exact List.intercalate_splitOn separator

theorem splitAt_singleton_iff {separator : Char} {cs : List Char} :
    splitAt separator cs = [cs] ↔ separator ∉ cs := by
  rw [splitAt_eq_iff]
  refine ⟨fun h => h.apart cs (List.mem_singleton_self cs), fun h => ⟨by simp, by simpa using h, ?_⟩⟩
  exact List.intercalate_singleton

theorem infix_intercalate {separator piece : List Char} : ∀ {pieces : List (List Char)}, piece ∈ pieces →
    piece <:+: separator.intercalate pieces
  | [_], h => by
    obtain rfl := List.mem_singleton.mp h
    exact ⟨[], [], by simp⟩
  | first :: next :: rest, h => by
    rw [List.intercalate_cons_cons]
    rcases List.mem_cons.mp h with rfl | hrest
    · exact ⟨[], separator ++ separator.intercalate (next :: rest), by simp⟩
    · exact (infix_intercalate hrest).trans (List.suffix_append _ _).isInfix

/-- A piece stands in the text. -/
theorem infix_of_mem_splitAt {separator : Char} {cs piece : List Char} (h : piece ∈ splitAt separator cs) :
    piece <:+: cs :=
  (splitAt_eq_iff.mp (Eq.refl (splitAt separator cs))).whole ▸ infix_intercalate h

/-! ## Words between blanks -/

/-- A text made of words with blanks around them, at least one between each two. -/
inductive Spaced : List Char → List (List Char) → Prop where
  | blank {cs : List Char} (h : ∀ c ∈ cs, isBlank c = true) : Spaced cs []
  | word {before word rest : List Char} {words : List (List Char)} (hbefore : ∀ c ∈ before, isBlank c = true)
      (hne : word ≠ []) (hword : ∀ c ∈ word, isBlank c = false) (hend : ∀ c ∈ rest.head?, isBlank c = true)
      (h : Spaced rest words) : Spaced (before ++ word ++ rest) (word :: words)

theorem wordsFrom_blank {before : List Char} (h : ∀ c ∈ before, isBlank c = true) (cs : List Char) :
    wordsFrom [] (before ++ cs) = wordsFrom [] cs := by
  induction before with
  | nil => rfl
  | cons b before ih =>
    obtain ⟨hb, hbefore⟩ := List.forall_mem_cons.mp h
    rw [List.cons_append, wordsFrom, if_pos hb, if_pos rfl]
    exact ih hbefore

theorem wordsFrom_word {word : List Char} (h : ∀ c ∈ word, isBlank c = false) (begun cs : List Char) :
    wordsFrom begun (word ++ cs) = wordsFrom (word.reverse ++ begun) cs := by
  induction word generalizing begun with
  | nil => rfl
  | cons c word ih =>
    obtain ⟨hc, hword⟩ := List.forall_mem_cons.mp h
    have hread : ¬ isBlank c = true := by simp [hc]
    rw [List.cons_append, wordsFrom, if_neg hread, ih hword, List.reverse_cons, List.append_assoc]
    rfl

/-- A word that was begun ends where the text does, or at the next blank. -/
theorem wordsFrom_ends {begun cs : List Char} (hne : begun ≠ []) (h : ∀ c ∈ cs.head?, isBlank c = true) :
    wordsFrom begun cs = begun.reverse :: wordsFrom [] cs := by
  cases cs with
  | nil => simp [wordsFrom, hne]
  | cons c cs => simp [wordsFrom, hne, h c rfl]

theorem words_of_spaced {cs : List Char} {ws : List (List Char)} (h : Spaced cs ws) : words cs = ws := by
  induction h with
  | @blank cs h =>
    have hblank := wordsFrom_blank h []
    rw [List.append_nil] at hblank
    exact hblank
  | @word before word rest ws hbefore hne hword hend h ih =>
    have hbegun : word.reverse ++ [] ≠ [] := by simpa using hne
    rw [words, List.append_assoc, wordsFrom_blank hbefore, wordsFrom_word hword, wordsFrom_ends hbegun hend,
      List.append_nil, List.reverse_reverse]
    exact congrArg (word :: ·) ih

/-- Every text is made of words, by induction on its length: each word takes some of it. -/
theorem exists_spaced (cs : List Char) : ∃ ws, Spaced cs ws := by
  induction hlength : cs.length using Nat.strongRecOn generalizing cs with
  | _ n ih =>
    obtain ⟨before, hcs, hbefore⟩ := exists_trimStart cs
    cases hrest : trimStart cs with
    | nil =>
      rw [hrest, List.append_nil] at hcs
      exact ⟨[], .blank (hcs ▸ hbefore)⟩
    | cons c rest =>
      have hc : isBlank c = false := head_trimStart cs c (by rw [hrest]; rfl)
      have htake : (c :: rest).takeWhile (!isBlank ·) = c :: rest.takeWhile (!isBlank ·) := by simp [hc]
      have hwhole := List.takeWhile_append_dropWhile (p := (!isBlank ·)) (l := c :: rest)
      have hshort : ((c :: rest).dropWhile (!isBlank ·)).length < n := by
        have hparts := congrArg List.length hwhole
        have hall := congrArg List.length hcs
        rw [htake] at hparts
        simp only [List.length_append, List.length_cons, hrest] at hparts hall
        omega
      obtain ⟨ws, hws⟩ := ih _ hshort _ rfl
      refine ⟨(c :: rest).takeWhile (!isBlank ·) :: ws, ?_⟩
      rw [hcs, hrest, ← hwhole, ← List.append_assoc, hwhole]
      refine .word hbefore ?_ ?_ ?_ hws
      · rw [htake]
        exact List.cons_ne_nil _ _
      · intro d hd
        simpa using List.mem_takeWhile_imp hd
      · intro d hd
        have hhead := List.head?_dropWhile_not (!isBlank ·) (c :: rest)
        rw [Option.mem_def.mp hd] at hhead
        simpa using hhead

/-- The words of a text are what it is made of, blanks aside. -/
theorem words_eq_iff {cs : List Char} {ws : List (List Char)} : words cs = ws ↔ Spaced cs ws := by
  refine ⟨?_, words_of_spaced⟩
  rintro rfl
  obtain ⟨ws, hws⟩ := exists_spaced cs
  exact words_of_spaced hws ▸ hws

end SqlAdapter.Text
