/-
Quotes as tokens, and the numbering of a fragment in these terms.

A text is cut into `Span`s: characters outside of quotes, and quoted literals and
names with what stands in them. A quoted span goes on to the first quote of its
kind that is not doubled, or to the end of the text. Every text is cut in exactly
one way (`exists_spans`, `Spans.unique`).

Both readers of placeholders only toggle at quotes. `Spans.weave_pieces` says that one
of them replaces the marks outside of quotes and nothing else, `Spans.merged` that
the other one finds in the result the numbers that were put there and those that
the text had before, each in their order. The second needs that no mark runs into
a digit: `?0` numbered is the placeholder ten.
-/
import SqlAdapter.Proofs.Sql.Scanning

namespace SqlAdapter

open Identifier (doubled enclosed)
open Placeholder

/-- A stretch of SQL text. -/
inductive Span where
  /-- A character outside of quotes. -/
  | char (c : Char)
  /-- A literal or a name, by what stands in its quotes. Without the closing one it ends with the text. -/
  | quoted (quote : Char) (inside : List Char) (closed : Bool)
  deriving DecidableEq

namespace Span

/-- The text of a span; in quotes a quote of their kind is written twice. -/
def text : Span → List Char
  | char c => [c]
  | quoted quote inside true => enclosed quote inside
  | quoted quote inside false => quote :: doubled quote inside

/-- How many question marks stand outside of quotes. -/
def markCount (spans : List Span) : Nat := spans.count (.char '?')

/-- The text of spans, with numbers from `next` on for the question marks outside of quotes. -/
def numberedFrom (next : Nat) : List Span → List Char
  | [] => []
  | span :: spans =>
    if span = .char '?' then numbered next ++ numberedFrom (next + 1) spans else span.text ++ numberedFrom next spans

/-- What follows the inside of quotes: the end of the text, or the closing quote and more text. -/
def closing (quote : Char) : Option (List Char) → List Char
  | none => []
  | some cs => quote :: cs

/-- The closing quote is not doubled. -/
def Closes (quote : Char) (rest : Option (List Char)) : Prop := ∀ cs ∈ rest, cs.head? ≠ some quote

theorem closes_none (quote : Char) : Closes quote none := fun cs hcs => absurd hcs (Option.not_mem_none cs)

/-- No question mark outside of quotes runs into a digit. -/
def Apart (spans : List Span) : Prop := ∀ c, isDigit c = true → ¬ [.char '?', .char c] <:+: spans

namespace Apart

theorem of_cons {span : Span} {spans : List Span} (h : Apart (span :: spans)) : Apart spans :=
  fun c hc hwithin => h c hc (hwithin.trans (List.suffix_cons span spans).isInfix)

theorem behind {spans : List Span} (h : Apart (.char '?' :: spans)) (c : Char) (hc : spans.head? = some (.char c)) :
    ¬ isDigit c = true := by
  obtain ⟨more, rfl⟩ := List.head?_eq_some_iff.mp hc
  exact fun hdigit => h c hdigit ⟨[], more, rfl⟩

end Apart

end Span

open SqlAdapter.Span

/-- A text cut into spans. -/
inductive Spans : List Char → List Span → Prop where
  | nil : Spans [] []
  | char {c : Char} {cs : List Char} {spans : List Span} (hc : ¬ IsQuote c) (h : Spans cs spans) :
      Spans (c :: cs) (.char c :: spans)
  /-- A quote behind the closing one would be a part of the inside. -/
  | closed {quote : Char} {inside cs : List Char} {spans : List Span} (hquote : IsQuote quote)
      (hend : cs.head? ≠ some quote) (h : Spans cs spans) :
      Spans (enclosed quote inside ++ cs) (.quoted quote inside true :: spans)
  | unclosed {quote : Char} {inside : List Char} (hquote : IsQuote quote) :
      Spans (quote :: doubled quote inside) [.quoted quote inside false]

/-! ## Every text is cut in exactly one way -/

/-- Behind an opening quote a text goes on to the first quote that is not doubled, or to its end. -/
theorem exists_closing (quote : Char) : ∀ cs : List Char,
    ∃ inside rest, cs = doubled quote inside ++ closing quote rest ∧ Closes quote rest
  | [] => ⟨[], none, rfl, closes_none quote⟩
  | [c] => by
    by_cases hc : c = quote
    · subst hc
      exact ⟨[], some [], rfl, by simp [Closes]⟩
    · exact ⟨[c], none, by simp [doubled, closing, hc], closes_none quote⟩
  | c :: d :: cs => by
    by_cases hc : c = quote
    · subst hc
      by_cases hd : d = c
      · subst hd
        obtain ⟨inside, rest, rfl, hrest⟩ := exists_closing d cs
        exact ⟨d :: inside, rest, by simp [doubled], hrest⟩
      · exact ⟨[], some (d :: cs), rfl, by simp [Closes, hd]⟩
    · obtain ⟨inside, rest, hcs, hrest⟩ := exists_closing quote (d :: cs)
      exact ⟨c :: inside, rest, by simp [doubled, hc, hcs], hrest⟩

theorem exists_spans : ∀ cs : List Char, ∃ spans, Spans cs spans
  | [] => ⟨[], .nil⟩
  | c :: cs => by
    by_cases hc : IsQuote c
    · obtain ⟨inside, rest, hcs, hrest⟩ := exists_closing c cs
      cases rest with
      | none =>
        rw [hcs, closing, List.append_nil]
        exact ⟨_, .unclosed hc⟩
      | some after =>
        have hshorter : after.length < cs.length := by
          rw [hcs, closing, List.length_append, List.length_cons]
          omega
        obtain ⟨spans, hspans⟩ := exists_spans after
        have hclosed : Spans (enclosed c inside ++ after) _ := .closed hc (hrest after rfl) hspans
        rw [enclosed, List.cons_append, List.append_assoc] at hclosed
        exact ⟨_, hcs ▸ hclosed⟩
    · obtain ⟨spans, hspans⟩ := exists_spans cs
      exact ⟨_, .char hc hspans⟩
  termination_by cs => cs.length
  decreasing_by
    · exact Nat.lt_succ_of_lt hshorter
    · exact Nat.lt_succ_self cs.length

/-- What closes the quotes is nothing that could stand in them. -/
theorem closing_ne_doubled {quote : Char} {rest : Option (List Char)} (h : Closes quote rest) (y : Char)
    (ys cs : List Char) : closing quote rest ≠ doubled quote (y :: ys) ++ cs := by
  cases rest with
  | none => by_cases hy : y = quote <;> simp [closing, doubled, hy]
  | some after =>
    have hafter := h after rfl
    by_cases hy : y = quote
    · subst hy
      cases after with
      | nil => simp [closing, doubled]
      | cons c after =>
        have hc : c ≠ y := by simpa using hafter
        simp [closing, doubled, hc]
    · simp [closing, doubled, hy, Ne.symm hy]

/-- The inside of quotes and what follows it can be told from the text. -/
theorem doubled_closing_inj {quote : Char} {rest rest' : Option (List Char)} (h : Closes quote rest)
    (h' : Closes quote rest') : ∀ {xs ys : List Char},
      doubled quote xs ++ closing quote rest = doubled quote ys ++ closing quote rest' → xs = ys ∧ rest = rest'
  | [], [], heq => by cases rest <;> cases rest' <;> simp_all [doubled, closing]
  | [], y :: ys, heq => absurd heq (closing_ne_doubled h y ys _)
  | x :: xs, [], heq => absurd heq.symm (closing_ne_doubled h' x xs _)
  | x :: xs, y :: ys, heq => by
    have hxy : x = y ∧ doubled quote xs ++ closing quote rest = doubled quote ys ++ closing quote rest' := by
      by_cases hx : x = quote <;> by_cases hy : y = quote <;> simp_all [doubled]
    obtain ⟨rfl, rfl⟩ := doubled_closing_inj h h' hxy.2
    exact ⟨by rw [hxy.1], rfl⟩

namespace Spans

variable {cs : List Char} {spans others : List Span}

theorem eq_nil (h : Spans [] spans) : spans = [] := by
  generalize htext : [] = text at h
  cases h with
  | nil => rfl
  | char | closed | unclosed => cases htext

theorem of_char {c : Char} (hc : ¬ IsQuote c) (h : Spans (c :: cs) spans) :
    ∃ more, spans = .char c :: more ∧ Spans cs more := by
  generalize htext : c :: cs = text at h
  cases h with
  | nil => cases htext
  | char _ h =>
    cases htext
    exact ⟨_, rfl, h⟩
  | closed hquote | unclosed hquote =>
    cases htext
    exact absurd hquote hc

/-- Behind an opening quote stand the inside and what closes it, and the spans go on from there. -/
theorem of_quote {quote : Char} (hquote : IsQuote quote) (h : Spans (quote :: cs) spans) :
    ∃ inside rest, cs = doubled quote inside ++ closing quote rest ∧ Closes quote rest ∧
      match rest with
      | none => spans = [.quoted quote inside false]
      | some after => ∃ more, spans = .quoted quote inside true :: more ∧ Spans after more := by
  generalize htext : quote :: cs = text at h
  cases h with
  | nil => cases htext
  | char hc =>
    cases htext
    exact absurd hquote hc
  | @closed _ inside after more _ hend h =>
    rw [enclosed, List.cons_append, List.append_assoc] at htext
    obtain ⟨rfl, rfl⟩ := List.cons.inj htext
    exact ⟨inside, some after, rfl, by simpa [Closes] using hend, more, rfl, h⟩
  | @unclosed _ inside =>
    obtain ⟨rfl, rfl⟩ := List.cons.inj htext
    exact ⟨inside, none, (List.append_nil _).symm, closes_none quote, rfl⟩

theorem unique (h : Spans cs spans) (h' : Spans cs others) : others = spans := by
  induction h generalizing others with
  | nil => exact h'.eq_nil
  | char hc _ ih =>
    obtain ⟨more, rfl, hmore⟩ := h'.of_char hc
    rw [ih hmore]
  | @closed quote inside cs spans hquote hend _ ih =>
    rw [enclosed, List.cons_append, List.append_assoc] at h'
    obtain ⟨inside', rest, htext, hrest, hspans⟩ := h'.of_quote hquote
    have hcs : Closes quote (some cs) := by simpa [Closes] using hend
    obtain ⟨rfl, rfl⟩ := doubled_closing_inj hcs hrest htext
    obtain ⟨more, rfl, hmore⟩ := hspans
    rw [ih hmore]
  | @unclosed quote inside hquote =>
    obtain ⟨inside', rest, htext, hrest, hspans⟩ := h'.of_quote hquote
    obtain ⟨rfl, rfl⟩ := doubled_closing_inj (closes_none quote) hrest ((List.append_nil _).trans htext)
    exact hspans

end Spans

/-! ## Marks become numbers -/

namespace Placeholder

theorem weave_onto (next : Nat) (front : List Char) {pieces : List (List Char)} (h : pieces ≠ []) :
    weave next (onto front pieces) = front ++ weave next pieces := by
  match pieces with
  | [] => exact absurd rfl h
  | [piece] => rfl
  | piece :: another :: pieces => simp only [onto, weave, List.append_assoc]

theorem weave_mark (next : Nat) {pieces : List (List Char)} (h : pieces ≠ []) :
    weave next ([] :: pieces) = numbered next ++ weave (next + 1) pieces := by
  cases pieces with
  | nil => exact absurd rfl h
  | cons piece pieces => rfl

theorem length_onto (front : List Char) {pieces : List (List Char)} (h : pieces ≠ []) :
    (onto front pieces).length = pieces.length := by
  cases pieces with
  | nil => exact absurd rfl h
  | cons piece pieces => rfl

end Placeholder

namespace Spans

variable {cs : List Char} {spans : List Span}

/-- The pieces of a text are what stands between its marks. -/
theorem weave_pieces (h : Spans cs spans) (next : Nat) : weave next (piecesFrom .plain cs) = numberedFrom next spans ∧
    (piecesFrom .plain cs).length = markCount spans + 1 := by
  induction h generalizing next with
  | nil => exact ⟨rfl, rfl⟩
  | @char c cs spans hc h ih =>
    have hne := piecesFrom_ne_nil .plain cs
    by_cases hmark : c = '?'
    · subst hmark
      obtain ⟨htext, hlength⟩ := ih (next + 1)
      rw [piecesFrom_mark, weave_mark next hne, htext, List.length_cons, hlength]
      exact ⟨rfl, by simp [markCount]⟩
    · obtain ⟨htext, hlength⟩ := ih next
      rw [piecesFrom_cons fun hplain => hmark hplain.2, Quoting.after_plain hc, weave_onto next _ hne,
        length_onto _ hne, htext, hlength]
      simp [numberedFrom, markCount, hmark, text]
  | @closed quote inside cs spans hquote hend h ih =>
    obtain ⟨htext, hlength⟩ := ih next
    have hne := piecesFrom_ne_nil .plain cs
    rw [piecesFrom_passes cs (passes_enclosed hquote inside), weave_onto next _ hne, length_onto _ hne, htext, hlength]
    simp [numberedFrom, markCount, text]
  | @unclosed quote inside hquote =>
    have hpieces := piecesFrom_passes [] (passes_unclosed hquote inside)
    rw [List.append_nil] at hpieces
    rw [hpieces]
    simp [piecesFrom, onto, weave, numberedFrom, markCount, text]

theorem number_eq {sql : String} (h : Spans sql.toList spans) (first : Nat) :
    number sql first = (String.ofList (numberedFrom first spans), markCount spans) := by
  obtain ⟨htext, hlength⟩ := h.weave_pieces first
  simp only [number, pieces, htext, hlength, Nat.add_sub_cancel]

end Spans

/-! ## Numbers of the result -/

/-- A list that two others make up, each in its order. -/
inductive Merged {α : Type} : List α → List α → List α → Prop where
  | nil : Merged [] [] []
  | left (x : α) {xs ys zs : List α} (h : Merged xs ys zs) : Merged (x :: xs) ys (x :: zs)
  | right (y : α) {xs ys zs : List α} (h : Merged xs ys zs) : Merged xs (y :: ys) (y :: zs)

namespace Merged

variable {α : Type} {xs ys zs : List α}

theorem refl (ys : List α) : Merged [] ys ys := by
  induction ys with
  | nil => exact .nil
  | cons y ys ih => exact .right y ih

theorem right_append (front : List α) (h : Merged xs ys zs) : Merged xs (front ++ ys) (front ++ zs) := by
  induction front with
  | nil => exact h
  | cons y front ih => exact .right y ih

theorem eq_left (h : Merged xs [] zs) : zs = xs := by
  generalize hys : [] = ys at h
  induction h with
  | nil => rfl
  | left x _ ih => rw [ih hys]
  | right => cases hys

theorem perm (h : Merged xs ys zs) : zs.Perm (xs ++ ys) := by
  induction h with
  | nil => exact .nil
  | left x _ ih => exact ih.cons x
  | right y _ ih => exact (ih.cons y).trans List.perm_middle.symm

end Merged

namespace Placeholder

/-- What does not go on with a number closes it. -/
theorem indicesFrom_ends (pending : Open) {cs : List Char} (h : endsNumber cs = true) :
    indicesFrom .plain pending cs = closed pending ++ indicesFrom .plain none cs := by
  cases pending with
  | none => rfl
  | some digits => exact indicesFrom_closed digits h

/-- What the reader of numbers does at a character does not depend on what follows it. -/
theorem indicesFrom_char (pending : Open) {c : Char} (hc : ¬ IsQuote c) : ∃ found after, ∀ cs,
    indicesFrom .plain pending (c :: cs) = found ++ indicesFrom .plain after cs := by
  have hafter := Quoting.after_plain hc
  cases pending with
  | none =>
    by_cases hdollar : c = '$'
    · exact ⟨[], some [], fun cs => by simp [indicesFrom, hdollar]⟩
    · exact ⟨[], none, fun cs => by simp [indicesFrom, hdollar, hafter]⟩
  | some digits =>
    by_cases hdigit : isDigit c = true
    · exact ⟨[], some (c :: digits), fun cs => by simp [indicesFrom, hdigit]⟩
    · by_cases hdollar : c = '$'
      · exact ⟨closed (some digits), some [], fun cs => by simp only [indicesFrom, if_neg hdigit, if_pos hdollar]⟩
      · exact ⟨closed (some digits), none, fun cs => by simp [indicesFrom, hdollar, hdigit, hafter]⟩

end Placeholder

namespace Spans

variable {cs : List Char} {spans : List Span}

/-- What stands in front of a text with its marks numbered is a digit only if one stands in front of the text. -/
theorem endsNumber_numberedFrom (h : Spans cs spans) (next : Nat)
    (hdigit : ∀ c, spans.head? = some (.char c) → ¬ isDigit c = true) :
    endsNumber (numberedFrom next spans) = true := by
  cases h with
  | nil => rfl
  | @char c cs spans =>
    have hc : isDigit c = false := by simpa using hdigit c rfl
    rw [numberedFrom]
    split
    · rfl
    · simp [text, endsNumber, hc]
  | closed hquote => rcases hquote with rfl | rfl <;> simp [numberedFrom, text, enclosed, endsNumber, isDigit]
  | unclosed hquote => rcases hquote with rfl | rfl <;> simp [numberedFrom, text, endsNumber, isDigit]

/-- The numbers of a text with its marks numbered are those that the marks got, as long as a machine can count so far,
and those that stood in the text, each in their order. -/
theorem merged (h : Spans cs spans) (hapart : Apart spans) (next : Nat) (pending : Open) :
    Merged ((List.range' next (markCount spans)).filter (· < 2 ^ 64)) (indicesFrom .plain pending cs)
      (indicesFrom .plain pending (numberedFrom next spans)) := by
  induction h generalizing next pending with
  | nil => exact .refl _
  | @char c cs spans hc h ih =>
    have hrest := hapart.of_cons
    by_cases hmark : c = '?'
    · subst hmark
      have hends : endsNumber (numberedFrom (next + 1) spans) = true := h.endsNumber_numberedFrom _ hapart.behind
      have hcount : markCount (.char '?' :: spans) = markCount spans + 1 := by simp [markCount]
      have hskip : indicesFrom .plain none ('?' :: cs) = indicesFrom .plain none cs := rfl
      have hnumbered : numberedFrom next (.char '?' :: spans) = numbered next ++ numberedFrom (next + 1) spans := rfl
      have hstart : endsNumber (numbered next ++ numberedFrom (next + 1) spans) = true := rfl
      rw [indicesFrom_ends pending rfl, hskip, hnumbered, indicesFrom_ends pending hstart,
        indicesFrom_numbered next hends, hcount, List.range'_succ]
      refine .right_append _ ?_
      by_cases hfits : next < 2 ^ 64
      · rw [List.filter_cons, if_pos (decide_eq_true hfits), if_pos hfits]
        exact .left next (ih hrest (next + 1) none)
      · rw [List.filter_cons, if_neg (mt of_decide_eq_true hfits), if_neg hfits]
        exact ih hrest (next + 1) none
    · have hcount : markCount (.char c :: spans) = markCount spans := by simp [markCount, hmark]
      have hnumbered : numberedFrom next (.char c :: spans) = c :: numberedFrom next spans := by
        simp [numberedFrom, hmark, text]
      obtain ⟨found, after, hfound⟩ := indicesFrom_char pending hc
      rw [hcount, hnumbered, hfound, hfound]
      exact .right_append found (ih hrest next after)
  | @closed quote inside cs spans hquote hend h ih =>
    have hcount : markCount (.quoted quote inside true :: spans) = markCount spans := by simp [markCount]
    have hnumbered : numberedFrom next (.quoted quote inside true :: spans) =
        enclosed quote inside ++ numberedFrom next spans := by simp [numberedFrom, text]
    have hstart : ∀ more, endsNumber (enclosed quote inside ++ more) = true := by
      rcases hquote with rfl | rfl <;> exact fun _ => rfl
    have hpasses := passes_enclosed hquote inside
    rw [hcount, hnumbered, indicesFrom_ends pending (hstart _), indicesFrom_ends pending (hstart _),
      indicesFrom_passes _ hpasses, indicesFrom_passes _ hpasses]
    exact .right_append _ (ih hapart.of_cons next none)
  | @unclosed quote inside hquote =>
    have hnumbered : numberedFrom next [.quoted quote inside false] = quote :: doubled quote inside := by
      simp [numberedFrom, text]
    rw [hnumbered]
    exact .refl _

/-- A text without a dollar sign outside of quotes has no numbers. -/
theorem indices_eq_nil (h : Spans cs spans) (hdollar : .char '$' ∉ spans) : indicesFrom .plain none cs = [] := by
  induction h with
  | nil => rfl
  | @char c cs spans hc h ih =>
    obtain ⟨hother, hrest⟩ := not_or.mp (mt List.mem_cons.mpr hdollar)
    have hc' : c ≠ '$' := fun heq => hother (by rw [heq])
    rw [indicesFrom, if_neg fun hplain => hc' hplain.2, Quoting.after_plain hc]
    exact ih hrest
  | closed hquote hend h ih =>
    rw [indicesFrom_passes _ (passes_enclosed hquote _)]
    exact ih (mt (List.mem_cons_of_mem _) hdollar)
  | @unclosed quote inside hquote =>
    have hnone := indicesFrom_passes [] (passes_unclosed hquote inside)
    rw [List.append_nil] at hnone
    rw [hnone]
    rfl

end Spans

namespace Placeholder

/-- A text is cut in one way into quoted spans and characters outside of quotes. Numbering its marks replaces the question
marks among these, in order, by the numbers from the first one on, changes nothing else and counts them, as long as a
machine can count so far. Where the text has no dollar sign and no question mark before a digit outside of quotes, these
are the numbers of the result. -/
theorem number_replaces_marks (sql : String) (first : Nat) : ∃ spans, Spans sql.toList spans ∧
    (∀ others, Spans sql.toList others → others = spans) ∧
    (first + markCount spans ≤ 2 ^ 64 →
      number sql first = (String.ofList (numberedFrom first spans), markCount spans) ∧
      (.char '$' ∉ spans → Apart spans →
        indices (number sql first).1 = List.range' first (markCount spans))) := by
  obtain ⟨spans, hspans⟩ := exists_spans sql.toList
  refine ⟨spans, hspans, fun others h => hspans.unique h, fun hfits => ⟨hspans.number_eq first, fun hdollar hapart => ?_⟩⟩
  have hmerged := hspans.merged hapart first none
  rw [hspans.indices_eq_nil hdollar, filter_range' hfits] at hmerged
  rw [hspans.number_eq, indices, String.toList_ofList, hmerged.eq_left]

/-- Two marks between a literal with a doubled quote and a name that does not end, both with a question mark in them. -/
theorem number_replaces_marks_quoted : (number "'''?'=?,?\"'?" 9).2 = 2 ∧ indices (number "'''?'=?,?\"'?" 9).1 = [9, 10] := by
  have htext : "'''?'=?,?\"'?".toList = enclosed '\'' ['\'', '?'] ++ ['=', '?', ',', '?', '"', '\'', '?'] := by decide
  have hcut : Spans "'''?'=?,?\"'?".toList [.quoted '\'' ['\'', '?'] true, .char '=', .char '?', .char ',', .char '?',
      .quoted '"' ['\'', '?'] false] := by
    rw [htext]
    refine .closed (.inl rfl) (by decide) ?_
    refine .char (by decide) (.char (by decide) (.char (by decide) (.char (by decide) ?_)))
    exact @Spans.unclosed '"' ['\'', '?'] (.inr rfl)
  obtain ⟨spans, -, hunique, hfits⟩ := number_replaces_marks "'''?'=?,?\"'?" 9
  obtain rfl := hunique _ hcut
  obtain ⟨hnumber, hnumbers⟩ := hfits (by decide)
  have hapart : Apart [.quoted '\'' ['\'', '?'] true, .char '=', .char '?', .char ',', .char '?',
      .quoted '"' ['\'', '?'] false] := by
    intro c hdigit hwithin
    have hmem := hwithin.subset (List.mem_cons_of_mem _ (List.mem_singleton_self _))
    simp only [List.mem_cons, List.not_mem_nil, or_false, reduceCtorEq, false_or, Span.char.injEq] at hmem
    rcases hmem with rfl | rfl | rfl | rfl <;> revert hdigit <;> decide
  exact ⟨by rw [hnumber]; rfl, hnumbers (by decide) hapart⟩

end Placeholder

end SqlAdapter
