/-
Which numbers a statement may refer to.

`Span.numbers` lists what is written behind the dollar signs of a text outside
of quotes: at each of them all the digits that follow, read as one natural number.
The reader of placeholders finds these numbers in their order, those past 64 bits
left out (`Spans.indices_eq`), and the check on placeholders overlooks zeros. So a text
is accepted for its parameters when the numbers that are left are those of the
parameters; what else is written behind a dollar sign goes unnoticed
(`Query.accepted_iff_numbers`).
-/
import SqlAdapter.Proofs.Sql.Query

namespace SqlAdapter

open Placeholder SqlAdapter.Span

namespace Span

/-- The digits that a text begins with, as many as there are. -/
def leadingDigits : List Span → List Char
  | .char c :: spans => if isDigit c then c :: leadingDigits spans else []
  | _ => []

/-- The numbers behind dollar signs outside of quotes; a dollar sign without digits has none. -/
def numbers : List Span → List Nat
  | [] => []
  | span :: spans =>
    if span = .char '$' ∧ leadingDigits spans ≠ [] then decimalValue (leadingDigits spans) :: numbers spans
    else numbers spans

theorem leadingDigits_digit {c : Char} (h : isDigit c = true) (spans : List Span) :
    leadingDigits (.char c :: spans) = c :: leadingDigits spans := if_pos h

theorem leadingDigits_other {c : Char} (h : ¬ isDigit c = true) (spans : List Span) :
    leadingDigits (.char c :: spans) = [] := if_neg h

theorem numbers_other {c : Char} (h : c ≠ '$') (spans : List Span) : numbers (.char c :: spans) = numbers spans := by
  simp [numbers, h]

theorem numbers_quoted (quote : Char) (inside : List Char) (closed : Bool) (spans : List Span) :
    numbers (.quoted quote inside closed :: spans) = numbers spans := by
  simp [numbers]

end Span

namespace Placeholder

/-- What the digits behind a dollar sign add to the numbers that are read. -/
theorem closed_leadingDigits (spans : List Span) :
    closed (some (leadingDigits spans).reverse) ++ (numbers spans).filter (· < 2 ^ 64) =
      (numbers (.char '$' :: spans)).filter (· < 2 ^ 64) := by
  by_cases hnone : leadingDigits spans = []
  · simp [closed, index?, numbers, hnone]
  · by_cases hfits : decimalValue (leadingDigits spans) < 2 ^ 64
    · simp [closed, index?, numbers, hnone, hfits]
    · simp [closed, index?, numbers, hnone, hfits]

/-- The reader finds the numbers of the spans in a text, and further digits of a number that was begun before it. -/
structure Finds (cs : List Char) (spans : List Span) : Prop where
  numbers : indicesFrom .plain none cs = (Span.numbers spans).filter (· < 2 ^ 64)
  begun : ∀ digits, indicesFrom .plain (some digits) cs =
    closed (some ((leadingDigits spans).reverse ++ digits)) ++ (Span.numbers spans).filter (· < 2 ^ 64)

/-- A number that was begun ends where no digit stands. -/
theorem Finds.of_ends {cs : List Char} {spans : List Span} (hend : endsNumber cs = true)
    (hlead : leadingDigits spans = []) (h : indicesFrom .plain none cs = (Span.numbers spans).filter (· < 2 ^ 64)) :
    Finds cs spans := by
  refine ⟨h, fun digits => ?_⟩
  rw [indicesFrom_closed digits hend, hlead, h]
  rfl

end Placeholder

namespace Spans

variable {cs : List Char} {spans : List Span}

theorem finds (h : Spans cs spans) : Finds cs spans := by
  induction h with
  | nil => exact .of_ends rfl rfl rfl
  | @char c cs spans hc h ih =>
    by_cases hdigit : isDigit c = true
    · have hdollar : c ≠ '$' := by
        rintro rfl
        exact absurd hdigit (by decide)
      have hnumbers := numbers_other hdollar spans
      refine ⟨?_, fun digits => ?_⟩
      · rw [indicesFrom, if_neg (by simp [hdollar]), Quoting.after_plain hc, hnumbers, ih.numbers]
      · rw [indicesFrom, if_pos hdigit, ih.begun, leadingDigits_digit hdigit, hnumbers]
        simp
    · refine .of_ends (by simpa [endsNumber] using hdigit) (leadingDigits_other hdigit spans) ?_
      by_cases hdollar : c = '$'
      · subst hdollar
        rw [indicesFrom, if_pos ⟨rfl, rfl⟩, ih.begun, List.append_nil, closed_leadingDigits]
      · rw [indicesFrom, if_neg (by simp [hdollar]), Quoting.after_plain hc, ih.numbers,
          numbers_other hdollar]
  | @closed quote inside cs spans hquote hend h ih =>
    refine .of_ends ?_ rfl ?_
    · rcases hquote with rfl | rfl <;> rfl
    · rw [indicesFrom_passes _ (passes_enclosed hquote inside), ih.numbers, numbers_quoted]
  | @unclosed quote inside hquote =>
    refine .of_ends ?_ rfl ?_
    · rcases hquote with rfl | rfl <;> rfl
    · have hnone := indicesFrom_passes [] (passes_unclosed hquote inside)
      rw [List.append_nil] at hnone
      rw [hnone]
      rfl

/-- The reader finds the numbers behind dollar signs in their order, without those past 64 bits. -/
theorem indices_eq {sql : String} (h : Spans sql.toList spans) : indices sql = (numbers spans).filter (· < 2 ^ 64) :=
  h.finds.numbers

/-- A text without quotes is cut into its characters. -/
theorem unquoted (h : ∀ c ∈ cs, ¬ IsQuote c) : Spans cs (cs.map .char) := by
  induction cs with
  | nil => exact .nil
  | cons c cs ih =>
    obtain ⟨hc, hcs⟩ := List.forall_mem_cons.mp h
    exact .char hc (ih hcs)

end Spans

namespace Query

variable {sql : String} {spans : List Span}

/-- A text that is not accepted is refused as one that cannot become a statement. -/
theorem make_error_kind {sql : String} {params : List Value} {e : Failure} (h : make sql params = .error e) :
    e.kind = .compilation := by
  rw [make, Result.bind_error_iff] at h
  rcases h with h | ⟨_, _, h⟩
  · simp only [checkPlaceholders] at h
    split at h
    · cases h
      rfl
    · split at h
      · cases h
        rfl
      · cases h
  · cases h

/-- A text is accepted when the numbers that the check sees are those of the parameters. -/
theorem make_ok_iff_numbers (hspans : Spans sql.toList spans) (params : List Value) :
    make sql params = .ok ⟨sql, params⟩ ↔
      ∀ n, n ∈ numbers spans ∧ 0 < n ∧ n < 2 ^ 64 ↔ 0 < n ∧ n ≤ params.length := by
  have hread : ∀ n, n ∈ indices sql ↔ n ∈ numbers spans ∧ n < 2 ^ 64 := by
    intro n
    rw [hspans.indices_eq, List.mem_filter, decide_eq_true_iff]
  rw [make_ok_iff, and_iff_right rfl]
  refine forall_congr' fun n => ?_
  rw [hread]
  constructor
  · intro h
    constructor
    · intro ⟨hn, hpos, hfits⟩
      exact ⟨hpos, (h hpos).mp ⟨hn, hfits⟩⟩
    · intro ⟨hpos, hle⟩
      obtain ⟨hn, hfits⟩ := (h hpos).mpr hle
      exact ⟨hn, hpos, hfits⟩
  · intro h hpos
    constructor
    · intro ⟨hn, hfits⟩
      exact (h.mp ⟨hn, hpos, hfits⟩).2
    · intro hle
      obtain ⟨hn, -, hfits⟩ := h.mpr ⟨hpos, hle⟩
      exact ⟨hn, hfits⟩

/-- A text is cut in one way into quoted spans and characters outside of quotes. It is accepted for its parameters when
the numbers behind the dollar signs among these, zeros and numbers past 64 bits aside, are the numbers of the
parameters, and it is refused otherwise. As long as a machine can count the parameters, the numbers are these and no
others exactly in the texts that are accepted and have neither a zero nor a number past 64 bits. -/
theorem accepted_iff_numbers (sql : String) (params : List Value) : ∃ spans, Spans sql.toList spans ∧
    (∀ others, Spans sql.toList others → others = spans) ∧
    (make sql params = .ok ⟨sql, params⟩ ↔
      ∀ n, n ∈ numbers spans ∧ 0 < n ∧ n < 2 ^ 64 ↔ 0 < n ∧ n ≤ params.length) ∧
    (make sql params ≠ .ok ⟨sql, params⟩ → ∃ e, make sql params = .error e ∧ e.kind = .compilation) ∧
    (params.length < 2 ^ 64 → ((∀ n, n ∈ numbers spans ↔ 0 < n ∧ n ≤ params.length) ↔
      make sql params = .ok ⟨sql, params⟩ ∧ ∀ n ∈ numbers spans, 0 < n ∧ n < 2 ^ 64)) := by
  obtain ⟨spans, hspans⟩ := exists_spans sql.toList
  have hok := make_ok_iff_numbers hspans params
  refine ⟨spans, hspans, fun others h => hspans.unique h, hok, fun hnot => ?_, fun hlen => ?_⟩
  · cases hmake : make sql params with
    | ok q =>
      obtain ⟨rfl, -⟩ := make_ok_iff.mp hmake
      exact absurd hmake hnot
    | error e => exact ⟨e, rfl, make_error_kind hmake⟩
  · rw [hok]
    constructor
    · intro hexact
      have hall : ∀ n ∈ numbers spans, 0 < n ∧ n < 2 ^ 64 := by
        intro n hn
        obtain ⟨hpos, hle⟩ := (hexact n).mp hn
        exact ⟨hpos, by omega⟩
      exact ⟨fun n => by rw [and_iff_left_of_imp (hall n), hexact], hall⟩
    · intro ⟨hnumbers, hall⟩ n
      rw [← hnumbers, and_iff_left_of_imp (hall n)]

/-- The one parameter has its number, and behind it stands a number past 64 bits: accepted all the same. -/
theorem accepted_iff_numbers_past :
    make "$1,$18446744073709551616" [.bool true] = .ok ⟨"$1,$18446744073709551616", [.bool true]⟩ ∧
      ∃ spans, Spans "$1,$18446744073709551616".toList spans ∧ numbers spans = [1, 2 ^ 64] ∧
        ¬ ∀ n, n ∈ numbers spans ↔ 0 < n ∧ n ≤ 1 := by
  have hplain : ("$1,$18446744073709551616".toList.all fun c => ¬ IsQuote c) = true := by decide
  have hspans : Spans "$1,$18446744073709551616".toList ("$1,$18446744073709551616".toList.map .char) :=
    .unquoted fun c hc => of_decide_eq_true (List.all_eq_true.mp hplain c hc)
  have hnumbers : numbers ("$1,$18446744073709551616".toList.map .char) = [1, 2 ^ 64] := by decide
  obtain ⟨spans, -, hunique, haccepted, -, hexact⟩ :=
    accepted_iff_numbers "$1,$18446744073709551616" [.bool true]
  obtain rfl := hunique _ hspans
  have hmake : make "$1,$18446744073709551616" [.bool true] = .ok ⟨"$1,$18446744073709551616", [.bool true]⟩ := by
    refine haccepted.mpr fun n => ?_
    simp only [hnumbers, List.mem_cons, List.not_mem_nil, or_false, List.length_cons, List.length_nil]
    omega
  refine ⟨hmake, _, hspans, hnumbers, fun hall => ?_⟩
  have hpast := ((hexact (by decide)).mp hall).2 (2 ^ 64) (by rw [hnumbers]; simp)
  omega

end Query

end SqlAdapter
