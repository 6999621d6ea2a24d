/-
Statements with other numbers in their placeholders.

`renumber f` reads each number behind a dollar sign outside of quotes, all its digits
and whatever its size, and writes the number that `f` has for it. Text without
placeholders stays as it is (`renumberFrom_passes`). So a template that is numbered from
another number on is the same text with its numbers moved
(`Template.renumber_sqlFrom`): what is written between the placeholders does not depend
on where the numbers begin.
-/
import SqlAdapter.Proofs.Sql.Template
import Mathlib.Data.List.TakeWhile

namespace SqlAdapter

namespace Placeholder

/-- The text with the number of each placeholder changed by `f`; a dollar sign without digits is no placeholder. -/
def renumberFrom (f : Nat → Nat) (q : Quoting) : List Char → List Char
  | [] => []
  | c :: cs =>
    if q = .plain ∧ c = '$' ∧ cs.takeWhile isDigit ≠ [] then
      numbered (f (decimalValue (cs.takeWhile isDigit))) ++ renumberFrom f .plain (cs.dropWhile isDigit)
    else c :: renumberFrom f (q.after c) cs
  termination_by cs => cs.length
  decreasing_by
    · exact Nat.lt_succ_of_le (List.length_dropWhile_le isDigit cs)
    · exact Nat.lt_succ_self cs.length

/-- The statement with the number of each placeholder changed by `f`. -/
def renumber (f : Nat → Nat) (sql : String) : String := String.ofList (renumberFrom f .plain sql.toList)

variable (f : Nat → Nat)

theorem renumberFrom_other {q : Quoting} {c : Char} (h : ¬ (q = .plain ∧ c = '$')) (cs : List Char) :
    renumberFrom f q (c :: cs) = c :: renumberFrom f (q.after c) cs := by
  rw [renumberFrom, if_neg fun hnumber => h ⟨hnumber.1, hnumber.2.1⟩]

/-- Text without placeholders stays as it is. -/
theorem renumberFrom_passes {q q' : Quoting} {cs : List Char} (rest : List Char) (h : passes q cs = some q') :
    renumberFrom f q (cs ++ rest) = cs ++ renumberFrom f q' rest := by
  induction cs generalizing q with
  | nil => cases h; rfl
  | cons c cs ih =>
    rw [passes] at h
    split at h
    · cases h
    · next hc =>
      have hdollar : ¬ (q = .plain ∧ c = '$') := fun hplain => hc ⟨hplain.1, .inr hplain.2⟩
      rw [List.cons_append, renumberFrom_other f hdollar, ih h, List.cons_append]

theorem stops_of_endsNumber {rest : List Char} (h : endsNumber rest = true) : Stops rest := by
  cases rest with
  | nil => exact stops_nil
  | cons c cs => exact stops_cons (by simpa [endsNumber] using h) cs

/-- A placeholder in front of a text that does not go on with its number. -/
theorem renumberFrom_numbered (n : Nat) {rest : List Char} (h : endsNumber rest = true) :
    renumberFrom f .plain (numbered n ++ rest) = numbered (f n) ++ renumberFrom f .plain rest := by
  have hstops := stops_of_endsNumber h
  rw [numbered, List.cons_append, renumberFrom, takeWhile_decimalChars n hstops, dropWhile_decimalChars n hstops,
    decimalValue_decimalChars, if_pos ⟨rfl, rfl, decimalChars_ne_nil n⟩]

end Placeholder

open Placeholder

namespace Template

variable {t : Template} {f : Nat → Nat}

theorem renumberFrom_sqlFrom (ht : Clean t) {next moved : Nat} (hf : ∀ i < t.params.length, f (next + i) = moved + i)
    {rest : List Char} (hrest : endsNumber rest = true) :
    renumberFrom f .plain ((t.sqlFrom next).toList ++ rest) =
      (t.sqlFrom moved).toList ++ renumberFrom f .plain rest := by
  induction t generalizing next moved with
  | nil => rfl
  | cons piece t ih =>
    have htail : Clean t := fun s h => ht s (List.mem_cons_of_mem piece h)
    cases piece with
    | text sql =>
      rw [sqlFrom, sqlFrom, String.toList_append, String.toList_append, List.append_assoc, List.append_assoc,
        renumberFrom_passes f _ (ht sql (List.mem_cons_self ..)).passes, ih htail hf]
    | value v =>
      have hfirst : f next = moved := hf 0 (Nat.zero_lt_succ _)
      have hmore : ∀ i < (Template.params t).length, f (next + 1 + i) = moved + 1 + i := by
        intro i hi
        rw [Nat.add_assoc, Nat.add_assoc, Nat.add_comm 1 i]
        exact hf (i + 1) (Nat.succ_lt_succ hi)
      rw [sqlFrom, sqlFrom, String.toList_append, String.toList_append, String.toList_ofList, String.toList_ofList,
        List.append_assoc, List.append_assoc, renumberFrom_numbered f _ (endsNumber_sqlFrom htail (next + 1) hrest),
        hfirst, ih htail hmore]

/-- A clean template numbered from another number on is the same text with its numbers moved. -/
theorem renumber_sqlFrom (ht : Clean t) {next moved : Nat} (hf : ∀ i < t.params.length, f (next + i) = moved + i) :
    renumber f (t.sqlFrom next) = t.sqlFrom moved := by
  have hmoved := renumberFrom_sqlFrom ht hf (show endsNumber [] = true from rfl)
  rw [List.append_nil, renumberFrom, List.append_nil] at hmoved
  rw [renumber, hmoved, String.ofList_toList]

end Template

end SqlAdapter
