/-
A string is shorter than its text.

Whatever escapes a text has, each character of a string takes one character of
the text at least, and the quotes take two more. The reading machine keeps to
this from step to step (`Reader.Counted`). So no text reads as the string that
it is itself (`read?_ne_self`).
-/
import SqlAdapter.Json.Reader
import Mathlib.Tactic.SplitIfs

namespace SqlAdapter

namespace Json

namespace Reader

/-- What a machine has of a string after so many characters. A word never stands for a string. -/
def Counted (taken : Nat) : Mode → Prop
  | .string _ chars _ => chars.length + 1 ≤ taken
  | .after value => ∀ text, value = .string text → text.length + 2 ≤ taken
  | .word _ value => ∀ text, value ≠ .string text
  | _ => True

variable {stack : List Frame} {taken : Nat} {c : Char} {r r' : Reader}

theorem startValue_counted (h : startValue stack c = some r') : Counted (taken + 1) r'.mode := by
  simp only [startValue, opened] at h
  split_ifs at h <;> cases h <;> simp [Counted]

theorem afterValue_counted {value : Json} (hvalue : Counted taken (.after value))
    (h : afterValue stack value c = some r') : Counted (taken + 1) r'.mode := by
  simp only [afterValue] at h
  split at h
  · cases h
    exact fun text htext => Nat.le_succ_of_le (hvalue text htext)
  · split at h
    · split_ifs at h <;> cases h <;> simp [Counted]
    · split_ifs at h <;> cases h <;> simp [Counted]
    · cases h

theorem endString_counted {isKey : Bool} {chars : List Char} (hchars : chars.length + 1 ≤ taken)
    (h : endString stack isKey chars = some r') : Counted (taken + 1) r'.mode := by
  simp only [endString] at h
  split at h
  · split at h
    · cases h
      trivial
    · cases h
  · cases h
    intro text htext
    cases htext
    rw [String.length_ofList, List.length_reverse]
    omega

theorem inString_counted {isKey : Bool} {chars : List Char} {escape : Escape} (hchars : chars.length + 1 ≤ taken)
    (h : inString stack isKey chars escape c = some r') : Counted (taken + 1) r'.mode := by
  cases escape with
  | none =>
    simp only [inString] at h
    split at h
    · exact endString_counted hchars h
    · split_ifs at h <;> cases h <;> simp only [Counted, List.length_cons] <;> omega
  | started =>
    simp only [inString] at h
    split at h
    · cases h
      exact Nat.le_succ_of_le hchars
    · obtain ⟨e, -, h⟩ := Option.bind_eq_some_iff.mp h
      cases h
      simp only [Counted, List.length_cons]
      omega
  | unit left value =>
    simp only [inString] at h
    obtain ⟨digit, -, h⟩ := Option.bind_eq_some_iff.mp h
    split_ifs at h <;> cases h <;> simp only [Counted, List.length_cons] <;> omega
  | leading surrogate | leadingStarted surrogate =>
    simp only [inString] at h
    split_ifs at h
    cases h
    exact Nat.le_succ_of_le hchars
  | trailing surrogate left value =>
    simp only [inString] at h
    obtain ⟨digit, -, h⟩ := Option.bind_eq_some_iff.mp h
    split_ifs at h <;> cases h <;> simp only [Counted, List.length_cons] <;> omega

/-- One character more in the text is one more in the string at most. -/
theorem step_counted (hr : Counted taken r.mode) (h : r.step c = some r') : Counted (taken + 1) r'.mode := by
  obtain ⟨stack, mode⟩ := r
  cases mode with
  | value =>
    simp only [step] at h
    split at h
    · cases h
      trivial
    · exact startValue_counted h
  | firstItem =>
    simp only [step] at h
    split_ifs at h
    · cases h
      trivial
    · split at h <;> cases h
      simp [Counted]
    · exact startValue_counted h
  | firstKey =>
    simp only [step] at h
    split_ifs at h
    · cases h
      trivial
    · split at h <;> cases h
      simp [Counted]
    · cases h
      simp [Counted]
  | key | colon =>
    simp only [step] at h
    split_ifs at h <;> cases h <;> simp [Counted]
  | after value => exact afterValue_counted hr h
  | string isKey chars escape => exact inString_counted hr h
  | number chars =>
    simp only [step] at h
    split at h
    · cases h
      trivial
    · obtain ⟨n, -, h⟩ := Option.bind_eq_some_iff.mp h
      have hnumber : Counted taken (.after (.number n)) := fun _ htext => nomatch htext
      exact afterValue_counted hnumber h
  | word left value =>
    simp only [step] at h
    split at h
    · cases h
    · split at h
      · cases h
        dsimp only
        split
        · exact fun text htext => absurd htext (hr text)
        · exact hr
      · cases h

theorem run_counted {cs : List Char} (hr : Counted taken r.mode) (h : r.run cs = some r') :
    Counted (taken + cs.length) r'.mode := by
  induction cs generalizing r taken with
  | nil =>
    cases h
    exact hr
  | cons c cs ih =>
    obtain ⟨next, hstep, hrun⟩ := Option.bind_eq_some_iff.mp h
    have hrest := ih (step_counted hr hstep) hrun
    rw [Nat.add_assoc, Nat.add_comm 1] at hrest
    exact hrest

theorem finish?_string {text : String} (h : r.finish? = some (.string text)) : r.mode = .after (.string text) := by
  obtain ⟨stack, mode⟩ := r
  simp only [finish?] at h
  split at h
  · cases h
    rfl
  · obtain ⟨n, -, h⟩ := Option.map_eq_some_iff.mp h
    cases h
  · cases h

end Reader

theorem length_of_read? {text string : String} (h : read? text = some (.string string)) :
    string.length + 2 ≤ text.length := by
  obtain ⟨value, hscan, hdistinct⟩ := Option.map_eq_some_iff.mp h
  have hvalue : value = .string string := by
    cases value <;> simp_all [distinct]
  subst hvalue
  obtain ⟨r, hrun, hfinish⟩ := Option.bind_eq_some_iff.mp hscan
  have hstart : Reader.Counted 0 Reader.start.mode := trivial
  have hcounted := Reader.run_counted hstart hrun
  rw [Reader.finish?_string hfinish, Nat.zero_add, String.length_toList] at hcounted
  exact hcounted string rfl

/-- No text reads as the string that it is itself. -/
theorem read?_ne_self (text : String) : read? text ≠ some (.string text) := by
  intro h
  have hlength := length_of_read? h
  omega

end Json

end SqlAdapter
