/-
Which statements are accepted, and what the marks of a caller's statement refer to.

Accepted are the statements whose numbers are those from one to the number of
their parameters (`Query.make_ok_iff`; a number zero is overlooked). The marks of a
caller's statement are counted before they are numbered and the numbers are checked
afterwards. A caller's text may have numbers of its own beside the marks, or digits
behind them, and neither check asks whether a mark got a number that is there
already, or is read as another one. `Query.raw_owns_iff` says for which texts each
parameter has one placeholder, and each mark its own parameter.
-/
import SqlAdapter.Proofs.Result
import SqlAdapter.Proofs.Sql.Spans
import SqlAdapter.Sql.Query

namespace SqlAdapter

open Placeholder SqlAdapter.Span

/-! ## The check on placeholders -/

namespace Query

theorem highest_le_iff {indices : List Nat} {n : Nat} : highest indices ≤ n ↔ ∀ i ∈ indices, i ≤ n := by
  have hfold : ∀ (is : List Nat) (top : Nat), is.foldl max top ≤ n ↔ top ≤ n ∧ ∀ i ∈ is, i ≤ n := by
    intro is
    induction is with
    | nil => exact fun top => (and_iff_left nofun).symm
    | cons j is ih =>
      intro top
      rw [List.foldl_cons, ih, Nat.max_le, List.forall_mem_cons, and_assoc]
  rw [highest, hfold, and_iff_right n.zero_le]

/-- The check accepts a text when its numbers, zero aside, are those of the parameters. -/
theorem checkPlaceholders_ok_iff {sql : String} {n : Nat} : checkPlaceholders sql n = .ok () ↔
    ∀ i, 0 < i → (i ∈ indices sql ↔ i ≤ n) := by
  have hall : (List.range' 1 n).find? (!(indices sql).contains ·) = none ↔ ∀ i, 0 < i → i ≤ n → i ∈ indices sql := by
    rw [List.find?_eq_none]
    simp only [List.mem_range'_1, List.contains_eq_mem, Bool.not_eq_true', decide_eq_false_iff_not, not_not]
    exact ⟨fun h i hpos hle => h i (by omega), fun h i hi => h i (by omega) (by omega)⟩
  have htop : highest (indices sql) = n → ∀ i ∈ indices sql, i ≤ n := fun h => highest_le_iff.mp (Nat.le_of_eq h)
  constructor
  · intro h
    simp only [checkPlaceholders] at h
    split at h
    · cases h
    · next hn =>
      rw [Decidable.not_not.mp hn] at h
      split at h
      · cases h
      · next hnone =>
        exact fun i hpos => ⟨htop (Decidable.not_not.mp hn) i, hall.mp hnone i hpos⟩
  · intro h
    have hle : highest (indices sql) ≤ n := by
      refine highest_le_iff.mpr fun i hi => ?_
      rcases Nat.eq_zero_or_pos i with rfl | hpos
      · exact n.zero_le
      · exact (h i hpos).mp hi
    have hge : n ≤ highest (indices sql) := by
      rcases Nat.eq_zero_or_pos n with rfl | hpos
      · exact Nat.zero_le _
      · exact highest_le_iff.mp (Nat.le_refl _) n ((h n hpos).mpr (Nat.le_refl n))
    have heq : highest (indices sql) = n := Nat.le_antisymm hle hge
    have hnone := hall.mpr fun i hpos hi => (h i hpos).mpr hi
    simp only [checkPlaceholders, heq, hnone, ne_eq, not_true_eq_false, if_false]

/-- A text becomes a statement when its numbers, zero aside, are those of its parameters. -/
theorem make_ok_iff {sql : String} {params : List Value} {q : Query} : make sql params = .ok q ↔
    q = ⟨sql, params⟩ ∧ ∀ i, 0 < i → (i ∈ indices sql ↔ i ≤ params.length) := by
  rw [make, Result.bind_ok_iff, ← checkPlaceholders_ok_iff]
  simp only [Result.pure_ok_iff]
  exact ⟨fun ⟨_, hcheck, hq⟩ => ⟨hq.symm, hcheck⟩, fun ⟨hq, hcheck⟩ => ⟨(), hcheck, hq.symm⟩⟩

/-- The numbers from one on are accepted. -/
theorem make_numbered {sql : String} {params : List Value}
    (h : Placeholder.indices sql = List.range' 1 params.length) : make sql params = .ok ⟨sql, params⟩ := by
  refine make_ok_iff.mpr ⟨rfl, fun i hpos => ?_⟩
  rw [h, List.mem_range'_1]
  omega

end Query

/-! ## What a mark refers to -/

namespace Placeholder

/-- The number of the placeholder that stands in front of a text, if one does. -/
def numberAt? : List Char → Option Nat
  | [] => none
  | c :: cs => if c = '$' then index? (cs.takeWhile isDigit) else none

theorem le_decimalValueFrom (n : Nat) (cs : List Char) : n ≤ decimalValueFrom n cs := by
  induction cs generalizing n with
  | nil => exact Nat.le_refl n
  | cons c cs ih => exact Nat.le_trans (by omega) (ih (n * 10 + (c.toNat - '0'.toNat)))

/-- A number with more digits behind it is another number. -/
theorem index?_more {n : Nat} (hpos : 0 < n) (d : Char) (more : List Char) :
    index? (decimalChars n ++ d :: more) ≠ some n := by
  have hread : decimalValueFrom 0 (decimalChars n) = n := decimalValue_decimalChars n
  have hle : n * 10 + (d.toNat - '0'.toNat) ≤ decimalValue (decimalChars n ++ d :: more) := by
    rw [decimalValue, decimalValueFrom_append, hread]
    exact le_decimalValueFrom _ more
  rw [index?]
  split
  · exact (Option.some_ne_none n).symm
  · split
    · rw [ne_eq, Option.some.injEq]
      omega
    · exact (Option.some_ne_none n).symm

/-- A placeholder is read as its own number unless that is too great or a digit follows. -/
theorem numberAt?_numbered {n : Nat} (hpos : 0 < n) (rest : List Char) :
    numberAt? (numbered n ++ rest) = some n ↔ n < 2 ^ 64 ∧ endsNumber rest = true := by
  have hdigits : numberAt? (numbered n ++ rest) = index? (decimalChars n ++ rest.takeWhile isDigit) := by
    rw [← List.takeWhile_append_of_pos (decimalChars_isDigit n)]
    rfl
  rw [hdigits]
  cases rest with
  | nil =>
    rw [List.takeWhile_nil, List.append_nil, index?_decimalChars]
    simp [endsNumber]
  | cons d rest =>
    by_cases hd : isDigit d = true
    · rw [List.takeWhile_cons_of_pos hd]
      simp [endsNumber, hd, index?_more hpos]
    · rw [List.takeWhile_cons_of_neg hd, List.append_nil, index?_decimalChars]
      simp [endsNumber, hd]

end Placeholder

namespace Span

theorem numberedFrom_append (next : Nat) (before after : List Span) :
    numberedFrom next (before ++ after) = numberedFrom next before ++ numberedFrom (next + markCount before) after := by
  induction before generalizing next with
  | nil => rfl
  | cons span before ih =>
    by_cases hmark : span = .char '?'
    · subst hmark
      have hcount : markCount (.char '?' :: before) = markCount before + 1 := by simp [markCount]
      rw [List.cons_append, numberedFrom, if_pos rfl, numberedFrom, if_pos rfl, ih, hcount, List.append_assoc,
        Nat.add_assoc, Nat.add_comm 1]
    · have hcount : markCount (span :: before) = markCount before := by simp [markCount, hmark]
      rw [List.cons_append, numberedFrom, if_neg hmark, numberedFrom, if_neg hmark, ih, hcount, List.append_assoc]

/-- In a statement each mark refers to the parameter of its own place: where it stood, the number that is read is how many
marks there are up to it. -/
def MarksOwn (sql : String) (spans : List Span) : Prop := ∀ before after, spans = before ++ .char '?' :: after →
  numberAt? (sql.toList.drop (numberedFrom 1 before).length) = some (markCount before + 1)

end Span

namespace Spans

variable {cs : List Char} {spans : List Span}

theorem tail {span : Span} (h : Spans cs (span :: spans)) : ∃ more, Spans more spans := by
  cases h with
  | char _ h | closed _ _ h => exact ⟨_, h⟩
  | unclosed => exact ⟨_, .nil⟩

theorem suffix {before after : List Span} (h : Spans cs (before ++ after)) : ∃ more, Spans more after := by
  induction before generalizing cs with
  | nil => exact ⟨cs, h⟩
  | cons span before ih =>
    obtain ⟨more, hmore⟩ := h.tail
    exact ih hmore

/-- Numbered from one on, marks refer to their own parameters when none of them runs into a digit. -/
theorem marksOwn_iff (h : Spans cs spans) (hcount : markCount spans < 2 ^ 64) :
    MarksOwn (String.ofList (numberedFrom 1 spans)) spans ↔ Apart spans := by
  have hread : ∀ before after, spans = before ++ .char '?' :: after →
      (numberAt? ((String.ofList (numberedFrom 1 spans)).toList.drop (numberedFrom 1 before).length) =
        some (markCount before + 1) ↔ endsNumber (numberedFrom (markCount before + 2) after) = true) := by
    rintro before after rfl
    have hmark : numberedFrom (1 + markCount before) (.char '?' :: after) =
        numbered (markCount before + 1) ++ numberedFrom (markCount before + 2) after := by
      rw [numberedFrom, if_pos rfl, Nat.add_comm 1]
    have hfits : markCount before + 1 < 2 ^ 64 := by
      simp only [markCount, List.count_append, List.count_cons_self] at hcount ⊢
      omega
    rw [String.toList_ofList, numberedFrom_append, List.drop_left, hmark, numberAt?_numbered (Nat.succ_pos _),
      and_iff_right hfits]
  constructor
  · rintro hown c hdigit ⟨before, after, hspans⟩
    rw [List.append_assoc] at hspans
    have hc : c ≠ '?' := by
      rintro rfl
      exact absurd hdigit (by decide)
    have hends := (hread before (.char c :: after) hspans.symm).mp (hown before _ hspans.symm)
    simp [numberedFrom, text, hc, endsNumber, hdigit] at hends
  · rintro hapart before after rfl
    obtain ⟨_, hafter⟩ := h.suffix
    obtain ⟨_, hafter⟩ := hafter.tail
    refine (hread before after rfl).mpr (hafter.endsNumber_numberedFrom _ fun c hc hdigit => ?_)
    obtain ⟨more, rfl⟩ := List.head?_eq_some_iff.mp hc
    exact hapart c hdigit ⟨before, more, by simp⟩

end Spans

/-! ## Statements of a caller -/

theorem nodup_zeros_iff {indices : List Nat} : indices.Nodup ∧ (∀ i ∈ indices, i = 0) ↔ indices = [] ∨ indices = [0] := by
  constructor
  · rintro ⟨hnodup, hzero⟩
    match indices with
    | [] => exact .inl rfl
    | [i] => exact .inr (by rw [hzero i (List.mem_singleton_self i)])
    | i :: j :: more =>
      have hi := hzero i (List.mem_cons_self ..)
      have hj := hzero j (List.mem_cons_of_mem i (List.mem_cons_self ..))
      simp [hi, hj] at hnodup
  · rintro (rfl | rfl) <;> simp

namespace Query

variable {sql : String} {values : List Value} {q : Query} {spans : List Span}

/-- A caller's statement with marks has a value for each, and is accepted when it is with its marks numbered. -/
theorem raw_ok (h : raw sql values = .ok q) (hspans : Spans sql.toList spans) (hmarks : 0 < markCount spans) :
    values.length = markCount spans ∧ q = ⟨String.ofList (numberedFrom 1 spans), values.map Value.unbracketed⟩ ∧
      ∀ i, 0 < i → (i ∈ indices q.sql ↔ i ≤ markCount spans) := by
  simp only [raw, hspans.number_eq] at h
  split at h
  · cases h
  · next hcount =>
    have hlength : values.length = markCount spans := (not_ne_iff.mp (not_and.mp hcount hmarks)).symm
    obtain ⟨rfl, hindices⟩ := make_ok_iff.mp h
    rw [List.length_map, hlength] at hindices
    exact ⟨hlength, rfl, hindices⟩

/-- A caller's statement that has marks, when it is accepted, has a parameter for each of them. No two of its placeholders
have one number and each mark refers to the parameter of its own place exactly when none of the marks runs into a digit and
the text has no number of its own, or only a single zero. -/
theorem raw_owns_iff (h : raw sql values = .ok q) (hspans : Spans sql.toList spans) (hmarks : 0 < markCount spans) :
    values.length = markCount spans ∧ q.params = values.map Value.unbracketed ∧
      ((indices q.sql).Nodup ∧ MarksOwn q.sql spans ↔ Apart spans ∧ (indices sql = [] ∨ indices sql = [0])) := by
  obtain ⟨hlength, rfl, hindices⟩ := raw_ok h hspans hmarks
  have hfits : markCount spans < 2 ^ 64 := indices_lt ((hindices _ hmarks).mpr (Nat.le_refl _))
  refine ⟨hlength, rfl, ?_⟩
  rw [hspans.marksOwn_iff hfits, and_comm, and_congr_right_iff]
  intro hapart
  have hperm := (hspans.merged hapart 1 none).perm
  rw [filter_range' (by omega)] at hperm
  have htext : indices (String.ofList (numberedFrom 1 spans)) = indicesFrom .plain none (numberedFrom 1 spans) := by
    rw [indices, String.toList_ofList]
  rw [htext] at hindices ⊢
  have hown : ∀ i ∈ indices sql, 0 < i → i ∈ List.range' 1 (markCount spans) := by
    intro i hi hpos
    have hle := (hindices i hpos).mp (hperm.mem_iff.mpr (List.mem_append_right _ hi))
    exact List.mem_range'_1.mpr (by omega)
  rw [hperm.nodup_iff, List.nodup_append, ← nodup_zeros_iff, and_iff_right (List.nodup_range' 1), indices]
  refine and_congr_right fun _ => ⟨fun hdisjoint i hi => ?_, fun hzero i hi j hj => ?_⟩
  · by_contra hne
    exact hdisjoint i (hown i hi (Nat.pos_of_ne_zero hne)) i hi rfl
  · rw [hzero j hj]
    rw [List.mem_range'_1] at hi
    omega

/-- A mark beside a number one of the caller's own: both are placeholders of the one value, and the statement is accepted. -/
theorem raw_owns_iff_beside : ∃ q, raw "?,$1" [.bool true] = .ok q ∧
    ¬ ((indices q.sql).Nodup ∧ MarksOwn q.sql [.char '?', .char ',', .char '$', .char '1']) := by
  have hok : (raw "?,$1" [.bool true]).toOption.isSome = true := by decide +kernel
  have hspans : Spans "?,$1".toList [.char '?', .char ',', .char '$', .char '1'] := by
    have htext : "?,$1".toList = ['?', ',', '$', '1'] := by decide
    rw [htext]
    exact .char (by decide) (.char (by decide) (.char (by decide) (.char (by decide) .nil)))
  cases h : raw "?,$1" [.bool true] with
  | error e =>
    rw [h] at hok
    cases hok
  | ok q =>
    obtain ⟨-, -, howns⟩ := raw_owns_iff h hspans (by decide)
    refine ⟨q, rfl, fun hboth => ?_⟩
    have hnumbers : indices "?,$1" = [1] := by decide
    rw [hnumbers] at howns
    exact absurd (howns.mp hboth).2 (by decide)

end Query

end SqlAdapter
