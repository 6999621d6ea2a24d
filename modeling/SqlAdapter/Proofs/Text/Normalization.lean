/-
The compatibility normal form and ASCII.

ASCII characters are decomposed to themselves, are starters and are composed with nothing, so
ASCII text is left as it is. No composition gives an ASCII character
(`great_of_compose?`), so what is composed can never be hidden behind ASCII: a normal form
is ASCII exactly when every character of the text decomposes to ASCII, and then it is these
decompositions one after another (`normalizeChars_eq_iff`).
-/
import SqlAdapter.Proofs.Text.LetterCase
import SqlAdapter.Text.Compatibility

namespace SqlAdapter.Text

/-- A text of ASCII characters. -/
def IsAscii (cs : List Char) : Prop := ∀ c ∈ cs, c.toNat < 0x80

instance (cs : List Char) : Decidable (IsAscii cs) := inferInstanceAs (Decidable (∀ c ∈ cs, _))

/-- A text with each of its characters replaced by its decomposition. -/
def decomposed (cs : List Char) : List Char := cs.flatMap decomposeChar

variable {a b c starter whole : Char} {cs marks done : List Char}

/-! ## ASCII stays -/

theorem decomposeChar_ascii (h : c.toNat < 0x80) : decomposeChar c = [c] := if_pos (by omega)

/-- No character is decomposed to nothing. -/
theorem decomposeChar_ne_nil (c : Char) : decomposeChar c ≠ [] := by
  have hentries : (severalDecompositions.all fun block => block.2.all fun entry => !entry.2.isEmpty) = true := by
    decide +kernel
  simp only [decomposeChar]
  split
  · simp
  · split
    · simp only [hangulLetters]
      split <;> simp
    · split
      · simp
      · split
        · next targets hfound =>
          obtain ⟨block, hblock, hentry⟩ := Option.bind_eq_some_iff.mp hfound
          have hsome := List.all_eq_true.mp (List.all_eq_true.mp hentries block (List.mem_of_find?_eq_some hblock)) _
            (List.mem_of_find?_eq_some hentry)
          simpa using hsome
        · simp

theorem decomposed_ne_nil (h : cs ≠ []) : decomposed cs ≠ [] := by
  obtain ⟨c, rest, rfl⟩ := List.exists_cons_of_ne_nil h
  rw [decomposed, List.flatMap_cons]
  exact List.append_ne_nil_of_left_ne_nil (decomposeChar_ne_nil c) _

/-- What is in front of a text is decomposed in front of its decomposition. -/
theorem decomposed_front {front : List Char} (h : front <+: cs) : decomposed front <+: decomposed cs := by
  obtain ⟨rest, rfl⟩ := h
  rw [decomposed, decomposed, List.flatMap_append]
  exact List.prefix_append _ _

theorem combiningClass_ascii (h : c.toNat < 0x80) : combiningClass c = 0 := if_pos (by omega)

theorem compose?_ascii (h : b.toNat < 0x80) : compose? a b = none := if_pos (by omega)

theorem decomposed_ascii (h : IsAscii cs) : decomposed cs = cs := by
  induction cs with
  | nil => rfl
  | cons c cs ih =>
    obtain ⟨hc, hcs⟩ := List.forall_mem_cons.mp h
    rw [decomposed, List.flatMap_cons, decomposeChar_ascii hc, ← decomposed, ih hcs, List.singleton_append]

theorem orderOnto_ascii (h : IsAscii cs) : orderOnto done cs = cs.reverse ++ done := by
  induction cs generalizing done with
  | nil => rfl
  | cons c cs ih =>
    obtain ⟨hc, hcs⟩ := List.forall_mem_cons.mp h
    have hk : combiningClass c = 0 := combiningClass_ascii hc
    simp only [orderOnto, hk, if_true]
    rw [ih hcs, List.reverse_cons, List.append_assoc, List.singleton_append]

theorem composeFrom_ascii (h : IsAscii cs) : composeFrom starter [] 0 cs = starter :: cs := by
  induction cs generalizing starter with
  | nil => rfl
  | cons c cs ih =>
    obtain ⟨hc, hcs⟩ := List.forall_mem_cons.mp h
    have hk : combiningClass c = 0 := combiningClass_ascii hc
    have hnone : compose? starter c = none := compose?_ascii hc
    simp [composeFrom, hk, hnone, ih hcs]

theorem composeChars_ascii (h : IsAscii cs) : composeChars cs = cs := by
  cases cs with
  | nil => rfl
  | cons c cs =>
    obtain ⟨hc, hcs⟩ := List.forall_mem_cons.mp h
    rw [composeChars, if_pos (combiningClass_ascii hc), composeFrom_ascii hcs]

/-- A text that decomposes to ASCII has this as its normal form. -/
theorem normalizeChars_of_ascii (h : IsAscii (decomposed cs)) : normalizeChars cs = decomposed cs := by
  rw [normalizeChars, ← decomposed, orderOnto_ascii h, List.append_nil, List.reverse_reverse, composeChars_ascii h]

/-! ## Nothing else becomes ASCII -/

theorem toNat_ofNat_valid {n : Nat} (h : n < 0xD800) : (Char.ofNat n).toNat = n := by
  have hvalid : n.isValidChar := .inl h
  have hchar : Char.ofNat n = Char.ofNatAux n hvalid := dif_pos hvalid
  exact congrArg Char.toNat hchar

theorem great_of_hangulSyllable? {n m k : Nat} (h : hangulSyllable? n m = some k) : 0x80 ≤ (Char.ofNat k).toNat := by
  have hrange : hangulBase ≤ k ∧ k < 0xD800 := by
    rw [hangulSyllable?] at h
    split at h
    · next hletters =>
      obtain rfl := Option.some.inj h
      simp only [hangulBase, leadBase, leads, vowelBase, vowels, tails] at hletters ⊢
      omega
    · split at h
      · next hsyllable =>
        obtain rfl := Option.some.inj h
        simp only [hangulBase, leads, vowels, tailBase, tails] at hsyllable ⊢
        omega
      · cases h
  rw [toNat_ofNat_valid hrange.2]
  exact Nat.le_trans (by decide) hrange.1

/-- What a table of compositions gives is beyond ASCII. -/
theorem great_of_compositions {block : Nat × List (Nat × Nat × Nat)} {entry : Nat × Nat × Nat}
    (hblock : block ∈ compositions) (hentry : entry ∈ block.2) : 0x80 ≤ (Char.ofNat entry.2.2).toNat := by
  have hall : (compositions.all fun block => block.2.all fun entry => Nat.ble 0x80 (Char.ofNat entry.2.2).toNat) =
      true := by
    decide +kernel
  exact Nat.le_of_ble_eq_true (List.all_eq_true.mp (List.all_eq_true.mp hall block hblock) entry hentry)

/-- No two characters are composed to an ASCII character. -/
theorem great_of_compose? (h : compose? a b = some whole) : 0x80 ≤ whole.toNat := by
  rw [compose?] at h
  split at h
  · cases h
  · split at h
    · next hsyllable =>
      cases h
      exact great_of_hangulSyllable? hsyllable
    · obtain ⟨entry, hfound, rfl⟩ := Option.map_eq_some_iff.mp h
      obtain ⟨block, hblock, hentry⟩ := Option.bind_eq_some_iff.mp hfound
      exact great_of_compositions (List.mem_of_find?_eq_some hblock) (List.mem_of_find?_eq_some hentry)

theorem ascii_of_composeFrom {last : Nat} (h : IsAscii (composeFrom starter marks last cs)) :
    starter.toNat < 0x80 ∧ IsAscii marks ∧ IsAscii cs := by
  induction cs generalizing starter marks last with
  | nil =>
    obtain ⟨hstarter, hmarks⟩ := List.forall_mem_cons.mp h
    exact ⟨hstarter, fun c hc => hmarks c (List.mem_reverse.mpr hc), nofun⟩
  | cons c cs ih =>
    simp only [composeFrom] at h
    split at h
    · next whole hwhole =>
      -- The composed character stays a starter, so it would have to be ASCII as well.
      have hgreat : 0x80 ≤ whole.toNat := by
        split at hwhole
        · cases hwhole
        · exact great_of_compose? hwhole
      have hsmall := (ih h).1
      omega
    · split at h
      · obtain ⟨hstarter, hrest⟩ := List.forall_mem_cons.mp h
        obtain ⟨hmarks, hrest⟩ := List.forall_mem_append.mp hrest
        obtain ⟨hc, -, hcs⟩ := ih hrest
        exact ⟨hstarter, fun c hc => hmarks c (List.mem_reverse.mpr hc), List.forall_mem_cons.mpr ⟨hc, hcs⟩⟩
      · obtain ⟨hstarter, hmarks, hcs⟩ := ih h
        obtain ⟨hc, hmarks⟩ := List.forall_mem_cons.mp hmarks
        exact ⟨hstarter, hmarks, List.forall_mem_cons.mpr ⟨hc, hcs⟩⟩

theorem ascii_of_composeChars (h : IsAscii (composeChars cs)) : IsAscii cs := by
  induction cs with
  | nil => exact h
  | cons c cs ih =>
    rw [composeChars] at h
    split at h
    · obtain ⟨hc, -, hcs⟩ := ascii_of_composeFrom h
      exact List.forall_mem_cons.mpr ⟨hc, hcs⟩
    · obtain ⟨hc, hcs⟩ := List.forall_mem_cons.mp h
      exact List.forall_mem_cons.mpr ⟨hc, ih hcs⟩

theorem mem_insertMark {mark : Char} {k : Nat} : c ∈ insertMark mark k cs ↔ c = mark ∨ c ∈ cs := by
  induction cs with
  | nil => simp [insertMark]
  | cons d cs ih =>
    rw [insertMark]
    split
    · rw [List.mem_cons, ih, List.mem_cons, or_left_comm]
    · rw [List.mem_cons]

/-- Putting marks in order loses no character. -/
theorem mem_orderOnto : c ∈ orderOnto done cs ↔ c ∈ done ∨ c ∈ cs := by
  induction cs generalizing done with
  | nil => simp [orderOnto]
  | cons d cs ih =>
    have hstep : c ∈ (if combiningClass d = 0 then d :: done else insertMark d (combiningClass d) done) ↔
        c = d ∨ c ∈ done := by
      split
      · exact List.mem_cons
      · exact mem_insertMark
    simp only [orderOnto]
    rw [ih, hstep, List.mem_cons, or_assoc, or_left_comm]

/-- The normal form is ASCII when the characters decompose to ASCII. -/
theorem ascii_normalizeChars_iff : IsAscii (normalizeChars cs) ↔ IsAscii (decomposed cs) := by
  refine ⟨fun h c hc => ?_, fun h => by rwa [normalizeChars_of_ascii h]⟩
  rw [normalizeChars, ← decomposed] at h
  exact ascii_of_composeChars h c (List.mem_reverse.mpr (mem_orderOnto.mpr (.inr hc)))

/-! ## The lower case of ASCII -/

theorem lowerFrom_ascii (before : List Char) (h : IsAscii cs) : lowerFrom before cs = cs.map asciiLower := by
  induction cs generalizing before with
  | nil => rfl
  | cons c cs ih =>
    obtain ⟨hc, hcs⟩ := List.forall_mem_cons.mp h
    have hsigma : ¬ c.toNat = 0x3A3 := by omega
    have hdotted : ¬ c.toNat = 0x130 := by omega
    simp only [lowerFrom, hsigma, hdotted, if_false, lowerChar_small hc, ih _ hcs, List.singleton_append, List.map_cons]

end SqlAdapter.Text
