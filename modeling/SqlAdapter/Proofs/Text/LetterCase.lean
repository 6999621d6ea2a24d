/-
Letter case: which texts have a certain lower case.

Lower-casing goes character by character, but for a capital sigma it looks at the
letters around it. `Lowered` leaves this out and keeps what each character can
become. Few characters become an ASCII letter: the two forms of the letter itself,
the Kelvin sign as `k`, and dotted capital I as `i` with a dot behind it. So a text
without `k`, of small letters, blanks and brackets, is the lower case of nothing but
its own spellings (`lowercase_eq_iff`).
-/
import Mathlib.Data.List.Forall2
import SqlAdapter.Text.Blank
import SqlAdapter.Text.Digits
import SqlAdapter.Text.Lowercase

namespace SqlAdapter

namespace Text

/-- A text that spells a word with any of its letters as capitals. -/
def InAnyCase (cs word : List Char) : Prop := List.Forall₂ (fun c letter => c = letter ∨ c = letter.toUpper) cs word

/-! ## Characters -/

/-- Is this an ASCII capital? -/
def isCapital (c : Char) : Bool := inRanges [(0x41, 0x5A)] c

/-- Blanks, brackets, and the small letters of ASCII but for `k`. -/
def plainRanges : List (Nat × Nat) :=
  [(9, 13), (0x20, 0x20), (0x5B, 0x5B), (0x5D, 0x5D), (0x61, 0x6A), (0x6C, 0x7A), (0x85, 0x85), (0xA0, 0xA0),
    (0x1680, 0x1680), (0x2000, 0x200A), (0x2028, 0x2029), (0x202F, 0x202F), (0x205F, 0x205F), (0x3000, 0x3000)]

def isPlain (c : Char) : Bool := inRanges plainRanges c

theorem inRanges_iff {ranges : List (Nat × Nat)} {c : Char} :
    inRanges ranges c = true ↔ ∃ range ∈ ranges, range.1 ≤ c.toNat ∧ c.toNat ≤ range.2 := by
  simp [inRanges]

theorem isCapital_iff {c : Char} : isCapital c = true ↔ 65 ≤ c.toNat ∧ c.toNat ≤ 90 := by
  simp [isCapital, inRanges]

theorem isPlain_of_isBlank {c : Char} (h : isBlank c = true) : isPlain c = true := by
  have hrange : ∀ low high, (low, high) ∈ plainRanges → low ≤ c.toNat ∧ c.toNat ≤ high → isPlain c = true :=
    fun low high hmem hc => inRanges_iff.mpr ⟨(low, high), hmem, hc⟩
  simp only [isBlank, Bool.or_eq_true, Bool.and_eq_true, decide_eq_true_eq, or_assoc] at h
  rcases h with h | h | h | h | h | h | h | h | h | h | h
  · exact hrange 9 13 (by decide) h
  · exact hrange 0x20 0x20 (by decide) (by omega)
  · exact hrange 0x85 0x85 (by decide) (by omega)
  · exact hrange 0xA0 0xA0 (by decide) (by omega)
  · exact hrange 0x1680 0x1680 (by decide) (by omega)
  · exact hrange 0x2000 0x200A (by decide) h
  · exact hrange 0x2028 0x2029 (by decide) (by omega)
  · exact hrange 0x2028 0x2029 (by decide) (by omega)
  · exact hrange 0x202F 0x202F (by decide) (by omega)
  · exact hrange 0x205F 0x205F (by decide) (by omega)
  · exact hrange 0x3000 0x3000 (by decide) (by omega)

theorem isCapital_of_isPlain {c : Char} (h : isPlain c = true) : isCapital c = false := by
  have hapart : ∀ range ∈ plainRanges, range.2 < 65 ∨ 90 < range.1 := by decide
  obtain ⟨range, hrange, hlow, hhigh⟩ := inRanges_iff.mp h
  have hout := hapart range hrange
  refine Bool.eq_false_iff.mpr fun hcapital => ?_
  have hcode := isCapital_iff.mp hcapital
  omega

theorem toUpper_of_small {c : Char} (h : 97 ≤ c.toNat ∧ c.toNat ≤ 122) : c.toUpper.toNat + 32 = c.toNat := by
  have hsmall : 'a'.val ≤ c.val ∧ c.val ≤ 'z'.val := h
  have hshift : ('A'.val - 'a'.val).toNat = 2 ^ 32 - 32 := rfl
  have hupper : c.toUpper = ⟨c.val + ('A'.val - 'a'.val), _⟩ := dif_pos hsmall
  rw [hupper, Char.toNat_mk, UInt32.toNat_add, hshift, Char.toNat_val]
  omega

theorem toUpper_of_other {c : Char} (h : ¬ (97 ≤ c.toNat ∧ c.toNat ≤ 122)) : c.toUpper = c := dif_neg h

theorem toUpper_of_isBlank {c : Char} (h : isBlank c = true) : c.toUpper = c := by
  refine toUpper_of_other fun hsmall => ?_
  simp only [isBlank, Bool.or_eq_true, Bool.and_eq_true, decide_eq_true_eq] at h
  omega

/-- The capital of a character is the character itself or an ASCII capital. -/
theorem toUpper_cases (c : Char) : c.toUpper = c ∨ isCapital c.toUpper = true := by
  by_cases hc : 97 ≤ c.toNat ∧ c.toNat ≤ 122
  · have hupper := toUpper_of_small hc
    refine .inr (isCapital_iff.mpr ?_)
    omega
  · exact .inl (toUpper_of_other hc)

/-- What holds of the numbers of a range of ASCII holds of its characters. -/
theorem forall_ascii {P : Char → Prop} {low high : Nat} (h : ∀ n, n < high + 1 → low ≤ n → P (Char.ofNat n)) {c : Char}
    (hc : low ≤ c.toNat ∧ c.toNat ≤ high) : P c := by
  have hcode := h c.toNat (by omega) hc.1
  rwa [Char.ofNat_toNat] at hcode

/-- The lower case of a capital is the letter whose capital it is. -/
theorem asciiLower_capital {c : Char} (h : isCapital c = true) :
    (asciiLower c).toUpper = c ∧ isCapital (asciiLower c) = false :=
  forall_ascii (P := fun c => (asciiLower c).toUpper = c ∧ isCapital (asciiLower c) = false) (by decide)
    (isCapital_iff.mp h)

theorem asciiLower_toUpper {c : Char} (h : 97 ≤ c.toNat ∧ c.toNat ≤ 122) : asciiLower c.toUpper = c :=
  forall_ascii (P := fun c => asciiLower c.toUpper = c) (by decide) h

theorem asciiLower_of_not_capital {c : Char} (h : isCapital c = false) : asciiLower c = c :=
  if_neg fun hc => Bool.false_ne_true (h.symm.trans (isCapital_iff.mpr hc))

/-- A character that is no capital is the lower case of itself and of its capital. -/
theorem asciiLower_eq_iff {c letter : Char} (h : isCapital letter = false) :
    asciiLower c = letter ↔ c = letter ∨ c = letter.toUpper := by
  cases hc : isCapital c with
  | true =>
    constructor
    · rintro rfl
      exact .inr (asciiLower_capital hc).1.symm
    · rintro (rfl | rfl)
      · exact absurd (h.symm.trans hc) Bool.false_ne_true
      · by_cases hsmall : 97 ≤ letter.toNat ∧ letter.toNat ≤ 122
        · exact asciiLower_toUpper hsmall
        · rw [toUpper_of_other hsmall] at hc
          exact absurd (h.symm.trans hc) Bool.false_ne_true
  | false =>
    rw [asciiLower_of_not_capital hc]
    refine ⟨.inl, ?_⟩
    rintro (rfl | rfl)
    · rfl
    · rcases toUpper_cases letter with hsame | hcapital
      · exact hsame
      · exact absurd (hc.symm.trans hcapital) Bool.false_ne_true

theorem toNat_ofNat (n : Nat) : (Char.ofNat n).toNat = n ∨ (Char.ofNat n).toNat = 0 := by
  by_cases hvalid : n.isValidChar
  · have hchar : Char.ofNat n = Char.ofNatAux n hvalid := dif_pos hvalid
    exact .inl (congrArg Char.toNat hchar)
  · have hchar : Char.ofNat n = '\x00' := dif_neg hvalid
    exact .inr (congrArg Char.toNat hchar)

/-- The capitals and the plain characters. -/
def settledRanges : List (Nat × Nat) := (0x41, 0x5A) :: plainRanges

/-- The letters beyond ASCII and their lower cases are neither capitals nor plain. -/
theorem lowerRuns_apart {first last step lower : Nat} (h : (first, last, step, lower) ∈ lowerRuns)
    (hlast : 0x80 ≤ last) : ∀ range ∈ settledRanges,
      (last < range.1 ∨ range.2 < first) ∧ (lower + (last - first) < range.1 ∨ range.2 < lower) := by
  have hall : (lowerRuns.all fun run => run.2.1.blt 0x80 || settledRanges.all fun range =>
      (run.2.1.blt range.1 || range.2.blt run.1) &&
        ((run.2.2.2 + (run.2.1 - run.1)).blt range.1 || range.2.blt run.2.2.2)) = true := by
    decide +kernel
  have hrun := List.all_eq_true.mp hall _ h
  simp only [Bool.or_eq_true, List.all_eq_true, Bool.and_eq_true, Nat.blt_eq, Prod.forall] at hrun
  intro range hrange
  exact hrun.resolve_left (by omega) range.1 range.2 hrange

/-- Is the character neither a capital nor plain? -/
def isForeign (c : Char) : Bool := !inRanges settledRanges c

theorem isForeign_iff {c : Char} :
    isForeign c = true ↔ ∀ range ∈ settledRanges, c.toNat < range.1 ∨ range.2 < c.toNat := by
  simp [isForeign, inRanges, imp_iff_not_or]

theorem not_foreign_of_isPlain {c : Char} (h : isPlain c = true) : isForeign c = false := by
  obtain ⟨range, hrange, hc⟩ := inRanges_iff.mp h
  have hsettled : inRanges settledRanges c = true := inRanges_iff.mpr ⟨range, List.mem_cons_of_mem _ hrange, hc⟩
  rw [isForeign, hsettled]
  rfl

theorem not_foreign_of_isCapital {c : Char} (h : isCapital c = true) : isForeign c = false := by
  have hsettled : inRanges settledRanges c = true :=
    inRanges_iff.mpr ⟨(0x41, 0x5A), List.mem_cons_self .., isCapital_iff.mp h⟩
  rw [isForeign, hsettled]
  rfl

/-- A character beyond ASCII stays, or neither it nor its lower case is a capital or plain. -/
theorem lowerChar_great {c : Char} (h : 0x80 ≤ c.toNat) :
    lowerChar c = c ∨ isForeign c = true ∧ isForeign (lowerChar c) = true := by
  have hsmall : ¬ c.toNat < 0x80 := by omega
  simp only [lowerChar, if_neg hsmall]
  split
  · next first last step lower hfound =>
    have hmem := List.mem_of_find?_eq_some hfound
    have hrun := List.find?_some hfound
    simp only [Bool.and_eq_true, decide_eq_true_eq] at hrun
    obtain ⟨⟨hfirst, hlast⟩, -⟩ := hrun
    refine .inr ?_
    have hapart := lowerRuns_apart hmem (Nat.le_trans h hlast)
    refine ⟨isForeign_iff.mpr fun range hrange => ?_, isForeign_iff.mpr fun range hrange => ?_⟩
    · have hrange' := (hapart range hrange).1
      omega
    · have hrange' := (hapart range hrange).2
      have hpositive : ∀ range ∈ settledRanges, 0 < range.1 := by decide
      have hzero := hpositive range hrange
      rcases toNat_ofNat (lower + (c.toNat - first)) with hcode | hcode <;> omega
  · exact .inl rfl

theorem lowerChar_small {c : Char} (h : c.toNat < 0x80) : lowerChar c = asciiLower c := if_pos h

/-- A plain character is the lower case of itself and of its capital. -/
theorem lowerChar_eq_iff {c letter : Char} (h : isPlain letter = true) :
    lowerChar c = letter ↔ c = letter ∨ c = letter.toUpper := by
  have hcapital := isCapital_of_isPlain h
  by_cases hc : c.toNat < 0x80
  · rw [lowerChar_small hc]
    exact asciiLower_eq_iff hcapital
  · have hupper : c = letter.toUpper → c = letter := by
      intro heq
      rcases toUpper_cases letter with hsame | hcap
      · exact heq.trans hsame
      · rw [← heq, isCapital_iff] at hcap
        omega
    rcases lowerChar_great (Nat.le_of_not_lt hc) with hsame | ⟨hforeign, hlower⟩
    · rw [hsame]
      exact ⟨.inl, fun heq => heq.elim id hupper⟩
    · refine iff_of_false ?_ ?_
      · rintro rfl
        exact absurd (hlower.symm.trans (not_foreign_of_isPlain h)) (by decide)
      · intro heq
        obtain rfl := heq.elim id hupper
        exact absurd (hforeign.symm.trans (not_foreign_of_isPlain h)) (by decide)

theorem isCapital_lowerChar (c : Char) : isCapital (lowerChar c) = false := by
  by_cases hc : c.toNat < 0x80
  · rw [lowerChar_small hc]
    cases hcapital : isCapital c with
    | true => exact (asciiLower_capital hcapital).2
    | false => rw [asciiLower_of_not_capital hcapital, hcapital]
  · rcases lowerChar_great (Nat.le_of_not_lt hc) with hsame | ⟨-, hlower⟩
    · rw [hsame, ← Bool.not_eq_true, isCapital_iff]
      omega
    · by_contra hcapital
      rw [Bool.not_eq_false] at hcapital
      exact absurd (hlower.symm.trans (not_foreign_of_isCapital hcapital)) (by decide)

/-! ## Texts -/

namespace InAnyCase

variable {cs word : List Char}

theorem refl (word : List Char) : InAnyCase word word := List.forall₂_same.mpr fun _ _ => .inl rfl

/-- A word whose characters have no capitals has one spelling. -/
theorem eq_of_uncased (huncased : ∀ letter ∈ word, letter.toUpper = letter) (h : InAnyCase cs word) : cs = word := by
  induction h with
  | nil => rfl
  | cons hletter _ ih =>
    obtain ⟨hupper, huncased⟩ := List.forall_mem_cons.mp huncased
    rw [ih huncased]
    rcases hletter with rfl | rfl
    · rfl
    · rw [hupper]

theorem eq_of_no_capital (hcapital : ∀ c ∈ cs, isCapital c = false) (h : InAnyCase cs word) : cs = word := by
  induction h with
  | nil => rfl
  | @cons c letter cs word hletter _ ih =>
    obtain ⟨hc, hcs⟩ := List.forall_mem_cons.mp hcapital
    rw [ih hcs]
    rcases hletter with rfl | rfl
    · rfl
    · rcases toUpper_cases letter with hsame | hcap
      · rw [hsame]
      · exact absurd (hc.symm.trans hcap) (by decide)

theorem not_blank (hword : ∀ letter ∈ word, isBlank letter = false) (h : InAnyCase cs word) :
    ∀ c ∈ cs, isBlank c = false := by
  induction h with
  | nil => exact fun _ hc => nomatch hc
  | @cons c letter cs word hletter _ ih =>
    obtain ⟨hfirst, hword⟩ := List.forall_mem_cons.mp hword
    refine List.forall_mem_cons.mpr ⟨Bool.eq_false_iff.mpr fun hc => ?_, ih hword⟩
    rcases hletter with rfl | rfl
    · exact absurd (hfirst.symm.trans hc) Bool.false_ne_true
    · rcases toUpper_cases letter with hsame | hcapital
      · rw [hsame] at hc
        exact absurd (hfirst.symm.trans hc) Bool.false_ne_true
      · have hplain := isCapital_of_isPlain (isPlain_of_isBlank hc)
        exact absurd (hplain.symm.trans hcapital) Bool.false_ne_true

end InAnyCase

/-- What a character becomes, whatever stands around it: its own lower case, or, where it is foreign, something that ends
with a foreign character. -/
inductive Becomes : Char → List Char → Prop where
  | alone (c : Char) : Becomes c [lowerChar c]
  | other {c last : Char} {before : List Char} (hc : isForeign c = true) (hlast : isForeign last = true)
      (hbefore : ∀ d ∈ before, isCapital d = false ∧ d ≠ ']') : Becomes c (before ++ [last])

/-- What a text becomes, character by character. -/
inductive Lowered : List Char → List Char → Prop where
  | nil : Lowered [] []
  | cons {c : Char} {image cs ds : List Char} (hc : Becomes c image) (h : Lowered cs ds) :
    Lowered (c :: cs) (image ++ ds)

theorem lowered_lowerFrom (before cs : List Char) : Lowered cs (lowerFrom before cs) := by
  induction cs generalizing before with
  | nil => exact .nil
  | cons c cs ih =>
    have hforeign : ∀ n, (∀ range ∈ settledRanges, n < range.1 ∨ range.2 < n) → c.toNat = n → isForeign c = true :=
      fun n hn hc => isForeign_iff.mpr (hc ▸ hn)
    refine .cons ?_ (ih _)
    split
    · next hsigma =>
      have hc := hforeign 0x3A3 (by decide) hsigma
      split
      · exact @Becomes.other c _ [] hc (by decide) (by simp)
      · exact @Becomes.other c _ [] hc (by decide) (by simp)
    · split
      · next hdotted =>
        exact @Becomes.other c _ ['i'] (hforeign 0x130 (by decide) hdotted) (by decide)
          (List.forall_mem_singleton.mpr (by decide))
      · exact .alone c

namespace Lowered

variable {cs ds us vs xs word : List Char}

theorem append (h : Lowered (us ++ vs) ds) :
    ∃ first second, ds = first ++ second ∧ Lowered us first ∧ Lowered vs second := by
  induction us generalizing ds with
  | nil => exact ⟨[], ds, rfl, .nil, h⟩
  | cons c us ih =>
    cases h with
    | cons hc h =>
      obtain ⟨first, second, rfl, hfirst, hsecond⟩ := ih h
      exact ⟨_, second, (List.append_assoc ..).symm, .cons hc hfirst, hsecond⟩

/-- A spelling of a plain word becomes the word. -/
theorem eq_of_inAnyCase (hplain : ∀ c ∈ word, isPlain c = true) (hcase : InAnyCase cs word) (h : Lowered cs ds) :
    ds = word := by
  induction hcase generalizing ds with
  | nil =>
    cases h
    rfl
  | @cons c letter cs word hletter _ ih =>
    obtain ⟨hc, hplain⟩ := List.forall_mem_cons.mp hplain
    cases h with
    | cons hbecomes h =>
      rw [ih hplain h]
      cases hbecomes with
      | alone => rw [(lowerChar_eq_iff hc).mpr hletter, List.singleton_append]
      | other hforeign =>
        have hknown : isForeign c = false := by
          rcases hletter with rfl | rfl
          · exact not_foreign_of_isPlain hc
          · rcases toUpper_cases letter with hsame | hcapital
            · rw [hsame]
              exact not_foreign_of_isPlain hc
            · exact not_foreign_of_isCapital hcapital
        exact absurd (hknown.symm.trans hforeign) (by decide)

theorem eq_nil (h : Lowered cs []) : cs = [] := by
  generalize hds : [] = ds at h
  cases h with
  | nil => rfl
  | cons hc =>
    cases hc with
    | alone => cases hds
    | other => simp at hds

/-- Plain characters at the end of the lower case were spelled at the end of the text. -/
theorem exists_spelling (hplain : ∀ c ∈ word, isPlain c = true) (h : Lowered cs (xs ++ word)) :
    ∃ us vs, cs = us ++ vs ∧ Lowered us xs ∧ InAnyCase vs word := by
  generalize hds : xs ++ word = ds at h
  induction h generalizing xs word with
  | nil =>
    obtain ⟨rfl, rfl⟩ := List.append_eq_nil_iff.mp hds
    exact ⟨[], [], rfl, .nil, .nil⟩
  | @cons c image cs ds hc h ih =>
    have hbehind : ∀ more, xs = image ++ more → more ++ word = ds →
        ∃ us vs, c :: cs = us ++ vs ∧ Lowered us xs ∧ InAnyCase vs word := by
      rintro more rfl hmore
      obtain ⟨us, vs, rfl, hus, hvs⟩ := ih hplain hmore
      exact ⟨c :: us, vs, rfl, .cons hc hus, hvs⟩
    -- The word may begin inside of what the character becomes: then that is the letter itself, since all else a
    -- character becomes ends with a foreign one.
    rcases List.append_eq_append_iff.mp hds with ⟨own, himage, hword⟩ | ⟨more, hxs, hmore⟩
    · by_cases hown : own = []
      · subst hown
        refine hbehind [] ?_ hword
        rw [himage, List.append_nil, List.append_nil]
      · cases hc with
        | alone =>
          cases xs with
          | nil =>
            obtain rfl : own = [lowerChar c] := himage.symm
            obtain rfl : word = lowerChar c :: ds := hword
            obtain ⟨hletter, hplain⟩ := List.forall_mem_cons.mp hplain
            obtain ⟨us, vs, rfl, hus, hvs⟩ := ih hplain (List.nil_append _)
            obtain rfl := hus.eq_nil
            exact ⟨[], c :: vs, rfl, .nil, .cons ((lowerChar_eq_iff hletter).mp rfl) hvs⟩
          | cons x xs =>
            simp only [List.cons_append, List.cons.injEq, List.nil_eq, List.append_eq_nil_iff] at himage
            exact absurd himage.2.2 hown
        | @other last before _ hlast =>
          have hend : own.getLast? = some last := by
            have hwhole := congrArg List.getLast? himage
            rw [List.getLast?_concat, List.getLast?_append_of_ne_nil _ hown] at hwhole
            exact hwhole.symm
          have hknown := not_foreign_of_isPlain (hplain last (by simp [hword, List.mem_of_getLast? hend]))
          exact absurd (hknown.symm.trans hlast) (by decide)
    · exact hbehind more hxs hmore.symm

/-- No lower case has a capital. -/
theorem no_capital (h : Lowered cs ds) : ∀ d ∈ ds, isCapital d = false := by
  induction h with
  | nil => exact fun _ hd => nomatch hd
  | cons hc _ ih =>
    refine List.forall_mem_append.mpr ⟨?_, ih⟩
    cases hc with
    | alone => exact List.forall_mem_singleton.mpr (isCapital_lowerChar _)
    | other _ hlast hbefore =>
      refine List.forall_mem_append.mpr ⟨fun d hd => (hbefore d hd).1, List.forall_mem_singleton.mpr ?_⟩
      by_contra hcapital
      rw [Bool.not_eq_false] at hcapital
      exact absurd (hlast.symm.trans (not_foreign_of_isCapital hcapital)) (by decide)

/-- Lower-casing makes and takes away no closing bracket. -/
theorem count_bracket (h : Lowered cs ds) : ds.count ']' = cs.count ']' := by
  induction h with
  | nil => rfl
  | @cons c image cs ds hc _ ih =>
    have himage : image.count ']' = [c].count ']' := by
      cases hc with
      | alone =>
        have hbracket : lowerChar c = ']' ↔ c = ']' := (lowerChar_eq_iff (by decide)).trans (or_self_iff)
        by_cases hc : c = ']'
        · rw [hbracket.mpr hc, hc]
        · rw [List.count_singleton, List.count_singleton, beq_false_of_ne hc, beq_false_of_ne (mt hbracket.mp hc)]
      | other hforeign hlast hbefore =>
        have hknown : ∀ d, isForeign d = true → d ≠ ']' := by
          rintro d hd rfl
          exact absurd hd (by decide)
        rw [List.count_eq_zero_of_not_mem, List.count_eq_zero_of_not_mem]
        · simpa using (hknown _ hforeign).symm
        · rintro hmem
          rcases List.mem_append.mp hmem with hd | hd
          · exact (hbefore _ hd).2 rfl
          · exact hknown _ hlast (List.mem_singleton.mp hd).symm
    rw [List.count_append, himage, ih, ← List.count_append]
    rfl

end Lowered

/-- A text whose lower case is plain is a spelling of it. -/
theorem lowercase_eq_iff {text word : String} (hplain : ∀ c ∈ word.toList, isPlain c = true) :
    lowercase text = word ↔ InAnyCase text.toList word.toList := by
  have hlowered := lowered_lowerFrom [] text.toList
  rw [lowercase, ← String.toList_inj, String.toList_ofList]
  constructor
  · intro h
    rw [h, ← List.nil_append word.toList] at hlowered
    obtain ⟨us, vs, htext, hus, hvs⟩ := hlowered.exists_spelling hplain
    rw [hus.eq_nil, List.nil_append] at htext
    rwa [htext]
  · exact fun h => hlowered.eq_of_inAnyCase hplain h

theorem map_asciiLower_eq_iff {cs word : List Char} (h : ∀ c ∈ word, isCapital c = false) :
    cs.map asciiLower = word ↔ InAnyCase cs word := by
  induction cs generalizing word with
  | nil => cases word <;> simp [InAnyCase]
  | cons c cs ih =>
    cases word with
    | nil => simp [InAnyCase]
    | cons letter word =>
      obtain ⟨hletter, hword⟩ := List.forall_mem_cons.mp h
      rw [List.map_cons, List.cons.injEq, asciiLower_eq_iff hletter, ih hword, InAnyCase, InAnyCase, List.forall₂_cons]

end Text

/-- A text that is a word without capitals, but for case, is a spelling of it. -/
theorem sameIgnoringCase_iff {text word : String} (h : ∀ c ∈ word.toList, Text.isCapital c = false) :
    sameIgnoringCase text word = true ↔ Text.InAnyCase text.toList word.toList := by
  have hword : word.toList.map asciiLower = word.toList := by
    rw [List.map_congr_left fun c hc => Text.asciiLower_of_not_capital (h c hc), List.map_id']
  rw [sameIgnoringCase, beq_iff_eq, hword]
  exact Text.map_asciiLower_eq_iff h

end SqlAdapter
