/-
Bytes as text.

The database writes bytes as a backslash, an `x` and hexadecimal digits, two for
each byte. Casting takes such a text for the bytes, white space around it aside
(`Text.trimChars_eq_iff`), and leaves other texts as they are. It reads each pair
of characters as a number, though, and a number may begin with a plus sign. So there
are texts that are taken for bytes without being written like that: those with a
plus sign in them (`Value.binary_digits_iff`).
-/
import SqlAdapter.Proofs.Text.Pieces
import SqlAdapter.Value.Cast

namespace SqlAdapter

/-! ## Two characters for each byte -/

/-- Characters and bytes, each byte written as two characters in a certain way. -/
inductive Paired (way : Char → Char → UInt8 → Prop) : List Char → List UInt8 → Prop where
  | nil : Paired way [] []
  | cons {high low : Char} {b : UInt8} {cs : List Char} {bs : List UInt8} (hb : way high low b)
      (h : Paired way cs bs) : Paired way (high :: low :: cs) (b :: bs)

namespace Paired

variable {way way' : Char → Char → UInt8 → Prop} {cs : List Char} {bs : List UInt8}

/-- The same bytes are written in another way, if that does not differ on the characters of the text. -/
theorem imp (h : Paired way cs bs) (hway : ∀ high ∈ cs, ∀ low ∈ cs, ∀ b, way high low b → way' high low b) :
    Paired way' cs bs := by
  induction h with
  | nil => exact .nil
  | @cons high low b cs bs hb h ih =>
    have hhigh : high ∈ high :: low :: cs := List.mem_cons_self ..
    have hlow : low ∈ high :: low :: cs := List.mem_cons_of_mem _ (List.mem_cons_self ..)
    have hmore : ∀ c ∈ cs, c ∈ high :: low :: cs := fun c hc => List.mem_cons_of_mem _ (List.mem_cons_of_mem _ hc)
    exact .cons (hway high hhigh low hlow b hb) (ih fun high h low l => hway high (hmore high h) low (hmore low l))

/-- The characters are those of the pairs. -/
theorem exists_of_mem (h : Paired way cs bs) {c : Char} (hc : c ∈ cs) :
    ∃ high low b, way high low b ∧ (c = high ∨ c = low) := by
  induction h with
  | nil => cases hc
  | @cons high low b cs bs hb h ih =>
    rcases List.mem_cons.mp hc with rfl | hc
    · exact ⟨_, low, b, hb, .inl rfl⟩
    · rcases List.mem_cons.mp hc with rfl | hc
      · exact ⟨high, _, b, hb, .inr rfl⟩
      · exact ih hc

theorem exists_of_getLast? (h : Paired way cs bs) {c : Char} (hc : cs.getLast? = some c) :
    ∃ high b, way high c b := by
  induction h with
  | nil => cases hc
  | @cons high low b cs bs hb h ih =>
    rw [List.getLast?_cons_cons] at hc
    cases cs with
    | nil =>
      cases hc
      exact ⟨high, b, hb⟩
    | cons d cs =>
      rw [List.getLast?_cons_cons] at hc
      exact ih hc

end Paired

namespace Value

/-- A byte as two hexadecimal digits. -/
def ByDigits (high low : Char) (b : UInt8) : Prop :=
  ∃ h, hexValue? high = some h ∧ ∃ l, hexValue? low = some l ∧ UInt8.ofNat (h * 16 + l) = b

/-- A byte as a plus sign and one hexadecimal digit. -/
def BySign (high low : Char) (b : UInt8) : Prop := high = '+' ∧ ∃ l, hexValue? low = some l ∧ UInt8.ofNat l = b

/-- A byte as two characters that are read as a number. -/
def ByNumber (high low : Char) (b : UInt8) : Prop := ByDigits high low b ∨ BySign high low b

theorem byte?_eq_some_iff {high low : Char} {b : UInt8} : byte? high low = some b ↔ ByNumber high low b := by
  rw [byte?]
  split
  · next hhigh =>
    have hsign : hexValue? '+' = none := rfl
    simp [ByNumber, ByDigits, BySign, hhigh, hsign]
  · next hhigh => simp [ByNumber, ByDigits, BySign, hhigh, Option.bind_eq_some_iff]

theorem bytePairs?_eq_some_iff : ∀ {cs : List Char} {bs : List UInt8},
    bytePairs? cs = some bs ↔ Paired ByNumber cs bs
  | [], bs => by
    rw [bytePairs?, Option.some.injEq]
    constructor
    · rintro rfl
      exact .nil
    · rintro ⟨⟩
      rfl
  | [c], bs => by
    refine iff_of_false (by simp [bytePairs?]) ?_
    rintro ⟨⟩
  | high :: low :: cs, bs => by
    simp only [bytePairs?, Option.bind_eq_bind, Option.bind_eq_some_iff, Option.pure_def, Option.some.injEq]
    constructor
    · rintro ⟨b, hb, more, hmore, rfl⟩
      exact .cons (byte?_eq_some_iff.mp hb) (bytePairs?_eq_some_iff.mp hmore)
    · intro h
      cases h with
      | cons hb hmore => exact ⟨_, byte?_eq_some_iff.mpr hb, _, bytePairs?_eq_some_iff.mpr hmore, rfl⟩

theorem hexValue?_range {c : Char} {n : Nat} (h : hexValue? c = some n) :
    48 ≤ c.toNat ∧ c.toNat ≤ 57 ∨ 97 ≤ c.toNat ∧ c.toNat ≤ 102 ∨ 65 ≤ c.toNat ∧ c.toNat ≤ 70 := by
  rw [hexValue?] at h
  split at h
  · next hc => exact .inl hc
  · split at h
    · next hc => exact .inr (.inl hc)
    · split at h
      · next hc => exact .inr (.inr hc)
      · cases h

theorem isBlank_of_hexValue? {c : Char} {n : Nat} (h : hexValue? c = some n) : Text.isBlank c = false := by
  have hc := hexValue?_range h
  simp only [Text.isBlank, Bool.or_eq_false_iff, Bool.and_eq_false_iff, decide_eq_false_iff_not]
  omega

/-- The last character of a byte is a digit, either way. -/
theorem isBlank_low {high low : Char} {b : UInt8} (h : ByNumber high low b) : Text.isBlank low = false := by
  rcases h with ⟨_, _, _, hlow, _⟩ | ⟨_, _, hlow, _⟩
  · exact isBlank_of_hexValue? hlow
  · exact isBlank_of_hexValue? hlow

/-! ## Texts for bytes -/

/-- A text for bytes, each of them written in a certain way, and white space around it. -/
def ByteText (way : Char → Char → UInt8 → Prop) (text : String) (bs : List UInt8) : Prop :=
  ∃ pairs, Text.Around text.toList ('\\' :: 'x' :: pairs) ∧ Paired way pairs bs

theorem bytes?_eq_some_iff {cs : List Char} {bs : List UInt8} :
    bytes? cs = some bs ↔ ∃ pairs, cs = '\\' :: 'x' :: pairs ∧ bytePairs? pairs = some bs := by
  unfold bytes?
  split
  · next pairs => simp
  · next hother =>
    refine iff_of_false (by simp) ?_
    rintro ⟨pairs, hcs, -⟩
    exact hother pairs hcs

theorem bytes?_trimmed_iff {text : String} {bs : List UInt8} :
    bytes? (trimmed text) = some bs ↔ ByteText ByNumber text bs := by
  simp only [bytes?_eq_some_iff, bytePairs?_eq_some_iff, ByteText, trimmed]
  refine exists_congr fun pairs => and_congr_left fun hpairs => ?_
  refine Text.trimChars_eq_iff ?_ ?_
  · intro c hc
    cases hc
    rfl
  · intro c hc
    rw [Option.mem_def, List.getLast?_cons_cons] at hc
    cases pairs with
    | nil =>
      cases hc
      rfl
    | cons d pairs =>
      rw [List.getLast?_cons_cons] at hc
      obtain ⟨high, b, hb⟩ := hpairs.exists_of_getLast? hc
      exact isBlank_low hb

/-- A plus sign is neither white space nor a hexadecimal digit. -/
theorem ByteText.no_plus {text : String} {bs : List UInt8} (h : ByteText ByDigits text bs) : '+' ∉ text.toList := by
  have hblank : Text.isBlank '+' = false := rfl
  have hsign : hexValue? '+' = none := rfl
  obtain ⟨pairs, ⟨before, after, htext, hbefore, hafter⟩, hpairs⟩ := h
  intro hplus
  rw [htext] at hplus
  simp only [List.mem_append, List.mem_cons, Char.reduceEq, false_or] at hplus
  rcases hplus with (hplus | hplus) | hplus
  · exact absurd (hbefore _ hplus) (by simp [hblank])
  · obtain ⟨high, low, b, ⟨_, hhigh, _, hlow, _⟩, rfl | rfl⟩ := hpairs.exists_of_mem hplus
    · exact absurd hhigh (by simp [hsign])
    · exact absurd hlow (by simp [hsign])
  · exact absurd (hafter _ hplus) (by simp [hblank])

/-- Pairs without a plus sign are digits, and digits have none. -/
theorem byDigits_iff {text : String} {bs : List UInt8} :
    ByteText ByDigits text bs ↔ ByteText ByNumber text bs ∧ '+' ∉ text.toList := by
  constructor
  · intro h
    have hplus := h.no_plus
    obtain ⟨pairs, haround, hpairs⟩ := h
    exact ⟨⟨pairs, haround, hpairs.imp fun _ _ _ _ _ => .inl⟩, hplus⟩
  · intro ⟨⟨pairs, haround, hpairs⟩, hplus⟩
    refine ⟨pairs, haround, hpairs.imp fun high hhigh low _ b hb => ?_⟩
    rcases hb with hb | ⟨rfl, _⟩
    · exact hb
    · obtain ⟨before, after, htext, -⟩ := haround
      refine absurd ?_ hplus
      rw [htext]
      simp [hhigh]

/-- A text is cast to bytes when it is, white space around it aside, a backslash, an `x` and two characters for each
byte: two hexadecimal digits, or a plus sign and one. It has digits only exactly when it is cast to bytes and has no
plus sign in it. A text that is not cast to bytes stays as it is. -/
theorem binary_digits_iff (text : String) :
    (∀ bs, AttributeType.binary.cast (.string text) = .bytes bs ↔ ByteText ByNumber text bs) ∧
    (∀ bs, ByteText ByDigits text bs ↔
      AttributeType.binary.cast (.string text) = .bytes bs ∧ '+' ∉ text.toList) ∧
    (AttributeType.binary.cast (.string text) = .string text ∨
      ∃ bs, AttributeType.binary.cast (.string text) = .bytes bs) := by
  have hcast : AttributeType.binary.cast (.string text) =
      ((bytes? (trimmed text)).map Value.bytes).getD (.string text) := rfl
  have hread : ∀ bs, AttributeType.binary.cast (.string text) = .bytes bs ↔ ByteText ByNumber text bs := by
    intro bs
    rw [hcast, ← bytes?_trimmed_iff]
    cases bytes? (trimmed text) <;> simp
  refine ⟨hread, fun bs => ?_, ?_⟩
  · rw [hread, byDigits_iff]
  · rw [hcast]
    cases bytes? (trimmed text) with
    | none => exact .inl rfl
    | some bs => exact .inr ⟨bs, rfl⟩

/-- A plus sign and a digit for a byte. -/
example : AttributeType.binary.cast (.string " \\x+f0a\n") = .bytes [15, 10] := by rfl

end Value

end SqlAdapter
