/-
Type tags: what a tag names, and what column an attribute of it gets.

`Tagged` says how a tag is written: white space, the name of a type in any letter
case, and array suffixes with white space anywhere between them. Reading cuts one
suffix off the end and lower-cases at each level. `Reads` is this recursion without any
bound on its levels: it comes to an end on every text, with what `ofTag` answers
(`exists_reads`, `Reads.eq_ofTag`), and reads exactly what is `Tagged` (`Reads.of_tagged`,
`Reads.of_unknown`). Best effort keeps every other tag, but only one without a suffix
has a column (`bestEffort_column_iff`).
-/
import SqlAdapter.Proofs.Result
import SqlAdapter.Proofs.Text.LetterCase
import SqlAdapter.Proofs.Text.Pieces
import SqlAdapter.Schema.Column

namespace SqlAdapter

namespace AttributeType

open Text (isBlank isPlain isCapital InAnyCase Lowered)

/-! ## How a tag is written -/

/-- White space with so many array suffixes in it. -/
inductive Suffixes : List Char → Nat → Prop where
  | blank {cs : List Char} (h : ∀ c ∈ cs, isBlank c = true) : Suffixes cs 0
  | array {before cs : List Char} {n : Nat} (hbefore : ∀ c ∈ before, isBlank c = true) (h : Suffixes cs n) :
    Suffixes (before ++ '[' :: ']' :: cs) (n + 1)

/-- A tag that names a type, with so many array suffixes behind the name. -/
def Tagged (tag : String) (n : Nat) (type : AttributeType) : Prop :=
  ∃ before name word suffixes, tag.toList = before ++ name ++ suffixes ∧ (∀ c ∈ before, isBlank c = true) ∧
    named? word = some type ∧ InAnyCase name word.toList ∧ Suffixes suffixes n

/-- A tag that names a type, array suffixes aside. -/
def Known (tag : String) : Prop := ∃ n type, Tagged tag n type

/-- A tag with an array suffix at its end, whatever stands before. -/
def Suffixed (tag : String) : Prop :=
  ∃ front after, tag.toList = front ++ '[' :: ']' :: after ∧ ∀ c ∈ after, isBlank c = true

/-- The type of arrays of arrays, so many times, of a type. -/
def arrayed : Nat → AttributeType → AttributeType
  | 0, type => type
  | n + 1, type => .array (arrayed n type)

/-- The last suffix stands alone behind the others. -/
theorem suffixes_succ_iff {cs : List Char} {n : Nat} : Suffixes cs (n + 1) ↔
    ∃ front after, cs = front ++ '[' :: ']' :: after ∧ Suffixes front n ∧ ∀ c ∈ after, isBlank c = true := by
  constructor
  · intro h
    induction n generalizing cs with
    | zero =>
      cases h with
      | array hbefore h =>
        cases h with
        | blank hafter => exact ⟨_, _, rfl, .blank hbefore, hafter⟩
    | succ n ih =>
      cases h with
      | array hbefore h =>
        obtain ⟨front, after, rfl, hfront, hafter⟩ := ih h
        refine ⟨_, after, ?_, .array hbefore hfront, hafter⟩
        rw [List.append_assoc]
        rfl
  · rintro ⟨front, after, rfl, hfront, hafter⟩
    induction hfront with
    | blank hfront => exact .array hfront (.blank hafter)
    | array hbefore _ ih =>
      rw [List.append_assoc]
      exact .array hbefore ih

theorem brackets_plain : ∀ c ∈ ['[', ']'], isPlain c = true ∧ c.toUpper = c :=
  List.forall_mem_cons.mpr ⟨by decide, List.forall_mem_singleton.mpr (by decide)⟩

/-- White space and brackets are plain and have no capitals. -/
theorem plain_suffixes {cs : List Char} {n : Nat} (h : Suffixes cs n) :
    ∀ c ∈ cs, isPlain c = true ∧ c.toUpper = c := by
  have hblank : ∀ {cs : List Char}, (∀ c ∈ cs, isBlank c = true) → ∀ c ∈ cs, isPlain c = true ∧ c.toUpper = c :=
    fun h c hc => ⟨Text.isPlain_of_isBlank (h c hc), Text.toUpper_of_isBlank (h c hc)⟩
  induction h with
  | blank h => exact hblank h
  | array hbefore _ ih =>
    exact List.forall_mem_append.mpr ⟨hblank hbefore, List.forall_mem_append.mpr ⟨brackets_plain, ih⟩⟩

/-- Can a word name the type? -/
def isNamed : AttributeType → Bool
  | .enum _ | .array _ | .raw _ | .unknown _ => false
  | _ => true

/-- Each name of a type is of small letters without `k`, and names no array of a type. -/
theorem named_cases {word : String} {type : AttributeType} (h : named? word = some type) : isNamed type = true ∧
    word.toList ≠ [] ∧ (word.toList.all fun c => isPlain c && !isBlank c && c != ']') = true := by
  unfold named? at h
  split at h <;> cases h <;> exact ⟨rfl, by decide, by decide +kernel⟩

theorem named_word {word : String} {type : AttributeType} (h : named? word = some type) : word.toList ≠ [] ∧
    ∀ c ∈ word.toList, isPlain c = true ∧ isBlank c = false ∧ c ≠ ']' := by
  obtain ⟨-, hne, hall⟩ := named_cases h
  refine ⟨hne, fun c hc => ?_⟩
  have hplain := List.all_eq_true.mp hall c hc
  simpa [and_assoc] using hplain

/-! ## How a tag is read -/

section Reading

variable {tag inner : String} {n : Nat} {type : AttributeType}

theorem lowered_normal (tag : String) : Lowered (Text.trimChars tag.toList) (normal tag).toList := by
  have hlowered := Text.lowered_lowerFrom [] (Text.trimChars tag.toList)
  rw [normal, Text.lowercase, Text.trim, String.toList_ofList, String.toList_ofList]
  exact hlowered

theorem element_eq_some_iff : element? tag = some inner ↔ tag.toList = inner.toList ++ ['[', ']'] := by
  have hback : tag.toList = inner.toList ++ ['[', ']'] ↔ tag.toList.reverse = ']' :: '[' :: inner.toList.reverse := by
    rw [← List.reverse_inj, List.reverse_append]
    rfl
  rw [hback, element?]
  split
  · next rest hrest =>
    rw [hrest, Option.some_inj, ← String.toList_inj, String.toList_ofList, List.cons.injEq, List.cons.injEq,
      List.reverse_eq_iff]
    simp
  · next hother =>
    exact iff_of_false (by simp) fun h => hother _ h

/-- No white space is in the name of a type, which is not empty. -/
theorem name_whole {name : List Char} {word : String} (h : named? word = some type)
    (hname : InAnyCase name word.toList) : name ≠ [] ∧ ∀ c ∈ name, isBlank c = false := by
  obtain ⟨hne, hword⟩ := named_word h
  refine ⟨?_, hname.not_blank fun c hc => (hword c hc).2.1⟩
  rintro rfl
  exact hne (List.forall₂_nil_left_iff.mp hname)

/-- A tag without suffixes is read as the name it is. -/
theorem named_normal_iff : named? (normal tag) = some type ↔ Tagged tag 0 type := by
  constructor
  · intro h
    obtain ⟨-, hplain⟩ := named_word h
    obtain ⟨before, after, htag, hbefore, hafter⟩ := Text.around_trimChars tag.toList
    have hname : InAnyCase (Text.trim tag).toList (normal tag).toList :=
      (Text.lowercase_eq_iff fun c hc => (hplain c hc).1).mp (normal.eq_1 tag).symm
    rw [Text.trim, String.toList_ofList] at hname
    exact ⟨before, _, _, after, htag, hbefore, h, hname, .blank hafter⟩
  · rintro ⟨before, name, word, after, htag, hbefore, h, hname, hafter⟩
    cases hafter with
    | blank hafter =>
      obtain ⟨-, hends⟩ := name_whole h hname
      have htrim : Text.trimChars tag.toList = name :=
        (Text.trimChars_eq_iff (fun c hc => hends c (List.mem_of_head? hc))
          fun c hc => hends c (List.mem_of_getLast? hc)).mpr ⟨before, after, htag, hbefore, hafter⟩
      have hword : normal tag = word := by
        rw [normal]
        refine (Text.lowercase_eq_iff fun c hc => ((named_word h).2 c hc).1).mpr ?_
        rwa [Text.trim, String.toList_ofList, htrim]
      rw [hword]
      exact h

/-- A text that ends with a suffix is read as one, and what stands before it is read next. -/
theorem element_normal {front after : List Char} (htag : tag.toList = front ++ '[' :: ']' :: after)
    (hafter : ∀ c ∈ after, isBlank c = true) :
    ∃ inner, element? (normal tag) = some inner ∧ Lowered (Text.trimStart front) inner.toList := by
  have htrim : Text.trimChars tag.toList = Text.trimStart front ++ ['[', ']'] := by
    obtain ⟨before, hfront, hbefore⟩ := Text.exists_trimStart front
    refine (Text.trimChars_eq_iff ?_ ?_).mpr ⟨before, after, ?_, hbefore, hafter⟩
    · intro c hc
      rw [List.head?_append, Option.mem_def, Option.or_eq_some_iff] at hc
      rcases hc with hc | ⟨-, hc⟩
      · exact Text.head_trimStart front c hc
      · obtain rfl : '[' = c := by simpa using hc
        rfl
    · intro c hc
      rw [List.getLast?_append_of_ne_nil _ (List.cons_ne_nil _ _)] at hc
      obtain rfl : ']' = c := by simpa using hc
      rfl
    · rw [htag, ← List.append_assoc, ← hfront, List.append_assoc]
      rfl
  have hlowered := lowered_normal tag
  rw [htrim] at hlowered
  obtain ⟨inner, bracket, hnormal, hinner, hbracket⟩ := hlowered.append
  obtain rfl : bracket = ['[', ']'] := hbracket.eq_of_inAnyCase (fun c hc => (brackets_plain c hc).1) (.refl _)
  refine ⟨String.ofList inner, element_eq_some_iff.mpr ?_, ?_⟩
  · rw [hnormal, String.toList_ofList]
  · rwa [String.toList_ofList]

/-- What is read next of a tag with a suffix was lower-cased out of what stands before it. -/
theorem exists_front (h : element? (normal tag) = some inner) : ∃ before front after,
    tag.toList = before ++ front ++ '[' :: ']' :: after ∧ (∀ c ∈ before, isBlank c = true) ∧
      Lowered front inner.toList ∧ ∀ c ∈ after, isBlank c = true := by
  obtain ⟨before, after, htag, hbefore, hafter⟩ := Text.around_trimChars tag.toList
  have hlowered := lowered_normal tag
  rw [element_eq_some_iff.mp h] at hlowered
  obtain ⟨front, bracket, htrim, hfront, hbracket⟩ := hlowered.exists_spelling fun c hc => (brackets_plain c hc).1
  obtain rfl := hbracket.eq_of_uncased fun c hc => (brackets_plain c hc).2
  refine ⟨before, front, after, ?_, hbefore, hfront, hafter⟩
  rw [htag, htrim]
  simp only [List.append_assoc, List.cons_append, List.nil_append]

/-- What is left of a tag with a suffix names the elements. -/
theorem tagged_of_element (helement : element? (normal tag) = some inner) (h : Tagged inner n type) :
    Tagged tag (n + 1) type := by
  obtain ⟨before, name, word, suffixes, hinner, hbefore, hnamed, hname, hsuffixes⟩ := h
  obtain ⟨first, front, last, htag, hfirst, hfront, hlast⟩ := exists_front helement
  rw [hinner] at hfront
  -- What is left of the tag has been lower-cased, so the name in it is the word letter by letter; only the tag itself
  -- spells it with capitals.
  have hword : name = word.toList := hname.eq_of_no_capital fun c hc => hfront.no_capital c (by simp [hc])
  have hspelled := plain_suffixes hsuffixes
  obtain ⟨begun, behind, rfl, hbegun, hbehind⟩ := hfront.exists_spelling fun c hc => (hspelled c hc).1
  rw [hword] at hbegun
  obtain ⟨blank, spelled, rfl, hblank, hcase⟩ := hbegun.exists_spelling fun c hc => ((named_word hnamed).2 c hc).1
  rw [← List.nil_append before] at hblank
  obtain ⟨nothing, blank, rfl, hnothing, hsame⟩ :=
    hblank.exists_spelling fun c hc => Text.isPlain_of_isBlank (hbefore c hc)
  obtain rfl := hnothing.eq_nil
  obtain rfl := hbehind.eq_of_uncased fun c hc => (hspelled c hc).2
  obtain rfl := hsame.eq_of_uncased fun c hc => Text.toUpper_of_isBlank (hbefore c hc)
  refine ⟨first ++ blank, spelled, word, behind ++ '[' :: ']' :: last, ?_, List.forall_mem_append.mpr ⟨hfirst, hbefore⟩,
    hnamed, hcase, suffixes_succ_iff.mpr ⟨behind, last, rfl, hsuffixes, hlast⟩⟩
  rw [htag]
  simp only [List.nil_append, List.append_assoc]

/-- A tag with a suffix more names the arrays of what is left of it. -/
theorem Tagged.exists_element (h : Tagged tag (n + 1) type) :
    ∃ inner, element? (normal tag) = some inner ∧ Tagged inner n type := by
  obtain ⟨before, name, word, suffixes, htag, hbefore, hnamed, hname, hsuffixes⟩ := h
  obtain ⟨front, after, rfl, hfront, hafter⟩ := suffixes_succ_iff.mp hsuffixes
  rw [← List.append_assoc] at htag
  obtain ⟨inner, helement, hlowered⟩ := element_normal htag hafter
  have hstart : Text.trimStart (before ++ name ++ front) = name ++ front := by
    obtain ⟨hne, hends⟩ := name_whole hnamed hname
    rw [List.append_assoc, Text.trimStart_append hbefore]
    refine Text.trimStart_of_head fun c hc => hends c (List.mem_of_head? ?_)
    rwa [List.head?_append_of_ne_nil _ hne] at hc
  rw [hstart] at hlowered
  obtain ⟨first, second, hinner, hfirst, hsecond⟩ := hlowered.append
  refine ⟨inner, helement, [], word.toList, word, front, ?_, nofun, hnamed, .refl _, hfront⟩
  rw [hinner, hfirst.eq_of_inAnyCase (fun c hc => ((named_word hnamed).2 c hc).1) hname,
    hsecond.eq_of_inAnyCase (fun c hc => (plain_suffixes hfront c hc).1) (.refl _)]
  rfl

/-- Only a suffix at the end of the tag is read as one. -/
theorem element_normal_iff : (∃ inner, element? (normal tag) = some inner) ↔ Suffixed tag := by
  constructor
  · rintro ⟨inner, helement⟩
    obtain ⟨before, front, after, htag, -, -, hafter⟩ := exists_front helement
    exact ⟨before ++ front, after, htag, hafter⟩
  · rintro ⟨front, after, htag, hafter⟩
    obtain ⟨inner, helement, -⟩ := element_normal htag hafter
    exact ⟨inner, helement⟩

/-- Every suffix takes a closing bracket, of which lower-casing makes none. -/
theorem count_element (h : element? (normal tag) = some inner) : inner.toList.count ']' < tag.toList.count ']' := by
  obtain ⟨before, front, after, htag, -, hfront, -⟩ := exists_front h
  rw [htag, List.count_append, List.count_append, hfront.count_bracket, List.count_cons, List.count_cons_self]
  omega

/-- A name has no suffix. -/
theorem named_of_element (h : element? (normal tag) = some inner) : named? (normal tag) = none := by
  refine Option.eq_none_iff_forall_not_mem.mpr fun type htype => ?_
  have hmem : ']' ∈ (normal tag).toList := by simp [element_eq_some_iff.mp h]
  exact ((named_word htype).2 _ hmem).2.2 rfl

end Reading

/-! ## Reading without a bound -/

/-- What a tag is read as, level by level: a tag that is no name and ends with a suffix takes one level more than what
stands before the suffix. -/
inductive Reads (mode : MappingMode) : String → Nat → Result AttributeType → Prop where
  | name {tag : String} {type : AttributeType} (h : named? (normal tag) = some type) : Reads mode tag 0 (.ok type)
  | element {tag inner : String} {levels : Nat} {result : Result AttributeType} (h : named? (normal tag) = none)
    (helement : element? (normal tag) = some inner) (hinner : Reads mode inner levels result) :
    Reads mode tag (levels + 1) (result.map .array)
  | nothing {tag : String} (h : named? (normal tag) = none) (helement : element? (normal tag) = none) :
    Reads mode tag 0 (ofUnknownTag mode tag)

section Levels

variable {mode : MappingMode} {tag : String} {levels suffixes : Nat} {result : Result AttributeType}

/-- Every level takes a closing bracket, so their number is bound enough. -/
theorem Reads.eq_ofTagWithin (h : Reads mode tag levels result) (hsuffixes : tag.toList.count ']' ≤ suffixes) :
    ofTagWithin mode suffixes tag = result := by
  induction h generalizing suffixes with
  | name h =>
    cases suffixes with
    | zero => rw [ofTagWithin, h, Option.elim_some]
    | succ suffixes => rw [ofTagWithin, h]
  | element h helement _ ih =>
    have hcount := count_element helement
    obtain ⟨suffixes, rfl⟩ : ∃ m, suffixes = m + 1 := ⟨suffixes - 1, by omega⟩
    rw [ofTagWithin, h, helement]
    exact congrArg (Except.map array) (ih (by omega))
  | nothing h helement =>
    cases suffixes with
    | zero => rw [ofTagWithin, h, Option.elim_none]
    | succ suffixes => rw [ofTagWithin, h, helement]

theorem Reads.eq_ofTag (h : Reads mode tag levels result) : result = ofTag mode tag :=
  (h.eq_ofTagWithin (Nat.le_refl _)).symm

/-- Reading comes to an end, after as many levels at most as the tag has closing brackets. -/
theorem exists_reads (mode : MappingMode) (tag : String) :
    ∃ levels, levels ≤ tag.toList.count ']' ∧ ∃ result, Reads mode tag levels result := by
  -- By the number of closing brackets: lower-casing keeps it, while it can make a text longer.
  induction hcount : tag.toList.count ']' using Nat.strong_induction_on generalizing tag with
  | _ count ih =>
    cases hnamed : named? (normal tag) with
    | some type => exact ⟨0, Nat.zero_le _, _, .name hnamed⟩
    | none =>
      cases helement : element? (normal tag) with
      | none => exact ⟨0, Nat.zero_le _, _, .nothing hnamed helement⟩
      | some inner =>
        have hless := count_element helement
        obtain ⟨levels, hlevels, result, hinner⟩ := ih _ (by omega) inner rfl
        exact ⟨levels + 1, by omega, _, .element hnamed helement hinner⟩

end Levels

/-! ## What a tag is read as -/

section Types

variable {mode : MappingMode} {tag : String} {levels n : Nat} {type : AttributeType} {result : Result AttributeType}

theorem Reads.of_tagged (mode : MappingMode) (h : Tagged tag n type) : Reads mode tag n (.ok (arrayed n type)) := by
  induction n generalizing tag with
  | zero => exact .name (named_normal_iff.mpr h)
  | succ n ih =>
    obtain ⟨inner, helement, hinner⟩ := h.exists_element
    exact .element (named_of_element helement) helement (ih hinner)

theorem ofTag_of_tagged (mode : MappingMode) (h : Tagged tag n type) : ofTag mode tag = .ok (arrayed n type) :=
  (Reads.of_tagged mode h).eq_ofTag.symm

/-- What is left of a tag that names nothing names nothing either. -/
theorem Reads.of_unknown (h : Reads mode tag levels result) (hunknown : ¬ Known tag) :
    ∃ base, result = (ofUnknownTag mode base).map (arrayed levels) ∧ (levels = 0 → base = tag) := by
  induction h with
  | name h => exact absurd ⟨0, _, named_normal_iff.mp h⟩ hunknown
  | element _ helement _ ih =>
    obtain ⟨base, rfl, -⟩ := ih fun ⟨n, type, hinner⟩ => hunknown ⟨n + 1, type, tagged_of_element helement hinner⟩
    refine ⟨base, ?_, nofun⟩
    cases ofUnknownTag mode base <;> rfl
  | @nothing tag _ _ =>
    refine ⟨tag, ?_, fun _ => rfl⟩
    cases ofUnknownTag mode tag <;> rfl

/-- Reading goes below the first level just where a suffix stands at the end. -/
theorem Reads.levels_pos_iff (h : Reads mode tag levels result) : 0 < levels ↔ Suffixed tag := by
  rw [← element_normal_iff]
  cases h with
  | name h =>
    refine iff_of_false (Nat.lt_irrefl 0) fun ⟨inner, helement⟩ => ?_
    rw [named_of_element helement] at h
    cases h
  | element _ helement _ => exact iff_of_true (Nat.succ_pos _) ⟨_, helement⟩
  | nothing _ hnone =>
    refine iff_of_false (Nat.lt_irrefl 0) fun ⟨inner, helement⟩ => ?_
    rw [hnone] at helement
    cases helement

/-- Best effort keeps a tag that names nothing, inside of arrays where it ends with suffixes. -/
theorem ofTag_of_unknown (h : ¬ Known tag) : ∃ type, ofTag .bestEffort tag = .ok type ∧
    (¬ Suffixed tag → type = .unknown tag) ∧
    (Suffixed tag → ∃ n base, type = arrayed (n + 1) (.unknown base)) := by
  obtain ⟨levels, -, result, hreads⟩ := exists_reads .bestEffort tag
  obtain ⟨base, rfl, hbase⟩ := hreads.of_unknown h
  have hsuffixed := hreads.levels_pos_iff
  refine ⟨arrayed levels (.unknown base), hreads.eq_ofTag.symm, fun hbare => ?_, fun hmore => ?_⟩
  · obtain rfl : levels = 0 := Nat.eq_zero_of_not_pos fun hpos => hbare (hsuffixed.mp hpos)
    rw [hbase rfl]
    rfl
  · obtain ⟨n, rfl⟩ := Nat.exists_eq_add_one.mpr (hsuffixed.mpr hmore)
    exact ⟨n, base, rfl⟩

/-- Strict reading refuses a tag that names nothing, with suffixes or without, and no other. -/
theorem ofTag_strict_error_iff : (∃ base, ofTag .strict tag = .error (.unknownTypeTag base)) ↔ ¬ Known tag := by
  constructor
  · rintro ⟨base, herror⟩ ⟨n, type, htagged⟩
    rw [ofTag_of_tagged .strict htagged] at herror
    cases herror
  · intro hunknown
    obtain ⟨levels, -, result, hreads⟩ := exists_reads .strict tag
    obtain ⟨base, rfl, -⟩ := hreads.of_unknown hunknown
    exact ⟨base, hreads.eq_ofTag.symm⟩

end Types

end AttributeType

/-- The column type of arrays of arrays, so many times, of a column type. -/
def ColumnType.arrayed : Nat → ColumnType → ColumnType
  | 0, type => type
  | n + 1, type => .array (arrayed n type)

namespace Column

open AttributeType (arrayed isNamed named_cases Known Suffixed Tagged)

variable {mode : MappingMode} {a : Attribute} {type : AttributeType}

/-- The column type of an array is made of that of its elements. -/
theorem typeOf_arrayed (n : Nat) : typeOf a (arrayed n type) = (typeOf a type).map (ColumnType.arrayed n) := by
  induction n with
  | zero => rw [arrayed]; cases typeOf a type <;> rfl
  | succ n ih => rw [arrayed, typeOf, ih]; cases typeOf a type <;> rfl

theorem typeOf_of_isNamed (a : Attribute) (h : isNamed type = true) : ∃ c, typeOf a type = .ok c := by
  cases type <;> first | exact ⟨_, rfl⟩ | cases h

/-- Every type that has a name has a column type, and so have arrays of it. -/
theorem typeOf_of_tagged {tag : String} {n : Nat} (h : Tagged tag n type) :
    ∃ c, typeOf a (arrayed n type) = .ok c := by
  obtain ⟨-, -, word, -, -, -, hnamed, -, -⟩ := h
  obtain ⟨c, hc⟩ := typeOf_of_isNamed a (named_cases hnamed).1
  exact ⟨.arrayed n c, by rw [typeOf_arrayed, hc]; rfl⟩

theorem typeOf_unknown (n : Nat) (tag : String) :
    typeOf a (arrayed n (.unknown tag)) = .error (.unmappedElement tag a.name) := by
  rw [typeOf_arrayed]
  rfl

/-- An attribute whose type has a column gets one without a diagnostic. -/
theorem ofAttribute_of_typeOf {c : ColumnType} (mode : MappingMode) (hname : Identifier.check a.name = .ok ())
    (h : typeOf a a.type = .ok c) :
    ∃ column, ofAttribute mode a = .ok column ∧ column.diagnostic = none := by
  rw [ofAttribute, hname]
  show ∃ column, (if a.autoIncrement then _ else _ : Result Column) = .ok column ∧ column.diagnostic = none
  split
  · exact ⟨_, rfl, rfl⟩
  · split
    · exact ⟨_, rfl, rfl⟩
    · exact ⟨_, rfl, rfl⟩
    · next htype =>
      rw [htype] at h
      cases h
    · rw [h]
      exact ⟨_, rfl, rfl⟩

/-- A counting column takes no notice of the type. -/
theorem ofAttribute_of_autoIncrement (mode : MappingMode) (hname : Identifier.check a.name = .ok ())
    (hcounts : a.autoIncrement = true) :
    ∃ column, ofAttribute mode a = .ok column ∧ column.diagnostic = none := by
  rw [ofAttribute, hname, if_pos hcounts]
  exact ⟨_, rfl, rfl⟩

theorem ofAttribute_unknown {tag : String} (hname : Identifier.check a.name = .ok ()) (hcounts : a.autoIncrement = false)
    (htype : a.type = .unknown tag) : ofAttribute .bestEffort a = .ok { plain a.name .text with
      diagnostic := some ⟨a.name, "unknown type '" ++ tag ++ "' mapped to TEXT"⟩ } := by
  rw [ofAttribute, hname, if_neg (by simp [hcounts]), htype]
  rfl

theorem ofAttribute_array_unknown {n : Nat} {tag : String} (mode : MappingMode)
    (hname : Identifier.check a.name = .ok ()) (hcounts : a.autoIncrement = false)
    (htype : a.type = arrayed (n + 1) (.unknown tag)) : ofAttribute mode a = .error (.unmappedElement tag a.name) := by
  have hfails := typeOf_unknown (a := a) (n + 1) tag
  rw [arrayed] at htype hfails
  rw [ofAttribute, hname, if_neg (by simp [hcounts]), htype]
  dsimp only
  rw [hfails]
  rfl

/-- In best effort every tag is a type, and an attribute of it gets a column, with a diagnostic just when the tag names
nothing, but for two kinds of tags that name nothing: in a counting column they go unreported, and with an array suffix
at their end they are errors. -/
theorem bestEffort_column_iff (tag : String) : ∃ type, AttributeType.ofTag .bestEffort tag = .ok type ∧
    ∀ a : Attribute, a.type = type → Identifier.check a.name = .ok () →
      ((∃ c, ofAttribute .bestEffort a = .ok c ∧ (c.diagnostic.isSome = true ↔ ¬ Known tag)) ↔
        Known tag ∨ a.autoIncrement = false ∧ ¬ Suffixed tag) ∧
      (Known tag ∨ a.autoIncrement = true → ∃ c, ofAttribute .bestEffort a = .ok c ∧ c.diagnostic = none) ∧
      (¬ Known tag → a.autoIncrement = false → ¬ Suffixed tag → ofAttribute .bestEffort a = .ok
        { plain a.name .text with diagnostic := some ⟨a.name, "unknown type '" ++ tag ++ "' mapped to TEXT"⟩ }) ∧
      (¬ Known tag → a.autoIncrement = false → Suffixed tag →
        ∃ base, ofAttribute .bestEffort a = .error (.unmappedElement base a.name)) := by
  by_cases hknown : Known tag
  · have ⟨n, type, htagged⟩ := hknown
    refine ⟨arrayed n type, AttributeType.ofTag_of_tagged .bestEffort htagged, fun a htype hname => ?_⟩
    obtain ⟨c, hc⟩ := typeOf_of_tagged (a := a) htagged
    obtain ⟨column, hcolumn, hquiet⟩ := ofAttribute_of_typeOf .bestEffort hname (by rw [htype, hc])
    refine ⟨⟨fun _ => .inl hknown, fun _ => ⟨column, hcolumn, ?_⟩⟩, fun _ => ⟨column, hcolumn, hquiet⟩,
      fun hunknown => absurd hknown hunknown, fun hunknown => absurd hknown hunknown⟩
    simp [hquiet, hknown]
  · obtain ⟨type, hread, hbare, hmore⟩ := AttributeType.ofTag_of_unknown hknown
    refine ⟨type, hread, fun a htype hname => ?_⟩
    cases hcounts : a.autoIncrement with
    | true =>
      obtain ⟨column, hcolumn, hquiet⟩ := ofAttribute_of_autoIncrement .bestEffort hname hcounts
      exact ⟨by simp [hcolumn, hquiet, hknown], fun _ => ⟨column, hcolumn, hquiet⟩, fun _ => nofun, fun _ => nofun⟩
    | false =>
      by_cases hsuffixed : Suffixed tag
      · obtain ⟨n, base, rfl⟩ := hmore hsuffixed
        have herror := ofAttribute_array_unknown .bestEffort hname hcounts htype
        refine ⟨by simp [herror, hknown, hsuffixed], fun h => absurd h (by simp [hknown]), fun _ _ h => ?_,
          fun _ _ _ => ⟨base, herror⟩⟩
        exact absurd hsuffixed h
      · obtain rfl := hbare hsuffixed
        have hcolumn := ofAttribute_unknown hname hcounts htype
        refine ⟨by simp [hcolumn, hknown, hsuffixed], fun h => absurd h (by simp [hknown]), fun _ _ _ => hcolumn,
          fun _ _ h => ?_⟩
        exact absurd h hsuffixed

/-- In best effort an array of something unknown is refused. -/
theorem bestEffort_column_mystery : (¬ Known "mystery[]" ∧ Suffixed "mystery[]" ∧ Identifier.check "c" = .ok ()) ∧
    ∃ type, AttributeType.ofTag .bestEffort "mystery[]" = .ok type ∧
      ∃ base, ofAttribute .bestEffort (.plain "c" type) = .error (.unmappedElement base "c") := by
  have hname : Identifier.check "c" = .ok () := by decide +kernel
  have hunknown : ¬ Known "mystery[]" := AttributeType.ofTag_strict_error_iff.mp ⟨"mystery", by decide +kernel⟩
  have hsuffixed : Suffixed "mystery[]" := ⟨"mystery".toList, [], rfl, nofun⟩
  obtain ⟨type, hread, hcolumns⟩ := bestEffort_column_iff "mystery[]"
  obtain ⟨-, -, -, herror⟩ := hcolumns (.plain "c" type) rfl hname
  exact ⟨⟨hunknown, hsuffixed, hname⟩, type, hread, herror hunknown rfl hsuffixed⟩

end Column

end SqlAdapter
