/-
Arrays of arrays: what suffixes behind a tag do to its reading and to its column.

A suffix behind a tag makes the arrays of what the tag names and nothing of a tag that names
nothing (`tagged_suffix_iff`), so reading wraps a type once for each of them, and so does the type
of its column (`typeOf_arrayed`, `sql_arrayed`). How many suffixes there are is settled by the text:
a tag has one reading (`exists_reads_iff`).
-/
import SqlAdapter.Proofs.Schema.Tags

namespace SqlAdapter

namespace AttributeType

open Text (isBlank)

/-- So many array suffixes. -/
def brackets : Nat → String
  | 0 => ""
  | n + 1 => brackets n ++ "[]"

theorem append_brackets_succ (tag : String) (n : Nat) : tag ++ brackets (n + 1) = tag ++ brackets n ++ "[]" :=
  String.append_assoc.symm

theorem arrayed_arrayed (k n : Nat) (type : AttributeType) : arrayed k (arrayed n type) = arrayed (n + k) type := by
  induction k with
  | zero => rfl
  | succ k ih => exact congrArg array ih

/-! ## Tags with suffixes behind them -/

section Suffixes

variable {tag : String} {n : Nat} {type : AttributeType}

/-- A suffix at the very end has no white space behind it. -/
theorem tagged_suffix_iff : Tagged (tag ++ "[]") (n + 1) type ↔ Tagged tag n type := by
  constructor
  · rintro ⟨before, name, word, suffixes, htag, hbefore, hnamed, hname, hsuffixes⟩
    obtain ⟨front, after, rfl, hfront, hafter⟩ := suffixes_succ_iff.mp hsuffixes
    rw [String.toList_append] at htag
    rcases List.eq_nil_or_concat after with rfl | ⟨rest, last, rfl⟩
    · refine ⟨before, name, word, front, ?_, hbefore, hnamed, hname, hfront⟩
      rw [← List.append_assoc] at htag
      exact List.append_cancel_right htag
    · -- The text ends with a bracket, which is no white space.
      have hends := congrArg List.getLast? htag
      obtain rfl : last = ']' := by simpa [List.getLast?_cons] using hends.symm
      have hblank : isBlank ']' = true := hafter ']' (by simp)
      exact absurd hblank (by decide)
  · rintro ⟨before, name, word, suffixes, htag, hbefore, hnamed, hname, hsuffixes⟩
    refine ⟨before, name, word, suffixes ++ ['[', ']'], ?_, hbefore, hnamed, hname,
      suffixes_succ_iff.mpr ⟨suffixes, [], rfl, hsuffixes, nofun⟩⟩
    rw [String.toList_append, htag, List.append_assoc]
    rfl

theorem not_tagged_suffix_zero : ¬ Tagged (tag ++ "[]") 0 type := by
  intro h
  have hsuffixed : Suffixed (tag ++ "[]") := ⟨tag.toList, [], String.toList_append, nofun⟩
  obtain ⟨inner, helement⟩ := element_normal_iff.mpr hsuffixed
  rw [← named_normal_iff, named_of_element helement] at h
  cases h

theorem known_suffix_iff : Known (tag ++ "[]") ↔ Known tag := by
  constructor
  · rintro ⟨n, type, h⟩
    cases n with
    | zero => exact absurd h not_tagged_suffix_zero
    | succ n => exact ⟨n, type, tagged_suffix_iff.mp h⟩
  · rintro ⟨n, type, h⟩
    exact ⟨n + 1, type, tagged_suffix_iff.mpr h⟩

theorem Tagged.suffixed (h : Tagged tag n type) (k : Nat) : Tagged (tag ++ brackets k) (n + k) type := by
  induction k with
  | zero => rwa [brackets, String.append_empty]
  | succ k ih =>
    rw [append_brackets_succ]
    exact tagged_suffix_iff.mpr ih

theorem known_brackets_iff (k : Nat) : Known (tag ++ brackets k) ↔ Known tag := by
  induction k with
  | zero => rw [brackets, String.append_empty]
  | succ k ih => rw [append_brackets_succ, known_suffix_iff, ih]

/-- Each suffix behind a tag wraps what the tag is read as. -/
theorem ofTag_brackets (mode : MappingMode) (h : Tagged tag n type) (k : Nat) :
    ofTag mode (tag ++ brackets k) = .ok (arrayed k (arrayed n type)) := by
  rw [arrayed_arrayed]
  exact ofTag_of_tagged mode (h.suffixed k)

end Suffixes

/-! ## Levels of reading -/

section Levels

variable {mode : MappingMode} {tag : String} {levels : Nat} {result : Result AttributeType}

theorem Reads.levels_eq {levels' : Nat} {result' : Result AttributeType} (h : Reads mode tag levels result)
    (h' : Reads mode tag levels' result') : levels = levels' := by
  induction h generalizing levels' result' with
  | name h =>
    cases h' with
    | name _ => rfl
    | element hnot _ _ => rw [h] at hnot; cases hnot
    | nothing hnot _ => rfl
  | element h helement _ ih =>
    cases h' with
    | name hnamed => rw [h] at hnamed; cases hnamed
    | element _ hsame hinner =>
      obtain rfl := Option.some_inj.mp (helement.symm.trans hsame)
      rw [ih hinner]
    | nothing _ hnone => rw [helement] at hnone; cases hnone
  | nothing h helement =>
    cases h' with
    | name _ => rfl
    | element _ hsome _ => rw [helement] at hsome; cases hsome
    | nothing _ _ => rfl

/-- Every tag has one reading. -/
theorem exists_reads_iff (mode : MappingMode) (tag : String) : ∃ levels, levels ≤ tag.toList.count ']' ∧
    ∀ m result, Reads mode tag m result ↔ m = levels ∧ result = ofTag mode tag := by
  obtain ⟨levels, hlevels, result, hreads⟩ := exists_reads mode tag
  refine ⟨levels, hlevels, fun m result' => ⟨fun h => ⟨h.levels_eq hreads, h.eq_ofTag⟩, ?_⟩⟩
  rintro ⟨rfl, rfl⟩
  exact hreads.eq_ofTag ▸ hreads

end Levels

end AttributeType

namespace ColumnType

theorem sql_arrayed (n : Nat) (c : ColumnType) : (arrayed n c).sql = c.sql ++ AttributeType.brackets n := by
  induction n with
  | zero => rw [arrayed, AttributeType.brackets, String.append_empty]
  | succ n ih =>
    show (arrayed n c).sql ++ "[]" = _
    rw [ih, AttributeType.append_brackets_succ]

end ColumnType

namespace Column

open AttributeType (arrayed brackets isNamed named_cases ofTag Known Reads Tagged)

variable {a : Attribute} {type : AttributeType}

/-- An attribute's column has the column type of its type, and fails on its name or where that does. -/
theorem ofAttribute_type (mode : MappingMode) (hcounts : a.autoIncrement = false)
    (hknown : ∀ tag, a.type ≠ .unknown tag) :
    (ofAttribute mode a).map (·.type) = (Identifier.check a.name >>= fun _ => typeOf a a.type) := by
  rw [ofAttribute]
  cases Identifier.check a.name with
  | error e => rfl
  | ok _ =>
    show (if a.autoIncrement then _ else _ : Result Column).map _ = typeOf a a.type
    rw [if_neg (by simp [hcounts])]
    -- Sets of texts and identifiers have rules of their own, with the column types that they have as elements.
    split
    · next htype => rw [htype]; rfl
    · next htype => rw [htype]; rfl
    · next tag htype => exact absurd htype (hknown tag)
    · cases typeOf a a.type <;> rfl

theorem arrayed_ne_unknown (h : isNamed type = true) (n : Nat) (tag : String) : arrayed n type ≠ .unknown tag := by
  cases n with
  | zero =>
    rintro rfl
    cases h
  | succ n => exact nofun

/-- The column type of arrays is written as that of their elements, with as many suffixes. -/
theorem ofAttribute_arrayed {c : ColumnType} {n : Nat} (mode : MappingMode) (hcounts : a.autoIncrement = false)
    (hknown : ∀ tag, a.type ≠ .unknown tag) (htype : a.type = arrayed n type) (hc : typeOf a type = .ok c) :
    (ofAttribute mode a).map (·.type.sql) = (Identifier.check a.name).map fun _ => c.sql ++ brackets n := by
  have hmapped := ofAttribute_type mode hcounts hknown
  rw [htype, typeOf_arrayed, hc] at hmapped
  calc (ofAttribute mode a).map (·.type.sql)
      = ((ofAttribute mode a).map (·.type)).map ColumnType.sql := by cases ofAttribute mode a <;> rfl
    _ = (Identifier.check a.name).map fun _ => (ColumnType.arrayed n c).sql := by
      rw [hmapped]
      cases Identifier.check a.name <;> rfl
    _ = (Identifier.check a.name).map fun _ => c.sql ++ brackets n := by rw [ColumnType.sql_arrayed]

/-- Arrays nest to any depth. A tag that names a type is read in both modes, with any number of suffixes behind it, as
so many arrays of that type; an attribute of them that does not count has the column type of the tag with the same
suffixes behind it, and nothing but its name can be wrong. A tag that names nothing, and no other, is refused in strict
mode, whatever suffixes stand behind it. Every text has one reading, with no more levels than closing brackets. -/
theorem arrays_nest (mode : MappingMode) (tag : String) (k : Nat) :
    (∀ n type, Tagged tag n type →
      ofTag mode (tag ++ brackets k) = .ok (arrayed k (arrayed n type)) ∧
      ∀ a : Attribute, a.type = arrayed k (arrayed n type) → a.autoIncrement = false →
        ∃ c, typeOf a (arrayed n type) = .ok c ∧ ∀ mapping, (ofAttribute mapping a).map (·.type.sql) =
          (Identifier.check a.name).map fun _ => c.sql ++ brackets k) ∧
    ((∃ base, ofTag .strict (tag ++ brackets k) = .error (.unknownTypeTag base)) ↔ ¬ Known tag) ∧
    ∃ levels, levels ≤ tag.toList.count ']' ∧
      ∀ m result, Reads mode tag m result ↔ m = levels ∧ result = ofTag mode tag := by
  refine ⟨fun n type htagged => ⟨AttributeType.ofTag_brackets mode htagged k, fun a htype hcounts => ?_⟩, ?_,
    AttributeType.exists_reads_iff mode tag⟩
  · obtain ⟨c, hc⟩ := typeOf_of_tagged (a := a) htagged
    obtain ⟨-, -, word, -, -, -, hnamed, -, -⟩ := htagged
    refine ⟨c, hc, fun mapping => ofAttribute_arrayed mapping hcounts (fun tag => ?_) htype hc⟩
    rw [htype, AttributeType.arrayed_arrayed]
    exact arrayed_ne_unknown (named_cases hnamed).1 _ tag
  · rw [AttributeType.ofTag_strict_error_iff, AttributeType.known_brackets_iff]

/-- Arrays of arrays of numbers, and of a tag that names nothing. -/
theorem arrays_nest_twice : (Tagged " BigInt\t" 0 .bigInteger ∧ ¬ Known "mystery") ∧
    ofTag .bestEffort " BigInt\t[][]" = .ok (.array (.array .bigInteger)) ∧
    (ofAttribute .strict (.plain "scores" (.array (.array .bigInteger)))).map (·.type.sql) = .ok "BIGINT[][]" ∧
    (∃ base, ofTag .strict "mystery[][]" = .error (.unknownTypeTag base)) ∧
    ∃ levels, Reads .bestEffort " BigInt\t" levels (.ok .bigInteger) := by
  have hnames : Tagged " BigInt\t" 0 .bigInteger := AttributeType.named_normal_iff.mp (by decide +kernel)
  have hnothing : ¬ Known "mystery" := AttributeType.ofTag_strict_error_iff.mp ⟨"mystery", by decide +kernel⟩
  obtain ⟨hnamed, -, levels, -, hreads⟩ := arrays_nest .bestEffort " BigInt\t" 2
  obtain ⟨-, hrefused, -⟩ := arrays_nest .bestEffort "mystery" 2
  obtain ⟨hread, hcolumns⟩ := hnamed 0 .bigInteger hnames
  obtain ⟨c, hc, hcolumn⟩ := hcolumns (.plain "scores" (.array (.array .bigInteger))) rfl rfl
  obtain rfl : .bigInt = c := Except.ok.inj hc
  have hname : Identifier.check "scores" = .ok () := by decide +kernel
  have htext : " BigInt\t" ++ brackets 2 = " BigInt\t[][]" ∧ "mystery" ++ brackets 2 = "mystery[][]" := by decide +kernel
  rw [htext.1] at hread
  rw [htext.2] at hrefused
  refine ⟨⟨hnames, hnothing⟩, hread, ?_, hrefused.mpr hnothing, levels, (hreads levels _).mpr ⟨rfl, ?_⟩⟩
  · rw [hcolumn, Attribute.plain, hname]
    rfl
  · decide +kernel

end Column

end SqlAdapter
