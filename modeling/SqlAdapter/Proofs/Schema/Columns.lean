/-
The columns of attributes.

The type of an attribute gives a column with nothing declared (`Column.ofAttribute`), and the
properties of the attribute are added to it one after the other. What they come to all together is
said by `constrained_eq`, and by `Declares` what the column of an attribute is then
(`compiled_iff`).
-/
import SqlAdapter.Proofs.Result
import SqlAdapter.Schema.Column

namespace SqlAdapter.Column

variable {mode : MappingMode} {a : Attribute} {c mapped : Column}

/-- The column of an attribute with everything that the attribute declares. -/
def compiled (mode : MappingMode) (a : Attribute) : Result Column := (ofAttribute mode a).map (·.constrained a)

/-! ## What the type gives -/

/-- The type declares nothing of what an attribute declares beside it, and no default where the database counts. -/
theorem ofAttribute_plain (h : ofAttribute mode a = .ok mapped) :
    mapped.name = a.name ∧ mapped.notNull = false ∧ mapped.unique = false ∧ mapped.index = false ∧
      (a.autoIncrement = true → mapped.default = none) := by
  obtain ⟨_, -, h⟩ := Result.bind_ok_iff.mp h
  split at h
  · cases h
    exact ⟨rfl, rfl, rfl, rfl, fun _ => rfl⟩
  · next hcounts =>
    have hdefault : a.autoIncrement = true → mapped.default = none := fun h => absurd h hcounts
    split at h
    · cases h
      exact ⟨rfl, rfl, rfl, rfl, hdefault⟩
    · cases h
      exact ⟨rfl, rfl, rfl, rfl, hdefault⟩
    · split at h
      · cases h
      · cases h
        exact ⟨rfl, rfl, rfl, rfl, hdefault⟩
    · obtain ⟨type, -, h⟩ := Result.bind_ok_iff.mp h
      cases h
      exact ⟨rfl, rfl, rfl, rfl, hdefault⟩

/-! ## What the properties add -/

theorem foldl_silent {α : Type} {declared : α → Property} (hsilent : ∀ x c, addProperty a c (declared x) = c)
    (o : Option α) (c : Column) : (o.map declared).toList.foldl (addProperty a) c = c := by
  cases o with
  | none => rfl
  | some x => exact hsilent x c

theorem foldl_when (holds : Bool) (p : Property) (c : Column) :
    (Property.when holds p).foldl (addProperty a) c = if holds then addProperty a c p else c := by
  cases holds <;> rfl

theorem foldl_default (o : Option DefaultValue) (c : Column) :
    (o.map Property.default).toList.foldl (addProperty a) c =
      { c with default := if a.autoIncrement then c.default else (o.map DefaultValue.sql).or c.default } := by
  cases o with
  | none => simp
  | some value => by_cases hcounts : a.autoIncrement <;> simp [addProperty, hcounts]

/-- All properties of an attribute together. -/
theorem constrained_eq (c : Column) (a : Attribute) : c.constrained a = { c with
    notNull := c.notNull || !a.nullable
    unique := c.unique || a.unique
    index := c.index || a.index
    default := if a.autoIncrement then c.default else (a.default.map DefaultValue.sql).or c.default } := by
  simp only [constrained, Attribute.properties, List.foldl_cons, List.foldl_append, foldl_when, foldl_default]
  rw [foldl_silent fun _ _ => rfl, foldl_silent fun _ _ => rfl, foldl_silent fun _ _ => rfl,
    foldl_silent fun _ _ => rfl, foldl_silent fun _ _ => rfl, foldl_silent fun _ _ => rfl]
  cases a.nullable <;> cases a.unique <;> cases a.index <;> simp [addProperty]

/-! ## What the column is -/

/-- A column that holds what its attribute declares: it has the type and the condition that the attribute's type gives
it, and the default as well where none is declared. Where the database counts there is no other default. -/
structure Declares (mode : MappingMode) (a : Attribute) (c : Column) : Prop where
  name : c.name = a.name
  notNull : c.notNull = !a.nullable
  unique : c.unique = a.unique
  index : c.index = a.index
  mapped : ∃ mapped, ofAttribute mode a = .ok mapped ∧ c.type = mapped.type ∧ c.check = mapped.check ∧
    c.diagnostic = mapped.diagnostic ∧
    c.default = if a.autoIncrement then none else (a.default.map DefaultValue.sql).or mapped.default

theorem compiled_iff : compiled mode a = .ok c ↔ Declares mode a c := by
  rw [compiled, Result.map_ok_iff]
  constructor
  · rintro ⟨mapped, hmapped, rfl⟩
    obtain ⟨hname, hnotNull, hunique, hindex, hdefault⟩ := ofAttribute_plain hmapped
    rw [constrained_eq]
    refine ⟨hname, by simp [hnotNull], by simp [hunique], by simp [hindex], mapped, hmapped, rfl, rfl, rfl, ?_⟩
    by_cases hcounts : a.autoIncrement
    · simp [hcounts, hdefault hcounts]
    · simp [hcounts]
  · rintro ⟨hname, hnotNull, hunique, hindex, mapped, hmapped, htype, hcheck, hdiagnostic, hdefault⟩
    refine ⟨mapped, hmapped, ?_⟩
    obtain ⟨hname', hnotNull', hunique', hindex', hdefault'⟩ := ofAttribute_plain hmapped
    have hkept : c.default = if a.autoIncrement then mapped.default else
        (a.default.map DefaultValue.sql).or mapped.default := by
      rw [hdefault]
      split
      · next hcounts => exact (hdefault' hcounts).symm
      · rfl
    rw [constrained_eq, ← hkept, hname', hnotNull', hunique', hindex', Bool.false_or, Bool.false_or, Bool.false_or,
      ← hname, ← hnotNull, ← hunique, ← hindex, ← htype, ← hcheck, ← hdiagnostic]

theorem compiled_plain (h : compiled mode a = .ok c) : c.name = a.name ∧ c.index = a.index :=
  ⟨(compiled_iff.mp h).name, (compiled_iff.mp h).index⟩

/-- An attribute has one column at most. -/
theorem compiled_unique : Relator.RightUnique fun a c => compiled mode a = .ok c :=
  fun _ _ _ h h' => Except.ok.inj (h.symm.trans h')

theorem fails_compiled_iff : Result.Fails (compiled mode a) ↔ Result.Fails (ofAttribute mode a) :=
  Result.fails_map_iff

end SqlAdapter.Column
