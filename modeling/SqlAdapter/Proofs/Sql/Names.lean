/-
Which names are accepted.

A name is as it should be when it has one part, or two with a dot between, and each part is `Plain`.
The check decides on the compatibility normal form, while the name itself is what is quoted in SQL.
So it accepts the names whose parts only stand for plain ones, character by character
(`check_ok_iff`), and of these the plain ones are those that are ASCII (`plain_iff`).
-/
import SqlAdapter.Proofs.Result
import SqlAdapter.Proofs.Text.Normalization
import SqlAdapter.Proofs.Text.Pieces
import SqlAdapter.Sql.Identifier

namespace SqlAdapter.Identifier

open Text (IsAscii InAnyCase decomposed)

/-! ## Plain names -/

/-- A word of ASCII letters, digits and underscores that does not begin with a digit and is not reserved for the
catalogs of the database. -/
structure Plain (part : List Char) : Prop where
  start : ∃ first rest, part = first :: rest ∧ isStart first = true
  inner : ∀ c ∈ part, isInner c = true
  catalog : ¬ ∃ front rest, part = front ++ rest ∧ InAnyCase front "pg_".toList
  schema : ¬ InAnyCase part "information_schema".toList

/-- A text of one part, or of two parts with a dot between. -/
inductive Parted (P : List Char → Prop) : List Char → Prop where
  | one {part : List Char} (h : P part) : Parted P part
  | two {schema table : List Char} (hschema : P schema) (htable : P table) : Parted P (schema ++ '.' :: table)

variable {P Q : List Char → Prop} {part cs : List Char}

theorem ascii_of_isInner {c : Char} (h : isInner c = true) : c.toNat < 0x80 := by
  simp only [isInner, isLetter, isDigit, Bool.or_eq_true, Bool.and_eq_true, decide_eq_true_eq] at h
  rcases h with ((⟨-, hz⟩ | ⟨-, hz⟩) | ⟨-, hz⟩) | rfl
  · exact Nat.lt_of_le_of_lt hz (by decide)
  · exact Nat.lt_of_le_of_lt hz (by decide)
  · exact Nat.lt_of_le_of_lt hz (by decide)
  · decide

namespace Plain

theorem ascii (h : Plain part) : IsAscii part := fun c hc => ascii_of_isInner (h.inner c hc)

theorem ne_nil (h : Plain part) : part ≠ [] := by
  obtain ⟨first, rest, rfl, -⟩ := h.start
  exact List.cons_ne_nil first rest

theorem no_dot (h : Plain part) : '.' ∉ part := fun hdot => absurd (h.inner '.' hdot) (by decide)

/-- Nothing that is decomposed takes a dot away. -/
theorem no_dot_of_decomposed (h : Plain (decomposed part)) : '.' ∉ part := by
  intro hdot
  refine h.no_dot (List.mem_flatMap.mpr ⟨'.', hdot, ?_⟩)
  rw [Text.decomposeChar_ascii (by decide)]
  exact List.mem_singleton_self _

end Plain

namespace Parted

theorem mono (hPQ : ∀ part, P part → Q part) (h : Parted P cs) : Parted Q cs := by
  cases h with
  | one h => exact .one (hPQ _ h)
  | two hschema htable => exact .two (hPQ _ hschema) (hPQ _ htable)

theorem and_iff {R : Char → Prop} (hdot : R '.') :
    Parted (fun part => P part ∧ ∀ c ∈ part, R c) cs ↔ Parted P cs ∧ ∀ c ∈ cs, R c := by
  constructor
  · intro h
    refine ⟨h.mono fun part hpart => hpart.1, ?_⟩
    cases h with
    | one h => exact h.2
    | two hschema htable =>
      exact List.forall_mem_append.mpr ⟨hschema.2, List.forall_mem_cons.mpr ⟨hdot, htable.2⟩⟩
  · rintro ⟨h, hall⟩
    cases h with
    | one h => exact .one ⟨h, hall⟩
    | two hschema htable =>
      obtain ⟨hbefore, hbehind⟩ := List.forall_mem_append.mp hall
      exact .two ⟨hschema, hbefore⟩ ⟨htable, (List.forall_mem_cons.mp hbehind).2⟩

end Parted

/-! ## One part -/

/-- A text begins with a word in any letter case where its lower case begins with the word. -/
theorem take_asciiLower_iff {word : List Char} (h : ∀ c ∈ word, Text.isCapital c = false) :
    (cs.map asciiLower).take word.length = word ↔ ∃ front rest, cs = front ++ rest ∧ InAnyCase front word := by
  rw [← List.map_take, Text.map_asciiLower_eq_iff h]
  constructor
  · exact fun hfront => ⟨_, _, (List.take_append_drop word.length cs).symm, hfront⟩
  · rintro ⟨front, rest, rfl, hfront⟩
    rwa [← hfront.length_eq, List.take_left]

theorem no_capitals {word : List Char} (h : word.all (!Text.isCapital ·) = true) :
    ∀ c ∈ word, Text.isCapital c = false := by
  simpa using h

/-- Both reserved words can be told from the lower case of a part. -/
theorem plain_lower_iff : Plain part ↔ part.head?.any isStart = true ∧ part.all isInner = true ∧
    (part.map asciiLower).take "pg_".toList.length ≠ "pg_".toList ∧
      part.map asciiLower ≠ "information_schema".toList := by
  rw [Ne, take_asciiLower_iff (no_capitals rfl), Ne, Text.map_asciiLower_eq_iff (no_capitals rfl), List.all_eq_true]
  constructor
  · intro h
    obtain ⟨first, rest, rfl, hfirst⟩ := h.start
    exact ⟨hfirst, h.inner, h.catalog, h.schema⟩
  · rintro ⟨hstart, hinner, hcatalog, hschema⟩
    cases part with
    | nil => cases hstart
    | cons first rest => exact ⟨⟨first, rest, rfl, hstart⟩, hinner, hcatalog, hschema⟩

instance : DecidablePred Plain := fun _ => decidable_of_iff _ plain_lower_iff.symm

theorem lowercase_ascii (h : IsAscii cs) : Text.lowercase (String.ofList cs) = String.ofList (cs.map asciiLower) := by
  rw [Text.lowercase, String.toList_ofList, Text.lowerFrom_ascii [] h]

/-- The two reserved names are told by the lower case of a part. -/
theorem reserved_iff (h : IsAscii cs) :
    ((Text.lowercase (String.ofList cs)).toList.take 3 = ['p', 'g', '_'] ↔
      ∃ front rest, cs = front ++ rest ∧ InAnyCase front "pg_".toList) ∧
    (Text.lowercase (String.ofList cs) = "information_schema" ↔ InAnyCase cs "information_schema".toList) := by
  rw [lowercase_ascii h, ← String.toList_inj, String.toList_ofList]
  exact ⟨@take_asciiLower_iff cs "pg_".toList (no_capitals rfl), Text.map_asciiLower_eq_iff (no_capitals rfl)⟩

theorem checkPart_normal_iff : checkPart (String.ofList part) = .ok () ↔ Plain (Text.normalizeChars part) := by
  by_cases hempty : part = []
  · subst hempty
    exact iff_of_false nofun fun h => h.ne_nil rfl
  have hne : ¬ String.ofList part = "" := by simpa using hempty
  simp only [checkPart, if_neg hne, Text.normalize, String.toList_ofList]
  cases hname : Text.normalizeChars part with
  | nil => exact iff_of_false nofun fun h => h.ne_nil rfl
  | cons first rest =>
    by_cases hstart : isStart first = true
    · simp only [hstart, Bool.not_true, Bool.false_eq_true, if_false]
      cases hfind : (first :: rest).find? (!isInner ·) with
      | some c =>
        have hc : ¬ isInner c = true := by simpa using List.find?_some hfind
        exact iff_of_false nofun fun h => hc (h.inner c (List.mem_of_find?_eq_some hfind))
      | none =>
        have hinner : ∀ c ∈ first :: rest, isInner c = true := by simpa using List.find?_eq_none.mp hfind
        obtain ⟨hcatalog, hschema⟩ := reserved_iff fun c hc => ascii_of_isInner (hinner c hc)
        dsimp only
        split
        · next h => exact iff_of_false nofun fun hplain => hplain.catalog (hcatalog.mp h)
        · next hfree =>
          split
          · next h => exact iff_of_false nofun fun hplain => hplain.schema (hschema.mp h)
          · next hother =>
            exact iff_of_true rfl ⟨⟨first, rest, rfl, hstart⟩, hinner, mt hcatalog.mpr hfree, mt hschema.mpr hother⟩
    · simp only [Bool.not_eq_true] at hstart
      simp only [hstart, Bool.not_false, if_true]
      refine iff_of_false nofun fun h => ?_
      obtain ⟨c, cs, hcs, hc⟩ := h.start
      obtain ⟨rfl, -⟩ := List.cons.inj hcs
      exact Bool.false_ne_true (hstart.symm.trans hc)

/-- A part is accepted when its characters stand for a plain one. -/
theorem checkPart_ok_iff : checkPart (String.ofList part) = .ok () ↔ Plain (decomposed part) := by
  rw [checkPart_normal_iff]
  constructor
  · intro h
    rwa [← Text.normalizeChars_of_ascii (Text.ascii_normalizeChars_iff.mp h.ascii)]
  · intro h
    rwa [Text.normalizeChars_of_ascii h.ascii]

/-! ## Whole names -/

/-- Parts that have no dots are what a text is split into. -/
theorem parted_iff (hdot : ∀ part, P part → '.' ∉ part) : Parted P cs ↔
    (∃ part, Text.splitAt '.' cs = [part] ∧ P part) ∨
      ∃ schema table, Text.splitAt '.' cs = [schema, table] ∧ P schema ∧ P table := by
  constructor
  · intro h
    cases h with
    | one h => exact .inl ⟨_, Text.splitAt_singleton_iff.mpr (hdot _ h), h⟩
    | @two schema table hschema htable =>
      refine .inr ⟨schema, table, Text.splitAt_eq_iff.mpr ⟨by simp, ?_, by simp⟩, hschema, htable⟩
      simpa using ⟨hdot _ hschema, hdot _ htable⟩
  · rintro (⟨part, hsplit, h⟩ | ⟨schema, table, hsplit, hschema, htable⟩)
    · have hwhole := (Text.splitAt_eq_iff.mp hsplit).whole
      rw [List.intercalate_singleton] at hwhole
      exact hwhole ▸ .one h
    · have hwhole := (Text.splitAt_eq_iff.mp hsplit).whole
      have hparts : ['.'].intercalate [schema, table] = schema ++ '.' :: table := by simp
      rw [hparts] at hwhole
      exact hwhole ▸ .two hschema htable

theorem check_ok_iff {name : String} :
    check name = .ok () ↔ Parted (fun part => Plain (decomposed part)) name.toList := by
  rw [parted_iff fun part => Plain.no_dot_of_decomposed, check]
  split
  · next hempty =>
    subst hempty
    refine iff_of_false nofun ?_
    rintro (⟨part, hsplit, h⟩ | ⟨schema, table, hsplit, -⟩)
    · cases hsplit
      exact h.ne_nil rfl
    · cases hsplit
  · split
    · next part hsplit => simp [hsplit, checkPart_ok_iff]
    · next schema table hsplit =>
      have hboth : (checkPart (String.ofList schema) >>= fun _ => checkPart (String.ofList table)) = .ok () ↔
          Plain (decomposed schema) ∧ Plain (decomposed table) := by
        rw [Result.bind_ok_iff, ← checkPart_ok_iff, ← checkPart_ok_iff]
        exact ⟨fun ⟨_, h⟩ => h, fun h => ⟨(), h⟩⟩
      simp [hsplit, hboth]
    · next hone htwo =>
      refine iff_of_false nofun ?_
      rintro (⟨part, hsplit, -⟩ | ⟨schema, table, hsplit, -⟩)
      · exact hone part hsplit
      · exact htwo schema table hsplit

/-! ## What names are refused with -/

/-- The failures that say what is wrong with a name. -/
inductive Naming : Failure → Prop where
  | empty : Naming .emptyIdentifier
  | format (name : String) : Naming (.qualifiedFormat name)
  | emptyPart : Naming .emptyIdentifierPart
  | vanished (name : String) : Naming (.vanishedIdentifier name)
  | start (name : String) : Naming (.identifierStart name)
  | character (name : String) (c : Char) : Naming (.identifierCharacter name c)
  | catalog (name : String) : Naming (.systemCatalog name)
  | informationSchema : Naming .informationSchema

theorem checkPart_naming {part : String} {e : Failure} (h : checkPart part = .error e) : Naming e := by
  simp only [checkPart] at h
  split at h
  · cases h
    exact .emptyPart
  · split at h
    · cases h
      exact .vanished _
    · split at h
      · cases h
        exact .start _
      · split at h
        · cases h
          exact .character _ _
        · split at h
          · cases h
            exact .catalog _
          · split at h
            · cases h
              exact .informationSchema
            · cases h

theorem check_naming {name : String} {e : Failure} (h : check name = .error e) : Naming e := by
  rw [check] at h
  split at h
  · cases h
    exact .empty
  · split at h
    · exact checkPart_naming h
    · rcases Result.bind_error_iff.mp h with hschema | ⟨_, -, htable⟩
      · exact checkPart_naming hschema
      · exact checkPart_naming htable
    · cases h
      exact .format _

theorem Naming.kind {e : Failure} (h : Naming e) : e.kind = .compilation := by
  cases h <;> rfl

/-! ## The text that is quoted -/

theorem mem_doubled {quote c : Char} : c ∈ doubled quote cs ↔ c ∈ cs := by
  induction cs with
  | nil => rfl
  | cons d cs ih =>
    rw [doubled]
    split
    · next h => simp [ih, h]
    · rw [List.mem_cons, ih, List.mem_cons]

theorem mem_quotePart {c : Char} : c ∈ (quotePart (String.ofList part)).toList ↔ c = '"' ∨ c ∈ part := by
  simp [quotePart, enclosed, mem_doubled, or_comm]

theorem mem_quoteParts {c : Char} : ∀ {parts : List (List Char)}, parts ≠ [] →
    (c ∈ (".".intercalate (parts.map fun part => quotePart (String.ofList part))).toList ↔
      c = '"' ∨ c ∈ ['.'].intercalate parts)
  | [], h => absurd rfl h
  | [part], _ => by
    rw [List.map_singleton, String.intercalate_singleton, List.intercalate_singleton, mem_quotePart]
  | part :: next :: parts, _ => by
    have hrest := mem_quoteParts (c := c) (List.cons_ne_nil next parts)
    rw [List.map_cons] at hrest
    rw [List.map_cons, List.map_cons, String.intercalate_cons_cons, List.intercalate_cons_cons]
    simp only [String.toList_append, List.mem_append, mem_quotePart, hrest]
    have hdot : c ∈ ".".toList ↔ c ∈ ['.'] := Iff.rfl
    rw [hdot]
    grind

/-- A quoted name has quotes and the characters of the name, as they are. -/
theorem mem_quote {c : Char} {name : String} : c ∈ (quote name).toList ↔ c = '"' ∨ c ∈ name.toList := by
  have hsplit := Text.splitAt_eq_iff.mp (Eq.refl (Text.splitAt '.' name.toList))
  rw [quote, mem_quoteParts hsplit.ne_nil, hsplit.whole]

theorem ascii_quote_iff {name : String} : IsAscii (quote name).toList ↔ IsAscii name.toList := by
  simp only [IsAscii, mem_quote]
  refine ⟨fun h c hc => h c (.inr hc), fun h c hc => ?_⟩
  rcases hc with rfl | hc
  · decide
  · exact h c hc

/-- Plain parts are the ASCII parts that stand for plain ones. -/
theorem plain_iff : Plain part ↔ Plain (decomposed part) ∧ IsAscii part := by
  constructor
  · intro h
    rw [Text.decomposed_ascii h.ascii]
    exact ⟨h, h.ascii⟩
  · rintro ⟨h, hascii⟩
    rwa [Text.decomposed_ascii hascii] at h

theorem check_of_plain (h : Parted Plain cs) : check (String.ofList cs) = .ok () := by
  rw [check_ok_iff, String.toList_ofList]
  exact h.mono fun part hpart => (plain_iff.mp hpart).1

/-- A name is accepted when it has one part, or two with a dot between, and the characters of each part stand for a
plain one; every other name is refused as one that cannot become a statement. The names whose parts are plain
themselves are those which are accepted and ASCII. What is quoted in SQL is the name as it is, so for an accepted name
that is not ASCII it is none that is plain. -/
theorem accepted_iff_plain (name : String) :
    (check name = .ok () ↔ Parted (fun part => Plain (decomposed part)) name.toList) ∧
    (check name = .ok () ∨ ∃ e, check name = .error e ∧ e.kind = .compilation) ∧
    (Parted Plain name.toList ↔ check name = .ok () ∧ IsAscii name.toList) ∧
    (IsAscii (quote name).toList ↔ IsAscii name.toList) := by
  refine ⟨check_ok_iff, ?_, ?_, ascii_quote_iff⟩
  · cases hcheck : check name with
    | ok _ => exact .inl rfl
    | error e => exact .inr ⟨e, rfl, (check_naming hcheck).kind⟩
  · rw [check_ok_iff, IsAscii, ← Parted.and_iff (R := (·.toNat < 0x80)) (by decide)]
    exact ⟨.mono fun part => plain_iff.mp, .mono fun part => plain_iff.mpr⟩

/-- Full-width letters are accepted, and the quotes in SQL are around them. -/
example : check "ｕｓｅｒｓ" = .ok () ∧ quote "ｕｓｅｒｓ" = "\"ｕｓｅｒｓ\"" := by decide +kernel

end SqlAdapter.Identifier
