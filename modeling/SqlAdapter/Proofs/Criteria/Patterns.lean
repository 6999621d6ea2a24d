/-
Searches for a text against patterns.

A search for a text is made with a pattern, into which the text goes as it is. So its
wildcards and escapes are not looked for but obeyed, and a search finds what it
should exactly where the text has none of them (`Predicate.search_exact_iff`). In
one direction a plain text is a run of letters (`hits_letters`). In the other the
least text that a pattern hits decides: it is shorter than the text that was asked
for, or it has another letter in the place of a `_` (`least_plain`).
-/
import Mathlib.Data.List.Infix
import SqlAdapter.Criteria.Reader

namespace SqlAdapter

/-- The parts of a pattern. -/
inductive PatternPart where
  /-- Any text, written `%`. -/
  | run
  /-- Any one character, written `_`. -/
  | any
  /-- A character in either case. -/
  | letter (c : Char)
  deriving DecidableEq

namespace PatternPart

def ofChar (c : Char) : PatternPart := if c = '%' then .run else if c = '_' then .any else .letter c

/-- The parts of a pattern, in which a backslash makes a letter of what follows it. It must not stand at the end. -/
def read? : List Char → Option (List PatternPart)
  | [] => some []
  | ['\\'] => none
  | '\\' :: c :: p => (read? p).map (.letter c :: ·)
  | c :: p => (read? p).map (ofChar c :: ·)

/-- Is a text, as a whole, what the parts ask for? -/
def hits : List PatternPart → List Char → Bool
  | [], t => t.isEmpty
  | .run :: ps, t => t.tails.any (hits ps)
  | .any :: ps, _ :: t => hits ps t
  | .letter c :: ps, d :: t => asciiLower c == asciiLower d && hits ps t
  | _ :: _, [] => false

/-- The least text for a part. -/
def least : PatternPart → List Char
  | .run => []
  | .any => ['x']
  | .letter c => [c]

end PatternPart

/-- Does a text match a pattern, the case of ASCII letters aside? -/
def ilike (text pattern : String) : Bool :=
  match PatternPart.read? pattern.toList with
  | some parts => PatternPart.hits parts text.toList
  | none => false

/-- The searches of a filter for a text. -/
inductive Search where
  | contains
  | startsWith
  | endsWith

namespace Search

/-- The modifier that asks for a search. -/
def modifier : Search → String
  | .contains => "contains"
  | .startsWith => "startsWith"
  | .endsWith => "endsWith"

/-- What stands before the text in the pattern of a search. -/
def before : Search → String
  | .contains | .endsWith => "%"
  | .startsWith => ""

/-- What stands after it. -/
def after : Search → String
  | .contains | .startsWith => "%"
  | .endsWith => ""

def pattern (search : Search) (asked : String) : String := search.before ++ asked ++ search.after

/-- Where a search looks in a text. -/
def Looks : Search → List Char → List Char → Prop
  | .contains, found, t => found <:+: t
  | .startsWith, found, t => found <+: t
  | .endsWith, found, t => found <:+ t

instance (search : Search) (found t : List Char) : Decidable (search.Looks found t) :=
  match search with
  | .contains => inferInstanceAs (Decidable (found <:+: t))
  | .startsWith => inferInstanceAs (Decidable (found <+: t))
  | .endsWith => inferInstanceAs (Decidable (found <:+ t))

/-- The text has, where the search looks, what is asked for, the case of ASCII letters aside. -/
def Finds (search : Search) (asked t : String) : Prop :=
  search.Looks (asked.toList.map asciiLower) (t.toList.map asciiLower)

instance (search : Search) (asked t : String) : Decidable (search.Finds asked t) :=
  inferInstanceAs (Decidable (search.Looks _ _))

end Search

/-- A text without wildcards and escapes. -/
def Plain (asked : List Char) : Prop := ∀ c ∈ asked, c ≠ '%' ∧ c ≠ '_' ∧ c ≠ '\\'

/-! ## Plain texts -/

namespace PatternPart

theorem hits_run {ps : List PatternPart} {t : List Char} :
    hits (.run :: ps) t = true ↔ ∃ back, back <:+ t ∧ hits ps back = true := by
  rw [hits, List.any_eq_true]
  simp only [List.mem_tails]

theorem hits_rest (t : List Char) : hits [.run] t = true := hits_run.mpr ⟨[], List.nil_suffix, rfl⟩

/-- Letters are hit by what they are up to case. -/
theorem hits_letters {ps : List PatternPart} {asked t : List Char} : hits (asked.map .letter ++ ps) t = true ↔
    ∃ found back, found ++ back = t ∧ found.map asciiLower = asked.map asciiLower ∧ hits ps back = true := by
  induction asked generalizing t with
  | nil =>
    constructor
    · intro h
      exact ⟨[], t, rfl, rfl, h⟩
    · rintro ⟨found, back, rfl, hfound, h⟩
      obtain rfl := List.map_eq_nil_iff.mp hfound
      exact h
  | cons c asked ih =>
    cases t with
    | nil =>
      refine iff_of_false Bool.false_ne_true ?_
      rintro ⟨found, back, happend, hfound, -⟩
      obtain ⟨rfl, -⟩ := List.append_eq_nil_iff.mp happend
      cases hfound
    | cons d t =>
      rw [List.map_cons, List.cons_append, hits, Bool.and_eq_true, beq_iff_eq, ih]
      constructor
      · rintro ⟨hd, found, back, rfl, hfound, h⟩
        exact ⟨d :: found, back, rfl, by rw [List.map_cons, List.map_cons, hd, hfound], h⟩
      · rintro ⟨found, back, happend, hfound, h⟩
        cases found with
        | nil => cases hfound
        | cons e found =>
          obtain ⟨rfl, rfl⟩ := List.cons.inj happend
          obtain ⟨he, hfound⟩ := List.cons.inj hfound
          exact ⟨he.symm, found, back, rfl, hfound, h⟩

theorem hits_letters_run {asked t : List Char} : hits (asked.map .letter ++ [.run]) t = true ↔
    asked.map asciiLower <+: t.map asciiLower := by
  rw [hits_letters, List.prefix_map_iff]
  constructor
  · rintro ⟨found, back, happend, hfound, -⟩
    exact ⟨found, ⟨back, happend⟩, hfound.symm⟩
  · rintro ⟨found, ⟨back, happend⟩, hfound⟩
    exact ⟨found, back, happend, hfound.symm, hits_rest back⟩

theorem hits_letters_nil {asked t : List Char} :
    hits (asked.map .letter ++ []) t = true ↔ t.map asciiLower = asked.map asciiLower := by
  rw [hits_letters]
  constructor
  · rintro ⟨found, back, rfl, hfound, hback⟩
    rw [List.isEmpty_iff.mp hback, List.append_nil, hfound]
  · intro h
    exact ⟨t, [], List.append_nil t, h, rfl⟩

theorem read?_run (p : List Char) : read? ('%' :: p) = (read? p).map (.run :: ·) := by
  cases p <;> rfl

theorem read?_cons {c : Char} (h : c ≠ '\\') (p : List Char) : read? (c :: p) = (read? p).map (ofChar c :: ·) := by
  cases p <;> simp [read?, h]

theorem ofChar_letter {c : Char} (hrun : c ≠ '%') (hany : c ≠ '_') : ofChar c = .letter c := by
  rw [ofChar, if_neg hrun, if_neg hany]

theorem read?_plain {asked : List Char} (h : Plain asked) (p : List Char) :
    read? (asked ++ p) = (read? p).map (asked.map .letter ++ ·) := by
  induction asked with
  | nil => simp
  | cons c asked ih =>
    obtain ⟨hrun, hany, hescape⟩ := h c List.mem_cons_self
    rw [List.cons_append, read?_cons hescape, ofChar_letter hrun hany, ih fun d hd => h d (List.mem_cons_of_mem c hd),
      Option.map_map]
    rfl

/-! ## The least text -/

theorem hits_least (ps : List PatternPart) : hits ps (ps.flatMap least) = true := by
  induction ps with
  | nil => rfl
  | cons part ps ih =>
    cases part with
    | run => exact hits_run.mpr ⟨ps.flatMap least, List.suffix_rfl, ih⟩
    | any => exact ih
    | letter c =>
      rw [List.flatMap_cons, least, List.singleton_append, hits, beq_self_eq_true, Bool.true_and]
      exact ih

theorem least_plain_of_lt {asked text : List Char} (h : text.length < asked.length) :
    text.length ≤ asked.length ∧ (text.map asciiLower = asked.map asciiLower → Plain asked) := by
  refine ⟨h.le, fun hsame => ?_⟩
  have hlengths := congrArg List.length hsame
  rw [List.length_map, List.length_map] at hlengths
  exact absurd hlengths h.ne

/-- The least text for what was asked for is no longer than that, and the same up to case only if nothing in it is special. -/
theorem least_plain {asked p : List Char} (hp : p = [] ∨ p = ['%']) {ps : List PatternPart}
    (h : read? (asked ++ p) = some ps) : (ps.flatMap least).length ≤ asked.length ∧
      ((ps.flatMap least).map asciiLower = asked.map asciiLower → Plain asked) := by
  induction asked using read?.induct generalizing ps with
  | case1 =>
    obtain rfl | rfl := hp <;> cases h <;> exact ⟨le_rfl, fun _ => nofun⟩
  | case2 =>
    -- At the end of a pattern nothing is left to escape; the wildcard behind it is one letter.
    obtain rfl | rfl := hp <;> cases h
    exact ⟨le_rfl, fun hsame => absurd hsame (by decide)⟩
  | case3 c asked ih =>
    obtain ⟨rest, hrest, rfl⟩ := Option.map_eq_some_iff.mp h
    rw [List.flatMap_cons, least, List.singleton_append]
    exact least_plain_of_lt (Nat.succ_lt_succ (Nat.lt_succ_of_le (ih hrest).1))
  | case4 c asked hlast hescape ih =>
    have hc : c ≠ '\\' := by
      rintro rfl
      cases asked with
      | nil => exact hlast rfl rfl
      | cons d asked => exact hescape d asked rfl rfl
    rw [List.cons_append, read?_cons hc] at h
    obtain ⟨rest, hrest, rfl⟩ := Option.map_eq_some_iff.mp h
    obtain ⟨hlength, hplain⟩ := ih hrest
    rw [List.flatMap_cons]
    by_cases hrun : c = '%'
    · rw [hrun]
      exact least_plain_of_lt (Nat.lt_succ_of_le hlength)
    by_cases hany : c = '_'
    · rw [hany]
      exact ⟨Nat.succ_le_succ hlength, fun hsame => absurd (List.cons.inj hsame).1 (by decide)⟩
    rw [ofChar_letter hrun hany]
    refine ⟨Nat.succ_le_succ hlength, fun hsame d hd => ?_⟩
    obtain rfl | hd := List.mem_cons.mp hd
    · exact ⟨hrun, hany, hc⟩
    · exact hplain (List.cons.inj hsame).2 d hd

end PatternPart

/-! ## Searches -/

namespace Search

open PatternPart

/-- What a search accepts before the text. -/
def opening : Search → List PatternPart
  | .contains | .endsWith => [.run]
  | .startsWith => []

theorem read?_pattern (search : Search) (asked : String) : read? (search.pattern asked).toList =
    (read? (asked.toList ++ search.after.toList)).map (search.opening ++ ·) := by
  rw [pattern, String.toList_append, String.toList_append, List.append_assoc]
  cases search with
  | contains => exact read?_run _
  | startsWith => exact Option.map_id'.symm
  | endsWith => exact read?_run _

/-- A plain text is found by its pattern. -/
theorem ilike_plain {search : Search} {asked : String} (h : Plain asked.toList) (t : String) :
    ilike t (search.pattern asked) = true ↔ search.Finds asked t := by
  rw [ilike, read?_pattern, read?_plain h]
  cases search with
  | contains =>
    refine hits_run.trans ⟨?_, fun hfinds => ?_⟩
    · rintro ⟨back, hback, hhits⟩
      exact List.infix_iff_prefix_suffix.mpr ⟨_, hits_letters_run.mp hhits, hback.map asciiLower⟩
    · obtain ⟨_, hfront, hend⟩ := List.infix_iff_prefix_suffix.mp hfinds
      obtain ⟨back, hback, rfl⟩ := List.suffix_map_iff.mp hend
      exact ⟨back, hback, hits_letters_run.mpr hfront⟩
  | startsWith => exact hits_letters_run
  | endsWith =>
    refine hits_run.trans ⟨?_, fun hfinds => ?_⟩
    · rintro ⟨back, hback, hhits⟩
      exact List.suffix_map_iff.mpr ⟨back, hback, (hits_letters_nil.mp hhits).symm⟩
    · obtain ⟨back, hback, hsame⟩ := List.suffix_map_iff.mp hfinds
      exact ⟨back, hback, hits_letters_nil.mpr hsame.symm⟩

/-- Where a search looks is inside the text. -/
theorem Looks.inside {search : Search} {found t : List Char} (h : search.Looks found t) : found <:+: t := by
  cases search with
  | contains => exact h
  | startsWith => exact List.IsPrefix.isInfix h
  | endsWith => exact List.IsSuffix.isInfix h

/-- A text that is found in the least text that its pattern hits is plain. -/
theorem plain_of_finds {search : Search} {asked p : String} (hp : p.toList = [] ∨ p.toList = ['%']) {ps : List PatternPart}
    (h : read? (asked.toList ++ p.toList) = some ps) (hfinds : search.Finds asked (String.ofList (ps.flatMap least))) :
    Plain asked.toList := by
  obtain ⟨hlength, hplain⟩ := least_plain hp h
  have hinside := Looks.inside hfinds
  rw [String.toList_ofList] at hinside
  exact hplain (hinside.eq_of_length_le (by simpa only [List.length_map] using hlength)).symm

theorem finds_itself (search : Search) (asked : String) : search.Finds asked asked := by
  cases search with
  | contains => exact List.infix_rfl
  | startsWith => exact List.prefix_rfl
  | endsWith => exact List.suffix_rfl

/-- Where a pattern agrees with its search on every text, the text that is searched for is plain. -/
theorem plain_of_exact {search : Search} {asked : String}
    (h : ∀ t, ilike t (search.pattern asked) = true ↔ search.Finds asked t) : Plain asked.toList := by
  have hpattern := search.read?_pattern asked
  cases hread : read? (asked.toList ++ search.after.toList) with
  | some ps =>
    rw [hread, Option.map_some] at hpattern
    have hopening : (search.opening ++ ps).flatMap least = ps.flatMap least := by cases search <;> rfl
    have hleast := hopening ▸ hits_least (search.opening ++ ps)
    refine plain_of_finds (by cases search <;> simp [after]) hread ((h _).mp ?_)
    rw [ilike, hpattern, String.toList_ofList]
    exact hleast
  | none =>
    -- A pattern that ends in a backslash hits nothing, not even the text itself.
    have hitself := (h asked).mpr (search.finds_itself asked)
    rw [ilike, hpattern, hread] at hitself
    cases hitself

end Search

namespace Predicate

/-- A search of a field is a pattern, and this hits what the search should find, no more and no less, exactly when the text
has no wildcards and no escapes. -/
theorem search_exact_iff (search : Search) (field asked : String) : ∃ pattern,
    ofModifier field search.modifier (.string asked) = .ok (.compare field (.compare .ilike) (.string pattern)) ∧
      ((∀ t, ilike t pattern = true ↔ search.Finds asked t) ↔ Plain asked.toList) := by
  refine ⟨search.pattern asked, ?_, Search.plain_of_exact, Search.ilike_plain⟩
  cases search <;> rfl

/-- A search for a percentage hits an amount, which does not have it. -/
example : ilike "500 EUR" (Search.contains.pattern "50%") = true ∧ ¬ Search.contains.Finds "50%" "500 EUR" := by decide

end Predicate

end SqlAdapter
