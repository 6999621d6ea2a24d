/-
The order that a text asks for.

An item of the text is a field, with a direction behind it if it is to have one
(`Item`). The reader looks at no more than two words of an item (`Read`): the texts
it takes are those whose items are right in their first two words, whatever follows
there (`sortText_iff`).
-/
import SqlAdapter.Criteria.Reader
import SqlAdapter.Proofs.Result
import SqlAdapter.Proofs.Text.LetterCase
import SqlAdapter.Proofs.Text.Pieces

namespace SqlAdapter

/-- The word for a direction. -/
def SortDirection.word : SortDirection → String
  | .ascending => "asc"
  | .descending => "desc"

namespace SortKey

open Text (InAnyCase Separated Spaced)

/-! ## Items -/

/-- An item: a field, and a direction in any letter case if it has one. -/
inductive Item : List (List Char) → SortKey → Prop where
  | field (field : List Char) : Item [field] ⟨String.ofList field, .ascending⟩
  | directed (field : List Char) {word : List Char} {direction : SortDirection}
    (h : InAnyCase word direction.word.toList) : Item [field, word] ⟨String.ofList field, direction⟩

/-- What the reader takes for an item: anything may follow the direction. -/
inductive Read : List (List Char) → SortKey → Prop where
  | field (field : List Char) : Read [field] ⟨String.ofList field, .ascending⟩
  | directed (field : List Char) {word : List Char} {direction : SortDirection}
    (h : InAnyCase word direction.word.toList) (more : List (List Char)) :
    Read (field :: word :: more) ⟨String.ofList field, direction⟩

theorem item_iff {words : List (List Char)} {key : SortKey} : Item words key ↔ Read words key ∧ words.length ≤ 2 := by
  constructor
  · rintro (field | ⟨field, h⟩)
    · exact ⟨.field field, by simp⟩
    · exact ⟨.directed field h [], Nat.le_refl 2⟩
  · rintro ⟨field | ⟨field, h, more⟩, hlength⟩
    · exact .field field
    · obtain rfl : more = [] := List.eq_nil_of_length_eq_zero (by simpa using hlength)
      exact .directed field h

/-- The items of a text: what stands between commas, word by word, but for blank ones. -/
def Items (text : String) (items : List (List (List Char))) : Prop :=
  ∃ pieces words, Separated ',' text.toList pieces ∧ List.Forall₂ Spaced pieces words ∧ items = words.filter (· ≠ [])

theorem items_iff {text : String} {items : List (List (List Char))} :
    Items text items ↔ items = ((Text.splitAt ',' text.toList).map Text.words).filter (· ≠ []) := by
  have hwords : ∀ {pieces words}, List.Forall₂ Spaced pieces words ↔ pieces.map Text.words = words := by
    intro pieces words
    have hsame : Spaced = fun piece words => Text.words piece = words := by
      funext piece words
      exact propext Text.words_eq_iff.symm
    rw [hsame]
    exact Result.forall₂_eq_map_iff
  constructor
  · rintro ⟨pieces, words, hpieces, hspaced, rfl⟩
    rw [Text.splitAt_eq_iff.mpr hpieces, hwords.mp hspaced]
  · rintro rfl
    exact ⟨_, _, Text.splitAt_eq_iff.mp rfl, hwords.mpr rfl, rfl⟩

/-! ## Reading -/

theorem word_plain (direction : SortDirection) : ∀ c ∈ direction.word.toList, Text.isPlain c = true :=
  List.all_eq_true.mp (by cases direction <;> decide)

theorem ofWords_ok_iff {words : List (List Char)} {key : SortKey} (hne : words ≠ []) :
    ofWords words = .ok key ↔ Read words key := by
  have hword : ∀ (word : List Char) (direction : SortDirection),
      Text.lowercase (String.ofList word) = direction.word ↔ InAnyCase word direction.word.toList := by
    intro word direction
    rw [Text.lowercase_eq_iff (word_plain direction), String.toList_ofList]
  constructor
  · intro h
    unfold ofWords at h
    split at h
    · next field word more =>
      dsimp only at h
      split at h
      · next hasc =>
        cases h
        exact .directed field ((hword word .ascending).mp hasc) more
      · split at h
        · next hdesc =>
          cases h
          exact .directed field ((hword word .descending).mp hdesc) more
        · cases h
    · cases h
      exact .field _
    · exact absurd rfl hne
  · rintro (field | ⟨field, h, more⟩)
    · rfl
    · next word direction =>
      have hlower := (hword word direction).mpr h
      unfold ofWords
      dsimp only
      rw [hlower]
      cases direction <;> rfl

theorem ofText_ok_iff {text : String} {keys : List SortKey} : ofText text = .ok keys ↔
    List.Forall₂ Read (((Text.splitAt ',' text.toList).map Text.words).filter (· ≠ [])) keys := by
  have hne : ∀ words ∈ ((Text.splitAt ',' text.toList).map Text.words).filter (· ≠ []), words ≠ [] :=
    fun words hwords => by simpa using List.of_mem_filter hwords
  constructor
  · intro h
    have hread := (List.forall₂_and_left _ _).mpr ⟨hne, Result.mapM_ok h⟩
    exact hread.imp fun words key hkey => (ofWords_ok_iff hkey.1).mp hkey.2
  · intro h
    refine Result.mapM_of_forall₂ ?_
    have hread := (List.forall₂_and_left _ _).mpr ⟨hne, h⟩
    exact hread.imp fun words key hkey => (ofWords_ok_iff hkey.1).mpr hkey.2

/-- A direction that is none makes the text one that cannot be compiled. -/
theorem ofWords_error {words : List (List Char)} {e : Failure} (h : ofWords words = .error e) :
    e.kind = .compilation := by
  unfold ofWords at h
  split at h
  · dsimp only at h
    split at h
    · cases h
    · split at h
      · cases h
      · cases h
        rfl
  · cases h
  · cases h

/-- Reading a text takes its items one by one, each by its first two words, and gives their keys in order. Items of two
words at most are read as what they say, of all others the rest is passed over, and any other text is refused. -/
theorem sortText_iff (text : String) : ∃ items, (∀ others, Items text others ↔ others = items) ∧
    (∀ keys, ofJson (.string text) = .ok keys ↔ List.Forall₂ Read items keys) ∧
    (∀ keys, List.Forall₂ Item items keys ↔
      ofJson (.string text) = .ok keys ∧ ∀ words ∈ items, words.length ≤ 2) ∧
    ∀ e, ofJson (.string text) = .error e → e.kind = .compilation := by
  refine ⟨_, fun _ => items_iff, fun keys => ?_, fun keys => ?_, fun e h => ?_⟩
  · exact ofText_ok_iff
  · have hitem : Item = fun words key => words.length ≤ 2 ∧ Read words key := by
      funext words key
      exact propext (item_iff.trans and_comm)
    rw [hitem, List.forall₂_and_left, ofJson, ofText_ok_iff]
    exact and_comm
  · have hitems : Result.Avoids (fun e => e.kind ≠ .compilation) (ofText text) :=
      Result.Avoids.mapM (fun words e he => by simp [ofWords_error he]) _
    simpa using hitems e h

/-- Two words too many are passed over, though no key is written so; a word that is no direction is refused. -/
theorem sortText_iff_nullsLast : (∃ items, Items "name desc nulls last" items ∧
      ofJson (.string "name desc nulls last") = .ok [⟨"name", .descending⟩] ∧ ∀ keys, ¬ List.Forall₂ Item items keys) ∧
    ∃ e, ofJson (.string "name sideways") = .error e ∧ e.kind = .compilation := by
  constructor
  · obtain ⟨items, hitems, hread, hwritten, -⟩ := sortText_iff "name desc nulls last"
    have hcut : items = [["name".toList, "desc".toList, "nulls".toList, "last".toList]] :=
      ((hitems _).mp (items_iff.mpr (by decide +kernel))).symm
    subst hcut
    have hdesc : InAnyCase "desc".toList SortDirection.descending.word.toList := .refl _
    refine ⟨_, (hitems _).mpr rfl, (hread _).mpr (.cons (.directed "name".toList hdesc _) .nil), fun keys hkeys => ?_⟩
    obtain ⟨-, hshort⟩ := (hwritten keys).mp hkeys
    exact absurd (hshort _ (List.mem_singleton_self _)) (by decide)
  · obtain ⟨-, -, -, -, hkind⟩ := sortText_iff "name sideways"
    have herror : ofJson (.string "name sideways") = .error (.sortWord "sideways" "name") := by decide +kernel
    exact ⟨_, herror, hkind _ herror⟩

end SortKey

end SqlAdapter
