/-
How the readers of placeholders pass over text.

`passes` follows the quotes of a text that holds no placeholder outside them.
Both readers skip such a text: `piecesFrom_passes` for the marks of a fragment,
`indicesFrom_passes` for the numbers of a statement. Quoted names and literals are
such texts whatever stands in the quotes (`passes_enclosed`), since a doubled quote
closes them and opens them again. A placeholder is read as its own number
when no digit follows it (`indicesFrom_numbered`), as long as the number fits
into 64 bits.
-/
import SqlAdapter.Proofs.Digits
import SqlAdapter.Sql.Identifier
import SqlAdapter.Sql.Placeholder

namespace SqlAdapter.Placeholder

/-- Where the reader stands after a text; none if it meets a placeholder outside of quotes. -/
def passes (q : Quoting) : List Char → Option Quoting
  | [] => some q
  | c :: cs => if q = .plain ∧ (c = '?' ∨ c = '$') then none else passes (q.after c) cs

/-- Does a text not go on with a number that stands in front of it? -/
def endsNumber : List Char → Bool
  | [] => true
  | c :: _ => !isDigit c

theorem passes_append {q q' : Quoting} {cs : List Char} (ds : List Char) (h : passes q cs = some q') :
    passes q (cs ++ ds) = passes q' ds := by
  induction cs generalizing q with
  | nil => cases h; rfl
  | cons c cs ih =>
    rw [passes] at h
    rw [List.cons_append, passes]
    split at h
    · cases h
    · next hc => rw [if_neg hc, ih h]

theorem endsNumber_append {cs ds : List Char} (hc : endsNumber cs = true) (hd : endsNumber ds = true) :
    endsNumber (cs ++ ds) = true := by
  cases cs with
  | nil => exact hd
  | cons c cs => exact hc

/-! ## Marks of a fragment -/

/-- Text in front of the first piece. -/
def onto (front : List Char) : List (List Char) → List (List Char)
  | piece :: pieces => (front ++ piece) :: pieces
  | [] => [front]

theorem piecesFrom_cons {q : Quoting} {c : Char} (h : ¬ (q = .plain ∧ c = '?')) (cs : List Char) :
    piecesFrom q (c :: cs) = onto [c] (piecesFrom (q.after c) cs) := by
  rw [piecesFrom, if_neg h]
  cases piecesFrom (q.after c) cs <;> rfl

theorem piecesFrom_mark (cs : List Char) : piecesFrom .plain ('?' :: cs) = [] :: piecesFrom .plain cs := by
  rw [piecesFrom, if_pos ⟨rfl, rfl⟩]

theorem piecesFrom_ne_nil (q : Quoting) (cs : List Char) : piecesFrom q cs ≠ [] := by
  cases cs with
  | nil => exact List.cons_ne_nil _ _
  | cons c cs =>
    by_cases h : q = .plain ∧ c = '?'
    · rw [piecesFrom, if_pos h]; exact List.cons_ne_nil _ _
    · rw [piecesFrom_cons h]
      cases piecesFrom (q.after c) cs <;> exact List.cons_ne_nil _ _

theorem onto_nil {pieces : List (List Char)} (h : pieces ≠ []) : onto [] pieces = pieces := by
  cases pieces with
  | nil => exact absurd rfl h
  | cons piece pieces => rfl

theorem onto_append (front more : List Char) (pieces : List (List Char)) :
    onto (front ++ more) pieces = onto front (onto more pieces) := by
  cases pieces with
  | nil => rfl
  | cons piece pieces => simp only [onto, List.append_assoc]

/-- Text without placeholders stays in the piece in which it stands. -/
theorem piecesFrom_passes {q q' : Quoting} {cs : List Char} (rest : List Char) (h : passes q cs = some q') :
    piecesFrom q (cs ++ rest) = onto cs (piecesFrom q' rest) := by
  induction cs generalizing q with
  | nil => cases h; exact (onto_nil (piecesFrom_ne_nil _ rest)).symm
  | cons c cs ih =>
    rw [passes] at h
    split at h
    · cases h
    · next hc =>
      have hmark : ¬ (q = .plain ∧ c = '?') := fun ⟨hq, hm⟩ => hc ⟨hq, .inl hm⟩
      rw [List.cons_append, piecesFrom_cons hmark, ih h, ← onto_append]
      rfl

/-! ## Numbers of a statement -/

/-- Text without placeholders holds no numbers. -/
theorem indicesFrom_passes {q q' : Quoting} {cs : List Char} (rest : List Char) (h : passes q cs = some q') :
    indicesFrom q none (cs ++ rest) = indicesFrom q' none rest := by
  induction cs generalizing q with
  | nil => cases h; rfl
  | cons c cs ih =>
    rw [passes] at h
    split at h
    · cases h
    · next hc =>
      have hdollar : ¬ (q = .plain ∧ c = '$') := fun ⟨hq, hm⟩ => hc ⟨hq, .inr hm⟩
      simp only [List.cons_append, indicesFrom, if_neg hdollar]
      exact ih h

theorem indicesFrom_digits (q : Quoting) (before digits rest : List Char)
    (h : ∀ c ∈ digits, isDigit c = true) :
    indicesFrom q (some before) (digits ++ rest) = indicesFrom q (some (digits.reverse ++ before)) rest := by
  induction digits generalizing before with
  | nil => rfl
  | cons c cs ih =>
    have hc : isDigit c = true := h c (List.mem_cons_self ..)
    simp only [List.cons_append, indicesFrom, if_pos hc, List.reverse_cons, List.append_assoc]
    exact ih (c :: before) fun d hd => h d (List.mem_cons_of_mem c hd)

theorem indicesFrom_closed (digits : List Char) {rest : List Char} (h : endsNumber rest = true) :
    indicesFrom .plain (some digits) rest = closed (some digits) ++ indicesFrom .plain none rest := by
  cases rest with
  | nil => simp only [indicesFrom, closed, List.append_nil]
  | cons c cs =>
    have hc : ¬ isDigit c = true := by simpa [endsNumber] using h
    simp only [indicesFrom, if_neg hc, true_and]

theorem index?_decimalChars (n : Nat) :
    index? (decimalChars n) = if n < 2 ^ 64 then some n else none := by
  rw [index?, if_neg (decimalChars_ne_nil n), decimalValue_decimalChars]

/-- A placeholder is read as its number, unless that is too great. -/
theorem indicesFrom_numbered (n : Nat) {rest : List Char} (h : endsNumber rest = true) :
    indicesFrom .plain none (numbered n ++ rest) =
      (if n < 2 ^ 64 then [n] else []) ++ indicesFrom .plain none rest := by
  have hopen : indicesFrom .plain none (numbered n ++ rest) =
      indicesFrom .plain (some []) (decimalChars n ++ rest) := rfl
  rw [hopen, indicesFrom_digits _ _ _ _ (decimalChars_isDigit n), indicesFrom_closed _ h]
  simp only [closed, List.append_nil, List.reverse_reverse, index?_decimalChars]
  split <;> rfl

/-- Every number that is read fits into 64 bits. -/
theorem index?_lt {digits : List Char} {i : Nat} (h : index? digits = some i) : i < 2 ^ 64 := by
  rw [index?] at h
  split at h
  · cases h
  · split at h
    · next hfits =>
      cases h
      exact hfits
    · cases h

theorem closed_lt {pending : Open} {i : Nat} (h : i ∈ closed pending) : i < 2 ^ 64 := by
  cases pending with
  | none => cases h
  | some digits => exact index?_lt (Option.mem_toList.mp h)

theorem indicesFrom_lt {q : Quoting} {pending : Open} {cs : List Char} {i : Nat}
    (h : i ∈ indicesFrom q pending cs) : i < 2 ^ 64 := by
  induction cs generalizing q pending with
  | nil => exact closed_lt h
  | cons c cs ih =>
    cases pending with
    | none =>
      rw [indicesFrom] at h
      split at h
      · exact ih h
      · exact ih h
    | some digits =>
      rw [indicesFrom] at h
      split at h
      · exact ih h
      · rcases List.mem_append.mp h with h | h
        · exact closed_lt h
        · split at h
          · exact ih h
          · exact ih h

theorem indices_lt {sql : String} {i : Nat} (h : i ∈ indices sql) : i < 2 ^ 64 := indicesFrom_lt h

/-- As long as a machine can count so far, all numbers of a range can be read. -/
theorem filter_range' {first count : Nat} (h : first + count ≤ 2 ^ 64) :
    (List.range' first count).filter (· < 2 ^ 64) = List.range' first count := by
  refine List.filter_eq_self.mpr fun i hi => ?_
  rw [List.mem_range'_1] at hi
  exact decide_eq_true (by omega)

/-! ## Quoted text -/

/-- A character that opens a literal or a name, and closes it. -/
def IsQuote (c : Char) : Prop := c = '\'' ∨ c = '"'

instance (c : Char) : Decidable (IsQuote c) := inferInstanceAs (Decidable (_ ∨ _))

/-- Where the reader stands behind an opening quote. -/
def Quoting.within (quote : Char) : Quoting := if quote = '\'' then .literal else .name

theorem Quoting.after_plain {c : Char} (h : ¬ IsQuote c) : Quoting.after .plain c = .plain := by
  obtain ⟨hsingle, hdouble⟩ := not_or.mp h
  rw [Quoting.after, if_neg hsingle, if_neg hdouble]

/-- In quotes a doubled quote leaves the reader in quotes. -/
theorem passes_doubled {quote : Char} (h : IsQuote quote) (cs : List Char) :
    passes (.within quote) (Identifier.doubled quote cs) = some (.within quote) := by
  induction cs with
  | nil => rfl
  | cons c cs ih =>
    by_cases hc : c = quote
    · subst hc
      rcases h with rfl | rfl <;> simpa [Identifier.doubled, passes, Quoting.within, Quoting.after] using ih
    · rcases h with rfl | rfl <;> simpa [Identifier.doubled, passes, Quoting.within, Quoting.after, hc] using ih

theorem passes_unclosed {quote : Char} (h : IsQuote quote) (cs : List Char) :
    passes .plain (quote :: Identifier.doubled quote cs) = some (.within quote) := by
  have hopen : passes .plain (quote :: Identifier.doubled quote cs) =
      passes (.within quote) (Identifier.doubled quote cs) := by rcases h with rfl | rfl <;> rfl
  rw [hopen, passes_doubled h cs]

theorem passes_enclosed {quote : Char} (h : IsQuote quote) (cs : List Char) :
    passes .plain (Identifier.enclosed quote cs) = some .plain := by
  have hclose : passes (.within quote) [quote] = some .plain := by rcases h with rfl | rfl <;> rfl
  rw [Identifier.enclosed, ← List.cons_append, passes_append _ (passes_unclosed h cs), hclose]

end SqlAdapter.Placeholder
