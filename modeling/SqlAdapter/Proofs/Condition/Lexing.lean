/-
The tokens of a condition.

A text `Lexes` to tokens when the reader of tokens, coming to it between two
tokens, has read just these behind it, whatever comes next. Text that ends in a
word, a name or signs is not closed: what comes next must not go on with it.
Chunks of text are put together by `Lexes.append`.

`Condition.lexes` follows `Condition.text` chunk by chunk: it lexes to
`Condition.tokens`, with the condition's values where its marks are.
-/
import SqlAdapter.Proofs.Condition.Reader
import SqlAdapter.Sql.Identifier
import Mathlib.Data.List.Forall2

namespace SqlAdapter

namespace Lexing

/-- Does a text begin by ending whatever word, name or signs are open? -/
def separates : List Char → Bool
  | [] => false
  | c :: _ => !(isLetter c || Token.isSign c || c = '"')

theorem separates_append {cs : List Char} (h : separates cs = true) (ds : List Char) :
    separates (cs ++ ds) = true := by
  cases cs with
  | nil => cases h
  | cons c cs => exact h

/-- What separates does not belong to an open token that may end. -/
theorem continued?_none {l : Lexing} {ts : List Token} {c : Char} {cs : List Char} (hl : l.flush = some ts)
    (h : separates (c :: cs) = true) : l.continued? c = none := by
  simp only [separates, Bool.not_eq_true', Bool.or_eq_false_iff, decide_eq_false_iff_not] at h
  obtain ⟨⟨hletter, hsign⟩, hquote⟩ := h
  cases l with
  | between => rfl
  | word letters => simp [continued?, hletter]
  | signs chars => simp [continued?, hsign]
  | name chars => cases hl
  | quote chars => simp [continued?, hquote]

theorem flush_tokens {l : Lexing} {ts : List Token} (hl : l.flush = some ts) {rest : List Char}
    (hrest : rest = [] ∨ separates rest = true) (values : List Value) :
    l.tokens? rest values = (between.tokens? rest values).map (ts ++ ·) := by
  cases rest with
  | nil =>
    rw [tokens?, tokens?]
    split
    · rw [hl]
      simp [flush]
    · rfl
  | cons c cs =>
    have hseparates : separates (c :: cs) = true := hrest.resolve_left (List.cons_ne_nil c cs)
    have hnone : between.continued? c = none := rfl
    have hempty : between.flush = some [] := rfl
    simp only [tokens?, continued?_none hl hseparates, hnone, hl, hempty, Option.bind_some]
    cases start? c values with
    | none => rfl
    | some started => simp [Function.comp_def]

end Lexing

/-- The reader of tokens reads the text as these tokens, its marks taking these values. Unless the
text is closed, what comes next must separate it from the next token. -/
def Lexes (closed : Bool) (text : String) (values : List Value) (ts : List Token) : Prop :=
  ∀ rest more, closed = true ∨ rest = [] ∨ Lexing.separates rest = true →
    Lexing.between.tokens? (text.toList ++ rest) (values ++ more) =
      (Lexing.between.tokens? rest more).map (ts ++ ·)

namespace Lexes

open Lexing

theorem append {closed closed' : Bool} {s t : String} {vs ws : List Value} {ts us : List Token}
    (hs : Lexes closed s vs ts) (ht : Lexes closed' t ws us)
    (h : closed = true ∨ separates t.toList = true) : Lexes closed' (s ++ t) (vs ++ ws) (ts ++ us) := by
  intro rest more hrest
  have hnext : closed = true ∨ t.toList ++ rest = [] ∨ separates (t.toList ++ rest) = true :=
    h.imp_right fun h => .inr (separates_append h rest)
  rw [String.toList_append, List.append_assoc, List.append_assoc, hs _ _ hnext, ht _ _ hrest, Option.map_map]
  congr 1
  funext rest
  exact (List.append_assoc ts us rest).symm

theorem opened {closed : Bool} {s : String} {vs : List Value} {ts : List Token} (h : Lexes closed s vs ts) :
    Lexes false s vs ts := by
  intro rest more hrest
  refine h rest more ?_
  rcases hrest with hrest | hrest
  · cases hrest
  · exact .inr hrest

/-! ## Chunks -/

theorem blank : Lexes true " " [] [] := fun _ _ _ => rfl

theorem comma : Lexes true "," [] [.comma] := fun _ _ _ => rfl

theorem dot : Lexes true "." [] [.dot] := fun _ _ _ => rfl

theorem opening : Lexes true "(" [] [.opening] := fun _ _ _ => rfl

theorem closing : Lexes true ")" [] [.closing] := fun _ _ _ => rfl

theorem mark (v : Value) : Lexes true "?" [v] [.value v] := fun _ _ _ => rfl

/-- Characters of one sort are read as one token, which the reader collects in `collect`. -/
theorem collected (collect : List Char → Lexing) {sort : Char → Bool}
    (hstart : ∀ c values, sort c = true → start? c values = some ([], collect [c], values))
    (hcontinued : ∀ c chars, sort c = true → (collect chars).continued? c = some (collect (c :: chars)))
    {text : String} {t : Token} (hsort : ∀ c ∈ text.toList, sort c = true) (hne : text.toList ≠ [])
    (ht : (collect text.toList.reverse).flush = some [t]) : Lexes false text [] [t] := by
  have hmore : ∀ (cs chars rest : List Char) (values : List Value), (∀ c ∈ cs, sort c = true) →
      (collect chars).tokens? (cs ++ rest) values = (collect (cs.reverse ++ chars)).tokens? rest values := by
    intro cs
    induction cs with
    | nil => intro chars rest values _; rfl
    | cons c cs ih =>
      intro chars rest values h
      rw [List.cons_append, tokens?, hcontinued c chars (h c (List.mem_cons_self ..))]
      have hrest := ih (c :: chars) rest values fun d hd => h d (List.mem_cons_of_mem c hd)
      rw [List.reverse_cons, List.append_assoc]
      exact hrest
  intro rest more hrest
  have hseparates : rest = [] ∨ separates rest = true := hrest.resolve_left (by decide)
  cases htext : text.toList with
  | nil => exact absurd htext hne
  | cons c cs =>
    rw [htext] at hsort ht
    have hnone : between.continued? c = none := rfl
    have hopen : (collect [c]).tokens? (cs ++ rest) more = (between.tokens? rest more).map ([t] ++ ·) := by
      rw [hmore cs [c] rest more fun d hd => hsort d (List.mem_cons_of_mem c hd), ← List.reverse_cons]
      exact flush_tokens ht hseparates more
    simp only [List.cons_append, List.nil_append, tokens?, hnone, flush, Option.bind_some,
      hstart c more (hsort c (List.mem_cons_self ..)), hopen, Option.map_map]
    rfl

theorem word {text : String} {t : Token} (hletters : text.toList.all isLetter = true)
    (hne : text.toList ≠ []) (ht : Token.ofWord? text.toList = some t) : Lexes false text [] [t] := by
  have hall := List.all_eq_true.mp hletters
  refine collected Lexing.word (fun c values hc => ?_) (fun c chars hc => ?_) hall hne ?_
  · have hblank : c ≠ ' ' := by rintro rfl; exact absurd hc (by decide)
    have hquote : c ≠ '"' := by rintro rfl; exact absurd hc (by decide)
    simp only [start?, if_neg hblank, if_neg hquote, if_pos hc]
  · rw [continued?, if_pos hc]
  · rw [flush, List.reverse_reverse, ht]
    rfl

theorem signs {text : String} {t : Token} (hsigns : text.toList.all Token.isSign = true)
    (hne : text.toList ≠ []) (ht : Token.ofSigns? text.toList = some t) : Lexes false text [] [t] := by
  have hall := List.all_eq_true.mp hsigns
  refine collected Lexing.signs (fun c values hc => ?_) (fun c chars hc => ?_) hall hne ?_
  · have hblank : c ≠ ' ' := by rintro rfl; exact absurd hc (by decide)
    have hquote : c ≠ '"' := by rintro rfl; exact absurd hc (by decide)
    have hletter : ¬ isLetter c = true := by
      simp only [Token.isSign, Bool.or_eq_true, decide_eq_true_eq] at hc
      rcases hc with (rfl | rfl) | rfl <;> decide
    simp only [start?, if_neg hblank, if_neg hquote, if_neg hletter, if_pos hc]
  · rw [continued?, if_pos hc]
  · rw [flush, List.reverse_reverse, ht]
    rfl

/-- A quoted name is read as the name, whatever characters it has. -/
theorem name (part : String) : Lexes false (Identifier.quotePart part) [] [.name part] := by
  have hinside : ∀ (cs chars rest : List Char) (values : List Value),
      (Lexing.name chars).tokens? (Identifier.doubled '"' cs ++ '"' :: rest) values =
        (Lexing.quote (cs.reverse ++ chars)).tokens? rest values := by
    intro cs
    induction cs with
    | nil => intro chars rest values; rfl
    | cons c cs ih =>
      intro chars rest values
      rw [List.reverse_cons, List.append_assoc]
      by_cases hc : c = '"'
      · subst hc
        exact ih ('"' :: chars) rest values
      · have hcontinued : (Lexing.name chars).continued? c = some (.name (c :: chars)) := by
          simp [continued?, hc]
        rw [Identifier.doubled, if_neg hc, List.cons_append, tokens?, hcontinued]
        exact ih (c :: chars) rest values
  intro rest more hrest
  have hseparates : rest = [] ∨ separates rest = true := hrest.resolve_left (by decide)
  have hflush : (Lexing.quote (part.toList.reverse ++ [])).flush = some [.name part] := by
    rw [flush, List.append_nil, List.reverse_reverse, String.ofList_toList]
  have hopen : (Lexing.name []).tokens? (Identifier.doubled '"' part.toList ++ '"' :: rest) more =
      (between.tokens? rest more).map ([.name part] ++ ·) := by
    rw [hinside]
    exact flush_tokens hflush hseparates more
  have hstart : Lexing.between.tokens? ((Identifier.quotePart part).toList ++ rest) ([] ++ more) =
      ((Lexing.name []).tokens? (Identifier.doubled '"' part.toList ++ '"' :: rest) more).map
        fun tokens => [] ++ ([] ++ tokens) := by
    rw [Identifier.quotePart, String.toList_ofList, Identifier.enclosed, List.cons_append, List.append_assoc]
    rfl
  rw [hstart, hopen, Option.map_map]
  rfl

/-- How a keyword is written. -/
def keywordSql : Keyword → String
  | .is => "IS"
  | .null => "NULL"
  | .not => "NOT"
  | .among => "IN"
  | .and => "AND"
  | .or => "OR"
  | .true => "TRUE"
  | .false => "FALSE"

theorem keyword (k : Keyword) : Lexes false (keywordSql k) [] [.keyword k] := by
  cases k <;> exact word (by decide) (by decide) rfl

/-- A keyword between blanks. -/
theorem keywordBetween (k : Keyword) : Lexes true (" " ++ keywordSql k ++ " ") [] [.keyword k] :=
  (blank.append (keyword k) (.inl rfl)).append blank (.inr rfl)

end Lexes

/-! ## Tokens of a condition -/

namespace ColumnRef

def tokens (c : ColumnRef) : List Token := [.name c.qualifier, .dot, .name c.column]

theorem lexes (c : ColumnRef) : Lexes false c.sql [] c.tokens :=
  ((Lexes.name c.qualifier).append .dot (.inr rfl)).append (.name c.column) (.inl rfl)

end ColumnRef

namespace Comparison

def tokens : Comparison → List Token
  | .notLike => [.keyword .not, .comparison .like]
  | comparison => [.comparison comparison]

theorem lexes (comparison : Comparison) : Lexes false comparison.sql [] comparison.tokens := by
  cases comparison with
  | eq | ne | gt | gte | lt | lte => exact .signs (by decide) (by decide) rfl
  | like | ilike => exact .word (by decide) (by decide) rfl
  | notLike =>
    have hlike : Lexes false "LIKE" [] [.comparison .like] := .word (by decide) (by decide) rfl
    exact ((Lexes.keyword .not).append .blank (.inr rfl)).append hlike (.inl rfl)

end Comparison

namespace Condition

/-- The tokens of several parts with a word between each two. -/
def separated (word : Token) : List (List Token) → List Token
  | [] => []
  | [part] => part
  | part :: parts => part ++ word :: separated word parts

/-- The tokens of parts that `Condition.joined` joins. -/
def joinedTokens (word empty : Token) (outermost : Bool) : List (List Token) → List Token
  | [] => [empty]
  | [part] => part
  | parts =>
    if outermost then separated word parts else .opening :: separated word parts ++ [.closing]

/-- The tokens of a list of values. -/
def itemTokens (items : List Value) : List Token :=
  .opening :: separated .comma (items.map fun v => [.value v]) ++ [.closing]

mutual

/-- The tokens of a condition, as it stands alone or inside another one. -/
def tokens (outermost : Bool) : Condition → List Token
  | .constant true => [.keyword .true]
  | .constant false => [.keyword .false]
  | .isNull column => column.tokens ++ [.keyword .is, .keyword .null]
  | .isNotNull column => column.tokens ++ [.keyword .is, .keyword .not, .keyword .null]
  | .compare column comparison v => column.tokens ++ comparison.tokens ++ [.value v]
  | .among column items => column.tokens ++ .keyword .among :: itemTokens items
  | .notAmong column items => column.tokens ++ .keyword .not :: .keyword .among :: itemTokens items
  | .all parts => joinedTokens (.keyword .and) (.keyword .true) outermost (tokensOf parts)
  | .any parts => joinedTokens (.keyword .or) (.keyword .false) outermost (tokensOf parts)
  | .not inner => .keyword .not :: .opening :: tokens true inner ++ [.closing]

/-- The tokens of each part of a condition. -/
def tokensOf : List Condition → List (List Token)
  | [] => []
  | part :: parts => tokens false part :: tokensOf parts

end

/-! ## Text to tokens -/

theorem lexes_marks (items : List Value) : Lexes true (marks items) items (itemTokens items) := by
  have hcomma : Lexes true ", " [] [.comma] := Lexes.comma.append .blank (.inl rfl)
  have hitems : Lexes true (", ".intercalate (items.map fun _ => "?")) items
      (separated .comma (items.map fun v => [.value v])) := by
    induction items with
    | nil => exact fun _ _ _ => by simp [separated]
    | cons v items ih =>
      cases items with
      | nil => exact .mark v
      | cons w items =>
        have hall := ((Lexes.mark v).append hcomma (.inl rfl)).append ih (.inl rfl)
        rw [List.map_cons, List.map_cons, String.intercalate_cons_cons]
        exact hall
  have hall := (Lexes.opening.append hitems (.inl rfl)).append .closing (.inl rfl)
  rw [List.append_nil] at hall
  exact hall

/-- Texts with a word between each two. -/
theorem lexes_separated {word : String} {wordToken : Token} (hword : Lexes true word [] [wordToken])
    (hseparates : Lexing.separates word.toList = true) {parts : List (String × List Value)}
    {tokens : List (List Token)} (h : List.Forall₂ (fun part ts => Lexes false part.1 part.2 ts) parts tokens) :
    Lexes false (word.intercalate (parts.map (·.1))) (parts.flatMap (·.2)) (separated wordToken tokens) := by
  induction h with
  | nil => exact fun _ _ _ => by simp [separated]
  | @cons part ts parts tokens hpart hparts ih =>
    cases hparts with
    | nil =>
      simp only [List.map_cons, List.map_nil, String.intercalate_singleton, List.flatMap_cons, List.flatMap_nil,
        List.append_nil, separated]
      exact hpart
    | cons hnext hmore =>
      have hall := (hpart.append hword (.inr hseparates)).append ih (.inl rfl)
      rw [List.append_nil, List.append_assoc] at hall
      rw [List.map_cons, List.map_cons, String.intercalate_cons_cons]
      exact hall

theorem texts_eq_map : ∀ cs : List Condition, texts cs = cs.map (text false)
  | [] => rfl
  | c :: cs => by rw [texts, texts_eq_map cs, List.map_cons]

theorem valuesOf_eq_flatMap : ∀ cs : List Condition, valuesOf cs = cs.flatMap values
  | [] => rfl
  | c :: cs => by rw [valuesOf, valuesOf_eq_flatMap cs, List.flatMap_cons]

theorem tokensOf_eq_map : ∀ cs : List Condition, tokensOf cs = cs.map (tokens false)
  | [] => rfl
  | c :: cs => by rw [tokensOf, tokensOf_eq_map cs, List.map_cons]

/-- Parts with a word between them, some standing before the word. -/
theorem lexes_joined {word empty : String} {wordToken emptyToken : Token} (outermost : Bool)
    (hword : Lexes true word [] [wordToken]) (hseparates : Lexing.separates word.toList = true)
    (hempty : Lexes false empty [] [emptyToken]) (cs : List Condition)
    (h : ∀ c ∈ cs, Lexes false (c.text false) c.values (c.tokens false)) :
    Lexes false (joined word empty outermost (texts cs)) (valuesOf cs)
      (joinedTokens wordToken emptyToken outermost (tokensOf cs)) := by
  have hall : Lexes false (word.intercalate (texts cs)) (valuesOf cs) (separated wordToken (tokensOf cs)) := by
    have hparts : List.Forall₂ (fun (part : String × List Value) ts => Lexes false part.1 part.2 ts)
        (cs.map fun c => (c.text false, c.values)) (cs.map (tokens false)) :=
      List.forall₂_map_left_iff.mpr (List.forall₂_map_right_iff.mpr (List.forall₂_same.mpr h))
    have hseparated := lexes_separated hword hseparates hparts
    rw [List.map_map, List.flatMap_map] at hseparated
    rw [texts_eq_map, valuesOf_eq_flatMap, tokensOf_eq_map]
    exact hseparated
  match cs with
  | [] => exact hempty
  | [c] =>
    simp only [texts, valuesOf, tokensOf, joined, joinedTokens, List.append_nil]
    exact h c (List.mem_singleton_self c)
  | c :: d :: cs =>
    cases outermost with
    | true => exact hall
    | false =>
      have hclosed := (Lexes.opening.append hall (.inl rfl)).append .closing (.inr rfl)
      rw [List.append_nil] at hclosed
      exact hclosed.opened

mutual

/-- The text of a condition lexes to its tokens. -/
theorem lexes (outermost : Bool) : ∀ c : Condition,
    Lexes false (c.text outermost) c.values (c.tokens outermost)
  | .constant true => Lexes.keyword .true
  | .constant false => Lexes.keyword .false
  | .isNull column => by
    have htest := (Lexes.keywordBetween .is).append (Lexes.keyword .null) (.inl rfl)
    exact column.lexes.append htest (.inr rfl)
  | .isNotNull column => by
    have hnot := ((Lexes.keyword .not).append .blank (.inr rfl)).append (Lexes.keyword .null) (.inl rfl)
    have htest := (Lexes.keywordBetween .is).append hnot (.inl rfl)
    exact column.lexes.append htest (.inr rfl)
  | .compare column comparison v => by
    have hmark : Lexes true " ?" [v] [.value v] := Lexes.blank.append (.mark v) (.inl rfl)
    exact (((column.lexes.append .blank (.inr rfl)).append comparison.lexes (.inl rfl)).append hmark
      (.inr rfl)).opened
  | .among column items => by
    have hall := (column.lexes.append (Lexes.keywordBetween .among) (.inr rfl)).append (lexes_marks items)
      (.inl rfl)
    exact hall.opened
  | .notAmong column items => by
    have hnot := Lexes.blank.append (Lexes.keyword .not) (.inl rfl)
    have htest := hnot.append (Lexes.keywordBetween .among) (.inr rfl)
    have hall := (column.lexes.append htest (.inr rfl)).append (lexes_marks items) (.inl rfl)
    exact hall.opened
  | .all parts =>
    lexes_joined outermost (Lexes.keywordBetween .and) rfl (Lexes.keyword .true) parts (lexes_parts parts)
  | .any parts =>
    lexes_joined outermost (Lexes.keywordBetween .or) rfl (Lexes.keyword .false) parts (lexes_parts parts)
  | .not inner => by
    have hopen := ((Lexes.keyword .not).append .blank (.inr rfl)).append .opening (.inl rfl)
    have hall := (hopen.append (lexes true inner) (.inl rfl)).append .closing (.inr rfl)
    rw [List.append_nil] at hall
    exact hall.opened

theorem lexes_parts : ∀ cs : List Condition, ∀ c ∈ cs, Lexes false (c.text false) c.values (c.tokens false)
  | [], _, h => (nomatch h)
  | c :: cs, d, h => by
    rcases List.mem_cons.mp h with h | h
    · rw [h]
      exact lexes false c
    · exact lexes_parts cs d h

end

end Condition

end SqlAdapter
