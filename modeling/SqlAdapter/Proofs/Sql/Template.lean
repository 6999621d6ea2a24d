/-
Templates and the text that is written of them.

`Inert` text holds no placeholder, closes its quotes and does not go on with a
number, so it can stand anywhere between values. A statement is `LaidOut` in
clauses when its text is made of them, one after another, each numbered on from
the one before, with inert text between; its placeholders are then numbered in
the order of the text (`LaidOut.indices`).

A fragment whose marks stand where a template has its values becomes a template
that writes the same text (`template_ofTemplate`).
-/
import SqlAdapter.Proofs.Sql.Scanning
import SqlAdapter.Sql.Template
import Mathlib.Data.List.Forall2

namespace SqlAdapter

open Placeholder

theorem Identifier.quoteAll_map {α : Type} (name : α → String) (items : List α) :
    Identifier.quoteAll (items.map name) = ", ".intercalate (items.map fun item => Identifier.quote (name item)) := by
  rw [Identifier.quoteAll, List.map_map]
  rfl

/-- Text that can stand anywhere between placeholders. -/
structure Inert (sql : String) : Prop where
  /-- It holds no placeholder, and all its quotes are closed. -/
  passes : passes .plain sql.toList = some .plain
  /-- It is not read as a part of a number before it. -/
  ends : endsNumber sql.toList = true

namespace Inert

theorem empty : Inert "" := ⟨rfl, rfl⟩

theorem append {s t : String} (hs : Inert s) (ht : Inert t) : Inert (s ++ t) := by
  refine ⟨?_, ?_⟩
  · rw [String.toList_append, passes_append _ hs.passes]
    exact ht.passes
  · rw [String.toList_append]
    exact endsNumber_append hs.ends ht.ends

theorem intercalate {separator : String} (hsep : Inert separator) :
    ∀ {parts : List String}, (∀ part ∈ parts, Inert part) → Inert (separator.intercalate parts)
  | [], _ => by rw [String.intercalate_nil]; exact empty
  | [part], h => by rw [String.intercalate_singleton]; exact h part (List.mem_singleton_self part)
  | part :: next :: parts, h => by
    rw [String.intercalate_cons_cons]
    have hrest : Inert (separator.intercalate (next :: parts)) :=
      intercalate hsep fun p hp => h p (List.mem_cons_of_mem part hp)
    exact ((h part (List.mem_cons_self ..)).append hsep).append hrest

theorem quotePart (part : String) : Inert (Identifier.quotePart part) := by
  refine ⟨?_, ?_⟩
  · rw [Identifier.quotePart, String.toList_ofList]
    exact passes_enclosed (.inr rfl) part.toList
  · rw [Identifier.quotePart, String.toList_ofList]
    rfl

theorem literal (text : String) : Inert (Identifier.literal text) := by
  refine ⟨?_, ?_⟩
  · rw [Identifier.literal, String.toList_ofList]
    exact passes_enclosed (.inl rfl) text.toList
  · rw [Identifier.literal, String.toList_ofList]
    rfl

/-- A text that is known letter by letter. -/
theorem word {sql : String}
    (h : Placeholder.passes .plain sql.toList = some .plain ∧ Placeholder.endsNumber sql.toList = true) :
    Inert sql := ⟨h.1, h.2⟩

theorem dot : Inert "." := word (by decide)

theorem comma : Inert ", " := word (by decide)

theorem opening : Inert "(" := word (by decide)

theorem closing : Inert ")" := word (by decide)

theorem andWord : Inert " AND " := word (by decide)

theorem quote (name : String) : Inert (Identifier.quote name) := by
  refine intercalate dot fun part hp => ?_
  obtain ⟨_, -, rfl⟩ := List.mem_map.mp hp
  exact quotePart _

theorem qualified (table column : String) : Inert (Identifier.qualified table column) :=
  ((quotePart table).append dot).append (quotePart column)

theorem quoteAll (names : List String) : Inert (Identifier.quoteAll names) := by
  refine intercalate comma fun part hp => ?_
  obtain ⟨name, -, rfl⟩ := List.mem_map.mp hp
  exact quote name

end Inert

namespace Template

/-! ## Templates one after another -/

theorem params_append (t u : Template) : (t ++ u).params = t.params ++ u.params := by
  induction t with
  | nil => rfl
  | cons piece t ih =>
    cases piece with
    | text sql => exact ih
    | value v => exact congrArg (v :: ·) ih

theorem sqlFrom_append (next : Nat) (t u : Template) :
    (t ++ u).sqlFrom next = t.sqlFrom next ++ u.sqlFrom (next + t.params.length) := by
  induction t generalizing next with
  | nil => rw [List.nil_append, sqlFrom, params, List.length_nil, Nat.add_zero, String.empty_append]
  | cons piece t ih =>
    cases piece with
    | text sql => rw [List.cons_append, sqlFrom, sqlFrom, params, ih, String.append_assoc]
    | value v =>
      have hlen : next + (v :: Template.params t).length = next + 1 + (Template.params t).length := by
        rw [List.length_cons]; omega
      rw [List.cons_append, sqlFrom, sqlFrom, params, ih, hlen, String.append_assoc]

/-- The template with a mark for each value. -/
def marked : Template → String
  | [] => ""
  | .text sql :: t => sql ++ marked t
  | .value _ :: t => "?" ++ marked t

theorem marked_append (t u : Template) : (t ++ u).marked = t.marked ++ u.marked := by
  induction t with
  | nil => exact String.empty_append.symm
  | cons piece t ih =>
    cases piece with
    | text sql => rw [List.cons_append, marked, marked, ih, String.append_assoc]
    | value v => rw [List.cons_append, marked, marked, ih, String.append_assoc]

/-- Two templates that write the same text, whatever the first number and with marks, for the same
values. -/
structure Same (t u : Template) : Prop where
  sqlFrom : ∀ next, t.sqlFrom next = u.sqlFrom next
  params : t.params = u.params
  marked : t.marked = u.marked

namespace Same

theorem refl (t : Template) : Same t t := ⟨fun _ => rfl, rfl, rfl⟩

/-- A text in two pieces is the same. -/
theorem text (sql more : String) (t : Template) : Same (.text (sql ++ more) :: t) (.text sql :: .text more :: t) := by
  refine ⟨fun next => ?_, rfl, ?_⟩
  · rw [Template.sqlFrom, Template.sqlFrom, Template.sqlFrom, String.append_assoc]
  · rw [Template.marked, Template.marked, Template.marked, String.append_assoc]

theorem append {t t' u u' : Template} (ht : Same t t') (hu : Same u u') : Same (t ++ u) (t' ++ u') := by
  refine ⟨fun next => ?_, ?_, ?_⟩
  · rw [sqlFrom_append, sqlFrom_append, ht.sqlFrom, hu.sqlFrom, ht.params]
  · rw [params_append, params_append, ht.params, hu.params]
  · rw [marked_append, marked_append, ht.marked, hu.marked]

theorem intercalate (word : String) {ts us : List Template} (h : List.Forall₂ Same ts us) :
    Same (Template.intercalate word ts) (Template.intercalate word us) := by
  induction h with
  | nil => exact refl []
  | @cons t u ts us htu hrest ih =>
    cases hrest with
    | nil => exact htu
    | cons _ _ => exact htu.append ((refl [.text word]).append ih)

end Same

/-! ## Placeholders of a template -/

/-- A template all of whose text is inert. -/
def Clean (t : Template) : Prop := ∀ sql, Piece.text sql ∈ t → Inert sql

namespace Clean

theorem nil : Clean [] := fun _ h => (nomatch h)

theorem text {sql : String} {t : Template} (hs : Inert sql) (ht : Clean t) : Clean (.text sql :: t) := by
  intro s hmem
  rcases List.mem_cons.mp hmem with h | h
  · cases h; exact hs
  · exact ht s h

theorem value (v : Value) {t : Template} (ht : Clean t) : Clean (.value v :: t) := by
  intro s hmem
  rcases List.mem_cons.mp hmem with h | h
  · cases h
  · exact ht s h

theorem append {t u : Template} (ht : Clean t) (hu : Clean u) : Clean (t ++ u) := by
  intro s hmem
  rcases List.mem_append.mp hmem with h | h
  · exact ht s h
  · exact hu s h

theorem intercalate {separator : String} (hsep : Inert separator) :
    ∀ {ts : List Template}, (∀ t ∈ ts, Clean t) → Clean (Template.intercalate separator ts)
  | [], _ => nil
  | [t], h => h t (List.mem_singleton_self t)
  | t :: u :: ts, h =>
    have hrest : Clean (Template.intercalate separator (u :: ts)) :=
      intercalate hsep fun p hp => h p (List.mem_cons_of_mem t hp)
    (h t (List.mem_cons_self ..)).append (text hsep hrest)

end Clean

theorem endsNumber_sqlFrom {t : Template} (ht : Clean t) (next : Nat) {rest : List Char}
    (hrest : endsNumber rest = true) : endsNumber ((t.sqlFrom next).toList ++ rest) = true := by
  induction t generalizing next with
  | nil => exact hrest
  | cons piece t ih =>
    have htail : Clean t := fun s h => ht s (List.mem_cons_of_mem piece h)
    cases piece with
    | text sql =>
      rw [sqlFrom, String.toList_append, List.append_assoc]
      exact endsNumber_append (ht sql (List.mem_cons_self ..)).ends (ih htail next)
    | value v =>
      rw [sqlFrom, String.toList_append, String.toList_ofList]
      rfl

/-- The placeholders of a clean template carry the numbers from `next` on, in this order. -/
theorem indicesFrom_sqlFrom {t : Template} (ht : Clean t) (next : Nat) {rest : List Char}
    (hrest : endsNumber rest = true) :
    indicesFrom .plain none ((t.sqlFrom next).toList ++ rest) =
      (List.range' next t.params.length).filter (· < 2 ^ 64) ++ indicesFrom .plain none rest := by
  induction t generalizing next with
  | nil => rfl
  | cons piece t ih =>
    have htail : Clean t := fun s h => ht s (List.mem_cons_of_mem piece h)
    cases piece with
    | text sql =>
      rw [sqlFrom, String.toList_append, List.append_assoc,
        indicesFrom_passes _ (ht sql (List.mem_cons_self ..)).passes, ih htail next]
      rfl
    | value v =>
      rw [sqlFrom, String.toList_append, String.toList_ofList, List.append_assoc,
        indicesFrom_numbered _ (endsNumber_sqlFrom htail (next + 1) hrest), ih htail (next + 1),
        params, List.length_cons, List.range'_succ, List.filter_cons, ← List.append_assoc]
      split <;> simp_all

/-! ## Clauses of a statement -/

/-- The text is the clauses one after another, their values numbered from `next` on, with inert
text before, between and behind them. -/
def LaidOut (next : Nat) : List Template → String → Prop
  | [], sql => Inert sql
  | clause :: clauses, sql =>
    ∃ before after, sql = before ++ clause.sqlFrom next ++ after ∧ Inert before ∧
      LaidOut (next + clause.params.length) clauses after

namespace LaidOut

theorem inert_append {next : Nat} {clauses : List Template} {s sql : String} (hs : Inert s)
    (h : LaidOut next clauses sql) : LaidOut next clauses (s ++ sql) := by
  cases clauses with
  | nil => exact hs.append h
  | cons clause clauses =>
    obtain ⟨before, after, rfl, hbefore, hafter⟩ := h
    exact ⟨s ++ before, after, by simp only [String.append_assoc], hs.append hbefore, hafter⟩

theorem append {next : Nat} {clauses more : List Template} {s t : String} (hs : LaidOut next clauses s)
    (ht : LaidOut (next + (clauses.flatMap params).length) more t) :
    LaidOut next (clauses ++ more) (s ++ t) := by
  induction clauses generalizing next s with
  | nil => exact inert_append hs ht
  | cons clause clauses ih =>
    obtain ⟨before, after, rfl, hbefore, hafter⟩ := hs
    refine ⟨before, after ++ t, by simp only [String.append_assoc], hbefore, ih hafter ?_⟩
    rw [List.flatMap_cons, List.length_append, ← Nat.add_assoc] at ht
    exact ht

theorem endsNumber {next : Nat} {clauses : List Template} {sql : String}
    (hclean : ∀ clause ∈ clauses, Clean clause) (h : LaidOut next clauses sql) :
    endsNumber sql.toList = true := by
  induction clauses generalizing next sql with
  | nil => exact h.ends
  | cons clause clauses ih =>
    obtain ⟨before, after, rfl, hbefore, hafter⟩ := h
    have hrest := ih (fun c hc => hclean c (List.mem_cons_of_mem clause hc)) hafter
    rw [String.append_assoc, String.toList_append, String.toList_append]
    exact endsNumber_append hbefore.ends
      (endsNumber_sqlFrom (hclean clause (List.mem_cons_self ..)) next hrest)

/-- The placeholders of a text laid out in clauses, in the order of the text. -/
theorem indices {next : Nat} {clauses : List Template} {sql : String}
    (hclean : ∀ clause ∈ clauses, Clean clause) (h : LaidOut next clauses sql) :
    Placeholder.indices sql =
      (List.range' next (clauses.flatMap params).length).filter (· < 2 ^ 64) := by
  induction clauses generalizing next sql with
  | nil =>
    have hskip := indicesFrom_passes [] h.passes
    rw [List.append_nil] at hskip
    rw [Placeholder.indices, hskip]
    rfl
  | cons clause clauses ih =>
    obtain ⟨before, after, rfl, hbefore, hafter⟩ := h
    have htail : ∀ c ∈ clauses, Clean c := fun c hc => hclean c (List.mem_cons_of_mem clause hc)
    have hrest : indicesFrom .plain none after.toList = _ := ih htail hafter
    rw [Placeholder.indices, String.append_assoc, String.toList_append, String.toList_append,
      indicesFrom_passes _ hbefore.passes,
      indicesFrom_sqlFrom (hclean clause (List.mem_cons_self ..)) next (hafter.endsNumber htail), hrest,
      List.flatMap_cons, List.length_append, ← List.range'_append_1, List.filter_append]

end LaidOut

/-- A template that is written as clauses with inert text between them. -/
structure Writes (t : Template) (clauses : List Template) : Prop where
  params : t.params = clauses.flatMap Template.params
  laidOut : ∀ next, LaidOut next clauses (t.sqlFrom next)

namespace Writes

theorem nil : Writes [] [] := ⟨rfl, fun _ => Inert.empty⟩

theorem text {sql : String} (h : Inert sql) : Writes [.text sql] [] :=
  ⟨rfl, fun _ => h.append Inert.empty⟩

theorem clause (t : Template) : Writes t [t] := by
  refine ⟨(List.flatMap_singleton ..).symm, fun next => ⟨"", "", ?_, Inert.empty, Inert.empty⟩⟩
  rw [String.empty_append, String.append_empty]

theorem append {t u : Template} {clauses more : List Template} (ht : Writes t clauses)
    (hu : Writes u more) : Writes (t ++ u) (clauses ++ more) := by
  refine ⟨?_, fun next => ?_⟩
  · rw [params_append, List.flatMap_append, ht.params, hu.params]
  · rw [sqlFrom_append, ht.params]
    exact (ht.laidOut next).append (hu.laidOut _)

theorem textAppend {sql : String} {t : Template} {clauses : List Template} (h : Inert sql)
    (ht : Writes t clauses) : Writes (.text sql :: t) clauses := (text h).append ht

theorem same {t u : Template} {clauses : List Template} (h : Same t u) (hu : Writes u clauses) :
    Writes t clauses := by
  refine ⟨h.params.trans hu.params, fun next => ?_⟩
  rw [h.sqlFrom next]
  exact hu.laidOut next

theorem intercalate {separator : String} (hsep : Inert separator) {ts : List Template}
    {clauses : List (List Template)} (h : List.Forall₂ Writes ts clauses) :
    Writes (Template.intercalate separator ts) clauses.flatten := by
  induction h with
  | nil => exact nil
  | @cons t first ts clauses ht hts ih =>
    cases ts with
    | nil =>
      cases hts
      rw [List.flatten_cons, List.flatten_nil, List.append_nil]
      exact ht
    | cons u ts => exact ht.append (textAppend hsep ih)

theorem flatten {ts : List Template} {clauses : List (List Template)} (h : List.Forall₂ Writes ts clauses) :
    Writes ts.flatten clauses.flatten := by
  induction h with
  | nil => exact nil
  | cons ht _ ih => exact ht.append ih

end Writes

/-! ## Fragments -/

/-- The template with each of its values replaced. -/
def map (f : Value → Value) : Template → Template
  | [] => []
  | .text sql :: t => .text sql :: map f t
  | .value v :: t => .value (f v) :: map f t

/-- The text between the values; always at least one piece. -/
def gaps : Template → List (List Char)
  | [] => [[]]
  | .text sql :: t => onto sql.toList (gaps t)
  | .value _ :: t => [] :: gaps t

theorem Clean.map {t : Template} (f : Value → Value) (ht : Clean t) : Clean (t.map f) := by
  induction t with
  | nil => exact nil
  | cons piece t ih =>
    have htail : Clean (Template.map f t) := ih fun s h => ht s (List.mem_cons_of_mem piece h)
    cases piece with
    | text sql => exact text (ht sql (List.mem_cons_self ..)) htail
    | value v => exact value (f v) htail

theorem params_map (f : Value → Value) (t : Template) : (t.map f).params = t.params.map f := by
  induction t with
  | nil => rfl
  | cons piece t ih =>
    cases piece with
    | text sql => exact ih
    | value v => exact congrArg (f v :: ·) ih

theorem gaps_ne_nil (t : Template) : t.gaps ≠ [] := by
  induction t with
  | nil => exact List.cons_ne_nil _ _
  | cons piece t ih =>
    cases piece with
    | text sql =>
      rw [gaps]
      cases gaps t <;> exact List.cons_ne_nil _ _
    | value v => exact List.cons_ne_nil _ _

theorem length_gaps (t : Template) : t.gaps.length = t.params.length + 1 := by
  induction t with
  | nil => rfl
  | cons piece t ih =>
    cases piece with
    | text sql =>
      rw [gaps, params, ← ih]
      cases h : gaps t with
      | nil => exact absurd h (gaps_ne_nil t)
      | cons gap gaps => rfl
    | value v => rw [gaps, params, List.length_cons, List.length_cons, ih]

/-- The marks of a clean template are the places of its values. -/
theorem pieces_marked {t : Template} (ht : Clean t) : pieces t.marked = t.gaps := by
  induction t with
  | nil => rfl
  | cons piece t ih =>
    have hrec : piecesFrom .plain (Template.marked t).toList = gaps t :=
      ih fun s h => ht s (List.mem_cons_of_mem piece h)
    cases piece with
    | text sql =>
      rw [pieces, marked, String.toList_append,
        piecesFrom_passes _ (ht sql (List.mem_cons_self ..)).passes, hrec]
      rfl
    | value v =>
      have hmark : ("?" ++ Template.marked t).toList = '?' :: (Template.marked t).toList := by
        rw [String.toList_append]
        rfl
      rw [pieces, marked, hmark, piecesFrom_mark, hrec]
      rfl

theorem same_weave_onto (front : List Char) {pieces : List (List Char)} (hne : pieces ≠ [])
    (values : List Value) {t : Template} (h : Same (Fragment.weave pieces values) t) :
    Same (Fragment.weave (onto front pieces) values) (.text (String.ofList front) :: t) := by
  cases pieces with
  | nil => exact absurd rfl hne
  | cons piece pieces =>
    cases values with
    | nil =>
      refine ⟨fun next => ?_, h.params, ?_⟩
      · rw [sqlFrom, ← h.sqlFrom next]
        simp only [onto, Fragment.weave, List.map_cons, sqlFrom, String.ofList_append, String.append_assoc]
      · rw [marked, ← h.marked]
        simp only [onto, Fragment.weave, List.map_cons, marked, String.ofList_append, String.append_assoc]
    | cons v values =>
      refine ⟨fun next => ?_, h.params, ?_⟩
      · rw [sqlFrom, ← h.sqlFrom next]
        simp only [onto, Fragment.weave, sqlFrom, String.ofList_append, String.append_assoc]
      · rw [marked, ← h.marked]
        simp only [onto, Fragment.weave, marked, String.ofList_append, String.append_assoc]

/-- Values woven between the gaps of a template stand where the template has its own. -/
theorem weave_gaps (f : Value → Value) (t : Template) :
    Same (Fragment.weave t.gaps (t.params.map f)) (t.map f) := by
  induction t with
  | nil => exact ⟨fun next => rfl, rfl, rfl⟩
  | cons piece t ih =>
    cases piece with
    | text sql =>
      have h := same_weave_onto sql.toList (gaps_ne_nil t) _ ih
      rw [String.ofList_toList] at h
      exact h
    | value v =>
      refine ⟨fun next => ?_, congrArg (f v :: ·) ih.params, ?_⟩
      · simp only [gaps, params, List.map_cons, Fragment.weave, sqlFrom, map, ih.sqlFrom,
          String.ofList_nil, String.empty_append]
      · simp only [gaps, params, List.map_cons, Fragment.weave, marked, map, ih.marked,
          String.ofList_nil, String.empty_append]

/-- A fragment with its marks where a clean template has its values has as many marks as values. -/
theorem template_ofTemplate {t : Template} (ht : Clean t) :
    ∃ u, Fragment.template ⟨t.marked, t.params⟩ = .ok u ∧ Same u (t.map Value.unbracketed) := by
  have hmarks : t.gaps.length - 1 = t.params.length := by rw [length_gaps, Nat.add_sub_cancel]
  refine ⟨_, ?_, weave_gaps Value.unbracketed t⟩
  simp only [Fragment.template, pieces_marked ht, hmarks, ne_eq, not_true_eq_false, if_false]

end Template

end SqlAdapter
