/-
Filters that differ in values only.

Two predicates are alike when they compare the same fields in the same way, with
values that the text of a filter cannot tell apart: it has NULL in a place of its
own where a field is compared for equality, and a mark for each item of a list.
Filters for alike predicates are refused with the same failure, or have the same
text and differ in their values (`Compiler.filter_alike`).
-/
import SqlAdapter.Proofs.Result
import SqlAdapter.Statement.Clause

namespace SqlAdapter

open Result (Agree)

/-! ## Templates with the same text -/

/-- The same text, or a value on both sides. -/
inductive Piece.Alike : Piece → Piece → Prop where
  | text (sql : String) : Alike (.text sql) (.text sql)
  | value (v w : Value) : Alike (.value v) (.value w)

namespace Template

/-- Templates that differ in their values only. -/
def Alike (t u : Template) : Prop := List.Forall₂ Piece.Alike t u

namespace Alike

theorem refl (t : Template) : Alike t t := by
  refine List.forall₂_same.mpr fun piece _ => ?_
  cases piece with
  | text sql => exact .text sql
  | value v => exact .value v v

theorem append {t t' u u' : Template} (ht : Alike t t') (hu : Alike u u') : Alike (t ++ u) (t' ++ u') :=
  List.rel_append ht hu

theorem text (sql : String) {t u : Template} (h : Alike t u) : Alike (.text sql :: t) (.text sql :: u) :=
  .cons (.text sql) h

theorem value (v w : Value) {t u : Template} (h : Alike t u) : Alike (.value v :: t) (.value w :: u) :=
  .cons (.value v w) h

theorem intercalate (word : String) {ts us : List Template} (h : List.Forall₂ Alike ts us) :
    Alike (Template.intercalate word ts) (Template.intercalate word us) := by
  induction h with
  | nil => exact .nil
  | cons htu hrest ih =>
    cases hrest with
    | nil => exact htu
    | cons _ _ => exact htu.append (ih.text word)

theorem sqlFrom {t u : Template} (h : Alike t u) (next : Nat) : t.sqlFrom next = u.sqlFrom next := by
  induction h generalizing next with
  | nil => rfl
  | cons hpiece _ ih =>
    cases hpiece with
    | text sql => rw [Template.sqlFrom, Template.sqlFrom, ih]
    | value v w => rw [Template.sqlFrom, Template.sqlFrom, ih]

theorem params_length {t u : Template} (h : Alike t u) : t.params.length = u.params.length := by
  induction h with
  | nil => rfl
  | cons hpiece _ ih =>
    cases hpiece with
    | text sql => exact ih
    | value v w => rw [params, params, List.length_cons, List.length_cons, ih]

end Alike

end Template

/-- Fragments that differ in their values only. -/
structure Fragment.Alike (f g : Fragment) : Prop where
  sql : f.sql = g.sql
  values : f.values.length = g.values.length

namespace Fragment

theorem weave_alike : ∀ (pieces : List (List Char)) {vs ws : List Value}, vs.length = ws.length →
    Template.Alike (weave pieces vs) (weave pieces ws)
  | [], [], [], _ => .nil
  | [], _ :: _, _ :: _, _ => .nil
  | piece :: pieces, [], [], _ => .refl _
  | piece :: pieces, v :: vs, w :: ws, h => by
    have hlength : vs.length = ws.length := Nat.succ.inj h
    exact .text _ (.value v w (weave_alike pieces hlength))

theorem template_alike {f g : Fragment} (h : f.Alike g) : Agree (· = ·) Template.Alike f.template g.template := by
  simp only [template, h.sql, h.values]
  split
  · exact .error rfl
  · refine .ok (weave_alike _ ?_)
    rw [List.length_map, List.length_map, h.values]

end Fragment

/-! ## Predicates of one shape -/

/-- Operands that are written in the same way. -/
def Operator.Alike (v w : Value) : Operator → Prop
  | .compare .eq | .compare .ne => v.isNull = w.isNull
  | .among | .notAmong => (Condition.listItems v).length = (Condition.listItems w).length
  | _ => True

namespace Predicate

mutual

/-- Predicates that differ in their values only, and not in how these are written. -/
inductive Alike : Predicate → Predicate → Prop where
  | compare (field : String) (op : Operator) {v w : Value} (h : op.Alike v w) :
    Alike (.compare field op v) (.compare field op w)
  | all {ps qs : List Predicate} (h : AlikeParts ps qs) : Alike (.all ps) (.all qs)
  | any {ps qs : List Predicate} (h : AlikeParts ps qs) : Alike (.any ps) (.any qs)
  | not {p q : Predicate} (h : Alike p q) : Alike (.not p) (.not q)

inductive AlikeParts : List Predicate → List Predicate → Prop where
  | nil : AlikeParts [] []
  | cons {p q : Predicate} {ps qs : List Predicate} (h : Alike p q) (hs : AlikeParts ps qs) :
    AlikeParts (p :: ps) (q :: qs)

end

end Predicate

namespace Condition

/-- Conditions with the same text and equally many values. -/
structure Alike (c d : Condition) : Prop where
  text : ∀ outermost, c.text outermost = d.text outermost
  values : c.values.length = d.values.length

theorem Alike.refl (c : Condition) : Alike c c := ⟨fun _ => rfl, rfl⟩

theorem marks_length {items items' : List Value} (h : items.length = items'.length) :
    marks items = marks items' := by
  rw [marks, marks, List.map_const', List.map_const', h]

theorem ofOperator_alike (column : ColumnRef) {op : Operator} {v w : Value} (h : op.Alike v w) :
    Alike (ofOperator column op v) (ofOperator column op w) := by
  cases op with
  | isNull => exact .refl _
  | isNotNull => exact .refl _
  | compare comparison =>
    have hcompare : Alike (.compare column comparison v) (.compare column comparison w) := ⟨fun _ => rfl, rfl⟩
    cases comparison with
    | eq | ne =>
      have hnull : v.isNull = w.isNull := h
      simp only [ofOperator, hnull]
      split
      · exact .refl _
      · split
        · exact .refl _
        · exact hcompare
    | _ => simpa [ofOperator] using hcompare
  | among =>
    have hlength : (listItems v).length = (listItems w).length := h
    simp only [ofOperator]
    rcases hv : listItems v with _ | ⟨x, xs⟩ <;> rcases hw : listItems w with _ | ⟨y, ys⟩ <;>
      rw [hv, hw] at hlength
    · exact .refl _
    · cases hlength
    · cases hlength
    · exact ⟨fun _ => congrArg (column.sql ++ " IN " ++ ·) (marks_length hlength), hlength⟩
  | notAmong =>
    have hlength : (listItems v).length = (listItems w).length := h
    simp only [ofOperator]
    rcases hv : listItems v with _ | ⟨x, xs⟩ <;> rcases hw : listItems w with _ | ⟨y, ys⟩ <;>
      rw [hv, hw] at hlength
    · exact .refl _
    · cases hlength
    · cases hlength
    · exact ⟨fun _ => congrArg (column.sql ++ " NOT IN " ++ ·) (marks_length hlength), hlength⟩

theorem texts_alike {cs ds : List Condition} (h : List.Forall₂ Alike cs ds) : texts cs = texts ds := by
  induction h with
  | nil => rfl
  | cons hcd _ ih => rw [texts, texts, hcd.text, ih]

theorem valuesOf_alike {cs ds : List Condition} (h : List.Forall₂ Alike cs ds) :
    (valuesOf cs).length = (valuesOf ds).length := by
  induction h with
  | nil => rfl
  | cons hcd _ ih => rw [valuesOf, valuesOf, List.length_append, List.length_append, hcd.values, ih]

variable (schema : Schema) (table : String)

mutual

theorem ofPredicate_alike : ∀ {p q : Predicate}, p.Alike q →
    Agree (· = ·) Alike (ofPredicate schema table p) (ofPredicate schema table q)
  | _, _, .compare field op h => .bind_same (columnOf schema table field) fun column =>
    .pure (ofOperator_alike column h)
  | _, _, .all h => (ofParts_alike h).bind fun cs ds hparts => by
    refine .pure ⟨fun outermost => ?_, valuesOf_alike hparts⟩
    rw [text, text, texts_alike hparts]
  | _, _, .any h => (ofParts_alike h).bind fun cs ds hparts => by
    refine .pure ⟨fun outermost => ?_, valuesOf_alike hparts⟩
    rw [text, text, texts_alike hparts]
  | _, _, .not h => (ofPredicate_alike h).bind fun c d hinner => by
    refine .pure ⟨fun outermost => ?_, hinner.values⟩
    rw [text, text, hinner.text]

theorem ofParts_alike : ∀ {ps qs : List Predicate}, Predicate.AlikeParts ps qs →
    Agree (· = ·) (List.Forall₂ Alike) (ofParts schema table ps) (ofParts schema table qs)
  | _, _, .nil => .ok .nil
  | _, _, .cons h hs => (ofPredicate_alike h).bind fun _ _ hfirst => (ofParts_alike hs).bind fun _ _ hrest =>
    .pure (.cons hfirst hrest)

end

end Condition

/-! ## Filters -/

/-- Filters for alike predicates are refused with the same failure, or are alike. -/
theorem Compiler.filter_alike (schema : Schema) (table : String) {p q : Option Predicate}
    (h : Option.Rel Predicate.Alike p q) :
    Agree (· = ·) (Option.Rel Template.Alike) ((ofSchema schema).filter table p)
      ((ofSchema schema).filter table q) := by
  cases h with
  | none => exact .ok .none
  | some hpq =>
    have hfragment : Agree (· = ·) Fragment.Alike (FilterWriter.standard schema table _)
        (FilterWriter.standard schema table _) :=
      (Condition.ofPredicate_alike schema table hpq).bind fun _ _ hcondition =>
        .pure ⟨hcondition.text true, hcondition.values⟩
    exact hfragment.bind fun _ _ hf => (Fragment.template_alike hf).bind fun _ _ ht => .pure (.some ht)

end SqlAdapter
