/-
Requests that differ in values only.

Two requests are alike when they differ in values, in the page of the root and
in what a join skips, as long as none of these is negative. Alike requests are
compiled to the same text with equally many parameters, or are refused alike
(`Compiler.compile_alike`): no value is ever a part of a text. The one failure that shows
what a join skips is that of a negative limit.

The proof follows the compiler function by function with `Result.Agree`.
-/
import SqlAdapter.Proofs.Condition.Alike
import SqlAdapter.Proofs.Statement.Numbering

namespace SqlAdapter

open Result (Agree)

/-! ## Requests of one shape -/

/-- Counts of rows that are not negative, where there are any. -/
def Countable (count : Option Int64) : Prop := ∀ n ∈ count, 0 ≤ n

/-- Criteria of a join that differ in their values, and in how many rows they skip. -/
structure Criteria.AlikeNested (c d : Criteria) : Prop where
  predicate : Option.Rel Predicate.Alike c.predicate d.predicate
  sort : c.sort = d.sort
  limit : c.limit = d.limit
  skips : Countable c.skip ∧ Countable d.skip
  joins : c.joins.isEmpty = d.joins.isEmpty

/-- Joins that differ in their criteria only, and in these alike. -/
structure Join.Alike (j k : Join Criteria) : Prop where
  plain : k = { j with criteria := k.criteria }
  nested : j.nested.AlikeNested k.nested

/-- Criteria that differ in their values and their page. -/
structure Criteria.Alike (c d : Criteria) : Prop where
  predicate : Option.Rel Predicate.Alike c.predicate d.predicate
  sort : c.sort = d.sort
  joins : List.Forall₂ Join.Alike c.joins d.joins
  limits : Countable c.limit ∧ Countable d.limit
  skips : Countable c.skip ∧ Countable d.skip

/-- Written values for the same columns. -/
def Row.Alike (values values' : Row) : Prop := List.Forall₂ (fun cell cell' => cell.1 = cell'.1) values values'

/-- Requests that differ in values and pages. -/
inductive Request.Alike : Request → Request → Prop where
  | select {c d : Criteria} (h : c.Alike d) : Alike (.select c) (.select d)
  | insert {vs ws : Row} (h : Row.Alike vs ws) : Alike (.insert vs) (.insert ws)
  | update {c d : Criteria} {vs ws : Row} (h : c.Alike d) (hvs : Row.Alike vs ws) :
    Alike (.update c vs) (.update d ws)
  | delete {c d : Criteria} (h : c.Alike d) : Alike (.delete c) (.delete d)
  | count {c d : Criteria} (h : c.Alike d) : Alike (.count c) (.count d)

/-- The joins of a request. -/
def Request.joins : Request → List (Join Criteria)
  | .select criteria => criteria.joins
  | _ => []

/-- The failures of two joins with the same negative limit: each shows what the join skips. -/
def Join.Refused (j k : Join Criteria) (e f : Failure) : Prop :=
  ∃ limit ∈ j.nested.limit, limit < 0 ∧ e = .negativePage limit.toInt (j.nested.skip.getD 0).toInt ∧
    f = .negativePage limit.toInt (k.nested.skip.getD 0).toInt

/-- The same failure, or those of two joins with the same negative limit. -/
def RefusedAlike (joins : List (Join Criteria × Join Criteria)) (e f : Failure) : Prop :=
  e = f ∨ ∃ pair ∈ joins, Join.Refused pair.1 pair.2 e f

instance (joins : List (Join Criteria × Join Criteria)) : Std.Refl (RefusedAlike joins) := ⟨fun _ => .inl rfl⟩

/-! ## Statements of one shape -/

/-- Subqueries that differ in values and pages. -/
structure Lateral.Alike (l m : Lateral) : Prop where
  plain : m = { l with filters := m.filters, page := m.page }
  filters : List.Forall₂ Template.Alike l.filters m.filters

theorem Page.template_alike (p q : Page) : Template.Alike p.template q.template :=
  .text _ (.value _ _ (.text _ (.value _ _ (.refl []))))

theorem Lateral.template_alike {l m : Lateral} (h : l.Alike m) : Template.Alike l.template m.template := by
  obtain ⟨filters, page, rfl⟩ : ∃ filters page, m = { l with filters := filters, page := page } := ⟨_, _, h.plain⟩
  have hconditions : Template.Alike (Template.intercalate " AND " l.conditions)
      (Template.intercalate " AND " (Lateral.conditions { l with filters := filters, page := page })) := by
    refine .intercalate _ (List.rel_append ?_ (.cons (.refl _) .nil))
    refine List.rel_map (fun f g hfg => ?_) h.filters
    exact (Template.Alike.text _ hfg).append (.refl _)
  have hsubquery : Template.Alike l.subquery (Lateral.subquery { l with filters := filters, page := page }) :=
    (Template.Alike.text _ hconditions).append (.text _ (Page.template_alike l.page page))
  exact (Template.Alike.text _ hsubquery).append (.refl _)

/-- Joined selects that differ in values and pages. -/
structure JoinedSelect.Alike (s t : JoinedSelect) : Prop where
  plain : t = { s with laterals := t.laterals, filter := t.filter, page := t.page }
  laterals : List.Forall₂ Lateral.Alike s.laterals t.laterals
  filter : Option.Rel Template.Alike s.filter t.filter

theorem Template.optional_alike (before : String) {t u : Option Template} (h : Option.Rel Template.Alike t u) :
    Template.Alike (Template.optional before t) (Template.optional before u) := by
  cases h with
  | none => exact .nil
  | some h => exact .text before h

theorem JoinedSelect.template_alike {s t : JoinedSelect} (h : s.Alike t) :
    Template.Alike s.template t.template := by
  obtain ⟨laterals, filter, page, rfl⟩ : ∃ laterals filter page,
      t = { s with laterals := laterals, filter := filter, page := page } := ⟨_, _, _, h.plain⟩
  have hlaterals : Template.Alike (s.laterals.flatMap fun l => .text " " :: l.template)
      (laterals.flatMap fun l => .text " " :: l.template) :=
    List.rel_flatMap h.laterals fun l m hlm => (Lateral.template_alike hlm).text " "
  have hfilter := Template.optional_alike " WHERE " h.filter
  exact ((Template.Alike.text _ hlaterals).append hfilter).append (.text _ (Page.template_alike s.page page))

/-- The queries have the same text and equally many parameters. -/
def Query.SameText (q q' : Query) : Prop := q.sql = q'.sql ∧ q.params.length = q'.params.length

theorem Template.query_alike {t u : Template} (h : t.Alike u) : Agree (· = ·) Query.SameText t.query u.query := by
  have hlength := h.params_length
  rw [query, query, Query.make, Query.make, h.sqlFrom 1, hlength]
  exact .bind_same _ fun _ => .pure ⟨rfl, hlength⟩

/-! ## The compiler on alike requests -/

theorem Page.make_countable {limit skip : Option Int64} (hlimit : Countable limit) (hskip : Countable skip) :
    make limit skip = .ok ⟨limit.getD Int64.maxValue, skip.getD 0⟩ := by
  have hfirst : ¬ limit.getD Int64.maxValue < 0 := by
    cases limit with
    | none => decide
    | some n => exact Int64.not_lt.mpr (hlimit n rfl)
  have hsecond : ¬ skip.getD 0 < 0 := by
    cases skip with
    | none => decide
    | some n => exact Int64.not_lt.mpr (hskip n rfl)
  rw [make, if_neg (not_or.mpr ⟨hfirst, hsecond⟩)]

/-- Pages of alike joins are refused for their limit only. -/
theorem Page.make_alike {j k : Join Criteria} (h : j.Alike k) : Agree (Join.Refused j k) (fun _ _ => True)
    (make j.nested.limit j.nested.skip) (make k.nested.limit k.nested.skip) := by
  obtain ⟨hj, hk⟩ := h.nested.skips
  rw [← h.nested.limit]
  cases hlimit : j.nested.limit with
  | none =>
    have hnone : Countable none := fun _ h => (nomatch h)
    rw [make_countable hnone hj, make_countable hnone hk]
    exact .ok trivial
  | some limit =>
    by_cases hneg : limit < 0
    · have hrefused : ∀ skip, make (some limit) skip = .error (.negativePage limit.toInt (skip.getD 0).toInt) :=
        fun skip => if_pos (.inl hneg)
      rw [hrefused, hrefused]
      exact .error ⟨limit, hlimit, hneg, rfl, rfl⟩
    · have hcountable : Countable (some limit) := by
        intro n hn
        cases hn
        exact Int64.not_lt.mp hneg
      rw [make_countable hcountable hj, make_countable hcountable hk]
      exact .ok trivial

namespace Compiler

variable (schema : Schema)

theorem toList_alike {t u : Option Template} (h : Option.Rel Template.Alike t u) :
    List.Forall₂ Template.Alike t.toList u.toList := by
  cases h with
  | none => exact .nil
  | some h => exact .cons h .nil

theorem checkJoin_alike (c : Compiler) {j k : Join Criteria} (h : j.Alike k) : c.checkJoin k = c.checkJoin j := by
  obtain ⟨criteria, rfl⟩ : ∃ criteria, k = { j with criteria := criteria } := ⟨_, h.plain⟩
  simp only [checkJoin, ← h.nested.joins]

theorem association_alike (c : Compiler) {j k : Join Criteria} (h : j.Alike k) (laterals : Nat) :
    c.association k laterals = c.association j laterals := by
  obtain ⟨criteria, rfl⟩ : ∃ criteria, k = { j with criteria := criteria } := ⟨_, h.plain⟩
  simp only [association, ← h.nested.sort, ← h.nested.limit]
  rfl

variable {pairs : List (Join Criteria × Join Criteria)}

theorem page_alike {j k : Join Criteria} (h : j.Alike k) (hpair : (j, k) ∈ pairs) :
    Agree (RefusedAlike pairs) (fun _ _ => True) (Page.make j.nested.limit j.nested.skip)
      (Page.make k.nested.limit k.nested.skip) :=
  (Page.make_alike h).mono fun _ _ hrefused => .inr ⟨(j, k), hpair, hrefused⟩

theorem directLateral_alike {j k : Join Criteria} (h : j.Alike k) (hpair : (j, k) ∈ pairs) :
    Agree (RefusedAlike pairs) Lateral.Alike ((ofSchema schema).directLateral j)
      ((ofSchema schema).directLateral k) := by
  have hpage := page_alike h hpair
  obtain ⟨criteria, rfl⟩ : ∃ criteria, k = { j with criteria := criteria } := ⟨_, h.plain⟩
  simp only [directLateral, ← h.nested.sort]
  split
  · exact .error (.inl rfl)
  · refine (filter_alike schema _ h.nested.predicate).of_eq.bind fun f g hfg => .bind_same _ fun order => ?_
    exact hpage.bind fun _ _ _ => .pure ⟨rfl, toList_alike hfg⟩

theorem junctionLateral_alike {link link' j k : Join Criteria} (hlink : link.Alike link') (h : j.Alike k)
    (hpair : (j, k) ∈ pairs) :
    Agree (RefusedAlike pairs) Lateral.Alike ((ofSchema schema).junctionLateral link j)
      ((ofSchema schema).junctionLateral link' k) := by
  have hpage := page_alike h hpair
  obtain ⟨criteria, rfl⟩ : ∃ criteria, k = { j with criteria := criteria } := ⟨_, h.plain⟩
  obtain ⟨criteria', rfl⟩ : ∃ criteria, link' = { link with criteria := criteria } := ⟨_, hlink.plain⟩
  simp only [junctionLateral, ← h.nested.sort]
  split
  · exact .error (.inl rfl)
  · refine (filter_alike schema _ h.nested.predicate).of_eq.bind fun f g hfg => ?_
    refine (filter_alike schema _ hlink.nested.predicate).of_eq.bind fun f' g' hfg' => .bind_same _ fun order => ?_
    exact hpage.bind fun _ _ _ => .pure ⟨rfl, List.rel_append (toList_alike hfg) (toList_alike hfg')⟩

/-- Alike joins with alike joins into their junction tables, which stand in the same place. -/
def LinkedJoin.Alike (a b : LinkedJoin) : Prop :=
  a.join.Alike b.join ∧ Option.Rel (fun l m => l.1.Alike m.1 ∧ l.2 = m.2) a.link b.link

theorem lateral_alike {a b : LinkedJoin} (h : a.Alike b) (hpair : (a.join, b.join) ∈ pairs) :
    Agree (RefusedAlike pairs) Lateral.Alike ((ofSchema schema).lateral a) ((ofSchema schema).lateral b) := by
  obtain ⟨j, link⟩ := a
  obtain ⟨k, link'⟩ := b
  obtain ⟨hjoin, hlink⟩ := h
  cases hlink with
  | none => exact directLateral_alike schema hjoin hpair
  | some hlink => exact junctionLateral_alike schema hlink.1 hjoin hpair

/-! ## Lists of alike joins -/

theorem zipIdx_alike {α : Type} {R : α → α → Prop} {xs ys : List α} (h : List.Forall₂ R xs ys) (n : Nat) :
    List.Forall₂ (fun a b => R a.1 b.1 ∧ a.2 = b.2) (xs.zipIdx n) (ys.zipIdx n) := by
  induction h generalizing n with
  | nil => exact .nil
  | cons hxy _ ih => exact .cons ⟨hxy, rfl⟩ (ih (n + 1))

theorem find?_alike {α : Type} {R : α → α → Prop} {p q : α → Bool} (hpq : ∀ a b, R a b → p a = q b)
    {xs ys : List α}
    (h : List.Forall₂ R xs ys) : Option.Rel R (xs.find? p) (ys.find? q) := by
  induction h with
  | nil => exact .none
  | @cons x y _ _ hxy _ ih =>
    rw [List.find?_cons, List.find?_cons, hpq x y hxy]
    split
    · exact .some hxy
    · exact ih

theorem linkOf_alike {js ks : List (Join Criteria)} (hjs : List.Forall₂ Join.Alike js ks) {j k : Join Criteria}
    (h : j.Alike k) :
    Agree (· = ·) (Option.Rel fun l m => l.1.Alike m.1 ∧ l.2 = m.2) (linkOf js j) (linkOf ks k) := by
  obtain ⟨criteria, rfl⟩ : ∃ criteria, k = { j with criteria := criteria } := ⟨_, h.plain⟩
  have hfind := find?_alike (p := fun a => !a.1.junction && a.1.name == j.name &&
      Identifier.truncate a.1.child == Identifier.truncate j.parent)
    (q := fun a => !a.1.junction && a.1.name == j.name &&
      Identifier.truncate a.1.child == Identifier.truncate j.parent) (fun a b hab => by rw [hab.1.plain])
    (zipIdx_alike hjs 0)
  simp only [linkOf]
  split
  · exact .ok .none
  · revert hfind
    generalize js.zipIdx.find? _ = found
    generalize ks.zipIdx.find? _ = found'
    intro hfind
    cases hfind with
    | none => exact .error rfl
    | some hlink => exact .ok (.some hlink)

theorem linked_alike {js ks : List (Join Criteria)} (h : List.Forall₂ Join.Alike js ks) :
    Agree (· = ·) (List.Forall₂ fun a b => a.Alike b ∧ (a.join, b.join) ∈ js.zip ks) (linked js) (linked ks) := by
  have hpairs : List.Forall₂ (fun j k => j.Alike k ∧ (j, k) ∈ js.zip ks) js ks :=
    List.forall₂_iff_zip.mpr ⟨h.length_eq, fun hpair => ⟨List.forall₂_zip h hpair, hpair⟩⟩
  exact .mapM (hpairs.imp fun _ _ hjk =>
    (linkOf_alike h hjk.1).bind fun _ _ hlink => .pure ⟨⟨hjk.1, hlink⟩, hjk.2⟩)

variable {as bs : List LinkedJoin}

theorem isFolded_alike (h : List.Forall₂ LinkedJoin.Alike as bs) (index : Nat) {j k : Join Criteria}
    (hjk : j.Alike k) :
    isFolded bs index k = isFolded as index j := by
  have hany : (bs.any fun other => other.link.any (·.2 == index)) =
      as.any fun other => other.link.any (·.2 == index) := by
    induction h with
    | nil => rfl
    | @cons a b as bs hab _ ih =>
      have hlink : b.link.any (·.2 == index) = a.link.any (·.2 == index) := by
        obtain ⟨-, hlink⟩ := hab
        revert hlink
        generalize a.link = link
        generalize b.link = link'
        intro hlink
        cases hlink with
        | none => rfl
        | some hlink => simp only [Option.any_some, hlink.2]
      rw [List.any_cons, List.any_cons, hlink, ih]
  rw [isFolded, isFolded, hany, hjk.plain]

theorem laterals_alike (h : List.Forall₂ LinkedJoin.Alike as bs) :
    (laterals bs).length = (laterals as).length := by
  refine (List.rel_filter ?_ (zipIdx_alike h 0)).length_eq.symm
  rintro ⟨a, i⟩ ⟨b, _⟩ ⟨hab, rfl⟩
  have hfolded : isFolded bs i b.join = isFolded as i a.join := isFolded_alike h i hab.1
  simp only [hfolded]

theorem rootColumns_alike (c : Compiler) (root : String) {js ks : List (Join Criteria)}
    (h : List.Forall₂ Join.Alike js ks) : c.rootColumns root ks = c.rootColumns root js := by
  have hremoved : (ks.filter fun j => j.removeParentKey && j.select && Identifier.truncate j.parent == root).map
      (·.parentKey) = (js.filter fun j => j.removeParentKey && j.select && Identifier.truncate j.parent == root).map
      (·.parentKey) := by
    induction h with
    | nil => rfl
    | @cons j k js ks hjk _ ih =>
      obtain ⟨criteria, rfl⟩ : ∃ criteria, k = { j with criteria := criteria } := ⟨_, hjk.plain⟩
      simp only [List.filter_cons]
      split
      · rw [List.map_cons, List.map_cons, ih]
      · exact ih
  simp only [rootColumns, hremoved]

/-- The parts of alike joins: alike subqueries, and the same columns. -/
theorem joinParts_alike (h : List.Forall₂ LinkedJoin.Alike as bs) {a b : LinkedJoin} (hab : a.Alike b)
    (hpair : (a.join, b.join) ∈ pairs) (index : Nat) :
    Agree (RefusedAlike pairs) (fun p q => List.Forall₂ Lateral.Alike p.1 q.1 ∧ p.2 = q.2)
      ((ofSchema schema).joinParts as a index) ((ofSchema schema).joinParts bs b index) := by
  have hselect : b.join.select = a.join.select := by rw [hab.1.plain]
  rw [joinParts_eq, joinParts_eq, checkJoin_alike _ hab.1, isFolded_alike h index hab.1, laterals_alike h, hselect,
    association_alike _ hab.1]
  refine .bind_same _ fun _ => ?_
  split
  · exact .pure ⟨.nil, rfl⟩
  · refine (lateral_alike schema hab hpair).bind fun l m hlm => ?_
    split
    · exact .bind_same _ fun column => .pure ⟨.cons hlm .nil, rfl⟩
    · exact .pure ⟨.cons hlm .nil, rfl⟩

/-! ## Statements for alike requests -/

theorem joinedSelect_alike (table : String) {c d : Criteria} (h : c.Alike d) :
    Agree (RefusedAlike (c.joins.zip d.joins)) JoinedSelect.Alike ((ofSchema schema).joinedSelect table c)
      ((ofSchema schema).joinedSelect table d) := by
  refine .bind_same _ fun _ => (linked_alike h.joins).of_eq.bind fun as bs has => ?_
  have hjoins : List.Forall₂ LinkedJoin.Alike as bs := has.imp fun _ _ hab => hab.1
  have hparts : List.Forall₂ (fun place place' => Agree (RefusedAlike (c.joins.zip d.joins))
      (fun p q => List.Forall₂ Lateral.Alike p.1 q.1 ∧ p.2 = q.2) ((ofSchema schema).joinParts as place.1 place.2)
      ((ofSchema schema).joinParts bs place'.1 place'.2)) as.zipIdx bs.zipIdx := by
    refine (zipIdx_alike has 0).imp ?_
    rintro ⟨a, i⟩ ⟨b, _⟩ ⟨⟨hab, hpair⟩, rfl⟩
    exact joinParts_alike schema hjoins hab hpair i
  rw [rootColumns_alike _ _ h.joins, ← h.sort, Page.make_countable h.limits.1 h.skips.1,
    Page.make_countable h.limits.2 h.skips.2]
  refine .bind_same _ fun columns => (Agree.mapM hparts).bind fun ps qs hps => ?_
  refine (filter_alike schema _ h.predicate).of_eq.bind fun f g hfg => .bind_same _ fun order => .ok ?_
  have hcolumns : ps.flatMap (·.2) = qs.flatMap (·.2) := by
    refine List.forall₂_eq_eq_eq ▸ List.rel_flatMap hps fun p q hpq => ?_
    rw [hpq.2]
    exact List.forall₂_same.mpr fun _ _ => rfl
  refine ⟨?_, List.rel_flatMap hps fun p q hpq => hpq.1, hfg⟩
  simp only [hcolumns]

theorem encodeAll_alike (c : Compiler) (table : String) {vs ws : Row} (h : Row.Alike vs ws) :
    Agree (· = ·) Row.Alike (c.encodeAll table vs) (c.encodeAll table ws) := by
  refine .mapM (h.imp ?_)
  rintro ⟨column, v⟩ ⟨_, w⟩ rfl
  have hencode : Agree (· = ·) (fun _ _ => True) (c.encode table column v) (c.encode table column w) := by
    refine .bind_same _ fun _ => ?_
    split
    · exact .pure trivial
    · split
      · exact .error rfl
      · split
        · exact .error rfl
        · exact .pure trivial
  exact hencode.bind fun _ _ _ => .pure rfl

theorem assignments_alike {vs ws : Row} (h : Row.Alike vs ws) :
    Template.Alike (Statement.assignments vs) (Statement.assignments ws) := by
  refine .intercalate _ (List.rel_map ?_ h)
  rintro ⟨column, v⟩ ⟨_, w⟩ rfl
  exact .text _ (.value v w (.refl []))

theorem insertion_alike {vs ws : Row} (h : Row.Alike vs ws) :
    Template.Alike (Statement.insertion vs) (Statement.insertion ws) := by
  have hnames : vs.map (·.1) = ws.map (·.1) := Result.forall₂_map_iff.mp h
  have hvalues : Template.Alike (Template.intercalate ", " (vs.map fun cell => [.value cell.2]))
      (Template.intercalate ", " (ws.map fun cell => [.value cell.2])) :=
    .intercalate _ (List.rel_map (fun cell cell' _ => .value cell.2 cell'.2 (.refl [])) h)
  cases h with
  | nil => exact .refl _
  | cons _ _ =>
    simp only [Statement.insertion, hnames]
    exact (Template.Alike.text _ hvalues).append (.refl _)

/-- Statements for alike requests differ in values only. -/
theorem statement_alike (table : String) {r r' : Request} (h : r.Alike r') :
    Agree (RefusedAlike (r.joins.zip r'.joins)) (fun s s' => Template.Alike s.template s'.template)
      ((ofSchema schema).statement table r) ((ofSchema schema).statement table r') := by
  cases h with
  | @select c d h =>
    have hempty : d.joins.isEmpty = c.joins.isEmpty := by
      have hjoins := h.joins
      revert hjoins
      generalize c.joins = js
      generalize d.joins = ks
      intro hjoins
      cases hjoins <;> rfl
    rw [statement, statement, selectStatement, selectStatement, hempty, ← h.sort,
      Page.make_countable h.limits.1 h.skips.1, Page.make_countable h.limits.2 h.skips.2]
    split
    · refine .bind_same _ fun _ => (filter_alike schema _ h.predicate).of_eq.bind fun f g hfg => ?_
      refine .bind_same _ fun order => .ok ?_
      exact ((Template.optional_alike " WHERE " hfg).text _).append (.text _ (Page.template_alike _ _))
    · exact (joinedSelect_alike schema table h).bind fun s t hst => .pure (JoinedSelect.template_alike hst)
  | @insert vs ws h =>
    refine .bind_same _ fun _ => (encodeAll_alike _ _ h).of_eq.bind fun vs ws h => .pure ?_
    exact ((insertion_alike h).text _).append (.refl _)
  | @update c d vs ws h hvs =>
    have hempty : ws.isEmpty = vs.isEmpty := by
      cases hvs <;> rfl
    rw [statement, statement, updateStatement, updateStatement, hempty]
    split
    · exact .error (.inl rfl)
    · refine .bind_same _ fun _ => (encodeAll_alike _ _ hvs).of_eq.bind fun vs ws hvs => ?_
      refine (filter_alike schema _ h.predicate).of_eq.bind fun f g hfg => .pure ?_
      exact (((assignments_alike hvs).text _).append (Template.optional_alike " WHERE " hfg)).append (.refl _)
  | @delete c d h =>
    refine .bind_same _ fun _ => (filter_alike schema _ h.predicate).of_eq.bind fun f g hfg => .pure ?_
    exact ((Template.optional_alike " WHERE " hfg).text _).append (.refl _)
  | @count c d h =>
    refine .bind_same _ fun _ => (filter_alike schema _ h.predicate).of_eq.bind fun f g hfg => .pure ?_
    exact (Template.optional_alike " WHERE " hfg).text _

/-- Requests that differ in values only, and in pages that are not negative, are compiled to the same
text with equally many parameters, or are refused with the same failure; where a join has a
negative limit, each failure shows what its own join skips. -/
theorem compile_alike (table : String) {r r' : Request} (h : r.Alike r') :
    Agree (RefusedAlike (r.joins.zip r'.joins)) Query.SameText ((ofSchema schema).compile table r)
      ((ofSchema schema).compile table r') := by
  rw [compile_eq, compile_eq]
  exact (statement_alike schema table h).bind fun s s' hs => (Template.query_alike hs).of_eq

/-- Users of two ages, each with a page of the posts of a title. -/
def usersOfAges (age other : Int64) (title : String) (limit skip : Int64) : Criteria where
  predicate := some (.compare "age" .among (.array [.bigInt age, .bigInt other]))
  sort := []
  limit := none
  skip := none
  joins := [{ (Join.plain "users" "id" "posts" "user_id" "posts" : Join Criteria) with
    criteria := some { Criteria.empty with
      predicate := some (.eq "title" (.string title))
      limit := some limit
      skip := some skip } }]

theorem usersOfAges_alike {age age' other other' : Int64} {title title' : String} {limit skip skip' : Int64}
    (hskip : 0 ≤ skip) (hskip' : 0 ≤ skip') : Request.Alike (.select (usersOfAges age other title limit skip))
      (.select (usersOfAges age' other' title' limit skip')) := by
  have hsome : ∀ {n : Int64}, 0 ≤ n → Countable (some n) := by
    intro n hn m hm
    cases hm
    exact hn
  have hnone : Countable none := fun _ h => (nomatch h)
  have hnested : List.Forall₂ Join.Alike (usersOfAges age other title limit skip).joins
      (usersOfAges age' other' title' limit skip').joins :=
    .cons ⟨rfl, ⟨.some (.compare "title" _ rfl), rfl, rfl, ⟨hsome hskip, hsome hskip'⟩, rfl⟩⟩ .nil
  exact .select ⟨.some (.compare "age" _ rfl), rfl, hnested, ⟨hnone, hnone⟩, ⟨hnone, hnone⟩⟩

theorem compile_alike_usersOfAges : ∃ q q',
    (ofSchema .empty).compile "users" (.select (usersOfAges 20 30 "plain" 5 0)) = .ok q ∧
      (ofSchema .empty).compile "users" (.select (usersOfAges 40 50 "' OR $1" 5 7)) = .ok q' ∧ q.SameText q' := by
  have halike : Request.Alike (.select (usersOfAges 20 30 "plain" 5 0))
      (.select (usersOfAges 40 50 "' OR $1" 5 7)) := usersOfAges_alike (by decide) (by decide)
  have hsame := compile_alike .empty "users" halike
  have hstatement : ((ofSchema .empty).statement "users" (.select (usersOfAges 20 30 "plain" 5 0))).toOption.isSome =
      true := by
    decide +kernel
  have hlen : (((Request.select (usersOfAges 20 30 "plain" 5 0)).clauses .empty "users").flatMap
      Template.params).length < 2 ^ 64 := by
    decide +kernel
  cases hs : (ofSchema .empty).statement "users" (.select (usersOfAges 20 30 "plain" 5 0)) with
  | error e =>
    rw [hs] at hstatement
    cases hstatement
  | ok s =>
    have hfirst := compile_of_statement .empty hs hlen
    rw [hfirst] at hsame
    generalize (ofSchema .empty).compile "users" (.select (usersOfAges 40 50 "' OR $1" 5 7)) = second at hsame ⊢
    cases hsame with
    | @ok _ q' hsame => exact ⟨_, q', hfirst, rfl, hsame⟩

/-- Both requests are refused for the limit of their join, each with its own skip. -/
theorem compile_alike_skips : ¬ ∀ (schema : Schema) (table : String) (r r' : Request), r.Alike r' →
    Agree (· = ·) Query.SameText ((ofSchema schema).compile table r) ((ofSchema schema).compile table r') := by
  intro hall
  have halike : Request.Alike (.select (usersOfAges 20 30 "" (-1) 1)) (.select (usersOfAges 20 30 "" (-1) 2)) :=
    usersOfAges_alike (by decide) (by decide)
  have hdiffer : Result.failure? ((ofSchema .empty).compile "users" (.select (usersOfAges 20 30 "" (-1) 1))) ≠
      Result.failure? ((ofSchema .empty).compile "users" (.select (usersOfAges 20 30 "" (-1) 2))) := by
    decide +kernel
  exact hdiffer (hall .empty "users" _ _ halike).failure_eq

end Compiler

end SqlAdapter
