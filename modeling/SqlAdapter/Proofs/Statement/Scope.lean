/-
What the names in a joined select stand for.

The list behind FROM has the root and then a subquery for each join that is not
folded, under the name of the join and that of its child, set together and cut.
No name is compared with another, so two subqueries may share one, or one may
take the name of the root (`Compiler.scope_denotes_iff`). A correlation refers
to the root or to a subquery before it; the compiler takes the parent's name as
it is, so the parent may come later, not at all, or be a junction table whose
join was folded (`Compiler.scope_reaches_iff`).

Both come down to `Criteria.emitted`, the joins that have subqueries with their
places among all joins, and to the places being in order there.
-/
import SqlAdapter.Proofs.Statement.JoinedText
import SqlAdapter.Proofs.Statement.Numbering

namespace SqlAdapter

/-! ## Names and what they denote -/

/-- In a list of names, a name stands for the item at a place: that item has it and no other does. -/
def Denotes (scope : List String) (name : String) (place : Nat) : Prop :=
  ∀ other, scope[other]? = some name ↔ other = place

/-- Names are distinct exactly when each stands for the item that has it. -/
theorem nodup_iff_denotes {scope : List String} :
    scope.Nodup ↔ ∀ place name, scope[place]? = some name → Denotes scope name place := by
  refine ⟨fun hnodup place name hplace other => ?_, fun h => ?_⟩
  · have hlt := (List.getElem?_eq_some_iff.mp hplace).1
    rw [← hplace, eq_comm, List.getElem?_inj hlt hnodup, eq_comm]
  · rw [List.nodup_iff_pairwise_ne, List.pairwise_iff_getElem]
    intro i j hi hj hlt hsame
    have hfirst : scope[i]? = some scope[i] := List.getElem?_eq_getElem hi
    have hsecond : scope[j]? = some scope[i] := hsame ▸ List.getElem?_eq_getElem hj
    exact Nat.ne_of_gt hlt ((h i _ hfirst j).mp hsecond)

/-- The names behind FROM: the root, then the subqueries. -/
def JoinedSelect.scope (s : JoinedSelect) : List String := s.root :: s.laterals.map (·.name)

/-- The names by which the column of an association refers to its rows. -/
def AssociationColumn.qualifiers (a : AssociationColumn) : List String :=
  a.lateral :: a.order.map (·.column.qualifier)

/-! ## Names of subqueries -/

namespace Criteria

open Compiler

variable {c : Criteria} {root : String}

/-- Nothing but the join at a place has a name: neither the root nor the subquery of another join. -/
def Alone (c : Criteria) (root : String) (place : Nat) (name : String) : Prop :=
  name ≠ root ∧ ∀ other j, c.Emits other j → lateralName j.join = name → other = place

/-- A join at a place finds its parent: that is the root or the subquery of a join before it. -/
def Reaches (c : Criteria) (root : String) (place : Nat) (parent : String) : Prop :=
  parent = root ∨ ∃ earlier j, earlier < place ∧ c.Emits earlier j ∧ lateralName j.join = parent

/-- The names behind FROM, as criteria on a root give them. -/
def scope (c : Criteria) (root : String) : List String := root :: c.emitted.map fun (j, _) => lateralName j.join

theorem scope_succ {n : Nat} {name : String} :
    (c.scope root)[n + 1]? = some name ↔ ∃ e, c.emitted[n]? = some e ∧ lateralName e.1.join = name := by
  rw [scope, List.getElem?_cons_succ, List.getElem?_map, Option.map_eq_some_iff]

/-- The root's name is its own exactly when no subquery has it. -/
theorem denotes_root_iff :
    Denotes (c.scope root) root 0 ↔ ∀ place j, c.Emits place j → lateralName j.join ≠ root := by
  refine ⟨fun h place j hj hname => ?_, fun h other => ⟨fun hother => ?_, fun hzero => hzero ▸ rfl⟩⟩
  · obtain ⟨n, hn⟩ := List.mem_iff_getElem?.mp (mem_emitted.mpr hj)
    exact Nat.succ_ne_zero n ((h (n + 1)).mp (scope_succ.mpr ⟨_, hn, hname⟩))
  · cases other with
    | zero => rfl
    | succ n =>
      obtain ⟨e, he, hname⟩ := scope_succ.mp hother
      exact absurd hname (h e.2 e.1 (mem_emitted.mp (List.mem_of_getElem? he)))

/-- The name of a subquery is its own exactly when its join is alone with it. -/
theorem denotes_lateral_iff {n : Nat} {e : LinkedJoin × Nat} (he : c.emitted[n]? = some e) :
    Denotes (c.scope root) (lateralName e.1.join) (n + 1) ↔ c.Alone root e.2 (lateralName e.1.join) := by
  constructor
  · refine fun h => ⟨fun hroot => ?_, fun other j hj hname => ?_⟩
    · exact Nat.succ_ne_zero n ((h 0).mp (congrArg some hroot.symm)).symm
    · obtain ⟨m, hm⟩ := List.mem_iff_getElem?.mp (mem_emitted.mpr hj)
      have hsame : m + 1 = n + 1 := (h (m + 1)).mp (scope_succ.mpr ⟨_, hm, hname⟩)
      rw [Nat.succ.inj hsame, he] at hm
      exact (congrArg Prod.snd (Option.some.inj hm)).symm
  · rintro ⟨hroot, halone⟩ other
    refine ⟨fun hother => ?_, fun hplace => hplace ▸ scope_succ.mpr ⟨e, he, rfl⟩⟩
    cases other with
    | zero => exact absurd (Option.some.inj hother).symm hroot
    | succ m =>
      obtain ⟨f, hf, hname⟩ := scope_succ.mp hother
      have hplace := halone f.2 f.1 (mem_emitted.mp (List.mem_of_getElem? hf)) hname
      -- Places grow along the subqueries, so the two are one.
      have hbefore := emitted_lt_iff hf he
      have hbehind := emitted_lt_iff he hf
      omega

theorem scope_nodup_iff :
    (c.scope root).Nodup ↔ ∀ place j, c.Emits place j → c.Alone root place (lateralName j.join) := by
  rw [nodup_iff_denotes]
  constructor
  · intro h place j hj
    obtain ⟨n, hn⟩ := List.mem_iff_getElem?.mp (mem_emitted.mpr hj)
    exact (denotes_lateral_iff hn).mp (h (n + 1) _ (scope_succ.mpr ⟨_, hn, rfl⟩))
  · intro h place name hplace
    cases place with
    | zero =>
      obtain rfl : root = name := Option.some.inj hplace
      exact denotes_root_iff.mpr fun place j hj => (h place j hj).1
    | succ n =>
      obtain ⟨e, he, rfl⟩ := scope_succ.mp hplace
      exact (denotes_lateral_iff he).mpr (h e.2 e.1 (mem_emitted.mp (List.mem_of_getElem? he)))

/-- Among the names before a subquery are the root and the subqueries of the joins before its join. -/
theorem mem_take_scope_iff {n : Nat} {e : LinkedJoin × Nat} (he : c.emitted[n]? = some e) {parent : String} :
    parent ∈ (c.scope root).take (n + 1) ↔ c.Reaches root e.2 parent := by
  rw [scope, List.take_succ_cons, List.mem_cons, Reaches]
  refine or_congr_right ⟨fun hmem => ?_, fun ⟨earlier, j, hlt, hj, hname⟩ => ?_⟩
  · obtain ⟨m, hm⟩ := List.mem_iff_getElem?.mp hmem
    rw [List.getElem?_take] at hm
    split at hm
    · next hlt =>
      rw [List.getElem?_map, Option.map_eq_some_iff] at hm
      obtain ⟨f, hf, hname⟩ := hm
      exact ⟨f.2, f.1, (emitted_lt_iff hf he).mp hlt, mem_emitted.mp (List.mem_of_getElem? hf), hname⟩
    · cases hm
  · obtain ⟨m, hm⟩ := List.mem_iff_getElem?.mp (mem_emitted.mpr hj)
    have hbefore : m < n := (emitted_lt_iff hm he).mpr hlt
    refine List.mem_iff_getElem?.mpr ⟨m, ?_⟩
    rw [List.getElem?_take_of_lt hbefore, List.getElem?_map, hm]
    exact congrArg some hname

end Criteria

/-! ## Names of a compiled select -/

namespace Compiler

variable {schema : Schema} {table : String} {criteria : Criteria}

theorem Aggregate.qualifiers_eq {c : Compiler} {j : Join Criteria} {n : Nat} {a : AssociationColumn}
    (h : c.Aggregate j n a) : ∀ name ∈ a.qualifiers, name = lateralName j := by
  intro name hname
  rcases List.mem_cons.mp hname with rfl | hname
  · exact h.lateral
  · rw [h.order_eq, List.map_map] at hname
    obtain ⟨key, -, rfl⟩ := List.mem_map.mp hname
    rfl

/-- The names behind FROM are those that the criteria give. -/
theorem scope_ok {s : JoinedSelect} (h : (ofSchema schema).Joined table criteria s) :
    s.scope = criteria.scope (Identifier.truncate table) := by
  have hnames : s.laterals.map (·.name) = criteria.emitted.map fun e => lateralName e.1.join :=
    Result.forall₂_map_iff.mp (h.subqueries.imp fun _ _ hl => hl.name)
  rw [JoinedSelect.scope, h.root, hnames]
  rfl

/-- The column of an association refers to its subquery and to nothing else. -/
theorem associations_ok {s : JoinedSelect} (h : (ofSchema schema).Joined table criteria s) :
    List.Forall₂ (fun a e => criteria.emitted[e.2]? = some e.1 ∧
        ∀ name ∈ a.qualifiers, name = lateralName e.1.1.join)
      s.associations criteria.associated :=
  h.columns_placed.imp fun _ _ ⟨hplace, ha⟩ => ⟨hplace, (association_ok ha).qualifiers_eq⟩

/-- The names behind FROM are those of the subqueries in the text. -/
theorem scope_selects {s : JoinedSelect} {q : Query} (h : (ofSchema schema).Joined table criteria s)
    (hq : q = ⟨s.template.sqlFrom 1, s.template.params⟩) :
    ∃ columns subqueries, (ofSchema schema).Selects table criteria columns subqueries q.sql ∧
      List.Forall₂ LateralAs s.scope.tail subqueries := by
  subst hq
  have hselects := h.selects
  rw [scope_ok h]
  exact ⟨_, _, hselects, List.forall₂_map_left_iff.mpr (hselects.subqueries.flip.imp fun _ _ => Subselects.lateralAs)⟩

/-- The names behind FROM of a compiled select are the root's and those of the subqueries, as they stand in its text.
They are distinct exactly when every join that has a subquery is alone with its name, and a reference of an association
denotes the subquery it is meant for exactly when its own join is. -/
theorem scope_denotes_iff (hjoins : criteria.joins ≠ []) {q : Query}
    (h : (ofSchema schema).compile table (.select criteria) = .ok q) :
    ∃ s, (ofSchema schema).statement table (.select criteria) = .ok (.joined s) ∧
      q = ⟨s.template.sqlFrom 1, s.template.params⟩ ∧
      (∃ columns subqueries, (ofSchema schema).Selects table criteria columns subqueries q.sql ∧
        List.Forall₂ LateralAs s.scope.tail subqueries) ∧
      s.scope = criteria.scope (Identifier.truncate table) ∧
      (s.scope.Nodup ↔ ∀ place j, criteria.Emits place j →
        criteria.Alone (Identifier.truncate table) place (lateralName j.join)) ∧
      List.Forall₂ (fun a e => ∀ name ∈ a.qualifiers, name = lateralName e.1.1.join ∧
          (Denotes s.scope name (e.2 + 1) ↔ criteria.Alone (Identifier.truncate table) e.1.2 name))
        s.associations criteria.associated := by
  obtain ⟨_, hs, hq, -⟩ := compile_ok schema h
  cases statement_ok hs with
  | select hnone => exact absurd hnone hjoins
  | @joined _ s _ hjoined =>
    have hscope := scope_ok hjoined
    refine ⟨s, hs, hq, scope_selects hjoined hq, hscope, hscope ▸ Criteria.scope_nodup_iff, ?_⟩
    refine (associations_ok hjoined).imp fun a e ⟨hplace, hqualifiers⟩ name hname => ?_
    obtain rfl := hqualifiers name hname
    exact ⟨rfl, hscope ▸ Criteria.denotes_lateral_iff hplace⟩

/-- The last orders of customers, each with its order under a name that gives the subquery the root's. -/
def lastOrders : Criteria := Criteria.empty.join (.plain "lastorders" "order_id" "orders" "id" "last")

theorem scope_denotes_iff_lastOrders : ∃ q s a,
    (ofSchema .empty).compile "lastorders" (.select lastOrders) = .ok q ∧
    (ofSchema .empty).statement "lastorders" (.select lastOrders) = .ok (.joined s) ∧
    s.scope = ["lastorders", "lastorders"] ∧ ¬ s.scope.Nodup ∧
    s.associations = [a] ∧ ¬ Denotes s.scope a.lateral 1 := by
  have hstatement : ((ofSchema .empty).statement "lastorders" (.select lastOrders)).toOption.isSome = true := by
    decide +kernel
  have hlen :
      (((Request.select lastOrders).clauses .empty "lastorders").flatMap Template.params).length < 2 ^ 64 := by
    decide +kernel
  have hnames : lastOrders.scope (Identifier.truncate "lastorders") = ["lastorders", "lastorders"] := by
    decide +kernel
  cases hs : (ofSchema .empty).statement "lastorders" (.select lastOrders) with
  | error e =>
    rw [hs] at hstatement
    cases hstatement
  | ok _ =>
    have hcompile := compile_of_statement _ hs hlen
    obtain ⟨s, hjoined, -, -, hscope, hnodup, hreferences⟩ := scope_denotes_iff (by decide) hcompile
    have hshared : ¬ lastOrders.Alone (Identifier.truncate "lastorders") 0
        (lateralName (.plain "lastorders" "order_id" "orders" "id" "last")) := fun halone =>
      halone.1 (by decide +kernel)
    have hassociated : lastOrders.associated =
        [((⟨.plain "lastorders" "order_id" "orders" "id" "last", none⟩, 0), 0)] := rfl
    rw [hassociated, List.forall₂_cons_right_iff] at hreferences
    obtain ⟨a, rest, hfirst, hrest, hassociations⟩ := hreferences
    obtain ⟨hname, hdenotes⟩ := hfirst a.lateral List.mem_cons_self
    rw [List.forall₂_nil_right_iff.mp hrest] at hassociations
    refine ⟨_, s, a, hcompile, hs ▸ hjoined, hscope.trans hnames, fun hdistinct => ?_, hassociations, fun h => ?_⟩
    · exact absurd (hscope.trans hnames ▸ hdistinct) (by decide)
    · exact hshared (hname ▸ hdenotes.mp h)

/-! ## Parents in scope -/

/-- A subquery refers to the parent of its join, which has the same place among the joins that have subqueries. -/
theorem laterals_ok {s : JoinedSelect} (h : (ofSchema schema).Joined table criteria s) :
    List.Forall₂ (fun l e => l.outer = e.1.outer) s.laterals criteria.emitted :=
  h.subqueries.imp fun _ _ hl => hl.outer

/-- The outer side of a correlation of a compiled select is the parent of its join, as it stands in the text of the
subquery. It is in scope, as the root or as a subquery before its own, exactly when the join finds its parent. -/
theorem scope_reaches_iff (hjoins : criteria.joins ≠ []) {q : Query}
    (h : (ofSchema schema).compile table (.select criteria) = .ok q) :
    ∃ s, (ofSchema schema).statement table (.select criteria) = .ok (.joined s) ∧
      q = ⟨s.template.sqlFrom 1, s.template.params⟩ ∧
      (∃ columns subqueries, (ofSchema schema).Selects table criteria columns subqueries q.sql ∧
        List.Forall₂ LateralAs s.scope.tail subqueries) ∧
      s.scope = criteria.scope (Identifier.truncate table) ∧
      (∀ n l, s.laterals[n]? = some l → ∃ e, criteria.emitted[n]? = some e ∧ l.outer = e.1.outer ∧
        (l.outer.qualifier ∈ s.scope.take (n + 1) ↔
          criteria.Reaches (Identifier.truncate table) e.2 l.outer.qualifier)) ∧
      ((∀ n l, s.laterals[n]? = some l → l.outer.qualifier ∈ s.scope.take (n + 1)) ↔
        ∀ place j, criteria.Emits place j →
          criteria.Reaches (Identifier.truncate table) place j.outer.qualifier) := by
  obtain ⟨_, hs, hq, -⟩ := compile_ok schema h
  cases statement_ok hs with
  | select hnone => exact absurd hnone hjoins
  | @joined _ s _ hjoined =>
    have hscope := scope_ok hjoined
    have hlaterals := laterals_ok hjoined
    refine ⟨s, hs, hq, scope_selects hjoined hq, hscope, fun n l hl => ?_, fun hall place j hj => ?_,
      fun hall n l hl => ?_⟩
    · obtain ⟨e, he, houter⟩ := getElem?_forall₂ hlaterals hl
      exact ⟨e, he, houter, hscope ▸ Criteria.mem_take_scope_iff he⟩
    · obtain ⟨n, hn⟩ := List.mem_iff_getElem?.mp (Criteria.mem_emitted.mpr hj)
      obtain ⟨l, hl, houter⟩ := getElem?_forall₂ hlaterals.flip hn
      have hmem := hall n l hl
      rw [hscope, houter] at hmem
      exact (Criteria.mem_take_scope_iff hn).mp hmem
    · obtain ⟨e, he, houter⟩ := getElem?_forall₂ hlaterals hl
      rw [hscope, houter]
      exact (Criteria.mem_take_scope_iff he).mpr (hall e.2 e.1 (Criteria.mem_emitted.mp (List.mem_of_getElem? he)))

/-- Users with their groups and with the roles of their memberships, which are hidden. -/
def userRoles : Criteria where
  predicate := none
  sort := []
  limit := none
  skip := none
  joins := [
    { (Join.plain "users" "id" "memberships" "user_id" "groups" : Join Criteria) with select := false },
    { (Join.plain "memberships" "group_id" "groups" "id" "groups" : Join Criteria) with junction := true },
    .plain "groupsmemberships" "role_id" "roles" "id" "roles"]

theorem scope_reaches_iff_userRoles : ∃ q s,
    (ofSchema .empty).compile "users" (.select userRoles) = .ok q ∧
    (ofSchema .empty).statement "users" (.select userRoles) = .ok (.joined s) ∧
    s.scope = ["users", "groupsgroups", "rolesroles"] ∧
    ∃ l, s.laterals[1]? = some l ∧ l.outer.qualifier = "groupsmemberships" ∧
      l.outer.qualifier ∉ s.scope.take 2 := by
  have hstatement : ((ofSchema .empty).statement "users" (.select userRoles)).toOption.isSome = true := by
    decide +kernel
  have hlen : (((Request.select userRoles).clauses .empty "users").flatMap Template.params).length < 2 ^ 64 := by
    decide +kernel
  have hnames : userRoles.scope (Identifier.truncate "users") = ["users", "groupsgroups", "rolesroles"] := by
    decide +kernel
  have hemitted :
      userRoles.emitted[1]? = some (⟨.plain "groupsmemberships" "role_id" "roles" "id" "roles", none⟩, 2) :=
    rfl
  have hparent : (LinkedJoin.mk (.plain "groupsmemberships" "role_id" "roles" "id" "roles") none).outer.qualifier =
      "groupsmemberships" := by
    decide +kernel
  cases hs : (ofSchema .empty).statement "users" (.select userRoles) with
  | error e =>
    rw [hs] at hstatement
    cases hstatement
  | ok _ =>
    have hcompile := compile_of_statement _ hs hlen
    obtain ⟨s, hjoined, -, -, hscope, hlaterals, -⟩ := scope_reaches_iff (by decide) hcompile
    have htwo : s.laterals.length = 2 := by
      have hcount := congrArg List.length (hscope.trans hnames)
      simpa [JoinedSelect.scope] using hcount
    have hlast : s.laterals[1]? = some (s.laterals[1]) := List.getElem?_eq_getElem (by omega)
    obtain ⟨e, he, houter, hreaches⟩ := hlaterals 1 _ hlast
    obtain rfl := Option.some.inj (hemitted.symm.trans he)
    have hqualifier := (congrArg ColumnRef.qualifier houter).trans hparent
    refine ⟨_, s, hcompile, hs ▸ hjoined, hscope.trans hnames, _, hlast, hqualifier, fun hmem => ?_⟩
    -- The link to the junction table is folded, so nothing before the roles has the parent's name.
    have hfound := (Criteria.mem_take_scope_iff hemitted).mpr (hreaches.mp hmem)
    rw [hqualifier, hnames] at hfound
    exact absurd hfound (by decide)

end Compiler

end SqlAdapter
