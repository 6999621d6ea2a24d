/-
Calls that alter tables at the same time.

A call checks what it is about to do on the schema that it looks at first, and
changes the schema as it is after its last statement; between the two, other
calls take their steps. `Interleaves` has any number of calls take their steps in
any order, the executor accepting every statement. The call's change does not
depend on what was there when it looked: `Alteration.Lands` holds of it on any
schema that has the table, and no step takes a table away (`Interleaves.present`).
So every change lands. What a call ends with was settled when it looked
(`SchemaCall.verdict`): a statement that has a placeholder is refused before it
is sent, and the call with it. `Alteration.Stands` is where a call can stand, and
`Interleaves.stands` that it stands there in every interleaving.
-/
import SqlAdapter.Proofs.Datastore.Calls

namespace SqlAdapter

/-! ## Tables with distinct names -/

namespace Schema

/-- No table has two attributes of one name. -/
def Distinct (s : Schema) : Prop := ∀ t ∈ s.tables, (t.attributes.map (·.name)).Nodup

theorem Distinct.insert {s : Schema} {t : Table} (h : s.Distinct) (ht : (t.attributes.map (·.name)).Nodup) :
    (s.insert t).Distinct := by
  intro u hu
  rcases mem_insert hu with rfl | ⟨hu, -⟩
  · exact ht
  · exact h u hu

end Schema

namespace Table

variable {t : Table} {name : String}

theorem nodup_push {a : Attribute} (h : (t.attributes.map (·.name)).Nodup) (hnew : t.has a.name = false) :
    ((t.push a).attributes.map (·.name)).Nodup := by
  have hnames : (t.push a).attributes.map (·.name) = t.attributes.map (·.name) ++ [a.name] := by
    rw [push, make, List.map_append]
    rfl
  rw [hnames, List.nodup_append]
  refine ⟨h, List.pairwise_singleton _ _, ?_⟩
  rintro other hother _ hlast rfl
  obtain ⟨b, hb, hname⟩ := List.mem_map.mp hother
  rw [List.mem_singleton.mp hlast] at hname
  have hhas : t.has a.name = true := has_iff.mpr ⟨b, hb, hname⟩
  rw [hnew] at hhas
  cases hhas

theorem nodup_without (h : (t.attributes.map (·.name)).Nodup) :
    ((t.without name).attributes.map (·.name)).Nodup :=
  h.sublist (List.filter_sublist.map _)

end Table

/-! ## Calls that alter a table -/

/-- A call that alters a table. -/
inductive Alteration where
  | add (table : String) (attr : Attribute)
  | remove (table name : String)

namespace Alteration

def call : Alteration → SchemaCall
  | .add table attr => .addAttribute table attr
  | .remove table name => .removeAttribute table name

def table : Alteration → String
  | .add table _ | .remove table _ => table

/-- The name of the attribute that comes or goes. -/
def name : Alteration → String
  | .add _ attr => attr.name
  | .remove _ name => name

/-- Does the attribute come? -/
def adds : Alteration → Bool
  | .add _ _ => true
  | .remove _ _ => false

/-- What the call makes of its table. -/
def altered : Alteration → Table → Table
  | .add _ attr, t => if t.has attr.name then t else t.push attr
  | .remove _ name, t => t.without name

/-- The change of a call has landed: its table has the attribute, or has it no longer, and is the same otherwise,
and so are all other tables. -/
structure Lands (c : Alteration) (s s' : Schema) : Prop where
  table : ∃ t t', s.get? c.table = some t ∧ s'.get? c.table = some t' ∧ t'.name = t.name ∧
    t'.has c.name = c.adds ∧ t'.attributes.filter (·.name ≠ c.name) = t.attributes.filter (·.name ≠ c.name) ∧
    ∀ table attr, c = .add table attr → t.has attr.name = false → t'.find? attr.name = some attr
  others : ∀ other, Identifier.truncate other ≠ Identifier.truncate c.table → s'.get? other = s.get? other

variable {c : Alteration} {s s' : Schema}

theorem looks (c : Alteration) : c.call.looks = true := by
  cases c <;> rfl

theorem change_ok (h : c.call.change s = .ok s') : ∃ t, s.get? c.table = some t ∧
    (s' = s ∧ c.altered t = t ∨ s' = s.insert (c.altered t)) := by
  cases c with
  | add table attr =>
    obtain ⟨t, ht, h⟩ := Result.bind_ok_iff.mp h
    have hs' := Result.pure_ok_iff.mp h
    refine ⟨t, Schema.get_ok_iff.mp ht, ?_⟩
    rw [altered]
    split at hs'
    · next hhas => exact .inl ⟨hs'.symm, if_pos hhas⟩
    · next hhas => exact .inr (by rw [if_neg hhas, hs'])
  | remove table name =>
    obtain ⟨t, ht, h⟩ := Result.bind_ok_iff.mp h
    exact ⟨t, Schema.get_ok_iff.mp ht, .inr (Result.pure_ok_iff.mp h).symm⟩

/-- A change succeeds on every schema that has the table. -/
theorem change_isOk {t : Table} (ht : s.get? c.table = some t) : ∃ s', c.call.change s = .ok s' := by
  cases c with
  | add table attr =>
    refine ⟨_, Result.bind_ok_iff.mpr ⟨t, Schema.get_ok_iff.mpr ht, rfl⟩⟩
  | remove table name =>
    refine ⟨_, Result.bind_ok_iff.mpr ⟨t, Schema.get_ok_iff.mpr ht, rfl⟩⟩

theorem altered_name {t : Table} (ht : s.get? c.table = some t) : (c.altered t).name = t.name := by
  have hcut : Identifier.truncate t.name = t.name := by
    rw [Schema.get?_name ht, Identifier.truncate_truncate]
  cases c with
  | add table attr =>
    rw [altered]
    split
    · rfl
    · exact hcut
  | remove table name => exact hcut

theorem altered_has (c : Alteration) (t : Table) : (c.altered t).has c.name = c.adds := by
  cases c with
  | add table attr =>
    rw [altered]
    split
    · next hhas => exact hhas
    · exact Table.has_iff.mpr ⟨attr, List.mem_append_right _ (List.mem_singleton_self attr), rfl⟩
  | remove table name =>
    have hgone : ¬ (t.without name).has name = true := fun h => (Table.has_without.mp h).1 rfl
    exact Bool.not_eq_true _ ▸ hgone

theorem altered_others (c : Alteration) (t : Table) :
    (c.altered t).attributes.filter (·.name ≠ c.name) = t.attributes.filter (·.name ≠ c.name) := by
  cases c with
  | add table attr =>
    rw [altered]
    split
    · rfl
    · simp [Table.push, Table.make, name]
  | remove table name =>
    show (t.attributes.filter (·.name != name)).filter (·.name ≠ name) = _
    rw [List.filter_filter]
    refine List.filter_congr fun a _ => ?_
    by_cases ha : a.name = name <;> simp [Alteration.name, ha]

theorem altered_given {t : Table} {table : String} {attr : Attribute} (hnew : t.has attr.name = false) :
    ((Alteration.add table attr).altered t).find? attr.name = some attr := by
  have hnone : t.attributes.find? (·.name == attr.name) = none := by
    simpa [Table.has, Table.find?] using hnew
  simp [altered, hnew, Table.find?, Table.push, Table.make, List.find?_append, hnone]

theorem altered_distinct (c : Alteration) {t : Table} (h : (t.attributes.map (·.name)).Nodup) :
    ((c.altered t).attributes.map (·.name)).Nodup := by
  cases c with
  | add table attr =>
    rw [altered]
    split
    · exact h
    · next hhas => exact Table.nodup_push h (by simpa using hhas)
  | remove table name => exact Table.nodup_without h

theorem change_lands (h : c.call.change s = .ok s') : c.Lands s s' := by
  obtain ⟨t, ht, hchange⟩ := change_ok h
  have hname : (c.altered t).name = Identifier.truncate c.table := (altered_name ht).trans (Schema.get?_name ht)
  have hfound : s'.get? c.table = some (c.altered t) := by
    rcases hchange with ⟨rfl, hsame⟩ | rfl
    · rw [hsame, ht]
    · rw [Schema.get?_insert, hname, if_pos rfl]
  have hothers : ∀ other, Identifier.truncate other ≠ Identifier.truncate c.table → s'.get? other = s.get? other := by
    intro other hne
    rcases hchange with ⟨rfl, -⟩ | rfl
    · rfl
    · rw [Schema.get?_insert, hname, if_neg hne]
  refine ⟨⟨t, _, ht, hfound, altered_name ht, c.altered_has t, c.altered_others t, ?_⟩, hothers⟩
  rintro table attr rfl hnew
  exact altered_given hnew

theorem change_distinct (h : c.call.change s = .ok s') (hs : s.Distinct) : s'.Distinct := by
  obtain ⟨t, ht, ⟨rfl, -⟩ | rfl⟩ := change_ok h
  · exact hs
  · exact hs.insert (c.altered_distinct (hs t (Schema.get?_mem ht)))

/-- A call that another undoes: it has the same attribute of the same table go, or come. -/
def Undoes (other c : Alteration) : Prop :=
  Identifier.truncate other.table = Identifier.truncate c.table ∧ other.name = c.name ∧ other.adds ≠ c.adds

/-- The table has the attribute, or has it no longer, as the call left it. -/
def Holds (c : Alteration) (s : Schema) : Prop := ∃ t, s.get? c.table = some t ∧ t.has c.name = c.adds

theorem Lands.holds (h : c.Lands s s') : c.Holds s' := by
  obtain ⟨_, t', -, ht', -, hhas, -⟩ := h.table
  exact ⟨t', ht', hhas⟩

/-- What one call left, the change of another leaves, unless it undoes it. -/
theorem Holds.lands {other : Alteration} (h : c.Holds s) (hlands : other.Lands s s') (hundoes : ¬ other.Undoes c) :
    c.Holds s' := by
  obtain ⟨t, ht, hhas⟩ := h
  by_cases htable : Identifier.truncate c.table = Identifier.truncate other.table
  · obtain ⟨u, u', hu, hu', -, hchanged, hsame, -⟩ := hlands.table
    have htu : t = u := Option.some.inj (ht.symm.trans ((Schema.get?_congr htable).trans hu))
    refine ⟨u', (Schema.get?_congr htable).trans hu', ?_⟩
    by_cases hname : other.name = c.name
    · have hadds : other.adds = c.adds := by
        by_contra hne
        exact hundoes ⟨htable.symm, hname, hne⟩
      rw [← hname, hchanged, hadds]
    · have hmem : ∀ a : Attribute, a.name = c.name → (a ∈ u'.attributes ↔ a ∈ u.attributes) := by
        intro a ha
        have hfilter := congrArg (a ∈ ·) hsame
        have hne : a.name ≠ other.name := fun h => hname (h.symm.trans ha)
        simpa [List.mem_filter, hne] using hfilter
      rw [← hhas, htu, Bool.eq_iff_iff, Table.has_iff, Table.has_iff]
      exact ⟨fun ⟨a, ha, h⟩ => ⟨a, (hmem a h).mp ha, h⟩, fun ⟨a, ha, h⟩ => ⟨a, (hmem a h).mpr ha, h⟩⟩
  · exact ⟨t, (hlands.others c.table htable).trans ht, hhas⟩

/-- The checks of a call succeed only where its table is. -/
theorem check_present {d : Datastore} {found : List String × Option Plan} (h : c.call.check d s = .ok found) :
    ∃ t, s.get? c.table = some t := by
  cases c with
  | add table attr =>
    obtain ⟨updated, hextended, -⟩ := Result.bind_ok_iff.mp h
    obtain ⟨t, ht, -⟩ := Datastore.extended_ok hextended
    exact ⟨t, ht⟩
  | remove table name =>
    obtain ⟨found, hremovable, -⟩ := Result.bind_ok_iff.mp h
    obtain ⟨t, -, ht, -⟩ := Datastore.removable_ok hremovable
    exact ⟨t, ht⟩

/-- No change takes a table away. -/
theorem Lands.present (h : c.Lands s s') {other : String} {t : Table} (ht : s.get? other = some t) :
    ∃ t', s'.get? other = some t' := by
  by_cases htable : Identifier.truncate other = Identifier.truncate c.table
  · obtain ⟨_, t', -, ht', -⟩ := h.table
    exact ⟨t', (Schema.get?_congr htable).trans ht'⟩
  · exact ⟨t, (h.others other htable).trans ht⟩

/-- Where a call stands on a schema, after moves that it made on earlier ones: where its checks succeeded, its table
has not gone. -/
structure Stands (c : Alteration) (d : Datastore) (own : List Schema) (left : Action (Option Plan)) (s : Schema) :
    Prop where
  stage : c.call.Stage d own left
  present : ∀ seen ∈ own, (∃ found, c.call.check d seen = .ok found) → ∃ t, s.get? c.table = some t

namespace Stands

variable {d : Datastore} {own : List Schema} {left x : Action (Option Plan)}

/-- The next step of a call leaves the schema or is its change, which succeeds and ends the call. -/
theorem step (h : c.Stands d own left s) (hstep : Action.Step s left s' x) :
    c.call.Stage d (own ++ [s]) x ∧
      (s' = s ∧ left.isChange = false ∧ (∀ reply, x ≠ .done (.ok reply)) ∨
        c.call.change s = .ok s' ∧ ∃ reply, left = c.call.remaining [] reply ∧ x = .done (.ok reply)) := by
  refine h.stage.step hstep fun seen hseen hfound => ?_
  obtain ⟨t, ht⟩ := h.present seen hseen hfound
  exact change_isOk ht

theorem step_present (h : c.Stands d own left s) (hstep : Action.Step s left s' x) {other : String} {t : Table}
    (ht : s.get? other = some t) : ∃ t', s'.get? other = some t' := by
  rcases (h.step hstep).2 with ⟨rfl, -⟩ | ⟨hchange, -⟩
  · exact ⟨t, ht⟩
  · exact (change_lands hchange).present ht

theorem moved (h : c.Stands d own left s) (hstep : Action.Step s left s' x) : c.Stands d (own ++ [s]) x s' := by
  refine ⟨(h.step hstep).1, fun seen hseen hfound => ?_⟩
  have hnow : ∃ t, s.get? c.table = some t := by
    rcases List.mem_append.mp hseen with hseen | hseen
    · exact h.present seen hseen hfound
    · obtain ⟨found, hcheck⟩ := hfound
      exact check_present (List.mem_singleton.mp hseen ▸ hcheck)
  obtain ⟨t, ht⟩ := hnow
  exact h.step_present hstep ht

/-- A call stands where it stood as long as its table is still there. -/
theorem still (h : c.Stands d own left s)
    (hpresent : ∀ t, s.get? c.table = some t → ∃ t', s'.get? c.table = some t') : c.Stands d own left s' := by
  refine ⟨h.stage, fun seen hseen hfound => ?_⟩
  obtain ⟨t, ht⟩ := h.present seen hseen hfound
  exact hpresent t ht

end Stands

end Alteration

/-! ## Interleavings -/

section

variable {ι : Type} [DecidableEq ι] {d : Datastore} {calls : ι → Alteration} {start s : Schema}
  {moves : List (Option ι × Schema)} {left : ι → Action (Option Plan)} {i : ι}

/-- Calls take their steps in any order, and other things happen to the schema between them, as long as these leave
the tables of the calls alone and bring no repeated names. The list has each move, with the call that made it and the
schema before it; `left` is what each call has yet to do. -/
inductive Interleaves (d : Datastore) (calls : ι → Alteration) (start : Schema) :
    List (Option ι × Schema) → Schema → (ι → Action (Option Plan)) → Prop where
  | none : Interleaves d calls start [] start fun i => (calls i).call.action d
  | move {moves : List (Option ι × Schema)} {s s' : Schema} {left : ι → Action (Option Plan)}
      {x : Action (Option Plan)} (i : ι) (before : Interleaves d calls start moves s left)
      (step : Action.Step s (left i) s' x) :
      Interleaves d calls start (moves ++ [(some i, s)]) s' (Function.update left i x)
  | elsewhere {moves : List (Option ι × Schema)} {s s' : Schema} {left : ι → Action (Option Plan)}
      (before : Interleaves d calls start moves s left)
      (kept : ∀ i, s'.get? (calls i).table = s.get? (calls i).table) (distinct : s.Distinct → s'.Distinct) :
      Interleaves d calls start (moves ++ [(none, s)]) s' left

/-- The schemas on which a call made its moves. -/
def ownMoves (moves : List (Option ι × Schema)) (i : ι) : List Schema :=
  (moves.filter (·.1 = some i)).map (·.2)

theorem ownMoves_append (moves : List (Option ι × Schema)) (who : Option ι) (s : Schema) (i : ι) :
    ownMoves (moves ++ [(who, s)]) i = ownMoves moves i ++ if who = some i then [s] else [] := by
  rw [ownMoves, List.filter_append, List.map_append, ownMoves]
  by_cases h : who = some i <;> simp [h]

namespace Interleaves

/-- Every call stands where its own moves have brought it. -/
theorem stands (h : Interleaves d calls start moves s left) :
    ∀ i, (calls i).Stands d (ownMoves moves i) (left i) s := by
  induction h with
  | none =>
    refine fun i => ⟨?_, fun seen hseen => nomatch hseen⟩
    show (calls i).call.Stage d [] ((calls i).call.action d)
    rw [SchemaCall.action_eq (calls i).looks]
    exact .waiting
  | @move moves s s' left x j before step ih =>
    intro i
    rw [ownMoves_append]
    by_cases hij : j = i
    · subst hij
      rw [if_pos rfl, Function.update_self]
      exact (ih j).moved step
    · rw [if_neg (by simpa using hij), List.append_nil, Function.update_of_ne (Ne.symm hij)]
      exact (ih i).still fun t ht => (ih j).step_present step ht
  | @elsewhere moves s s' left before kept distinct ih =>
    intro i
    rw [ownMoves_append, if_neg nofun, List.append_nil]
    exact (ih i).still fun t ht => ⟨t, (kept i).trans ht⟩

theorem distinct (h : Interleaves d calls start moves s left) (hstart : start.Distinct) : s.Distinct := by
  induction h with
  | none => exact hstart
  | move i before step ih =>
    rcases ((before.stands i).step step).2 with ⟨rfl, -⟩ | ⟨hchange, -⟩
    · exact ih
    · exact Alteration.change_distinct hchange ih
  | elsewhere before kept distinct ih => exact distinct ih

/-- What a call left when it ended stays, unless another call undoes it. -/
theorem holds (h : Interleaves d calls start moves s left) (hundoes : ∀ j, ¬ (calls j).Undoes (calls i))
    {reply : Option Plan} (hdone : left i = .done (.ok reply)) : (calls i).Holds s := by
  induction h with
  | none =>
    have hwaiting := (SchemaCall.action_eq (d := d) (calls i).looks).symm.trans hdone
    cases hwaiting
  | @move moves s s' left x j before step ih =>
    have heffect := ((before.stands j).step step).2
    by_cases hij : j = i
    · subst hij
      rw [Function.update_self] at hdone
      subst hdone
      rcases heffect with ⟨-, -, hnone⟩ | ⟨hchange, -⟩
      · exact absurd rfl (hnone reply)
      · exact (Alteration.change_lands hchange).holds
    · rw [Function.update_of_ne (Ne.symm hij)] at hdone
      rcases heffect with ⟨rfl, -⟩ | ⟨hchange, -⟩
      · exact ih hdone
      · exact (ih hdone).lands (Alteration.change_lands hchange) (hundoes j)
  | elsewhere before kept distinct ih =>
    obtain ⟨t, ht, hhas⟩ := ih hdone
    exact ⟨t, (kept i).trans ht, hhas⟩

/-- A call that runs on its own is the interleaving of one call. -/
theorem alone {c : Alteration} {σ : Type} {executor : Executor σ}
    (haccepts : ∀ query state, ∃ rows, (executor query state).1 = .ok rows) {s s' : Schema} {state state' : σ}
    {r : Result (Option Plan)} (h : (c.call.action d).run executor s state = (r, s', state')) :
    ∃ moves left, Interleaves d (fun _ : Unit => c) s moves s' left ∧ left () = .done r := by
  have hsteps : ∀ b, Relation.ReflTransGen (fun a b => Action.Step a.1 a.2 b.1 b.2) (s, c.call.action d) b →
      ∃ moves left, Interleaves d (fun _ : Unit => c) s moves b.1 left ∧ left () = b.2 := by
    intro b hb
    induction hb with
    | refl => exact ⟨[], _, .none, rfl⟩
    | tail _ hstep ih =>
      obtain ⟨moves, left, hmoves, hleft⟩ := ih
      exact ⟨_, _, .move () hmoves (hleft ▸ hstep), Function.update_self ..⟩
  exact hsteps _ (Action.run_steps haccepts h)

/-! ### Moves of one call -/

theorem looked (h : Interleaves d calls start moves s left) (i : ι) (hleft : left i = (calls i).call.action d) :
    Interleaves d calls start (moves ++ [(some i, s)]) s (Function.update left i ((calls i).call.begun d s)) := by
  refine .move i h ?_
  rw [hleft, SchemaCall.action_eq (calls i).looks]
  exact .look

theorem sent (h : Interleaves d calls start moves s left) (i : ι) {sql : String} {more : List String}
    {reply : Option Plan} (hleft : left i = (calls i).call.remaining (sql :: more) reply) (hsql : Query.Bare sql) :
    Interleaves d calls start (moves ++ [(some i, s)]) s
      (Function.update left i ((calls i).call.remaining more reply)) := by
  obtain ⟨next, hnext, hrows⟩ := (calls i).call.remaining_bare hsql more reply
  refine .move i h ?_
  rw [hleft, hnext, ← hrows []]
  exact .send []

theorem changed (h : Interleaves d calls start moves s left) (i : ι) {s' : Schema} {reply : Option Plan}
    (hleft : left i = (calls i).call.remaining [] reply) (hchange : (calls i).call.change s = .ok s') :
    Interleaves d calls start (moves ++ [(some i, s)]) s' (Function.update left i (.done (.ok reply))) := by
  refine .move i h ?_
  rw [hleft, SchemaCall.remaining_nil]
  exact .change hchange

end Interleaves

/-- How a call fares among others: `own` are the schemas on which it made its moves, `s` is the schema now, and `left`
what it has yet to do. -/
structure Alteration.Fares (c : Alteration) (d : Datastore) (own : List Schema) (s : Schema)
    (left : Action (Option Plan)) : Prop where
  /-- It is over or can go on. -/
  able : (∃ r, left = .done r) ∨ ∃ s' x, Action.Step s left s' x
  /-- It ends with what was settled when it looked. -/
  result : ∀ r, left = .done r → ∃ seen later, own = seen :: later ∧ r = c.call.verdict d seen
  /-- If its checks succeeded and no statement has a placeholder, it ends well, one move after its last statement. -/
  returns : ∀ seen later statements reply, own = seen :: later → c.call.check d seen = .ok (statements, reply) →
    (∀ sql ∈ statements, Query.Bare sql) → later.length < statements.length + 1 ∨ left = .done (.ok reply)
  /-- Its statements have no placeholder unless the attribute brings one, in SQL of its own. -/
  quiet : c.call.Quiet → ∀ seen statements reply, c.call.check d seen = .ok (statements, reply) →
    ∀ sql ∈ statements, Query.Bare sql
  /-- The first statement that has a placeholder is refused and ends the call. -/
  refuses : ∀ seen later sent sql more reply, own = seen :: later →
    c.call.check d seen = .ok (sent ++ sql :: more, reply) → (∀ sql ∈ sent, Query.Bare sql) → ¬ Query.Bare sql →
    later.length < sent.length ∨
      left = .done (.error (.highestPlaceholder (Query.highest (Placeholder.indices sql)) 0))
  /-- Its change succeeds, lands and ends it well. -/
  lands : ∀ s' x, Action.Step s left s' x → left.isChange = true → c.Lands s s' ∧ ∃ reply, x = .done (.ok reply)
  /-- Every other step of it leaves the schema. -/
  keeps : ∀ s' x, Action.Step s left s' x → left.isChange = false → s' = s

theorem Alteration.Stands.fares {c : Alteration} {own : List Schema} {left : Action (Option Plan)}
    (h : c.Stands d own left s) : c.Fares d own s left where
  able := h.stage.able s
  result _ hdone := h.stage.result hdone
  returns seen later statements reply hown hcheck hbare := (hown ▸ h.stage).returns hcheck hbare
  quiet hquiet seen statements reply hcheck := hquiet.bare hcheck
  refuses seen later sent sql more reply hown hcheck hsent hsql := (hown ▸ h.stage).refuses hcheck hsent hsql
  lands s' x hstep hchanges := by
    rcases (h.step hstep).2 with ⟨-, hnone, -⟩ | ⟨hchange, reply, -, hx⟩
    · rw [hnone] at hchanges
      cases hchanges
    · exact ⟨Alteration.change_lands hchange, reply, hx⟩
  keeps s' x hstep hkeeps := by
    rcases (h.step hstep).2 with ⟨hsame, -⟩ | ⟨-, reply, rfl, -⟩
    · exact hsame
    · cases hkeeps

/-- However the steps of calls that alter tables are interleaved, the change of every call lands, what a call has left
stays unless another call undoes it, and a call ends well if its checks succeeded, unless it has a statement with a
placeholder. No table ever gets two attributes of one name. -/
theorem alterations_land (h : Interleaves d calls start moves s left) :
    (start.Distinct → s.Distinct) ∧
    ∀ i, (calls i).Fares d (ownMoves moves i) s (left i) ∧
      ((∀ j, ¬ (calls j).Undoes (calls i)) → (∃ reply, left i = .done (.ok reply)) → (calls i).Holds s) :=
  ⟨h.distinct, fun i => ⟨(h.stands i).fares, fun hundoes ⟨_, hdone⟩ => h.holds hundoes hdone⟩⟩

end

/-- Users and posts, with nothing but their keys. -/
def bareTables : Schema := .ofTables
  [.make "users" [(Attribute.plain "id" .integer).asPrimaryKey],
    .make "posts" [(Attribute.plain "id" .integer).asPrimaryKey]]

def bareBlog : Datastore := ⟨"blog", bareTables, .standard, .standard⟩

/-- Two calls that give posts a title. -/
def bothTitled : Bool → Alteration := fun _ => .add "posts" (.plain "title" .string)

/-- Both look at the posts before either changes them, and both end well. -/
theorem alterations_land_bothTitled : ∃ moves s left, Interleaves bareBlog bothTitled bareTables moves s left ∧
    s.Distinct ∧ ∀ i, (∃ reply, left i = .done (.ok reply)) ∧ (bothTitled i).Holds s := by
  let sql := "ALTER TABLE \"posts\" ADD COLUMN \"title\" VARCHAR(255)"
  have hstatements : ((bothTitled true).call.check bareBlog bareTables).toOption.map (·.1) = some [sql] := by
    decide +kernel
  have hbare : Query.Bare sql := by
    decide +kernel
  have hposts : ∃ t, bareTables.get? "posts" = some t := ⟨_, rfl⟩
  have hstart : bareTables.Distinct := by
    unfold Schema.Distinct
    decide +kernel
  cases hcheck : (bothTitled true).call.check bareBlog bareTables with
  | error e =>
    rw [hcheck] at hstatements
    cases hstatements
  | ok found =>
    obtain ⟨statements, reply⟩ := found
    rw [hcheck] at hstatements
    obtain rfl : statements = [sql] := Option.some.inj hstatements
    have hbegun : ∀ i, (bothTitled i).call.begun bareBlog bareTables = (bothTitled i).call.remaining [sql] reply := by
      intro i
      have hsame : (bothTitled i).call.check bareBlog bareTables = .ok ([sql], reply) := hcheck
      rw [SchemaCall.begun, hsame]
    obtain ⟨t, ht⟩ := hposts
    obtain ⟨first, hfirst⟩ := Alteration.change_isOk (c := bothTitled false) ht
    obtain ⟨t', ht'⟩ := (Alteration.change_lands hfirst).present ht
    obtain ⟨second, hsecond⟩ := Alteration.change_isOk (c := bothTitled true) ht'
    have hnone : Interleaves bareBlog bothTitled bareTables [] bareTables _ := .none
    have hlooked := (hnone.looked false rfl).looked true rfl
    rw [hbegun, hbegun] at hlooked
    have hsent := (hlooked.sent false rfl hbare).sent true rfl hbare
    have hchanged := (hsent.changed false rfl hfirst).changed true rfl hsecond
    obtain ⟨hdistinct, hcalls⟩ := alterations_land hchanged
    refine ⟨_, _, _, hchanged, hdistinct hstart, fun i => ?_⟩
    have hholds := (hcalls i).2 fun j hundoes => hundoes.2.2 rfl
    cases i <;> exact ⟨⟨reply, rfl⟩, hholds ⟨reply, rfl⟩⟩

/-- A key of users whose rows are to be treated as a parameter says when a user goes. -/
def keyed : Attribute := { Attribute.plain "user_id" .integer with foreignKey := some ⟨"users", "id", "$1"⟩ }

/-- An executor that accepts every statement. -/
def accepting : Executor Unit := fun _ state => (.ok [], state)

/-- The checks of a call succeed and every statement that is sent is accepted, and yet the call fails: its second
statement has a placeholder. -/
theorem alterations_land_keyed :
    ((Alteration.add "posts" keyed).call.check bareBlog bareTables).toOption.isSome = true ∧
    ∃ moves s left, Interleaves bareBlog (fun _ : Unit => .add "posts" keyed) bareTables moves s left ∧
      left () = .done (.error (.highestPlaceholder 1 0)) := by
  have hfails : (((Alteration.add "posts" keyed).call.action bareBlog).run accepting bareTables ()).1 =
      .error (.highestPlaceholder 1 0) := by
    decide +kernel
  refine ⟨by decide +kernel, ?_⟩
  rcases hrun : ((Alteration.add "posts" keyed).call.action bareBlog).run accepting bareTables () with ⟨r, s, state⟩
  rw [hrun] at hfails
  obtain rfl : r = _ := hfails
  obtain ⟨moves, left, hmoves, hleft⟩ := Interleaves.alone (fun _ _ => ⟨[], rfl⟩) hrun
  exact ⟨moves, s, left, hmoves, hleft⟩

end SqlAdapter
