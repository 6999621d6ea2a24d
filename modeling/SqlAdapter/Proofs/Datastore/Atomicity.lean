/-
A call that changes the schema does so in one stroke or not at all.

Whatever the executor answers, and at whichever statement it fails, a call that
ends with an error has left the schema. A call that ends well has found its
table as its checks ask, and has set the entry of this one table:
`SchemaCall.Leaves` says to what, and `Schema.Sets` that the rest of the schema is
as before. The reason is the shape of a call (`begun_trace`): checks, then statements,
and a change at the end, which cannot fail where the checks succeeded
(`change_of_check`).
-/
import SqlAdapter.Proofs.Datastore.Calls
import SqlAdapter.Proofs.Datastore.Trace

namespace SqlAdapter

/-! ## One entry of a schema -/

namespace Schema

/-- The two schemas agree but for the entry of one name, which the second has as given. -/
structure Sets (s s' : Schema) (key : String) (entry : Option Table) : Prop where
  /-- What is found under each name. -/
  found : ∀ name, s'.get? name = if Identifier.truncate name = key then entry else s.get? name
  /-- Which tables there are. -/
  tables : ∀ t, t ∈ s'.tables ↔ entry = some t ∨ t ∈ s.tables ∧ t.name ≠ key

theorem sets_insert (s : Schema) (t : Table) : s.Sets (s.insert t) t.name (some t) := by
  refine ⟨s.get?_insert t, fun u => ⟨fun h => ?_, fun h => ?_⟩⟩
  · rcases mem_insert h with rfl | h
    · exact .inl rfl
    · exact .inr h
  · rw [insert]
    split
    · next hany =>
      rcases h with h | ⟨hu, hne⟩
      · obtain rfl : t = u := Option.some.inj h
        obtain ⟨v, hv, hname⟩ := List.any_eq_true.mp hany
        exact List.mem_map.mpr ⟨v, hv, if_pos hname⟩
      · exact List.mem_map.mpr ⟨u, hu, if_neg (by simpa using hne)⟩
    · rcases h with h | ⟨hu, -⟩
      · exact List.mem_append_right _ (List.mem_singleton.mpr (Option.some.inj h).symm)
      · exact List.mem_append_left _ hu

theorem sets_erase (s : Schema) (name : String) : s.Sets (s.erase name) (Identifier.truncate name) none := by
  refine ⟨s.get?_erase name, fun t => ?_⟩
  simp [erase]

/-- A table that was found has its name cut already, so it keeps its name with other attributes. -/
theorem sets_found {s : Schema} {table : String} {t : Table} (h : s.get? table = some t)
    (attributes : List Attribute) : s.Sets (s.insert (.make t.name attributes)) (Identifier.truncate table)
      (some { t with attributes := attributes }) := by
  have hname := get?_name h
  have hmake : Table.make t.name attributes = { t with attributes := attributes } := by
    rw [Table.make, hname, Identifier.truncate_truncate]
  rw [hmake, ← hname]
  exact s.sets_insert _

end Schema

/-! ## What a call leaves -/

namespace SchemaCall

open SqlAdapter.Action SqlAdapter.Result

/-- The name under which a schema has the table of a call. -/
def key : SchemaCall → String
  | .define table => table.name
  | .dropTable table | .addAttribute table _ | .removeAttribute table _ => Identifier.truncate table

/-- What a call leaves for its table when it ends well, by what it found. -/
def Leaves (s : Schema) (entry : Option Table) : SchemaCall → Prop
  | .define table => entry = some table
  | .dropTable _ => entry = none
  | .addAttribute table attr => ∃ t, s.get? table = some t ∧ t.has attr.name = false ∧
      entry = some { t with attributes := t.attributes ++ [attr] }
  | .removeAttribute table name => ∃ t, s.get? table = some t ∧ t.has name = true ∧
      entry = some { t with attributes := t.attributes.filter (·.name != name) }

variable {c : SchemaCall} {d : Datastore} {s s' : Schema} {sent : List Exchange}

/-- Where the checks of a call succeed, so does its change, and sets the entry of its table. -/
theorem change_of_check {found : List String × Option Plan} (h : c.check d s = .ok found) :
    ∃ s', c.change s = .ok s' ∧ ∃ entry, c.Leaves s entry ∧ s.Sets s' c.key entry := by
  cases c with
  | define table => exact ⟨_, rfl, _, rfl, s.sets_insert table⟩
  | dropTable table => exact ⟨_, rfl, _, rfl, s.sets_erase table⟩
  | addAttribute table attr =>
    obtain ⟨updated, hextended, -⟩ := bind_ok_iff.mp h
    obtain ⟨t, ht, hhas, -, -⟩ := Datastore.extended_ok hextended
    have hchange : Datastore.withAttribute table attr s = .ok (s.insert (t.push attr)) := by
      rw [Datastore.withAttribute, Schema.get_ok_iff.mpr ht]
      simp only [Bind.bind, Except.bind, hhas, Bool.false_eq_true, if_false]
      rfl
    exact ⟨_, hchange, _, ⟨t, ht, hhas, rfl⟩, Schema.sets_found ht _⟩
  | removeAttribute table name =>
    obtain ⟨found, hremovable, -⟩ := bind_ok_iff.mp h
    obtain ⟨t, a, ht, hfind, -, -⟩ := Datastore.removable_ok hremovable
    have hchange : Datastore.withoutAttribute table name s = .ok (s.insert (t.without name)) := by
      rw [Datastore.withoutAttribute, Schema.get_ok_iff.mpr ht]
      rfl
    have hhas : t.has name = true := by
      rw [Table.has, hfind]
      rfl
    exact ⟨_, hchange, _, ⟨t, ht, hhas, rfl⟩, Schema.sets_found ht _⟩

/-! ## What a call does -/

/-- Where a call does not look at the schema, its checks are the same on all. -/
theorem dropTable_action (table : String) (s : Schema) :
    (SchemaCall.dropTable table).action d = (SchemaCall.dropTable table).begun d s := by
  show ((Action.lift (Plan.drop table)).bind _).bind _ = _
  simp only [begun, check, Bind.bind, Except.bind]
  cases Plan.drop table with
  | error e => rfl
  | ok plan => exact Action.bind_assoc (Action.executeAll plan.statements) _ _

theorem action_trace {r : Result (Option Plan)} (h : Trace s (c.action d) sent r s') :
    Trace s (c.begun d s) sent r s' := by
  cases c with
  | dropTable table =>
    rw [dropTable_action table s] at h
    exact h
  | define table =>
    rw [action_eq rfl] at h
    cases h with
    | look rest => exact rest
  | addAttribute table attr =>
    rw [action_eq rfl] at h
    cases h with
    | look rest => exact rest
  | removeAttribute table name =>
    rw [action_eq rfl] at h
    cases h with
    | look rest => exact rest

/-- A call fails its checks, or fails with its statements, or has them all answered and changes the schema. -/
theorem begun_trace {r : Result (Option Plan)} (h : Trace s (c.begun d s) sent r s') :
    (∃ e, c.check d s = .error e ∧ r = .error e ∧ sent = [] ∧ s' = s) ∨
      ∃ statements reply, c.check d s = .ok (statements, reply) ∧
        ((∃ e, r = .error e ∧ Trace s (executeAll statements) sent (.error e) s ∧ s' = s) ∨
          r = .ok reply ∧ Trace s (executeAll statements) sent (.ok ()) s ∧ c.change s = .ok s') := by
  rw [begun] at h
  cases hcheck : c.check d s with
  | error e =>
    rw [hcheck] at h
    cases h
    exact .inl ⟨e, rfl, rfl, rfl, rfl⟩
  | ok found =>
    obtain ⟨statements, reply⟩ := found
    rw [hcheck] at h
    obtain ⟨t, ht, -⟩ := change_of_check hcheck
    refine .inr ⟨statements, reply, rfl, ?_⟩
    rcases h.bind with ⟨e, hr, hsent⟩ | ⟨_, u, first, rest, rfl, hsent, hchange⟩
    · obtain rfl := hsent.executeAll
      exact .inl ⟨e, hr, hsent, rfl⟩
    · obtain rfl := hsent.executeAll
      cases hchange with
      | change hupdate hdone =>
        cases hdone
        rw [List.append_nil]
        exact .inr ⟨rfl, hsent, hupdate⟩
      | refuse hupdate =>
        rw [ht] at hupdate
        cases hupdate

end SchemaCall

/-! ## Calls on a datastore -/

namespace Datastore

open SchemaCall

variable {σ : Type} {d d' : Datastore} {own : Executor σ} {override : Option (Executor σ)} {state state' : σ}

/-- A call that fails leaves the datastore as it was. A call that succeeds changes the entry of its table, to what it
is to leave there, and nothing else of the datastore. -/
theorem call_atomic {c : SchemaCall} {r : Result (Option Plan)}
    (h : d.perform (Executor.chosen own override) state (c.action d) = (r, d', state')) :
    (∀ e, r = .error e → d' = d) ∧
      ∀ reply, r = .ok reply → d' = { d with schema := d'.schema } ∧
        ∃ entry, c.Leaves d.schema entry ∧ d.schema.Sets d'.schema c.key entry := by
  rcases hrun : (c.action d).run (Executor.chosen own override) d.schema state with ⟨result, s, last⟩
  rw [perform, hrun] at h
  cases h
  obtain ⟨sent, htrace, -⟩ := Action.run_trace hrun []
  rcases begun_trace (action_trace htrace) with ⟨e, -, rfl, -, rfl⟩ | ⟨statements, reply, hcheck, hend⟩
  · refine ⟨fun _ _ => rfl, fun reply hreply => ?_⟩
    cases hreply
  · rcases hend with ⟨e, rfl, -, rfl⟩ | ⟨rfl, -, hchange⟩
    · refine ⟨fun _ _ => rfl, fun reply hreply => ?_⟩
      cases hreply
    · obtain ⟨t, ht, hleaves⟩ := change_of_check hcheck
      rw [ht] at hchange
      cases hchange
      refine ⟨fun e he => ?_, fun _ _ => ⟨rfl, hleaves⟩⟩
      cases he

/-- Accepts so many statements and refuses all others. -/
def accepts : Executor Nat
  | _, 0 => (.error (.reported .timeout "canceling statement"), 0)
  | _, n + 1 => (.ok [], n)

/-- A title for posts with an index, which takes two statements. -/
def titled : SchemaCall := .addAttribute "posts" { Attribute.plain "title" .string with index := true }

/-- The index is refused after the column was made, and the datastore is as it was. With both accepted by another
executor, posts have the title, and the users are still there. -/
theorem call_atomic_titled : let d : Datastore := ⟨"blog", blog, .standard, .standard⟩
    (∃ e d' left, d.perform (.chosen accepts none) 1 (titled.action d) = (.error e, d', left) ∧ d' = d) ∧
    ∃ plan d' left, d.perform (.chosen accepts (some accepts)) 2 (titled.action d) = (.ok plan, d', left) ∧
      (∃ t, d'.schema.get? "posts" = some t ∧ t.attributes.map (·.name) = ["id", "user_id", "title"]) ∧
      d'.schema.get? "users" = blog.get? "users" := by
  intro d
  constructor
  · rcases hrun : d.perform (.chosen accepts none) 1 (titled.action d) with ⟨r, d', left⟩
    have hfails : (d.perform (.chosen accepts none) 1 (titled.action d)).1 =
        .error (.reported .timeout "canceling statement") := by
      decide +kernel
    rw [hrun] at hfails
    obtain rfl : r = _ := hfails
    exact ⟨_, d', left, rfl, (call_atomic hrun).1 _ rfl⟩
  · rcases hrun : d.perform (.chosen accepts (some accepts)) 2 (titled.action d) with ⟨r, d', left⟩
    have hends : (d.perform (.chosen accepts (some accepts)) 2 (titled.action d)).1.isOk = true := by
      decide +kernel
    rw [hrun] at hends
    cases r with
    | error e => cases hends
    | ok plan =>
      obtain ⟨-, entry, ⟨t, ht, -, rfl⟩, hsets⟩ := (call_atomic hrun).2 plan rfl
      have hposts : (blog.get? "posts").map (·.attributes.map (·.name)) = some ["id", "user_id"] := by
        decide +kernel
      have hnames : t.attributes.map (·.name) = ["id", "user_id"] := by
        rw [show blog.get? "posts" = some t from ht] at hposts
        exact Option.some.inj hposts
      refine ⟨plan, d', left, rfl, ⟨_, (hsets.found "posts").trans (if_pos rfl), ?_⟩, ?_⟩
      · rw [List.map_append, hnames]
        rfl
      · exact (hsets.found "users").trans (if_neg (by decide +kernel))

end Datastore

end SqlAdapter
