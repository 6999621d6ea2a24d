/-
Whether the schema of a datastore stays valid.

A datastore is made with a valid schema, and a call that defines a table or adds
an attribute checks the whole schema before it goes on. A call that drops a table
or removes an attribute checks nothing: it leaves the associations of other
tables that led there. `Reached.sound_iff` is what becomes of an attribute over
any calls that succeed, in terms of the calls alone: it is sound as long as no
call since the last check has severed its association.
-/
import SqlAdapter.Datastore.Basic
import SqlAdapter.Proofs.Datastore.Action
import SqlAdapter.Proofs.Schema.Validity

namespace SqlAdapter

namespace Datastore

/-- The action succeeds on one datastore, with some executor, and leaves another. -/
def Performs {α : Type} (d : Datastore) (action : Action α) (d' : Datastore) : Prop :=
  ∃ (σ : Type) (executor : Executor σ) (state state' : σ) (a : α),
    d.perform executor state action = (.ok a, d', state')

theorem Performs.ends {α : Type} {d d' : Datastore} {action : Action α} (h : d.Performs action d') :
    ∃ a, action.Ends d.schema a d'.schema := by
  obtain ⟨σ, executor, state, state', a, h⟩ := h
  rcases hrun : action.run executor d.schema state with ⟨result, s, last⟩
  rw [perform, hrun] at h
  cases h
  exact ⟨a, σ, executor, state, state', hrun⟩

end Datastore

/-- A call that changes the schema of a datastore. -/
inductive SchemaCall where
  | define (table : Table)
  | dropTable (table : String)
  | addAttribute (table : String) (attr : Attribute)
  | removeAttribute (table name : String)

namespace SchemaCall

/-- The call succeeds on one datastore and leaves another. -/
def Succeeds (d d' : Datastore) : SchemaCall → Prop
  | .define table => d.Performs (d.define table) d'
  | .dropTable table => d.Performs (Datastore.dropTable table) d'
  | .addAttribute table attr => d.Performs (d.addAttribute table attr) d'
  | .removeAttribute table name => d.Performs (Datastore.removeAttribute table name) d'

/-- What a call that succeeds has found, and the schema that it leaves. -/
def Changes (s s' : Schema) : SchemaCall → Prop
  | .define table => (s.insert table).validate = .ok () ∧ s' = s.insert table
  | .dropTable table => s' = s.erase table
  | .addAttribute table attr => ∃ t, s.get? table = some t ∧ t.has attr.name = false ∧
      (s.insert (t.push attr)).validate = .ok () ∧ s' = s.insert (t.push attr)
  | .removeAttribute table name => ∃ t a, s.get? table = some t ∧ t.find? name = some a ∧
      a.primaryKey = false ∧ s' = s.insert (t.without name)

end SchemaCall

/-! ## What each operation does to the schema -/

namespace Schema

theorem get_ok_iff {s : Schema} {name : String} {t : Table} : s.get name = .ok t ↔ s.get? name = some t := by
  rw [get]
  cases s.get? name with
  | none => exact ⟨fun h => (nomatch h), fun h => (nomatch h)⟩
  | some u => exact ⟨fun h => by cases h; rfl, fun h => by cases h; rfl⟩

end Schema

namespace Datastore

open Result

variable {d : Datastore} {s s' : Schema}

theorem define_ends {table : Table} {plan : Plan} (h : (d.define table).Ends s plan s') :
    (s.insert table).validate = .ok () ∧ s' = s.insert table := by
  obtain ⟨_, hvalid, h⟩ := h.schema_bind.lift_bind
  obtain ⟨plan, -, h⟩ := h.lift_bind
  obtain ⟨_, t, hupdate, h⟩ := h.executeAll_bind.bind
  cases hupdate.update
  exact ⟨hvalid, h.pure⟩

theorem dropTable_ends {table : String} (h : (dropTable table).Ends s () s') : s' = s.erase table := by
  obtain ⟨plan, -, h⟩ := h.lift_bind
  cases h.executeAll_bind.update
  rfl

theorem extended_ok {table : String} {attr : Attribute} {updated : Table}
    (h : extended s table attr = .ok updated) :
    ∃ t, s.get? table = some t ∧ t.has attr.name = false ∧ updated = t.push attr ∧
      (s.insert (t.push attr)).validate = .ok () := by
  obtain ⟨t, ht, h⟩ := bind_ok_iff.mp h
  by_cases hhas : t.has attr.name = true
  · rw [if_pos hhas] at h
    cases h
  · rw [if_neg hhas] at h
    obtain ⟨_, hvalid, h⟩ := bind_ok_iff.mp h
    exact ⟨t, Schema.get_ok_iff.mp ht, by simpa using hhas, (pure_ok_iff.mp h).symm, hvalid⟩

theorem addAttribute_ends {table : String} {attr : Attribute} {plan : Plan}
    (h : (d.addAttribute table attr).Ends s plan s') :
    ∃ t, s.get? table = some t ∧ t.has attr.name = false ∧
      (s.insert (t.push attr)).validate = .ok () ∧ s' = s.insert (t.push attr) := by
  obtain ⟨updated, hextended, h⟩ := h.schema_bind.lift_bind
  obtain ⟨t, ht, hhas, -, hvalid⟩ := extended_ok hextended
  obtain ⟨plan, -, h⟩ := h.lift_bind
  obtain ⟨_, u, hupdate, h⟩ := h.executeAll_bind.bind
  -- no other call came between, so the table still lacks the attribute
  have hchange : (withAttribute table attr) s = .ok u := hupdate.update
  rw [withAttribute, Schema.get_ok_iff.mpr ht] at hchange
  simp only [Bind.bind, Except.bind, hhas, Bool.false_eq_true, if_false] at hchange
  cases hchange
  exact ⟨t, ht, hhas, hvalid, h.pure⟩

theorem removable_ok {table name : String} {found : String × Attribute}
    (h : removable s table name = .ok found) :
    ∃ t a, s.get? table = some t ∧ t.find? name = some a ∧ a.primaryKey = false ∧ found = (t.name, a) := by
  obtain ⟨t, ht, h⟩ := bind_ok_iff.mp h
  cases hfind : t.find? name with
  | none =>
    rw [hfind] at h
    cases h
  | some a =>
    rw [hfind] at h
    cases hkey : a.primaryKey with
    | true => simp [hkey] at h
    | false =>
      simp only [hkey, Bool.false_eq_true, if_false] at h
      exact ⟨t, a, Schema.get_ok_iff.mp ht, hfind, hkey, (pure_ok_iff.mp h).symm⟩

theorem removeAttribute_ends {table name : String} (h : (removeAttribute table name).Ends s () s') :
    ∃ t a, s.get? table = some t ∧ t.find? name = some a ∧ a.primaryKey = false ∧
      s' = s.insert (t.without name) := by
  obtain ⟨found, hremovable, h⟩ := h.schema_bind.lift_bind
  obtain ⟨t, a, ht, hfind, hkey, -⟩ := removable_ok hremovable
  obtain ⟨statements, -, h⟩ := h.lift_bind
  have hchange := h.executeAll_bind.update
  rw [withoutAttribute, Schema.get_ok_iff.mpr ht] at hchange
  exact ⟨t, a, ht, hfind, hkey, (pure_ok_iff.mp hchange).symm⟩

end Datastore

/-! ## What one call keeps -/

namespace SchemaCall

variable {s s' : Schema} {c : SchemaCall}

theorem Succeeds.changes {d d' : Datastore} (h : c.Succeeds d d') : c.Changes d.schema d'.schema := by
  cases c with
  | define table =>
    obtain ⟨plan, h⟩ := Datastore.Performs.ends h
    exact Datastore.define_ends h
  | dropTable table =>
    obtain ⟨_, h⟩ := Datastore.Performs.ends h
    exact Datastore.dropTable_ends h
  | addAttribute table attr =>
    obtain ⟨plan, h⟩ := Datastore.Performs.ends h
    exact Datastore.addAttribute_ends h
  | removeAttribute table name =>
    obtain ⟨_, h⟩ := Datastore.Performs.ends h
    exact Datastore.removeAttribute_ends h

/-- The call checks the schema that it is going to leave. -/
def checks : SchemaCall → Bool
  | .define _ => true
  | .dropTable _ => false
  | .addAttribute _ _ => true
  | .removeAttribute _ _ => false

/-- The call takes away what the association of an attribute leads to. -/
def Severs (a : Attribute) : SchemaCall → Prop
  | .define _ => False
  | .dropTable table => a.LeadsTo table
  | .addAttribute _ _ => False
  | .removeAttribute table name => a.LeadsThrough table name

theorem Changes.valid (h : c.Changes s s') (hc : c.checks = true) : s'.validate = .ok () := by
  cases c with
  | define table =>
    obtain ⟨hvalid, rfl⟩ := h
    exact hvalid
  | addAttribute table attr =>
    obtain ⟨t, -, -, hvalid, rfl⟩ := h
    exact hvalid
  | dropTable table => cases hc
  | removeAttribute table name => cases hc

/-- A call that checks nothing declares nothing new, and spoils the attributes that it severs. -/
theorem Changes.sound_iff (h : c.Changes s s') (hc : c.checks = false) {a : Attribute} (ha : s'.Declares a) :
    s.Declares a ∧ (a.Sound s' ↔ a.Sound s ∧ ¬ c.Severs a) := by
  cases c with
  | define table => cases hc
  | addAttribute table attr => cases hc
  | dropTable table =>
    have hs' : s' = s.erase table := h
    subst hs'
    exact ⟨Schema.declares_of_erase ha, Attribute.sound_erase_iff⟩
  | removeAttribute table name =>
    obtain ⟨t, _, ht, -, -, rfl⟩ := h
    exact ⟨Schema.declares_of_without ht ha, Attribute.sound_without_iff ht⟩

/-- The calls since the last that checked the schema, the latest first. -/
def unchecked (calls : List SchemaCall) : List SchemaCall := calls.reverse.takeWhile (!·.checks)

theorem unchecked_append (calls : List SchemaCall) (c : SchemaCall) :
    unchecked (calls ++ [c]) = if c.checks then [] else c :: unchecked calls := by
  cases hc : c.checks <;> simp [unchecked, hc]

end SchemaCall

/-! ## What any calls keep -/

namespace Datastore

open SchemaCall

/-- The datastore that calls lead to, one after another, when each of them succeeds. -/
inductive Reached (start : Datastore) : List SchemaCall → Datastore → Prop where
  | none : Reached start [] start
  | call {calls : List SchemaCall} {d d' : Datastore} {c : SchemaCall} (before : Reached start calls d)
      (succeeds : c.Succeeds d d') : Reached start (calls ++ [c]) d'

variable {start d : Datastore} {calls : List SchemaCall} {a : Attribute}

theorem Reached.sound_iff (hstart : start.schema.validate = .ok ()) (h : Reached start calls d)
    (ha : d.schema.Declares a) : a.Sound d.schema ↔ ∀ c ∈ unchecked calls, ¬ c.Severs a := by
  induction h with
  | none =>
    refine ⟨fun _ c hc => ?_, fun _ => Schema.validate_iff.mp hstart a ha⟩
    cases hc
  | @call calls d d' c before succeeds ih =>
    have hchanges := succeeds.changes
    rw [unchecked_append]
    cases hc : c.checks with
    | true =>
      refine ⟨fun _ c' hc' => ?_, fun _ => Schema.validate_iff.mp (hchanges.valid hc) a ha⟩
      cases hc'
    | false =>
      obtain ⟨hdeclares, hsound⟩ := hchanges.sound_iff hc ha
      rw [hsound, ih hdeclares]
      simp [and_comm]

/-- No call leaves a virtual primary key, whether it checks the schema or not. -/
theorem Reached.key (hstart : start.schema.validate = .ok ()) (h : Reached start calls d)
    (ha : d.schema.Declares a) : (a.primaryKey && a.isVirtual) = false := by
  induction h with
  | none => exact (Schema.validate_iff.mp hstart a ha).key
  | @call calls d d' c before succeeds ih =>
    have hchanges := succeeds.changes
    cases hc : c.checks with
    | true => exact (Schema.validate_iff.mp (hchanges.valid hc) a ha).key
    | false => exact ih (hchanges.sound_iff hc ha).1

theorem make_ok {name : String} {schema : Schema} {filter : FilterWriter} {config : Config}
    (h : make name schema filter config = .ok d) : d.schema.validate = .ok () := by
  obtain ⟨_, hvalid, h⟩ := Result.bind_ok_iff.mp h
  cases h
  exact hvalid

/-- However a datastore came about, its schema is valid exactly when none of its attributes has an
association that a call since the last check severed. Virtual primary keys there are none. -/
theorem reached_valid_iff {name : String} {schema : Schema} {filter : FilterWriter} {config : Config}
    (hmake : make name schema filter config = .ok start) (h : Reached start calls d) :
    (d.schema.validate = .ok () ↔
      ∀ c ∈ unchecked calls, ∀ a, d.schema.Declares a → ¬ c.Severs a) ∧
    ∀ a, d.schema.Declares a → (a.primaryKey && a.isVirtual) = false := by
  have hstart := make_ok hmake
  refine ⟨?_, fun a ha => h.key hstart ha⟩
  rw [Schema.validate_iff]
  constructor
  · intro hsound c hc a ha
    exact (h.sound_iff hstart ha).mp (hsound a ha) c hc
  · intro hkept a ha
    exact (h.sound_iff hstart ha).mpr fun c hc => hkept c hc a ha

/-- The posts of a user, found through the attribute by which a post names its user. -/
def postsOfUser : Attribute := .collection "posts" "posts" (some "user_id")

/-- Users with their posts. -/
def blog : Schema := .ofTables
  [.make "users" [(Attribute.plain "id" .integer).asPrimaryKey, postsOfUser],
    .make "posts" [(Attribute.plain "id" .integer).asPrimaryKey, .plain "user_id" .integer]]

theorem reached_valid_iff_blog : ∃ start d, make "blog" blog .standard .standard = .ok start ∧
    Reached start [.dropTable "posts"] d ∧ d.schema.validate ≠ .ok () := by
  let start : Datastore := ⟨"blog", blog, .standard, .standard⟩
  let d : Datastore := { start with schema := blog.erase "posts" }
  have hmake : make "blog" blog .standard .standard = .ok start := rfl
  have hdrop : (SchemaCall.dropTable "posts").Succeeds start d := by
    refine ⟨Unit, fun _ _ => (.ok [], ()), (), (), (), ?_⟩
    rfl
  have hreached : Reached start [.dropTable "posts"] d := .call .none hdrop
  refine ⟨start, d, hmake, hreached, fun hvalid => ?_⟩
  have hkept := (reached_valid_iff hmake hreached).1.mp hvalid
  have hdeclared : d.schema.Declares postsOfUser := ⟨_, .head _, .tail _ (.head _)⟩
  exact hkept (.dropTable "posts") (.head _) postsOfUser hdeclared ⟨_, rfl, rfl⟩

end Datastore

end SqlAdapter
