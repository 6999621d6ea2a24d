/-
Plans are carried out.

Whatever texts a table or an attribute brings along, its plan has them in quotes (`Plan.Quiet`),
except for defaults that are expressions and what foreign keys do on deletion. Without the former,
and with actions of SQL for the latter, no statement has a placeholder, so each is one without
parameters. `Action.Executed` says what comes of such statements: they are sent in order, and
nothing but the answer to one keeps the next from being sent.
-/
import SqlAdapter.Proofs.Datastore.Calls
import SqlAdapter.Proofs.Datastore.Trace
import SqlAdapter.Proofs.Schema.Later

namespace SqlAdapter

/-! ## Statements one after another -/

namespace Action

/-- Statements without parameters that are sent in order, up to one that is answered with an error or to the last. -/
inductive Executed : List String → List Exchange → Result Unit → Prop where
  | done : Executed [] [] (.ok ())
  | next {sql : String} {more : List String} {sent : List Exchange} {r : Result Unit} (rows : List Row)
      (h : Executed more sent r) : Executed (sql :: more) ((⟨sql, []⟩, .ok rows) :: sent) r
  | failed {sql : String} {more : List String} (e : Failure) :
      Executed (sql :: more) [(⟨sql, []⟩, .error e)] (.error e)

variable {statements : List String} {sent : List Exchange} {r : Result Unit} {s s' : Schema}

/-- Statements without placeholders are all accepted. -/
theorem Trace.executed (hbare : ∀ sql ∈ statements, Query.Bare sql)
    (h : Trace s (Action.executeAll statements) sent r s') : Executed statements sent r := by
  induction statements generalizing sent with
  | nil =>
    cases h
    exact .done
  | cons sql more ih =>
    obtain ⟨hsql, hmore⟩ := List.forall_mem_cons.mp hbare
    rcases h.lift_bind with ⟨_, hmake, -⟩ | ⟨query, hmake, h⟩
    · rw [Query.make_bare hsql] at hmake
      cases hmake
    · rw [Query.make_bare hsql] at hmake
      cases hmake
      rcases h.execute_bind with ⟨e, rfl, rfl, -⟩ | ⟨rows, rest, rfl, hlater⟩
      · exact .failed e
      · exact .next rows (ih hmore hlater)

namespace Executed

/-- Statements fail where one of them does. -/
theorem error_mem {e : Failure} (h : Executed statements sent (.error e)) : ∃ query, (query, .error e) ∈ sent := by
  generalize hr : (.error e : Result Unit) = r at h
  induction h with
  | done => cases hr
  | next rows _ ih =>
    obtain ⟨query, hmem⟩ := ih hr
    exact ⟨query, List.mem_cons_of_mem _ hmem⟩
  | failed e =>
    cases hr
    exact ⟨_, List.mem_singleton_self _⟩

/-- Statements that end well were all sent. -/
theorem all_sent (h : Executed statements sent (.ok ())) : sent.map (·.1) = statements.map (⟨·, []⟩) := by
  generalize hr : (.ok () : Result Unit) = r at h
  induction h with
  | done => rfl
  | next rows _ ih => rw [List.map_cons, List.map_cons, ih hr]
  | failed e => cases hr

end Executed

end Action

/-! ## Plans -/

namespace Plan

/-- The plan for a new table or a new attribute, with the attributes that it is made for. -/
inductive Declared (mode : MappingMode) : List Attribute → Plan → Prop where
  | created {t : Table} {p : Plan} (h : create mode t = .ok p) : Declared mode t.attributes p
  | added {table : String} {a : Attribute} {p : Plan} (h : addAttribute mode table a = .ok p) : Declared mode [a] p

variable {mode : MappingMode} {attributes : List Attribute} {p : Plan}

theorem Declared.quiet (h : Declared mode attributes p) (hquiet : ∀ a ∈ attributes, a.Quiet) : p.Quiet := by
  cases h with
  | created h => exact create_quiet h hquiet
  | added h => exact addAttribute_quiet h (hquiet _ (List.mem_singleton_self _))

/-- The plan for a table or an attribute is carried out whatever its texts are, as long as no default is an expression
and each foreign key names an action of SQL. No statement has a dollar sign outside of quotes, so each of them makes a
query without parameters. They are sent in order, and all of them unless the executor fails on one. -/
theorem declared_executed (h : Declared mode attributes p)
    (hdefaults : ∀ a ∈ attributes, ∀ sql, a.default ≠ some (.expression sql))
    (hkeys : ∀ a ∈ attributes, ∀ key, a.foreignKey = some key → key.Acts) :
    (∀ sql ∈ p.statements, (∀ spans, Spans sql.toList spans → .char '$' ∉ spans) ∧
      Query.make sql [] = .ok ⟨sql, []⟩) ∧
    ∀ {σ : Type} (executor : Executor σ) (s : Schema) (state : σ), ∃ r state' sent,
      (Action.executeAll p.statements).run executor.recorded s (state, []) = (r, s, state', sent) ∧
      Action.Executed p.statements sent r ∧
      (r = .ok () ∧ sent.map (·.1) = p.statements.map (⟨·, []⟩) ∨
        ∃ query between e, (executor query between).1 = .error e ∧ r = .error e) := by
  have hquiet : p.Quiet := by
    refine h.quiet fun a ha => ⟨fun value hvalue => ?_, fun key hkey => (hkeys a ha key hkey).quiet⟩
    cases value with
    | expression sql => exact absurd hvalue (hdefaults a ha sql)
    | _ => exact trivial
  have hbare : ∀ sql ∈ p.statements, Query.Bare sql := fun sql hsql => Query.bare_of_quiet (hquiet.statements sql hsql)
  refine ⟨fun sql hsql => ⟨fun spans hspans => ?_, Query.make_bare (hbare sql hsql)⟩, fun executor s state => ?_⟩
  · exact ((Spans.passes_iff hspans).mp (hquiet.statements sql hsql)).2.1
  · rcases hrun : (Action.executeAll p.statements).run executor s state with ⟨r, s', state'⟩
    obtain ⟨sent, htrace, hanswers, hrecorded⟩ := Action.run_trace hrun []
    obtain rfl := htrace.executeAll
    have hexecuted := htrace.executed hbare
    refine ⟨r, state', sent, by rw [hrecorded, List.nil_append], hexecuted, ?_⟩
    cases r with
    | ok _ => exact .inl ⟨rfl, hexecuted.all_sent⟩
    | error e =>
      obtain ⟨query, hmem⟩ := hexecuted.error_mem
      obtain ⟨between, hanswer⟩ := hanswers query _ hmem
      exact .inr ⟨query, between, e, hanswer, rfl⟩

/-- A table with quotes, marks and numbers in all texts that it can have them in. -/
def signs : Table := .make "signs"
  [{ Attribute.plain "kind" (.enum ["it's $1", "\"?"]) with default := some (.text "'$2''"), index := true },
    { Attribute.plain "extra" .jsonb with default := some (.json (.object [("$3'", .string "\"?'")])) },
    { Attribute.plain "owner" (.raw "int") with foreignKey := some ⟨"a\"$4.b'", "?\"", "set \n null "⟩ }]

/-- An executor that accepts every statement and counts them. -/
def counting : Executor Nat := fun _ n => (.ok [], n + 1)

/-- The table of signs is made with its index. -/
theorem declared_executed_signs : ∃ p left sent, create .strict signs = .ok p ∧
    (∀ sql ∈ p.statements, Query.make sql [] = .ok ⟨sql, []⟩) ∧
    (Action.executeAll p.statements).run counting.recorded .empty (0, []) = (.ok (), .empty, left, sent) ∧
    sent.map (·.1) = p.statements.map (⟨·, []⟩) ∧ p.statements.length = 2 := by
  have hmade : (create .strict signs).map (·.statements.length) = .ok 2 := by decide +kernel
  obtain ⟨p, hp, hlength⟩ := Result.map_ok_iff.mp hmade
  have hdefaults : ∀ a ∈ signs.attributes, ∀ sql, a.default ≠ some (.expression sql) := by
    simp [signs, Table.make, Attribute.plain]
  have hkeys : ∀ a ∈ signs.attributes, ∀ key, a.foreignKey = some key → key.Acts := by
    have hacts : ∀ a ∈ signs.attributes, ∀ key ∈ a.foreignKey.toList, key.Acts := by decide +kernel
    exact fun a ha key hkey => hacts a ha key (Option.mem_toList.mpr hkey)
  obtain ⟨hsafe, hrun⟩ := declared_executed (.created hp) hdefaults hkeys
  obtain ⟨r, left, sent, hran, -, ⟨rfl, hsent⟩ | ⟨query, between, e, hanswer, -⟩⟩ := hrun counting .empty 0
  · exact ⟨p, left, sent, hp, fun sql hsql => (hsafe sql hsql).2, hran, hsent, hlength⟩
  · cases hanswer

end Plan

end SqlAdapter
