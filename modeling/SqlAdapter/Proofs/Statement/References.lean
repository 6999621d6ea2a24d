/-
The columns that statements refer to, and which of them are real.

`Statement.columnRefs` lists the columns of a statement as it has them,
`Request.references` those that a request leads to, each with its table and its
place. The two agree, and of every column on a known table the compiler has made
sure of something (`Compiler.statement_settled`): a written one has a column, a
key is the primary key of its table, and any other is the name of an attribute.
That leaves two ways to stray: the attribute may be a collection, which has no
column, and a table without a primary key may lack the default one
(`Reference.backs_iff`).
-/
import SqlAdapter.Proofs.Condition.Columns
import SqlAdapter.Proofs.Schema.Validity
import SqlAdapter.Proofs.Statement.Numbering

namespace SqlAdapter

/-! ## Columns of a statement -/

def Lateral.columnRefs (l : Lateral) : List ColumnRef :=
  (l.junction.toList.flatMap fun j => [j.childColumn, j.junctionColumn]) ++ l.filters.flatMap Template.columns ++
    [l.inner, l.outer] ++ l.order.map (·.column)

def JoinedSelect.columnRefs (s : JoinedSelect) : List ColumnRef :=
  (s.associations.flatMap fun a => a.order.map (·.column)) ++ s.laterals.flatMap Lateral.columnRefs ++
    s.filter.toList.flatMap Template.columns ++ s.key :: s.order.map (·.column)

/-- The columns that a statement refers to, in the order of its text. -/
def Statement.columnRefs : Statement → List ColumnRef
  | .select _ filter order _ => filter.toList.flatMap Template.columns ++ order.map (·.column)
  | .joined s => s.columnRefs
  | .insert table values => values.map fun (column, _) => ⟨table, column⟩
  | .update table values filter =>
    (values.map fun (column, _) => ⟨table, column⟩) ++ filter.toList.flatMap Template.columns
  | .delete _ filter | .count _ filter => filter.toList.flatMap Template.columns

/-! ## References of a request -/

/-- What a column is referred to for. -/
inductive Place where
  | filter
  | order
  /-- An equation of keys. -/
  | tie
  /-- The primary key of a table that nothing else orders or groups by. -/
  | key
  | written
  deriving DecidableEq

/-- A reference to a column of a table, which stands behind the table's name or that of a subquery. -/
structure Reference where
  place : Place
  table : String
  column : ColumnRef

namespace Reference

def name (ref : Reference) : String := ref.column.column

def ofFilter (table : String) (predicate : Option Predicate) : List Reference :=
  predicate.toList.flatMap fun p => p.fields.map fun field => ⟨.filter, table, table, field⟩

def ofOrder (table qualifier : String) (sort : List SortKey) : List Reference :=
  sort.map fun key => ⟨.order, table, qualifier, key.field⟩

def ofKey (schema : Schema) (table qualifier : String) : Reference :=
  ⟨.key, table, qualifier, (Compiler.ofSchema schema).keyOf table⟩

def ofWritten (table : String) (values : Row) : List Reference :=
  values.map fun (column, _) => ⟨.written, table, table, column⟩

end Reference

open Reference

namespace Compiler.LinkedJoin

/-- The references of a subquery. -/
def references (j : LinkedJoin) : List Reference :=
  (j.junction.toList.flatMap fun junction =>
      [⟨.tie, j.child, junction.childColumn⟩, ⟨.tie, junction.table, junction.junctionColumn⟩]) ++
    (j.filters.flatMap fun (table, predicate) => ofFilter table predicate) ++
    [⟨.tie, j.inner.qualifier, j.inner⟩, ⟨.tie, j.outer.qualifier, j.outer⟩] ++
    ofOrder j.child j.child j.join.nested.sort

end Compiler.LinkedJoin

/-- The references of the column of an association. -/
def Join.references (schema : Schema) (j : Join Criteria) : List Reference :=
  if j.nested.sort.isEmpty then [ofKey schema (Identifier.truncate j.child) (Compiler.lateralName j)]
  else ofOrder (Identifier.truncate j.child) (Compiler.lateralName j) j.nested.sort

/-- The references of a select; only with joins are its rows grouped by the key. -/
def Criteria.references (schema : Schema) (table : String) (c : Criteria) : List Reference :=
  if c.joins.isEmpty then ofFilter table c.predicate ++ ofOrder table table c.sort
  else
    (c.joins.filter (·.select)).flatMap (Join.references schema) ++
      (Compiler.planned c.joins).flatMap Compiler.LinkedJoin.references ++ ofFilter table c.predicate ++
      ofKey schema table table :: ofOrder table table c.sort

/-- All references of a request, in the order of the statement. -/
def Request.references (schema : Schema) (table : String) : Request → List Reference
  | .select criteria => criteria.references schema (Identifier.truncate table)
  | .insert values => ofWritten (Identifier.truncate table) values
  | .update criteria values =>
    ofWritten (Identifier.truncate table) values ++ ofFilter (Identifier.truncate table) criteria.predicate
  | .delete criteria | .count criteria => ofFilter (Identifier.truncate table) criteria.predicate

/-! ## Real columns -/

/-- The table has a column of the name. -/
def Table.Backs (t : Table) (name : String) : Prop := ∃ a ∈ t.columns, a.name = name

/-- The table has attributes of the name, and all of them are collections. -/
def Table.OnlyCollections (t : Table) (name : String) : Prop :=
  t.has name = true ∧ ∀ a ∈ t.attributes, a.name = name → a.isVirtual = true

theorem Table.not_backs {t : Table} {name : String} (h : t.has name = true) :
    ¬ t.Backs name ↔ t.OnlyCollections name := by
  simp only [Backs, OnlyCollections, columns, List.mem_filter, Bool.not_eq_true']
  refine ⟨fun hnone => ⟨h, fun a ha hname => ?_⟩, fun ⟨_, hall⟩ ⟨a, ⟨ha, hreal⟩, hname⟩ => ?_⟩
  · by_contra hreal
    exact hnone ⟨a, ⟨ha, by simpa using hreal⟩, hname⟩
  · rw [hall a ha hname] at hreal
    cases hreal

namespace Reference

/-- What the compiler makes sure of, for a reference to a table. -/
def Checked (t : Table) (ref : Reference) : Prop :=
  match ref.place with
  | .written => t.Backs ref.name
  | .key => ref.name = t.primaryKey
  | _ => t.has ref.name = true

/-- The reference leads to no column: it is the name of a collection, outside of written values, or it is the
default key of a table that declares no key and has no attribute of that name. -/
def Strays (t : Table) (ref : Reference) : Prop :=
  ref.place ≠ .written ∧ t.OnlyCollections ref.name ∨
    ref.place = .key ∧ t.primaryKeyColumns = [] ∧ t.has defaultPrimaryKey = false

end Reference

namespace Reference

/-- What was checked has a column, unless it strays. -/
theorem backs_iff {t : Table} {ref : Reference} (h : ref.Checked t) : t.Backs ref.name ↔ ¬ ref.Strays t := by
  have hhas : t.Backs ref.name → t.has ref.name = true := fun ⟨a, ha, hname⟩ =>
    Table.has_iff.mpr ⟨a, (List.mem_filter.mp ha).1, hname⟩
  obtain ⟨place, table, column⟩ := ref
  cases place with
  | written =>
    have hbacks : t.Backs column.column := h
    refine ⟨fun _ hstrays => ?_, fun _ => hbacks⟩
    rcases hstrays with ⟨hplace, -⟩ | ⟨hplace, -⟩
    · exact hplace rfl
    · cases hplace
  | filter | order | tie =>
    have hthere : t.has column.column = true := h
    rw [← not_iff_not, not_not, Reference.name, Table.not_backs hthere]
    refine ⟨fun honly => .inl ⟨by simp, honly⟩, fun hstrays => ?_⟩
    rcases hstrays with ⟨-, honly⟩ | ⟨hplace, -⟩
    · exact honly
    · cases hplace
  | key =>
    have hkey : column.column = t.primaryKey := h
    by_cases hthere : t.has column.column = true
    · rw [← not_iff_not, not_not, Reference.name, Table.not_backs hthere]
      refine ⟨fun honly => .inl ⟨by simp, honly⟩, fun hstrays => ?_⟩
      rcases hstrays with ⟨-, honly⟩ | ⟨-, hnone, hdefault⟩
      · exact honly
      · rw [hkey, Table.primaryKey_default hnone, hdefault] at hthere
        cases hthere
    · have hnone : t.primaryKeyColumns = [] := by
        by_contra hkeys
        exact hthere (hkey ▸ Table.has_primaryKey hkeys)
      have hdefault : t.has defaultPrimaryKey = false := by
        rw [← Table.primaryKey_default hnone, ← hkey]
        exact Bool.not_eq_true _ ▸ hthere
      exact iff_of_false (fun hbacks => hthere (hhas hbacks)) fun hstays => hstays (.inr ⟨rfl, hnone, hdefault⟩)

end Reference

/-! ## What the compiler makes sure of -/

namespace Compiler

variable {schema : Schema}

/-- The column is that of the reference, which was checked if the schema knows its table. -/
def Settled (schema : Schema) (column : ColumnRef) (ref : Reference) : Prop :=
  column = ref.column ∧ ∀ t, schema.get? ref.table = some t → ref.Checked t

theorem filter_settled {table : String} {predicate : Option Predicate} {filter : Option Template}
    (h : (ofSchema schema).filter table predicate = .ok filter) :
    List.Forall₂ (Settled schema) (filter.toList.flatMap Template.columns) (ofFilter table predicate) := by
  rw [filter_columns h, ofFilter]
  cases predicate with
  | none => exact .nil
  | some p =>
    have hhas := fun t ht => filter_has h (t := t) ht p rfl
    simp only [Option.toList_some, List.flatMap_singleton]
    refine List.forall₂_map_left_iff.mpr (List.forall₂_map_right_iff.mpr ?_)
    refine List.forall₂_same.mpr fun field hfield => ?_
    exact ⟨rfl, fun t ht => hhas t ht field hfield⟩

theorem order_settled {table qualifier : String} {sort : List SortKey} {keys : List OrderKey}
    (h : (ofSchema schema).order table qualifier sort = .ok keys) :
    List.Forall₂ (Settled schema) (keys.map (·.column)) (ofOrder table qualifier sort) := by
  refine (List.rel_map (fun key out hkey => ?_) (Result.mapM_ok h)).flip
  rw [Result.bind_ok_iff] at hkey
  obtain ⟨_, -, hkey⟩ := hkey
  split at hkey
  · next t ht =>
    split at hkey
    · next hhas =>
      rw [← Result.pure_ok_iff.mp hkey]
      refine ⟨rfl, fun u hu => ?_⟩
      have htable : some t = some u := ht.symm.trans hu
      cases htable
      exact hhas
    · cases hkey
  · next hnone =>
    rw [← Result.pure_ok_iff.mp hkey]
    refine ⟨rfl, fun u hu => ?_⟩
    have htable : none = some u := hnone.symm.trans hu
    cases htable

theorem key_settled (table qualifier : String) :
    Settled schema ⟨qualifier, (ofSchema schema).keyOf table⟩ (ofKey schema table qualifier) := by
  refine ⟨rfl, fun t ht => ?_⟩
  have htable : (ofSchema schema).schema.get? table = some t := ht
  have hkey : (ofSchema schema).keyOf table = t.primaryKey := by
    rw [keyOf, htable]
    rfl
  exact hkey

theorem written_settled {table : String} {values written : Row}
    (h : (ofSchema schema).encodeAll table values = .ok written) :
    List.Forall₂ (Settled schema) (written.map fun (column, _) => ⟨table, column⟩) (ofWritten table values) := by
  refine (List.rel_map (fun cell out hcell => ?_) (Result.mapM_ok h)).flip
  obtain ⟨column, value⟩ := cell
  rw [Result.bind_ok_iff] at hcell
  obtain ⟨v, hv, hcell⟩ := hcell
  rw [← Result.pure_ok_iff.mp hcell]
  refine ⟨rfl, fun t ht => ?_⟩
  rw [encode, Result.bind_ok_iff] at hv
  obtain ⟨_, -, hv⟩ := hv
  have htable : (ofSchema schema).schema.get? table = some t := ht
  simp only [htable] at hv
  split at hv
  · cases hv
  · next a ha =>
    split at hv
    · cases hv
    · next hreal =>
      have hname : a.name = column := by simpa using List.find?_some ha
      exact ⟨a, List.mem_filter.mpr ⟨List.mem_of_find?_eq_some ha, by simpa using hreal⟩, hname⟩

/-! ## Joins -/

theorem checkKey_has {c : Compiler} {name table key : String} (h : c.checkKey name table key = .ok ()) {t : Table}
    (ht : c.schema.get? table = some t) : t.has key = true := by
  rw [checkKey] at h
  simp only [ht] at h
  split at h
  · next hhas => exact hhas
  · cases h

/-- The keys of an accepted join are settled, under the names of its tables as they are cut. -/
theorem checkJoin_settled {j : Join Criteria} (h : (ofSchema schema).checkJoin j = .ok ()) :
    Settled schema ⟨Identifier.truncate j.parent, j.parentKey⟩
        ⟨.tie, Identifier.truncate j.parent, Identifier.truncate j.parent, j.parentKey⟩ ∧
      Settled schema ⟨Identifier.truncate j.child, j.childKey⟩
        ⟨.tie, Identifier.truncate j.child, Identifier.truncate j.child, j.childKey⟩ := by
  simp only [checkJoin, Result.bind_ok_iff] at h
  obtain ⟨_, -, _, hparent, _, hchild, -⟩ := h
  refine ⟨⟨rfl, fun t ht => ?_⟩, ⟨rfl, fun t ht => ?_⟩⟩
  · rw [Schema.get?_congr (Identifier.truncate_truncate j.parent)] at ht
    exact checkKey_has hparent ht
  · rw [Schema.get?_congr (Identifier.truncate_truncate j.child)] at ht
    exact checkKey_has hchild ht

/-- A planned subquery is that of a join, with the join into its junction table. -/
theorem mem_planned {joins : List (Join Criteria)} {j : LinkedJoin} (h : j ∈ planned joins) :
    j.join ∈ joins ∧ j.link = link? joins j.join := by
  obtain ⟨⟨_, i⟩, hplace, rfl⟩ := List.mem_map.mp h
  have hlinked := List.fst_mem_of_mem_zipIdx (List.mem_filter.mp hplace).1
  obtain ⟨join, hjoin, rfl⟩ := List.mem_map.mp hlinked
  exact ⟨hjoin, rfl⟩

variable {joins : List (Join Criteria)}

/-- The columns of a subquery are settled once all joins are accepted. -/
theorem lateral_settled (hchecked : ∀ j ∈ joins, (ofSchema schema).checkJoin j = .ok ()) {j : LinkedJoin}
    (hj : j ∈ planned joins) {l : Lateral} (h : (ofSchema schema).lateral j = .ok l) :
    List.Forall₂ (Settled schema) l.columnRefs j.references := by
  have hl := lateral_ok h
  obtain ⟨hjoin, hlink⟩ := mem_planned hj
  obtain ⟨hparent, hchild⟩ := checkJoin_settled (hchecked j.join hjoin)
  obtain ⟨fs, hfs, hfilters⟩ := hl.filters
  have hwhere : List.Forall₂ (Settled schema) (l.filters.flatMap Template.columns)
      (j.filters.flatMap fun (table, predicate) => ofFilter table predicate) := by
    rw [hfilters, List.flatMap_assoc]
    exact List.rel_flatMap hfs fun f filter hf => filter_settled hf
  have hsort := order_settled hl.order
  rw [Lateral.columnRefs, LinkedJoin.references, hl.junction, hl.inner, hl.outer]
  obtain ⟨join, link⟩ := j
  cases link with
  | none =>
    have hkeys : List.Forall₂ (Settled schema) [⟨Identifier.truncate join.child, join.childKey⟩,
        ⟨Identifier.truncate join.parent, join.parentKey⟩] [_, _] := .cons hchild (.cons hparent .nil)
    exact List.rel_append (List.rel_append (List.rel_append .nil hwhere) hkeys) hsort
  | some found =>
    obtain ⟨link, index⟩ := found
    obtain ⟨hplace, -, -, -, hnames⟩ := link?_some hlink.symm
    obtain ⟨houter, hinner⟩ := checkJoin_settled (hchecked link (List.mem_of_getElem? hplace))
    rw [hnames] at hinner
    have hjunction : List.Forall₂ (Settled schema) [⟨Identifier.truncate join.child, join.childKey⟩,
        ⟨Identifier.truncate join.parent, join.parentKey⟩] [_, _] := .cons hchild (.cons hparent .nil)
    have hkeys : List.Forall₂ (Settled schema) [⟨Identifier.truncate join.parent, link.childKey⟩,
        ⟨Identifier.truncate link.parent, link.parentKey⟩] [_, _] := .cons hinner (.cons houter .nil)
    exact List.rel_append (List.rel_append (List.rel_append hjunction hwhere) hkeys) hsort

theorem association_settled {j : Join Criteria} {n : Nat} {a : AssociationColumn}
    (h : (ofSchema schema).association j n = .ok a) :
    List.Forall₂ (Settled schema) (a.order.map (·.column)) (j.references schema) := by
  obtain ⟨keys, hkeys, horder⟩ := (association_ok h).order
  rw [horder]
  have hsettled := order_settled hkeys
  have hempty : keys.isEmpty = j.nested.sort.isEmpty := by
    have hlength := (Result.mapM_ok hkeys).length_eq
    rw [Bool.eq_iff_iff, List.isEmpty_iff_length_eq_zero, List.isEmpty_iff_length_eq_zero, hlength]
  simp only [Join.references, ← hempty]
  split
  · exact .cons (key_settled _ _) .nil
  · exact hsettled

theorem joinedSelect_settled {table : String} {criteria : Criteria} {s : JoinedSelect}
    (hjoins : criteria.joins ≠ []) (hs : (ofSchema schema).Joined table criteria s) :
    List.Forall₂ (Settled schema) s.columnRefs (criteria.references schema (Identifier.truncate table)) := by
  have hassociations : List.Forall₂ (Settled schema) (s.associations.flatMap fun a => a.order.map (·.column))
      ((criteria.joins.filter (·.select)).flatMap (Join.references schema)) :=
    List.rel_flatMap hs.associations fun a j ha => association_settled ha
  have hplanned : List.Forall₂ (fun l j => j ∈ planned criteria.joins ∧ (ofSchema schema).lateral j = .ok l)
      s.laterals (planned criteria.joins) := by
    refine .flip ((List.forall₂_and_left _ _).mpr ⟨fun j hj => hj, .flip hs.laterals⟩)
  have hlaterals : List.Forall₂ (Settled schema) (s.laterals.flatMap Lateral.columnRefs)
      ((planned criteria.joins).flatMap LinkedJoin.references) :=
    List.rel_flatMap hplanned fun l j hl => lateral_settled hs.checked hl.1 hl.2
  have hkey : List.Forall₂ (Settled schema) (s.key :: s.order.map (·.column)) _ :=
    .cons (hs.key ▸ key_settled (Identifier.truncate table) (Identifier.truncate table)) (order_settled hs.order)
  rw [JoinedSelect.columnRefs, Criteria.references, if_neg (by simpa using hjoins)]
  exact List.rel_append (List.rel_append (List.rel_append hassociations hlaterals) (filter_settled hs.filter)) hkey

/-- The columns of a statement are those that its request leads to, each of them settled. -/
theorem statement_settled {table : String} {r : Request} {s : Statement}
    (h : (ofSchema schema).statement table r = .ok s) :
    List.Forall₂ (Settled schema) s.columnRefs (r.references schema table) := by
  cases statement_ok h with
  | select hjoins hfilter horder _ =>
    rw [Statement.columnRefs, Request.references, Criteria.references, if_pos (List.isEmpty_iff.mpr hjoins)]
    exact List.rel_append (filter_settled hfilter) (order_settled horder)
  | joined hjoins hjoined => exact joinedSelect_settled hjoins hjoined
  | insert hwritten => exact written_settled hwritten
  | update hwritten hfilter => exact List.rel_append (written_settled hwritten) (filter_settled hfilter)
  | delete hfilter => exact filter_settled hfilter
  | count hfilter => exact filter_settled hfilter

/-- The columns of a compiled query are those that its request leads to; and a column on a table that
the schema knows is a real one unless its reference strays. -/
theorem compile_backs_iff {table : String} {r : Request} {q : Query}
    (h : (ofSchema schema).compile table r = .ok q) :
    ∃ s, (ofSchema schema).statement table r = .ok s ∧ q = ⟨s.template.sqlFrom 1, s.template.params⟩ ∧
      s.columnRefs = (r.references schema table).map (·.column) ∧
      ∀ ref ∈ r.references schema table, ∀ t, schema.get? ref.table = some t →
        (t.Backs ref.name ↔ ¬ ref.Strays t) := by
  obtain ⟨s, hs, hq, -⟩ := compile_ok schema h
  have hsettled := statement_settled hs
  refine ⟨s, hs, hq, ?_, fun ref href t ht => ?_⟩
  · have hcolumns := hsettled.imp fun column ref hcolumn => hcolumn.1
    exact List.forall₂_eq_eq_eq ▸ List.forall₂_map_right_iff.mpr hcolumns
  · have hchecked : ∀ t, schema.get? ref.table = some t → ref.Checked t :=
      Result.forall_of_forall₂ hsettled (fun column ref hcolumn => hcolumn.2) ref href
    exact Reference.backs_iff (hchecked t ht)

/-- Users, whose posts are rows of another table. -/
def users : Table :=
  .make "users" [(Attribute.plain "id" .integer).asPrimaryKey, .collection "posts" "posts" (some "user_id")]

/-- Users without posts, asked for by the name of their collection. -/
def silent : Criteria := Criteria.empty.filter (.isNull "posts")

theorem compile_backs_iff_silent : ∃ q, (ofSchema (.ofTables [users])).compile "users" (.select silent) = .ok q ∧
    ∃ ref ∈ (Request.select silent).references (.ofTables [users]) "users",
      ref.name = "posts" ∧ ¬ users.Backs ref.name := by
  have hstatement :
      ((ofSchema (.ofTables [users])).statement "users" (.select silent)).toOption.isSome = true := by
    decide +kernel
  have hlen :
      (((Request.select silent).clauses (.ofTables [users]) "users").flatMap Template.params).length < 2 ^ 64 := by
    decide +kernel
  have htable : (Schema.ofTables [users]).get? (Identifier.truncate "users") = some users := by
    rfl
  have hstrays : Reference.Strays users
      ⟨.filter, Identifier.truncate "users", Identifier.truncate "users", "posts"⟩ :=
    .inl ⟨by decide, by decide, by decide⟩
  cases hs : (ofSchema (.ofTables [users])).statement "users" (.select silent) with
  | error e =>
    rw [hs] at hstatement
    cases hstatement
  | ok s =>
    have hcompile := compile_of_statement _ hs hlen
    obtain ⟨_, -, -, -, hbacks⟩ := compile_backs_iff hcompile
    refine ⟨_, hcompile, _, List.mem_singleton_self _, rfl, fun hreal => ?_⟩
    exact (hbacks _ (List.mem_singleton_self _) users htable).mp hreal hstrays

end Compiler

end SqlAdapter
