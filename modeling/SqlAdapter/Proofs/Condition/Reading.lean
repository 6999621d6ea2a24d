/-
Filters mean what their predicates say.

The tokens of a condition are read back as `Condition.expr`, whatever is open
around them: `ReadsAs` is for tokens that complete an operand behind pending
NOTs, ANDs and ORs, `ReadsWhole` for tokens that have parentheses or nothing
around them. Parentheses are left out where a condition is whole, under NOT,
and around a single part; the two relations are what the induction carries
through these places.

Put together, the filter that is written for a predicate is read as an expression
with the truth value of the predicate: `fragment_read` and `truth_condition`.
-/
import SqlAdapter.Proofs.Condition.Clause
import SqlAdapter.Proofs.Condition.Lexing

namespace SqlAdapter

/-! ## What predicates and conditions mean -/

namespace Truth

/-- The truth of a conjunction. -/
def all : List Truth → Truth
  | [] => .true
  | t :: ts => t.and (all ts)

/-- The truth of a disjunction. -/
def any : List Truth → Truth
  | [] => .false
  | t :: ts => t.or (any ts)

theorem and_assoc (a b c : Truth) : (a.and b).and c = a.and (b.and c) := by
  cases a <;> cases b <;> cases c <;> rfl

theorem or_assoc (a b c : Truth) : (a.or b).or c = a.or (b.or c) := by
  cases a <;> cases b <;> cases c <;> rfl

theorem and_true (a : Truth) : a.and .true = a := by
  cases a <;> rfl

theorem or_false (a : Truth) : a.or .false = a := by
  cases a <;> rfl

end Truth

/-- The truth of a comparison of a field: with NULL it is a test for absence, and nothing is in an
empty list. -/
def Operator.truth (assignment : Atom → Truth) (column : ColumnRef) : Operator → Value → Truth
  | .isNull, _ | .compare .eq, .null => assignment (.isNull column)
  | .isNotNull, _ | .compare .ne, .null => assignment (.isNotNull column)
  | .among, .array [] => .false
  | .among, .array items => assignment (.among column items)
  | .among, value => assignment (.among column [value])
  | .notAmong, .array [] => .true
  | .notAmong, .array items => assignment (.notAmong column items)
  | .notAmong, value => assignment (.notAmong column [value])
  | .compare comparison, value => assignment (.compare column comparison (.value value))

namespace Predicate

mutual

/-- The truth of a predicate on a table, given that of its atomic comparisons. -/
def truth (assignment : Atom → Truth) (table : String) : Predicate → Truth
  | .compare field op value => op.truth assignment ⟨table, field⟩ value
  | .all parts => .all (truths assignment table parts)
  | .any parts => .any (truths assignment table parts)
  | .not inner => (truth assignment table inner).not

def truths (assignment : Atom → Truth) (table : String) : List Predicate → List Truth
  | [] => []
  | part :: parts => truth assignment table part :: truths assignment table parts

end

end Predicate

namespace Condition

/-- Expressions combined from left to right. -/
def combined (combine : Expr → Expr → Expr) (empty : Bool) : List Expr → Expr
  | [] => .constant empty
  | e :: es => es.foldl combine e

mutual

/-- A condition as it is read. -/
def expr : Condition → Expr
  | .constant holds => .constant holds
  | .isNull column => .atom (.isNull column)
  | .isNotNull column => .atom (.isNotNull column)
  | .compare column comparison value => .atom (.compare column comparison (.value value))
  | .among column items => .atom (.among column items)
  | .notAmong column items => .atom (.notAmong column items)
  | .all parts => combined .and true (exprs parts)
  | .any parts => combined .or false (exprs parts)
  | .not inner => .not (expr inner)

def exprs : List Condition → List Expr
  | [] => []
  | part :: parts => expr part :: exprs parts

end

variable (assignment : Atom → Truth)

theorem truth_and (es : List Expr) (e : Expr) : (es.foldl .and e).truth assignment =
    (e.truth assignment).and (.all (es.map (·.truth assignment))) := by
  induction es generalizing e with
  | nil => exact (Truth.and_true _).symm
  | cons f es ih =>
    rw [List.foldl_cons, ih, Expr.truth, Truth.and_assoc]
    rfl

theorem truth_or (es : List Expr) (e : Expr) : (es.foldl .or e).truth assignment =
    (e.truth assignment).or (.any (es.map (·.truth assignment))) := by
  induction es generalizing e with
  | nil => exact (Truth.or_false _).symm
  | cons f es ih =>
    rw [List.foldl_cons, ih, Expr.truth, Truth.or_assoc]
    rfl

theorem truth_all (es : List Expr) :
    (combined .and true es).truth assignment = .all (es.map (·.truth assignment)) := by
  cases es with
  | nil => rfl
  | cons e es => exact truth_and assignment es e

theorem truth_any (es : List Expr) :
    (combined .or false es).truth assignment = .any (es.map (·.truth assignment)) := by
  cases es with
  | nil => rfl
  | cons e es => exact truth_or assignment es e

theorem truth_ofOperator (column : ColumnRef) (op : Operator) (value : Value) :
    (ofOperator column op value).expr.truth assignment = op.truth assignment column value := by
  cases op with
  | isNull => rfl
  | isNotNull => rfl
  | compare comparison => cases comparison <;> cases value <;> rfl
  | among =>
    cases value with
    | array items => cases items <;> rfl
    | _ => rfl
  | notAmong =>
    cases value with
    | array items => cases items <;> rfl
    | _ => rfl

mutual

/-- The condition of a predicate has the truth of the predicate. -/
theorem truth_condition (table : String) : ∀ p : Predicate,
    (p.condition table).expr.truth assignment = p.truth assignment table
  | .compare field op value => truth_ofOperator assignment ⟨table, field⟩ op value
  | .all parts => by
    rw [Predicate.condition, expr, truth_all, truth_conditions table parts, Predicate.truth]
  | .any parts => by
    rw [Predicate.condition, expr, truth_any, truth_conditions table parts, Predicate.truth]
  | .not inner => by
    rw [Predicate.condition, expr, Expr.truth, truth_condition table inner, Predicate.truth]

theorem truth_conditions (table : String) : ∀ ps : List Predicate,
    (exprs (Predicate.conditions table ps)).map (·.truth assignment) = Predicate.truths assignment table ps
  | [] => rfl
  | p :: ps => by
    rw [Predicate.conditions, exprs, List.map_cons, truth_condition table p, truth_conditions table ps,
      Predicate.truths]

end

end Condition

/-! ## Runs of the reader -/

/-- Reading the tokens leads from one reader to the other. -/
def Reads (ts : List Token) (r s : Reading) : Prop := ts.foldlM Reading.step r = some s

theorem Reads.append {ts us : List Token} {r s t : Reading} (h : Reads ts r s) (h' : Reads us s t) :
    Reads (ts ++ us) r t := by
  have hts : ts.foldlM Reading.step r = some s := h
  rw [Reads, List.foldlM_append, hts]
  exact h'

/-- The tokens are read as an operand, whatever is pending. -/
def ReadsAs (ts : List Token) (e : Expr) : Prop :=
  ∀ pending outer, Reads ts ⟨.operand, pending, outer⟩
    ⟨.connective (Pending.negated pending.nots e), { pending with nots := 0 }, outer⟩

/-- The tokens are read as an expression where nothing is pending inside the innermost parentheses. -/
def ReadsWhole (ts : List Token) (e : Expr) : Prop :=
  ∀ outer, ∃ last pending, Reads ts ⟨.operand, .empty, outer⟩ ⟨.connective last, pending, outer⟩ ∧
    pending.value last = e

theorem ReadsAs.whole {ts : List Token} {e : Expr} (h : ReadsAs ts e) : ReadsWhole ts e :=
  fun outer => ⟨e, .empty, h .empty outer, rfl⟩

/-- Parentheses make an operand. -/
theorem ReadsWhole.enclosed {ts : List Token} {e : Expr} (h : ReadsWhole ts e) :
    ReadsAs (.opening :: ts ++ [.closing]) e := by
  intro pending outer
  obtain ⟨last, inner, hreads, rfl⟩ := h (pending :: outer)
  have hopen : Reads [.opening] ⟨.operand, pending, outer⟩ ⟨.operand, .empty, pending :: outer⟩ := rfl
  exact (hopen.append hreads).append rfl

theorem ReadsWhole.negated {ts : List Token} {e : Expr} (h : ReadsWhole ts e) :
    ReadsAs (.keyword .not :: .opening :: ts ++ [.closing]) (.not e) := by
  intro pending outer
  have hnot : Reads [.keyword .not] ⟨.operand, pending, outer⟩
      ⟨.operand, { pending with nots := pending.nots + 1 }, outer⟩ := rfl
  exact hnot.append (h.enclosed _ outer)

/-! ## Parts of a conjunction or disjunction -/

namespace Condition

/-- Each operand of a chain of ANDs is joined to those before it. -/
theorem reads_conjunction {tss : List (List Token)} {es : List Expr} (h : List.Forall₂ ReadsAs tss es) :
    ∀ {ts : List Token} {e : Expr}, ReadsAs ts e → ∀ (pending : Pending) (outer : List Pending),
      pending.nots = 0 → ∃ last after,
        Reads (separated (.keyword .and) (ts :: tss)) ⟨.operand, pending, outer⟩ ⟨.connective last, after, outer⟩ ∧
          after.either = pending.either ∧ after.conjoined last = es.foldl .and (pending.conjoined e) := by
  induction h with
  | nil =>
    intro ts e hts pending outer hnots
    have hreads := hts pending outer
    rw [hnots] at hreads
    exact ⟨e, { pending with nots := 0 }, hreads, rfl, rfl⟩
  | @cons us f tss es hus _ ih =>
    intro ts e hts pending outer hnots
    have hreads := hts pending outer
    rw [hnots] at hreads
    have hand : Reads [.keyword .and] ⟨.connective e, { pending with nots := 0 }, outer⟩
        ⟨.operand, ⟨pending.either, some (pending.conjoined e), 0⟩, outer⟩ := rfl
    obtain ⟨last, after, hrest, heither, hvalue⟩ := ih hus ⟨_, some (pending.conjoined e), 0⟩ outer rfl
    exact ⟨last, after, hreads.append (hand.append hrest), heither, hvalue⟩

/-- Each operand of a chain of ORs is joined to those before it. -/
theorem reads_disjunction {tss : List (List Token)} {es : List Expr} (h : List.Forall₂ ReadsAs tss es) :
    ∀ {ts : List Token} {e : Expr}, ReadsAs ts e → ∀ (either : Option Expr) (outer : List Pending),
      ∃ last after,
        Reads (separated (.keyword .or) (ts :: tss)) ⟨.operand, ⟨either, none, 0⟩, outer⟩
          ⟨.connective last, after, outer⟩ ∧
          after.value last = es.foldl .or (Pending.value ⟨either, none, 0⟩ e) := by
  induction h with
  | nil =>
    intro ts e hts either outer
    exact ⟨e, ⟨either, none, 0⟩, hts ⟨either, none, 0⟩ outer, rfl⟩
  | @cons us f tss es hus _ ih =>
    intro ts e hts either outer
    have hreads := hts ⟨either, none, 0⟩ outer
    have hor : Reads [.keyword .or] ⟨.connective e, ⟨either, none, 0⟩, outer⟩
        ⟨.operand, ⟨some (Pending.value ⟨either, none, 0⟩ e), none, 0⟩, outer⟩ := rfl
    obtain ⟨last, after, hrest, hvalue⟩ := ih hus (some (Pending.value ⟨either, none, 0⟩ e)) outer
    exact ⟨last, after, hreads.append (hor.append hrest), hvalue⟩

theorem reads_and {ts : List Token} {e : Expr} {tss : List (List Token)} {es : List Expr}
    (h : List.Forall₂ ReadsAs (ts :: tss) (e :: es)) :
    ReadsWhole (separated (.keyword .and) (ts :: tss)) (combined .and true (e :: es)) := by
  intro outer
  obtain _ | ⟨hts, htss⟩ := h
  obtain ⟨last, after, hreads, heither, hvalue⟩ := reads_conjunction htss hts .empty outer rfl
  refine ⟨last, after, hreads, ?_⟩
  have hnone : after.either = none := heither
  rw [Pending.value, hnone]
  exact hvalue

theorem reads_or {ts : List Token} {e : Expr} {tss : List (List Token)} {es : List Expr}
    (h : List.Forall₂ ReadsAs (ts :: tss) (e :: es)) :
    ReadsWhole (separated (.keyword .or) (ts :: tss)) (combined .or false (e :: es)) := by
  intro outer
  obtain _ | ⟨hts, htss⟩ := h
  exact reads_disjunction htss hts none outer

/-- Joined parts, read inside a condition and as the whole of it. -/
theorem reads_joined {word empty : Token} {combine : Expr → Expr → Expr} {holds : Bool}
    (hempty : ReadsAs [empty] (.constant holds))
    (hchain : ∀ {ts e tss es}, List.Forall₂ ReadsAs (ts :: tss) (e :: es) →
      ReadsWhole (separated word (ts :: tss)) (combined combine holds (e :: es)))
    {tss : List (List Token)} {es : List Expr} (h : List.Forall₂ ReadsAs tss es) :
    ReadsAs (joinedTokens word empty false tss) (combined combine holds es) ∧
      ReadsWhole (joinedTokens word empty true tss) (combined combine holds es) := by
  match h with
  | .nil => exact ⟨hempty, hempty.whole⟩
  | .cons hts .nil => exact ⟨hts, hts.whole⟩
  | .cons hts (.cons hus htss) =>
    have hwhole := hchain (.cons hts (.cons hus htss))
    exact ⟨hwhole.enclosed, hwhole⟩

/-! ## Conditions -/

theorem reads_true : ReadsAs [.keyword .true] (.constant true) := fun _ _ => rfl

theorem reads_false : ReadsAs [.keyword .false] (.constant false) := fun _ _ => rfl

theorem reads_column (column : ColumnRef) (pending : Pending) (outer : List Pending) :
    Reads column.tokens ⟨.operand, pending, outer⟩ ⟨.test column, pending, outer⟩ := rfl

theorem reads_comparison (column : ColumnRef) (comparison : Comparison) (pending : Pending)
    (outer : List Pending) :
    Reads comparison.tokens ⟨.test column, pending, outer⟩ ⟨.right column comparison, pending, outer⟩ := by
  cases comparison <;> rfl

/-- The items of a list that is not empty, with the parenthesis behind them. -/
theorem reads_items (column : ColumnRef) (negated : Bool) (pending : Pending) (outer : List Pending)
    (v : Value) (items before : List Value) :
    Reads (separated .comma ((v :: items).map fun v => [.value v]) ++ [.closing])
      ⟨.item column negated before, pending, outer⟩
      (Reading.tested ⟨.operand, pending, outer⟩
        (if negated then .notAmong column (before ++ v :: items) else .among column (before ++ v :: items))) := by
  induction items generalizing v before with
  | nil => rfl
  | cons w items ih =>
    have hv : Reads [.value v, .comma] ⟨.item column negated before, pending, outer⟩
        ⟨.item column negated (before ++ [v]), pending, outer⟩ := rfl
    have hrest := ih w (before ++ [v])
    rw [List.append_assoc] at hrest
    exact hv.append hrest

theorem reads_list (column : ColumnRef) (negated : Bool) (v : Value) (items : List Value)
    (pending : Pending) (outer : List Pending) :
    Reads (itemTokens (v :: items)) ⟨.list column negated, pending, outer⟩
      (Reading.tested ⟨.operand, pending, outer⟩
        (if negated then .notAmong column (v :: items) else .among column (v :: items))) := by
  have hopen : Reads [.opening] ⟨.list column negated, pending, outer⟩
      ⟨.item column negated [], pending, outer⟩ := rfl
  exact hopen.append (reads_items column negated pending outer v items [])

theorem reads_among (column : ColumnRef) (v : Value) (items : List Value) (outermost : Bool) :
    ReadsAs ((among column (v :: items)).tokens outermost) (.atom (.among column (v :: items))) := by
  intro pending outer
  have hin : Reads [.keyword .among] ⟨.test column, pending, outer⟩ ⟨.list column false, pending, outer⟩ := rfl
  exact (reads_column column pending outer).append
    (hin.append (reads_list column false v items pending outer))

theorem reads_notAmong (column : ColumnRef) (v : Value) (items : List Value) (outermost : Bool) :
    ReadsAs ((notAmong column (v :: items)).tokens outermost) (.atom (.notAmong column (v :: items))) := by
  intro pending outer
  have hin : Reads [.keyword .not, .keyword .among] ⟨.test column, pending, outer⟩
      ⟨.list column true, pending, outer⟩ := rfl
  exact (reads_column column pending outer).append (hin.append (reads_list column true v items pending outer))

theorem reads_compare (column : ColumnRef) (comparison : Comparison) (v : Value) (outermost : Bool) :
    ReadsAs ((compare column comparison v).tokens outermost) (.atom (.compare column comparison (.value v))) := by
  intro pending outer
  exact ((reads_column column pending outer).append (reads_comparison column comparison pending outer)).append rfl

/-- The condition of one comparison is read as an operand; its lists are never empty. -/
theorem reads_ofOperator (column : ColumnRef) (op : Operator) (value : Value) (outermost : Bool) :
    ReadsAs ((ofOperator column op value).tokens outermost) (ofOperator column op value).expr := by
  cases op with
  | isNull => exact fun pending outer => rfl
  | isNotNull => exact fun pending outer => rfl
  | compare comparison =>
    simp only [ofOperator]
    split
    · exact fun pending outer => rfl
    · split
      · exact fun pending outer => rfl
      · exact reads_compare column comparison value outermost
  | among =>
    simp only [ofOperator]
    split
    · exact fun pending outer => rfl
    · cases h : listItems value with
      | nil => contradiction
      | cons v items => exact reads_among column v items outermost
  | notAmong =>
    simp only [ofOperator]
    split
    · exact fun pending outer => rfl
    · cases h : listItems value with
      | nil => contradiction
      | cons v items => exact reads_notAmong column v items outermost

mutual

/-- The condition of a predicate is read back, inside another condition and as a whole. -/
theorem reads_condition (table : String) : ∀ p : Predicate,
    ReadsAs ((p.condition table).tokens false) (p.condition table).expr ∧
      ReadsWhole ((p.condition table).tokens true) (p.condition table).expr
  | .compare field op value =>
    ⟨reads_ofOperator ⟨table, field⟩ op value false, (reads_ofOperator ⟨table, field⟩ op value true).whole⟩
  | .all parts => reads_joined reads_true reads_and (reads_conditions table parts)
  | .any parts => reads_joined reads_false reads_or (reads_conditions table parts)
  | .not inner =>
    have hnot := (reads_condition table inner).2.negated
    ⟨hnot, hnot.whole⟩

theorem reads_conditions (table : String) : ∀ ps : List Predicate,
    List.Forall₂ ReadsAs (tokensOf (Predicate.conditions table ps)) (exprs (Predicate.conditions table ps))
  | [] => .nil
  | p :: ps => .cons (reads_condition table p).1 (reads_conditions table ps)

end

/-- Text that lexes to tokens which are read as a whole is read as their expression. -/
theorem readCondition_eq {closed : Bool} {sql : String} {values : List Value} {ts : List Token} {e : Expr}
    (hlexes : Lexes closed sql values ts) (hreads : ReadsWhole ts e) : readCondition sql values = some e := by
  have htokens := hlexes [] [] (.inr (.inl rfl))
  rw [List.append_nil, List.append_nil] at htokens
  obtain ⟨last, pending, hrun, hvalue⟩ := hreads []
  have hfold : ts.foldlM Reading.step Reading.start = some ⟨.connective last, pending, []⟩ := hrun
  have hnothing : Lexing.between.tokens? [] [] = some [] := rfl
  simp only [readCondition, htokens, hnothing, Option.map_some, List.append_nil, Option.bind_some, hfold, ← hvalue]
  rfl

/-- The fragment of a predicate's condition is read as this condition. -/
theorem fragment_read (table : String) (p : Predicate) :
    readCondition (p.condition table).fragment.sql (p.condition table).fragment.values =
      some (p.condition table).expr :=
  readCondition_eq (lexes true (p.condition table)) (reads_condition table p).2

end Condition

/-! ## Filters -/

namespace FilterWriter

/-- The filter that is written for a predicate reads as an expression that is true, false or unknown
as the predicate is, whatever its atomic comparisons are. -/
theorem standard_read {schema : Schema} {table : String} {p : Predicate} {f : Fragment}
    (h : standard schema table p = .ok f) :
    ∃ e, readCondition f.sql f.values = some e ∧ ∀ assignment, e.truth assignment = p.truth assignment table := by
  rw [Compiler.standard_ok h]
  exact ⟨_, Condition.fragment_read table p, fun assignment => Condition.truth_condition assignment table p⟩

/-- Not a, or b and c under a disjunction of one part, with a quote in the table's name. -/
def grouped : Predicate :=
  .all [.any [.not (.any [.eq "a" (.bool true)]), .eq "b" .null],
    .any [.all [.compare "b" .among (.array []), .compare "c" .notAmong (.array [.bool true, .null])]]]

theorem standard_read_grouped : ∃ f, standard .empty "it\"s" grouped = .ok f ∧
    ∃ e, readCondition f.sql f.values = some e ∧
      ∀ assignment, e.truth assignment = grouped.truth assignment "it\"s" := by
  have hok : (standard .empty "it\"s" grouped).toOption.isSome = true := by decide +kernel
  cases h : standard .empty "it\"s" grouped with
  | error e =>
    rw [h] at hok
    cases hok
  | ok f => exact ⟨f, rfl, standard_read h⟩

end FilterWriter

end SqlAdapter
