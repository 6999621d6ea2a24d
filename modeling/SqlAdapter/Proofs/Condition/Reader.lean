/-
How SQL reads a condition.

The text is cut into tokens, and every mark takes the next value of a list. The
tokens are then read from left to right with one `Pending` for each parenthesis
that is open: comparisons bind closest, then NOT, then AND, then OR, which an
operand meets in this order when it is complete. `readCondition` answers only
when all of the text is read and no value is left over.

What is read is an `Expr` over atomic comparisons. Given a truth value for each
of these, it has one of three truth values, as SQL combines them.

Nothing here knows how the library writes its conditions.
-/
import SqlAdapter.Statement.Condition

namespace SqlAdapter

/-! ## Expressions and their truth -/

/-- What a column is compared with. -/
inductive Operand where
  | value (value : Value)
  | column (column : ColumnRef)

/-- An atomic comparison. -/
inductive Atom where
  | isNull (column : ColumnRef)
  | isNotNull (column : ColumnRef)
  | compare (column : ColumnRef) (comparison : Comparison) (operand : Operand)
  | among (column : ColumnRef) (items : List Value)
  | notAmong (column : ColumnRef) (items : List Value)

/-- A condition as it is read. -/
inductive Expr where
  | constant (holds : Bool)
  | atom (atom : Atom)
  | and (left right : Expr)
  | or (left right : Expr)
  | not (inner : Expr)

/-- The truth values of SQL. -/
inductive Truth where
  | true
  | false
  | unknown
  deriving DecidableEq

namespace Truth

def ofBool : Bool → Truth
  | Bool.true => .true
  | Bool.false => .false

def and : Truth → Truth → Truth
  | .false, _ | _, .false => .false
  | .true, .true => .true
  | _, _ => .unknown

def or : Truth → Truth → Truth
  | .true, _ | _, .true => .true
  | .false, .false => .false
  | _, _ => .unknown

def not : Truth → Truth
  | .true => .false
  | .false => .true
  | .unknown => .unknown

end Truth

/-- The truth of an expression, given that of its atoms. -/
def Expr.truth (assignment : Atom → Truth) : Expr → Truth
  | .constant holds => .ofBool holds
  | .atom a => assignment a
  | .and left right => (left.truth assignment).and (right.truth assignment)
  | .or left right => (left.truth assignment).or (right.truth assignment)
  | .not inner => (inner.truth assignment).not

/-! ## Tokens -/

inductive Keyword where
  | is | null | not | among | and | or | true | false
  deriving DecidableEq

inductive Token where
  | name (name : String)
  | keyword (keyword : Keyword)
  | comparison (comparison : Comparison)
  | value (value : Value)
  | dot
  | comma
  | opening
  | closing

namespace Token

/-- The token that a word stands for. -/
def ofWord? (word : List Char) : Option Token :=
  if word = ['I', 'S'] then some (.keyword .is)
  else if word = ['N', 'U', 'L', 'L'] then some (.keyword .null)
  else if word = ['N', 'O', 'T'] then some (.keyword .not)
  else if word = ['I', 'N'] then some (.keyword .among)
  else if word = ['A', 'N', 'D'] then some (.keyword .and)
  else if word = ['O', 'R'] then some (.keyword .or)
  else if word = ['T', 'R', 'U', 'E'] then some (.keyword .true)
  else if word = ['F', 'A', 'L', 'S', 'E'] then some (.keyword .false)
  else if word = ['L', 'I', 'K', 'E'] then some (.comparison .like)
  else if word = ['I', 'L', 'I', 'K', 'E'] then some (.comparison .ilike)
  else none

/-- The token that a sequence of signs stands for. -/
def ofSigns? (signs : List Char) : Option Token :=
  if signs = ['='] then some (.comparison .eq)
  else if signs = ['<', '>'] then some (.comparison .ne)
  else if signs = ['>'] then some (.comparison .gt)
  else if signs = ['>', '='] then some (.comparison .gte)
  else if signs = ['<'] then some (.comparison .lt)
  else if signs = ['<', '='] then some (.comparison .lte)
  else none

/-- The token that a character stands for by itself. -/
def ofChar? (c : Char) : Option Token :=
  if c = '.' then some .dot
  else if c = ',' then some .comma
  else if c = '(' then some .opening
  else if c = ')' then some .closing
  else none

/-- Is this a sign of a comparison? -/
def isSign (c : Char) : Bool := c = '=' || c = '<' || c = '>'

end Token

/-- Where the reader of tokens stands; what it has of an open token is in reverse. -/
inductive Lexing where
  | between
  | word (letters : List Char)
  | signs (chars : List Char)
  | name (chars : List Char)
  /-- Behind a quote inside a name, which ends the name unless another one follows. -/
  | quote (chars : List Char)

namespace Lexing

/-- The token that ends here, if one may. -/
def flush : Lexing → Option (List Token)
  | .between => some []
  | .word letters => (Token.ofWord? letters.reverse).map ([·])
  | .signs chars => (Token.ofSigns? chars.reverse).map ([·])
  | .name _ => none
  | .quote chars => some [.name (String.ofList chars.reverse)]

/-- The open token with a character that belongs to it. -/
def continued? (l : Lexing) (c : Char) : Option Lexing :=
  match l with
  | .between => none
  | .word letters => if isLetter c then some (.word (c :: letters)) else none
  | .signs chars => if Token.isSign c then some (.signs (c :: chars)) else none
  | .name chars => some (if c = '"' then .quote chars else .name (c :: chars))
  | .quote chars => if c = '"' then some (.name ('"' :: chars)) else none

/-- What starts with a character: a whole token or an open one, and the values that are left. -/
def start? (c : Char) (values : List Value) : Option (List Token × Lexing × List Value) :=
  if c = ' ' then some ([], .between, values)
  else if c = '"' then some ([], .name [], values)
  else if isLetter c then some ([], .word [c], values)
  else if Token.isSign c then some ([], .signs [c], values)
  else if c = '?' then
    match values with
    | v :: values => some ([.value v], .between, values)
    | [] => none
  else (Token.ofChar? c).map fun t => ([t], .between, values)

/-- The tokens of a text, its marks replaced by the values in order. -/
def tokens? (l : Lexing) : List Char → List Value → Option (List Token)
  | [], values => if values.isEmpty then l.flush else none
  | c :: cs, values =>
    match l.continued? c with
    | some l => tokens? l cs values
    | none =>
      l.flush.bind fun before =>
        (start? c values).bind fun (started, l, values) =>
          (tokens? l cs values).map fun rest => before ++ (started ++ rest)

end Lexing

/-! ## Reading -/

/-- What waits for an operand at one level of parentheses. -/
structure Pending where
  /-- What stands before an OR. -/
  either : Option Expr
  /-- What stands before an AND. -/
  both : Option Expr
  /-- How many NOTs stand right before the operand. -/
  nots : Nat

namespace Pending

def empty : Pending := ⟨none, none, 0⟩

/-- An expression behind a number of NOTs. -/
def negated : Nat → Expr → Expr
  | 0, e => e
  | n + 1, e => negated n (.not e)

/-- An operand together with what stands before an AND. -/
def conjoined (p : Pending) (e : Expr) : Expr :=
  match p.both with
  | some left => .and left e
  | none => e

/-- An operand together with all that stands before it. -/
def value (p : Pending) (e : Expr) : Expr :=
  match p.either with
  | some left => .or left (p.conjoined e)
  | none => p.conjoined e

end Pending

/-- What the reader of expressions expects. -/
inductive Expecting where
  | operand
  | dot (table : String)
  | column (table : String)
  /-- What is asked of a column. -/
  | test (column : ColumnRef)
  /-- NULL or NOT NULL. -/
  | absence (column : ColumnRef)
  | presence (column : ColumnRef)
  /-- IN or LIKE behind a NOT. -/
  | negatedTest (column : ColumnRef)
  | right (column : ColumnRef) (comparison : Comparison)
  | rightDot (column : ColumnRef) (comparison : Comparison) (table : String)
  | rightColumn (column : ColumnRef) (comparison : Comparison) (table : String)
  | list (column : ColumnRef) (negated : Bool)
  | item (column : ColumnRef) (negated : Bool) (items : List Value)
  | separator (column : ColumnRef) (negated : Bool) (items : List Value)
  /-- AND, OR, a closing parenthesis or the end, behind an operand. -/
  | connective (operand : Expr)

/-- A reader of expressions. -/
structure Reading where
  expecting : Expecting
  pending : Pending
  /-- The levels around the innermost parentheses. -/
  outer : List Pending

namespace Reading

def start : Reading := ⟨.operand, .empty, []⟩

/-- An operand is complete. -/
def completed (r : Reading) (e : Expr) : Reading :=
  ⟨.connective (Pending.negated r.pending.nots e), { r.pending with nots := 0 }, r.outer⟩

def tested (r : Reading) (atom : Atom) : Reading := r.completed (.atom atom)

/-- The reader after a token where an operand must follow. -/
def operand? (r : Reading) : Token → Option Reading
  | .keyword .not => some { r with pending.nots := r.pending.nots + 1 }
  | .keyword .true => some (r.completed (.constant true))
  | .keyword .false => some (r.completed (.constant false))
  | .opening => some ⟨.operand, .empty, r.pending :: r.outer⟩
  | .name table => some { r with expecting := .dot table }
  | _ => none

/-- The reader after a token behind an operand. -/
def connective? (r : Reading) (e : Expr) : Token → Option Reading
  | .keyword .and => some { r with expecting := .operand, pending.both := some (r.pending.conjoined e) }
  | .keyword .or => some ⟨.operand, ⟨some (r.pending.value e), none, 0⟩, r.outer⟩
  | .closing =>
    match r.outer with
    | pending :: outer => some (completed ⟨.operand, pending, outer⟩ (r.pending.value e))
    | [] => none
  | _ => none

/-- The reader after a token. -/
def step (r : Reading) (t : Token) : Option Reading :=
  match r.expecting, t with
  | .operand, t => r.operand? t
  | .connective e, t => r.connective? e t
  | .dot table, .dot => some { r with expecting := .column table }
  | .column table, .name name => some { r with expecting := .test ⟨table, name⟩ }
  | .test column, .keyword .is => some { r with expecting := .absence column }
  | .test column, .keyword .not => some { r with expecting := .negatedTest column }
  | .test column, .keyword .among => some { r with expecting := .list column false }
  | .test column, .comparison comparison => some { r with expecting := .right column comparison }
  | .absence column, .keyword .null => some (r.tested (.isNull column))
  | .absence column, .keyword .not => some { r with expecting := .presence column }
  | .presence column, .keyword .null => some (r.tested (.isNotNull column))
  | .negatedTest column, .keyword .among => some { r with expecting := .list column true }
  | .negatedTest column, .comparison .like => some { r with expecting := .right column .notLike }
  | .right column comparison, .value v => some (r.tested (.compare column comparison (.value v)))
  | .right column comparison, .name table => some { r with expecting := .rightDot column comparison table }
  | .rightDot column comparison table, .dot =>
    some { r with expecting := .rightColumn column comparison table }
  | .rightColumn column comparison table, .name name =>
    some (r.tested (.compare column comparison (.column ⟨table, name⟩)))
  | .list column negated, .opening => some { r with expecting := .item column negated [] }
  | .item column negated items, .value v =>
    some { r with expecting := .separator column negated (items ++ [v]) }
  | .separator column negated items, .comma => some { r with expecting := .item column negated items }
  | .separator column negated items, .closing =>
    some (r.tested (if negated then .notAmong column items else .among column items))
  | _, _ => none

/-- What was read, if nothing is open. -/
def finish? (r : Reading) : Option Expr :=
  match r.expecting, r.outer with
  | .connective e, [] => some (r.pending.value e)
  | _, _ => none

end Reading

/-- The condition that a text states with values for its marks. -/
def readCondition (sql : String) (values : List Value) : Option Expr :=
  (Lexing.between.tokens? sql.toList values).bind fun tokens =>
    (tokens.foldlM Reading.step Reading.start).bind Reading.finish?

end SqlAdapter
