import SqlBuilder.Expr.Predicate
import SqlBuilder.Query.Basic

/-!
# Compiling operands

Operands become SQL text, and their values become parameters of the query that they are compiled
for. Compiling reads the connection and touches the ledger only, so it never moves a fragment.
-/

namespace SqlBuilder

/-- A user-defined expression, with what it does to its query before and after its clause is
added. -/
structure CustomExpr where
  suppliesComparator : Bool := false
  render : Connection → Compile String
  before : Edit Unit := pure ()
  after : Edit Unit := pure ()

/-- An operand that has been built. -/
abbrev Value := Operand Query CustomExpr

namespace Ledger

variable (connection : Connection)

/-- A literal, or a stand-in with a fault if the connection refuses to write it. -/
def literalOr (standIn : String) (value : Scalar) (ledger : Ledger) : String × Ledger :=
  match connection.quote value with
  | .ok text => (text, ledger)
  | .error (.quoteRefused detail) => (standIn, ledger.record (.quoteRefused detail))
  | .error other => (standIn, ledger.record (.quoteRefused other.message))

/-- A value as a parameter, or inline on a connection that does not prepare statements. -/
def bind (value : Scalar) (ledger : Ledger) : String × Ledger :=
  if connection.config.prepared then
    let (placeholder, params) := ledger.params.push value
    (placeholder, { ledger with params })
  else ledger.literalOr connection "null" value

/-- A text as a literal. -/
def quoteText (text : String) (ledger : Ledger) : String × Ledger :=
  ledger.literalOr connection "''" (.text text)

/-- The text of a nested query, whose parameters and fault are taken over. -/
def embed (nested : Query) (ledger : Ledger) : String × Ledger :=
  (nested.sql, ledger.adopt nested.ledger)

/-- Whether the dialect has a construct; a fault is recorded if not. -/
def require (feature : Feature) (ledger : Ledger) : Bool × Ledger :=
  if connection.grammar.supports feature then (true, ledger)
  else (false, ledger.record (.unsupported connection.grammar.name feature))

end Ledger

namespace Backing

/-- A backing value as a literal. -/
def compile (connection : Connection) : Backing → Compile String
  | .text literal => modifyGet (Ledger.quoteText connection literal)
  | .int number => return toString number.toInt

end Backing

/-- The part of a joined text that names the separator. -/
def separatorText (connection : Connection) : Option String → Compile String
  | none => return ""
  | some separator =>
    return " separator " ++ (← modifyGet (Ledger.quoteText connection separator))

/-- Texts in parentheses behind a word. -/
def callText (name arguments : String) : String := name ++ "(" ++ arguments ++ ")"

mutual

/-- Compiles an operand inside an expression: texts are literals, not parameters. -/
def Operand.compile (connection : Connection) : Value → Compile String
  | .column name => return connection.grammar.escapeIdentifier name
  | .raw sql => return sql
  | .scalar (.text text) => modifyGet (Ledger.quoteText connection text)
  | .scalar (.bool value) => return connection.grammar.booleanLiteral value
  | .scalar .null => return "null"
  | .scalar value => modifyGet (Ledger.bind connection value)
  | .backing value => value.compile connection
  | .expr expr => expr.compile connection
  | .query nested => return callText "" (← modifyGet (Ledger.embed nested))
  | .custom custom => custom.render connection

/-- Compiles operands from left to right. -/
def Operand.compileAll (connection : Connection) : List Value → Compile (List String)
  | [] => return []
  | operand :: rest => do
    let text ← operand.compile connection
    return text :: (← Operand.compileAll connection rest)

/-- Compiles the terms of an order. -/
def Operand.compileOrder (connection : Connection) :
    List (Value × Bool) → Compile (List String)
  | [] => return []
  | (operand, descends) :: rest => do
    let text ← operand.compile connection
    let term := text ++ (if descends then " desc" else " asc")
    return term :: (← Operand.compileOrder connection rest)

/-- Compiles an expression. -/
def Expr.compile (connection : Connection) : Expr Query CustomExpr → Compile String
  | .between lower upper => do
    let lower ← lower.compile connection
    let upper ← upper.compile connection
    return "between " ++ lower ++ " and " ++ upper
  | .inList [] => return "in (null)"
  | .inList [.query nested] => return callText "in " (← modifyGet (Ledger.embed nested))
  | .inList values => do
    let values ← Operand.compileAll connection values
    return callText "in " (String.intercalate connection.grammar.columnSeparator values)
  | .isNull => return "is null"
  | .exists nested => return callText "exists " (← modifyGet (Ledger.embed nested))
  | .not .isNull => return "is not null"
  | .not inner => return "not " ++ (← inner.compile connection)
  | .call name arguments => do
    let arguments ← Operand.compileAll connection arguments
    return callText name (String.intercalate connection.grammar.columnSeparator arguments)
  | .aggregate name arguments distinct => do
    let arguments ← Operand.compileAll connection arguments
    let list := String.intercalate connection.grammar.columnSeparator arguments
    return callText name ((if distinct then "distinct " else "") ++ list)
  | .groupConcat value distinct order separator limit offset => do
    if ← modifyGet (Ledger.require connection .groupConcat) then
      let value ← value.compile connection
      let terms ← Operand.compileOrder connection order
      let separator ← separatorText connection separator
      let order :=
        if terms.isEmpty then ""
        else " order by " ++ String.intercalate connection.grammar.columnSeparator terms
      let limit := (limit.map fun count => " limit " ++ Nat.repr count).getD ""
      let offset := (offset.map fun count => " offset " ++ Nat.repr count).getD ""
      return callText "group_concat"
        ((if distinct then "distinct " else "") ++ value ++ order ++ separator ++ limit ++ offset)
    else return ""
  | .ifElse condition yes no => do
    let condition ← condition.compile connection
    let yes ← yes.compile connection
    let no ← no.compile connection
    if connection.grammar.supports .ifFunctions then
      return callText "if" (condition ++ ", " ++ yes ++ ", " ++ no)
    else return "case when " ++ condition ++ " then " ++ yes ++ " else " ++ no ++ " end"
  | .ifNull value fallback => do
    let value ← value.compile connection
    let fallback ← fallback.compile connection
    let name := if connection.grammar.supports .ifFunctions then "ifnull" else "coalesce"
    return callText name (value ++ ", " ++ fallback)
  | .nullIf value other => do
    let value ← value.compile connection
    let other ← other.compile connection
    return callText "nullif" (value ++ ", " ++ other)
  | .matchAgainst fields search booleanMode queryExpansion => do
    if ← modifyGet (Ledger.require connection .matchAgainst) then
      let fields ← Operand.compileAll connection fields
      let search ← search.compile connection
      let fields := String.intercalate connection.grammar.columnSeparator fields
      return callText "match " fields ++ callText " against "
        (search ++ (if booleanMode then " in boolean mode" else "") ++
          (if queryExpansion then " with query expansion" else ""))
    else return ""
  | .operation lhs operator rhs => do
    let lhs ← lhs.compile connection
    let rhs ← rhs.compile connection
    return callText "" (lhs ++ " " ++ operator ++ " " ++ rhs)
  | .nested nested => return callText "" (← modifyGet (Ledger.embed nested))
  | .assign name nested => do
    let _ ← modifyGet (Ledger.require connection .variables)
    return "@" ++ name ++ callText " := " (← modifyGet (Ledger.embed nested))
  | .cast value type => return callText "cast" ((← value.compile connection) ++ " as " ++ type)

end

namespace Operand

/-- Compiles a side of a predicate, an item or a term: every value is bound. -/
def resolve (connection : Connection) : Value → Compile String
  | .scalar value => modifyGet (Ledger.bind connection value)
  | operand => operand.compile connection

/-- Whether the text of the operand brings its own comparator. -/
def suppliesComparator : Value → Bool
  | .expr inner => inner.suppliesComparator
  | .custom own => own.suppliesComparator
  | _ => false

/-- Whether the operand is the absence of a value. -/
def isNullScalar : Value → Bool
  | .scalar .null => true
  | _ => false

/-- The user-defined expression that the operand is. -/
def custom? : Value → Option CustomExpr
  | .custom own => some own
  | _ => none

end Operand

namespace Predicate

/-- Compiles a predicate. Equality with the absence of a value is a test for it. -/
def compile (connection : Connection) : Predicate Query CustomExpr → Compile String
  | .single operand => operand.resolve connection
  | .pair lhs rhs => do
    let lhs ← lhs.resolve connection
    if rhs.suppliesComparator then return lhs ++ " " ++ (← rhs.resolve connection)
    else if rhs.isNullScalar then return lhs ++ " is null"
    else return lhs ++ " = " ++ (← rhs.resolve connection)
  | .compare lhs comparator rhs => do
    let lhs ← lhs.resolve connection
    let rhs ← rhs.resolve connection
    return lhs ++ " " ++ comparator ++ " " ++ rhs

/-- The user-defined expressions that the predicate's operands are. -/
def customs (predicate : Predicate Query CustomExpr) : List CustomExpr :=
  predicate.operands.filterMap Operand.custom?

end Predicate

namespace Edit

variable {α : Type}

/-- Compiles for the query that is being changed. -/
def compiling (action : Connection → Compile α) : Edit α := fun query => do
  let (result, ledger) ← (action query.connection).run query.ledger
  return (result, { query with ledger })

/-- Compiles an item, term or side of a predicate. -/
def resolve (operand : Value) : Edit String :=
  compiling fun connection => operand.resolve connection

/-- Compiles operands from left to right. -/
def resolveAll : List Value → Edit (List String)
  | [] => return []
  | operand :: rest => do
    let text ← resolve operand
    return text :: (← resolveAll rest)

/-- The text of a nested query, whose parameters and fault are taken over. -/
def embed (nested : Query) : Edit String := compiling fun _ => modifyGet (Ledger.embed nested)

end Edit

end SqlBuilder
