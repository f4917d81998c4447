import SqlBuilder.Query.Key
import SqlBuilder.Query.Mutation
import SqlBuilder.Script.Report

/-!
# Running scripts

Steps run by structural recursion. The operands of a step are built first, in order, then the call
is made. A user-defined expression builds its own operands when it is rendered, and runs its steps
on the query that it is part of.
-/

namespace SqlBuilder.Script

namespace View

/-- The report of a look at a query. -/
def report (query : Query) : View → Report
  | .hasClause keyword => .answered (.truth (query.hasClause keyword))
  | .relation name => .answered (.relation (query.model.bind (·.relation? name)))
  | .state => .answered (.state query)
  | .validate => .ofExcept query.validate
  | .build => .ofAnswer (query.build.map .statement)
  | .debug => .answered (.debug query.statement)
  | .positional =>
    .ofAnswer (query.build.map fun statement =>
      let (sql, values) := statement.positional
      .positional sql values)
  | .quote value => .ofAnswer ((query.connection.quote value).map .text)
  | .escape name => .answered (.text (query.escape name))

end View

/-- Makes a query from another. -/
def CopyKind.make (query : Query) : CopyKind → Session (Except QueryError Query)
  | .clone => .ok <$> query.clone
  | .fresh => .ok <$> query.fresh
  | .explain => .ok <$> query.explain
  | .resultCount => query.resultCountQuery
  | .totalCount => query.totalCountQuery

/-- Runs a query on an executor. -/
def FetchKind.run (executor : Executor) (query : Query) : FetchKind → Execution Answer
  | .all => .rows <$> query.fetchAll executor
  | .one => .row <$> query.fetchOne executor
  | .scalar => .scalar <$> query.fetchScalar executor
  | .execute => .number <$> query.execute executor
  | .hasRows => .truth <$> query.hasRows executor
  | .resultCount => .number <$> query.resultCount executor
  | .totalCount => .number <$> query.totalCount executor
  | .page request => .page <$> query.fetchPage executor request

namespace Origin

/-- Makes the query; a model counts more than a table. -/
def make (home : Connection) (origin : Origin) : Session Query :=
  let connection := origin.connection.getD home
  match origin.model, origin.table with
  | some model, _ => Query.forModel connection model
  | none, some table => Query.table connection table
  | none, none => Query.new connection

end Origin

/-- Names a query that was made from another, unless that failed. -/
def nameCopy (name : String) (made : Except QueryError Query) : Session Report :=
  match made with
  | .ok query => do
    modify (·.insert name query)
    return .made query
  | .error error => return .failed error

mutual

/-- Builds an operand. Nested queries use the connection `home` unless they say otherwise. -/
def buildOperand (home : Connection) : Operand QueryDraft CustomDraft → Session Value
  | .column name => return .column name
  | .raw sql => return .raw sql
  | .scalar value => return .scalar value
  | .backing value => return .backing value
  | .expr expr => return .expr (← buildExpr home expr)
  | .query draft => return .query (← buildQuery home draft)
  | .custom draft => return .custom (buildCustom draft)

/-- Builds operands from left to right. -/
def buildAll (home : Connection) : List (Operand QueryDraft CustomDraft) → Session (List Value)
  | [] => return []
  | draft :: rest => do
    let value ← buildOperand home draft
    return value :: (← buildAll home rest)

/-- Builds rows of operands. -/
def buildRows (home : Connection) :
    List (List (Operand QueryDraft CustomDraft)) → Session (List (List Value))
  | [] => return []
  | row :: rest => do
    let values ← buildAll home row
    return values :: (← buildRows home rest)

/-- Builds the terms of an order. -/
def buildOrder (home : Connection) :
    List (Operand QueryDraft CustomDraft × Bool) → Session (List (Value × Bool))
  | [] => return []
  | (draft, descends) :: rest => do
    let value ← buildOperand home draft
    return (value, descends) :: (← buildOrder home rest)

/-- Builds an operand that may be absent. -/
def buildOption (home : Connection) :
    Option (Operand QueryDraft CustomDraft) → Session (Option Value)
  | none => return none
  | some draft => return some (← buildOperand home draft)

/-- Builds an expression. -/
def buildExpr (home : Connection) :
    Expr QueryDraft CustomDraft → Session (Expr Query CustomExpr)
  | .between lower upper => do
    let lower ← buildOperand home lower
    return .between lower (← buildOperand home upper)
  | .inList values => return .inList (← buildAll home values)
  | .isNull => return .isNull
  | .exists draft => return .exists (← buildQuery home draft)
  | .not inner => return .not (← buildExpr home inner)
  | .call name arguments => return .call name (← buildAll home arguments)
  | .aggregate name arguments distinct =>
    return .aggregate name (← buildAll home arguments) distinct
  | .groupConcat value distinct order separator limit offset => do
    let value ← buildOperand home value
    return .groupConcat value distinct (← buildOrder home order) separator limit offset
  | .ifElse condition yes no => do
    let condition ← buildOperand home condition
    let yes ← buildOperand home yes
    return .ifElse condition yes (← buildOperand home no)
  | .ifNull value fallback => do
    let value ← buildOperand home value
    return .ifNull value (← buildOperand home fallback)
  | .nullIf value other => do
    let value ← buildOperand home value
    return .nullIf value (← buildOperand home other)
  | .matchAgainst fields search booleanMode queryExpansion => do
    let fields ← buildAll home fields
    return .matchAgainst fields (← buildOperand home search) booleanMode queryExpansion
  | .operation lhs operator rhs => do
    let lhs ← buildOperand home lhs
    return .operation lhs operator (← buildOperand home rhs)
  | .nested draft => return .nested (← buildQuery home draft)
  | .assign name draft => return .assign name (← buildQuery home draft)
  | .cast value type => return .cast (← buildOperand home value) type

/-- Builds a predicate. -/
def buildPredicate (home : Connection) :
    Predicate QueryDraft CustomDraft → Session (Predicate Query CustomExpr)
  | .single operand => return .single (← buildOperand home operand)
  | .pair lhs rhs => do
    let lhs ← buildOperand home lhs
    return .pair lhs (← buildOperand home rhs)
  | .compare lhs comparator rhs => do
    let lhs ← buildOperand home lhs
    return .compare lhs comparator (← buildOperand home rhs)

/-- Makes a nested query. A name that no query has stands for a new query. -/
def buildQuery (home : Connection) : QueryDraft → Session Query
  | .recipe connection model table steps => do
    let query ← Origin.make home { connection, model, table }
    return (← (runSteps home steps).run query).2
  | .take name => do
    match (← get).get? name with
    | some query =>
      modify (·.erase name)
      return query
    | none => Query.new home
  | .clone name => do
    match (← get).get? name with
    | some query => query.clone
    | none => Query.new home

/-- Makes a user-defined expression. -/
def buildCustom : CustomDraft → CustomExpr
  | .mk parts suppliesComparator before after =>
    { suppliesComparator
      render := fun connection => renderParts connection parts
      before := fun query => do
        let (_, query) ← (runSteps query.connection before).run query
        return ((), query)
      after := fun query => do
        let (_, query) ← (runSteps query.connection after).run query
        return ((), query) }

/-- The text of a user-defined expression. -/
def renderParts (connection : Connection) : List TextPart → Compile String
  | [] => return ""
  | .text sql :: rest => return sql ++ (← renderParts connection rest)
  | .operand draft :: rest => do
    let value ← buildOperand connection draft
    let text ← value.compile connection
    return text ++ (← renderParts connection rest)
  | .bind value :: rest => do
    let text ← modifyGet (Ledger.bind connection value)
    return text ++ (← renderParts connection rest)

/-- Makes a builder call. -/
def call (home : Connection) : Step → Edit Report
  | .add fragment => do
    modify (·.add fragment)
    return .done
  | .removeClause keyword => do
    modify (·.removeClause keyword)
    return .done
  | .replaceClause keyword replacement => do
    match (← get).fragments.find? (·.keyword == keyword) with
    | some fragment =>
      let _ ← Edit.attempt (·.replaceClause keyword fun _ => replacement)
      return .answered (.fragment fragment)
    | none => return .failed (.missingClause keyword)
  | .merge draft => do
    let other ← buildQuery home draft
    modify (·.merge other)
    return .done
  | .parenthesis pull body => return .withBody (← Edit.parenthesis pull (runSteps home body))
  | .raw sql => do
    modify (·.insertToken sql)
    return .done
  | .bindModel model => do
    modify fun query => { query with model := some model }
    return .done
  | .view view => return view.report (← get)
  | .compileOperand draft => do
    let value ← buildOperand home draft
    return .answered (.text (← Edit.compiling fun connection => value.compile connection))
  | .bindScalar value =>
    return .answered (.text (← Edit.compiling fun connection =>
      modifyGet (Ledger.bind connection value)))
  | .compileExpr draft => do
    let expr ← buildExpr home draft
    return .answered (.text (← Edit.compiling fun connection => expr.compile connection))
  | .copy kind name => do
    let query ← get
    nameCopy name (← kind.make query)
  | .select distinct columns => do
    let columns ← buildAll home columns
    Edit.select distinct columns
    return .done
  | .selectAs column label => do
    let column ← buildOperand home column
    Edit.selectAs column label
    return .done
  | .selectRaw sql => do
    modify (·.selectRaw sql)
    return .done
  | .source table label => do
    modify (·.source table label)
    return .done
  | .sourceQuery draft label => do
    let nested ← buildQuery home draft
    Edit.sourceQuery nested label
    return .done
  | .join kind table label none => do
    let _ ← Edit.join kind table label (return ())
    return .done
  | .join kind table label (some body) => do
    match ← Edit.join kind table label (runSteps home body) with
    | some reports => return .withBody reports
    | none => return .skipped
  | .addTerms clause columns => do
    let columns ← buildAll home columns
    Edit.addTerms clause columns
    return .done
  | .addOrder column descends => do
    let column ← buildOperand home column
    Edit.addOrder column descends
    return .done
  | .addOrderRaw sql => do
    modify (·.addTerm "order by" sql)
    return .done
  | .limit count => do
    modify (·.limit count)
    return .done
  | .offset count => do
    modify (·.offset count)
    return .done
  | .paginate request => do
    modify (·.paginate request)
    return .done
  | .union keepsDuplicates draft => do
    let other ← buildQuery home draft
    modify (·.union keepsDuplicates other)
    return .done
  | .addCommonTable isRecursive name draft => do
    let nested ← buildQuery home draft
    Edit.addCommonTable isRecursive name nested
    return .done
  | .lockForUpdate => do
    Edit.lockForUpdate
    return .done
  | .condition clause connective predicate => do
    let predicate ← buildPredicate home predicate
    Edit.condition clause connective predicate
    return .done
  | .filterIn negated lhs values => do
    let lhs ← buildOperand home lhs
    let values ← buildAll home values
    Edit.filterIn negated lhs values
    return .done
  | .conditionGroup connective body =>
    return .withBody (← Edit.conditionGroup connective (runSteps home body))
  | .addExpression keyword lhs comparator rhs => do
    let lhs ← buildOption home lhs
    let rhs ← buildOption home rhs
    return .ofExcept (← Edit.addExpression keyword lhs comparator rhs)
  | .addPredicate keyword predicate => do
    let predicate ← buildPredicate home predicate
    Edit.addPredicate keyword predicate
    return .done
  | .filterByKey values => do
    let values ← buildAll home values
    return .ofExcept (← Edit.filterByKey values)
  | .filterByKeys rows => do
    let rows ← buildRows home rows
    return .ofExcept (← Edit.filterByKeys rows)
  | .filterHas relation body =>
    return .ofBody (← Edit.filterHas relation (runSteps home body))
  | .insertInto replaces table columns =>
    return .ofExcept (← Edit.attempt fun query =>
      if replaces then query.replaceInto table columns else query.insertInto table columns)
  | .values row => do
    let row ← buildAll home row
    return .ofExcept (← Edit.values row)
  | .update table => do
    modify (·.update table)
    return .done
  | .assign column value => do
    let column ← buildOperand home column
    let value ← buildOperand home value
    Edit.assign column value
    return .done
  | .assignRaw column sql => do
    modify (·.setRaw column sql)
    return .done
  | .deleteFrom table => do
    modify (·.deleteFrom table)
    return .done
  | .onConflictUpdate conflict columns =>
    return .ofExcept (← Edit.attempt (·.onConflictUpdate conflict columns))
  | .onConflictDoNothing conflict =>
    return .ofExcept (← Edit.attempt (·.onConflictDoNothing conflict))
  | .returning columns => do
    let columns ← buildAll home columns
    return .ofExcept (← Edit.returning columns)
  | .fetch kind responses => do
    let query ← get
    let (result, trace) ← (kind.run responses.toExecutor query).run {}
    return .ofRun result trace

/-- Makes builder calls in order, with a report on each. -/
def runSteps (home : Connection) : List Step → Edit (List Report)
  | [] => return []
  | step :: rest => do
    let report ← call home step
    let query ← get
    return report.seen query :: (← runSteps home rest)

end

/-- Runs a command. A name that no query has stands for a new query. -/
def Command.run (home : Connection) : Command → Session Report
  | .create name origin => do
    let query ← origin.make home
    modify (·.insert name query)
    return Report.done.seen query
  | .on name step => do
    let query ← match (← get).get? name with
      | some query => pure query
      | none => Query.new home
    let (report, query) ← (call home step).run query
    modify (·.insert name query)
    return report.seen query

/-- Runs commands in order, with a report on each. -/
def runCommands (home : Connection) : List Command → Session (List Report)
  | [] => return []
  | command :: rest => do
    let report ← command.run home
    return report :: (← runCommands home rest)

namespace Program

/-- Runs a program in an empty workspace. -/
def run (program : Program) : List Report × Workspace :=
  let steps : Session (List Report) := do
    let query ← Origin.make program.connection { model := program.model }
    modify (·.insert firstName query)
    runCommands program.connection program.commands
  steps.run {}

/-- What a program comes to, which is nothing if its run was aborted. -/
def outcome (program : Program) : Option (List Report × Workspace) :=
  let result := program.run
  if result.2.aborted then none else some result

end Program

end SqlBuilder.Script
