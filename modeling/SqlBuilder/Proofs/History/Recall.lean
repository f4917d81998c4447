import SqlBuilder.Proofs.History.Edit
import SqlBuilder.Proofs.Script.Calls

/-!
# The histories of queries

What happens in a script, told without regard to ledgers. The history of a query lists what went
wrong and which values were bound while the query was built, in order: the events of its own
operands, and where it took in another query, the faults in the history of that query up to then. A
copy starts with the faults of what it is a copy of.

Annals keep the histories of named queries, and a chapter for every builder call that is made,
wherever it is made. User-defined expressions are not looked into.
-/

namespace SqlBuilder.Script

/-- A builder call, with the histories of its query before and after it. -/
structure Chapter where
  call : Call
  before : List Event
  after : List Event

/-- What is kept about a run. -/
structure Annals where
  /-- The history of the query that has a name. -/
  past : String → List Event := fun _ => []
  chapters : List Chapter := []

/-- Steps that tell histories. -/
abbrev Recall := StateM Annals

/-- A query with a history gets a name. -/
def Annals.name (annals : Annals) (name : String) (history : List Event) : Annals :=
  { annals with past := fun other => if other = name then history else annals.past other }

/-- One more chapter. -/
def Annals.add (annals : Annals) (chapter : Chapter) : Annals :=
  { annals with chapters := annals.chapters ++ [chapter] }

/-- The history of a copy, if the copy succeeds. -/
def CopyKind.history (history : List Event) : CopyKind → List Event
  | .fresh => []
  | .clone | .explain | .resultCount | .totalCount => Event.carried history

mutual

/-- The events of an operand in its place, as it is compiled for a query of the connection
`host`. -/
def operandEvents (home host : Connection) (slot : Slot) : Draft → Workspace → Recall (List Event)
  | .column _, _ | .raw _, _ | .custom _, _ => return []
  | .scalar value, _ => return slot.events host value
  | .backing value, _ => return value.refusals host
  | .expr expr, workspace => exprEvents home host expr workspace
  | .query draft, workspace => return Event.carried (← queryHistory home draft workspace)

/-- The events of operands from left to right. -/
def allEvents (home host : Connection) (slot : Slot) :
    List Draft → Workspace → Recall (List Event)
  | [], _ => return []
  | draft :: rest, workspace => do
    let events ← operandEvents home host slot draft workspace
    return events ++ (← allEvents home host slot rest ((buildOperand home draft).run workspace).2)

/-- The events of rows of operands. -/
def rowsEvents (home host : Connection) (slot : Slot) :
    List (List Draft) → Workspace → Recall (List Event)
  | [], _ => return []
  | row :: rest, workspace => do
    let events ← allEvents home host slot row workspace
    return events ++ (← rowsEvents home host slot rest ((buildAll home row).run workspace).2)

/-- The events of the terms of an order. -/
def orderEvents (home host : Connection) :
    List (Draft × Bool) → Workspace → Recall (List Event)
  | [], _ => return []
  | (draft, _) :: rest, workspace => do
    let events ← operandEvents home host .inside draft workspace
    return events ++ (← orderEvents home host rest ((buildOperand home draft).run workspace).2)

/-- The events of an operand that may be absent. -/
def optionEvents (home host : Connection) (slot : Slot) :
    Option Draft → Workspace → Recall (List Event)
  | none, _ => return []
  | some draft, workspace => operandEvents home host slot draft workspace

/-- The events of an expression. What a dialect lacks is not compiled, though its parts are
built. -/
def exprEvents (home host : Connection) : ExprDraft → Workspace → Recall (List Event)
  | .between lower upper, workspace => do
    let events ← operandEvents home host .inside lower workspace
    return events ++
      (← operandEvents home host .inside upper ((buildOperand home lower).run workspace).2)
  | .inList values, workspace => allEvents home host .inside values workspace
  | .isNull, _ => return []
  | .exists draft, workspace => return Event.carried (← queryHistory home draft workspace)
  | .not inner, workspace => exprEvents home host inner workspace
  | .call _ arguments, workspace => allEvents home host .inside arguments workspace
  | .aggregate _ arguments _, workspace => allEvents home host .inside arguments workspace
  | .groupConcat value _ order separator _ _, workspace => do
    let events ← operandEvents home host .inside value workspace
    let more ← orderEvents home host order ((buildOperand home value).run workspace).2
    return if host.grammar.supports .groupConcat then
      events ++ (more ++ Expr.separatorRefusals host separator)
    else host.lacks .groupConcat
  | .ifElse condition yes no, workspace => do
    let second := ((buildOperand home condition).run workspace).2
    let events ← operandEvents home host .inside condition workspace
    let more ← operandEvents home host .inside yes second
    return events ++ (more ++
      (← operandEvents home host .inside no ((buildOperand home yes).run second).2))
  | .ifNull value fallback, workspace => do
    let events ← operandEvents home host .inside value workspace
    return events ++
      (← operandEvents home host .inside fallback ((buildOperand home value).run workspace).2)
  | .nullIf value other, workspace => do
    let events ← operandEvents home host .inside value workspace
    return events ++
      (← operandEvents home host .inside other ((buildOperand home value).run workspace).2)
  | .matchAgainst fields search _ _, workspace => do
    let events ← allEvents home host .inside fields workspace
    let more ← operandEvents home host .inside search ((buildAll home fields).run workspace).2
    return if host.grammar.supports .matchAgainst then events ++ more
    else host.lacks .matchAgainst
  | .operation lhs _ rhs, workspace => do
    let events ← operandEvents home host .inside lhs workspace
    return events ++
      (← operandEvents home host .inside rhs ((buildOperand home lhs).run workspace).2)
  | .nested draft, workspace => return Event.carried (← queryHistory home draft workspace)
  | .assign _ draft, workspace =>
    return host.lacks .variables ++ Event.carried (← queryHistory home draft workspace)
  | .cast value _, workspace => operandEvents home host .inside value workspace

/-- The events of a predicate. -/
def predicateEvents (home host : Connection) : PredicateDraft → Workspace → Recall (List Event)
  | .single operand, workspace => operandEvents home host .item operand workspace
  | .pair lhs rhs, workspace => do
    let events ← operandEvents home host .item lhs workspace
    return events ++
      (← operandEvents home host .side rhs ((buildOperand home lhs).run workspace).2)
  | .compare lhs _ rhs, workspace => do
    let events ← operandEvents home host .item lhs workspace
    return events ++
      (← operandEvents home host .item rhs ((buildOperand home lhs).run workspace).2)

/-- The history of a nested query. -/
def queryHistory (home : Connection) : QueryDraft → Workspace → Recall (List Event)
  | .recipe connection model table steps, workspace =>
    let made := (Origin.make home { connection, model, table }).run workspace
    stepsHistory home steps made.1 made.2 []
  | .take name, _ => do
    let history := (← get).past name
    modify (·.name name [])
    return history
  | .clone name, _ => return Event.carried ((← get).past name)

/-- The history of a query after a builder call, from the history before it. -/
def stepHistory (home : Connection) :
    Step → Query → Workspace → List Event → Recall (List Event)
  | .merge draft, _, workspace, history =>
    return history ++ Event.carried (← queryHistory home draft workspace)
  | .parenthesis _ body, query, workspace, history =>
    stepsHistory home body (query.insertToken "(") workspace history
  | .compileOperand draft, query, workspace, history =>
    return history ++ (← operandEvents home query.connection .inside draft workspace)
  | .bindScalar value, query, _, history => return history ++ query.connection.bindings value
  | .compileExpr draft, query, workspace, history =>
    return history ++ (← exprEvents home query.connection draft workspace)
  | .copy kind name, query, workspace, history => do
    match ((kind.make query).run workspace).1 with
    | .ok _ => modify (·.name name (kind.history history))
    | .error _ => pure ()
    return history
  | .select _ columns, query, workspace, history =>
    return history ++ (← allEvents home query.connection .item columns workspace)
  | .selectAs column _, query, workspace, history =>
    return history ++ (← operandEvents home query.connection .item column workspace)
  | .sourceQuery draft _, _, workspace, history =>
    return history ++ Event.carried (← queryHistory home draft workspace)
  | .join kind table label (some body), query, workspace, history =>
    let target := query.escapeAs table label
    if query.isJoined target then return history
    else stepsHistory home body (query.openJoin kind target) workspace history
  | .addTerms _ columns, query, workspace, history =>
    return history ++ (← allEvents home query.connection .item columns workspace)
  | .addOrder column _, query, workspace, history =>
    return history ++ (← operandEvents home query.connection .item column workspace)
  | .union _ draft, _, workspace, history =>
    return history ++ Event.carried (← queryHistory home draft workspace)
  | .addCommonTable _ _ draft, _, workspace, history =>
    return history ++ Event.carried (← queryHistory home draft workspace)
  | .lockForUpdate, query, _, history => return history ++ query.connection.lacks .lockForUpdate
  | .condition _ _ predicate, query, workspace, history =>
    return history ++ (← predicateEvents home query.connection predicate workspace)
  | .filterIn _ lhs values, query, workspace, history => do
    let events ← operandEvents home query.connection .item lhs workspace
    let more ← allEvents home query.connection .inside values
      ((buildOperand home lhs).run workspace).2
    return history ++ if values.isEmpty then [] else events ++ more
  | .conditionGroup connective body, query, workspace, history =>
    stepsHistory home body (query.openGroup connective) workspace history
  | .addExpression keyword lhs comparator rhs, query, workspace, history => do
    let left := (buildOption home lhs).run workspace
    let right := (buildOption home rhs).run left.2
    let events ← optionEvents home query.connection .item lhs workspace
    let more ← optionEvents home query.connection (Edit.rightSlot comparator) rhs left.2
    let made := ((Edit.addExpression keyword left.1 comparator right.1).run query).run right.2
    return history ++ onSuccess made.1.1 (events ++ more)
  | .addPredicate _ predicate, query, workspace, history =>
    return history ++ (← predicateEvents home query.connection predicate workspace)
  | .filterByKey key, query, workspace, history => do
    let built := (buildAll home key).run workspace
    let events ← allEvents home query.connection .side key workspace
    return history ++ onSuccess (((Edit.filterByKey built.1).run query).run built.2).1.1 events
  | .filterByKeys rows, query, workspace, history => do
    let built := (buildRows home rows).run workspace
    let events ← rowsEvents home query.connection query.keySlot rows workspace
    return history ++ onSuccess (((Edit.filterByKeys built.1).run query).run built.2).1.1 events
  | .filterHas relation body, query, workspace, history =>
    match query.relationLink relation with
    | .error _ => return history
    | .ok link => do
      let related := (query.relatedRows link).run workspace
      return history ++ Event.carried (← stepsHistory home body related.1 related.2 [])
  | .values row, query, workspace, history => do
    let built := (buildAll home row).run workspace
    let events ← allEvents home query.connection .item row workspace
    return history ++ onSuccess (((Edit.values built.1).run query).run built.2).1.1 events
  | .assign column value, query, workspace, history => do
    let events ← operandEvents home query.connection .item column workspace
    return history ++ (events ++ (← operandEvents home query.connection .item value
      ((buildOperand home column).run workspace).2))
  | .returning columns, query, workspace, history => do
    let built := (buildAll home columns).run workspace
    let events ← allEvents home query.connection .item columns workspace
    return history ++ onSuccess (((Edit.returning built.1).run query).run built.2).1.1 events
  | _, _, _, history => return history

/-- The history of a query after builder calls in a row, each a chapter of its own. -/
def stepsHistory (home : Connection) :
    List Step → Query → Workspace → List Event → Recall (List Event)
  | [], _, _, history => return history
  | step :: rest, query, workspace, history => do
    let out := ((call home step).run query).run workspace
    let after ← stepHistory home step query workspace history
    modify (·.add { call := ⟨step, query, workspace, out.1.2⟩, before := history, after })
    stepsHistory home rest out.1.2 out.2 after

end

/-- Tells about a command. -/
def Command.tell (home : Connection) : Command → Workspace → Recall Unit
  | .create name _, _ => modify (·.name name [])
  | .on name step, workspace => do
    let found := findQuery home name workspace
    let out := ((call home step).run found.1).run found.2
    let before := (← get).past name
    let after ← stepHistory home step found.1 found.2 before
    modify (·.add { call := ⟨step, found.1, found.2, out.1.2⟩, before, after })
    modify (·.name name after)

/-- Tells about commands in a row. -/
def tellCommands (home : Connection) : List Command → Workspace → Recall Unit
  | [], _ => return
  | command :: rest, workspace => do
    command.tell home workspace
    tellCommands home rest ((command.run home).run workspace).2

/-- What is kept about the run of a program. -/
def Program.annals (program : Program) : Annals :=
  ((tellCommands program.connection program.commands program.start).run {}).2

end SqlBuilder.Script
