import SqlBuilder.Proofs.Expr.Leaf
import SqlBuilder.Proofs.Query.Condition
import SqlBuilder.Proofs.Script.Preservation

/-!
# The builder calls of a script

All builder calls that a script makes, in callbacks and nested queries as well, each with the query
and the workspace that it finds and the query that it leaves. What a statement about every moment of
a run is about is a statement about this list. User-defined expressions are not looked into.
-/

namespace SqlBuilder.Script

/-- A builder call with what it finds, and the query that it leaves. -/
structure Call where
  step : Step
  query : Query
  workspace : Workspace
  result : Query

mutual

/-- The calls that are made to build an operand. -/
def operandCalls (home : Connection) : Draft → Workspace → List Call
  | .expr expr, workspace => exprCalls home expr workspace
  | .query draft, workspace => queryCalls home draft workspace
  | .column _, _ | .raw _, _ | .scalar _, _ | .backing _, _ | .custom _, _ => []

/-- The calls that are made to build operands from left to right. -/
def allCalls (home : Connection) : List Draft → Workspace → List Call
  | [], _ => []
  | draft :: rest, workspace =>
    operandCalls home draft workspace ++
      allCalls home rest ((buildOperand home draft).run workspace).2

/-- The calls that are made to build rows of operands. -/
def rowsCalls (home : Connection) : List (List Draft) → Workspace → List Call
  | [], _ => []
  | row :: rest, workspace =>
    allCalls home row workspace ++ rowsCalls home rest ((buildAll home row).run workspace).2

/-- The calls that are made to build the terms of an order. -/
def orderCalls (home : Connection) : List (Draft × Bool) → Workspace → List Call
  | [], _ => []
  | (draft, _) :: rest, workspace =>
    operandCalls home draft workspace ++
      orderCalls home rest ((buildOperand home draft).run workspace).2

/-- The calls that are made to build an operand that may be absent. -/
def optionCalls (home : Connection) : Option Draft → Workspace → List Call
  | none, _ => []
  | some draft, workspace => operandCalls home draft workspace

/-- The calls that are made to build an expression. -/
def exprCalls (home : Connection) : ExprDraft → Workspace → List Call
  | .between lower upper, workspace =>
    operandCalls home lower workspace ++
      operandCalls home upper ((buildOperand home lower).run workspace).2
  | .inList values, workspace => allCalls home values workspace
  | .isNull, _ => []
  | .exists draft, workspace => queryCalls home draft workspace
  | .not inner, workspace => exprCalls home inner workspace
  | .call _ arguments, workspace => allCalls home arguments workspace
  | .aggregate _ arguments _, workspace => allCalls home arguments workspace
  | .groupConcat value _ order _ _ _, workspace =>
    operandCalls home value workspace ++
      orderCalls home order ((buildOperand home value).run workspace).2
  | .ifElse condition yes no, workspace =>
    let second := ((buildOperand home condition).run workspace).2
    operandCalls home condition workspace ++ (operandCalls home yes second ++
      operandCalls home no ((buildOperand home yes).run second).2)
  | .ifNull value fallback, workspace =>
    operandCalls home value workspace ++
      operandCalls home fallback ((buildOperand home value).run workspace).2
  | .nullIf value other, workspace =>
    operandCalls home value workspace ++
      operandCalls home other ((buildOperand home value).run workspace).2
  | .matchAgainst fields search _ _, workspace =>
    allCalls home fields workspace ++
      operandCalls home search ((buildAll home fields).run workspace).2
  | .operation lhs _ rhs, workspace =>
    operandCalls home lhs workspace ++
      operandCalls home rhs ((buildOperand home lhs).run workspace).2
  | .nested draft, workspace => queryCalls home draft workspace
  | .assign _ draft, workspace => queryCalls home draft workspace
  | .cast value _, workspace => operandCalls home value workspace

/-- The calls that are made to build a predicate. -/
def predicateCalls (home : Connection) : PredicateDraft → Workspace → List Call
  | .single operand, workspace => operandCalls home operand workspace
  | .pair lhs rhs, workspace =>
    operandCalls home lhs workspace ++
      operandCalls home rhs ((buildOperand home lhs).run workspace).2
  | .compare lhs _ rhs, workspace =>
    operandCalls home lhs workspace ++
      operandCalls home rhs ((buildOperand home lhs).run workspace).2

/-- The calls that are made to build a nested query. -/
def queryCalls (home : Connection) : QueryDraft → Workspace → List Call
  | .recipe connection model table steps, workspace =>
    let made := (Origin.make home { connection, model, table }).run workspace
    stepsCalls home steps made.1 made.2
  | .take _, _ | .clone _, _ => []

/-- The calls that a builder call makes in turn. -/
def innerCalls (home : Connection) : Step → Query → Workspace → List Call
  | .merge draft, _, workspace => queryCalls home draft workspace
  | .parenthesis _ body, query, workspace =>
    stepsCalls home body (query.insertToken "(") workspace
  | .compileOperand draft, _, workspace => operandCalls home draft workspace
  | .compileExpr draft, _, workspace => exprCalls home draft workspace
  | .select _ columns, _, workspace => allCalls home columns workspace
  | .selectAs column _, _, workspace => operandCalls home column workspace
  | .sourceQuery draft _, _, workspace => queryCalls home draft workspace
  | .join kind table label (some body), query, workspace =>
    if query.isJoined (query.escapeAs table label) then []
    else stepsCalls home body (query.openJoin kind (query.escapeAs table label)) workspace
  | .addTerms _ columns, _, workspace => allCalls home columns workspace
  | .addOrder column _, _, workspace => operandCalls home column workspace
  | .union _ draft, _, workspace => queryCalls home draft workspace
  | .addCommonTable _ _ draft, _, workspace => queryCalls home draft workspace
  | .condition _ _ predicate, _, workspace => predicateCalls home predicate workspace
  | .filterIn _ lhs values, _, workspace =>
    operandCalls home lhs workspace ++
      allCalls home values ((buildOperand home lhs).run workspace).2
  | .conditionGroup connective body, query, workspace =>
    stepsCalls home body (query.openGroup connective) workspace
  | .addExpression _ lhs _ rhs, _, workspace =>
    optionCalls home lhs workspace ++
      optionCalls home rhs ((buildOption home lhs).run workspace).2
  | .addPredicate _ predicate, _, workspace => predicateCalls home predicate workspace
  | .filterByKey values, _, workspace => allCalls home values workspace
  | .filterByKeys rows, _, workspace => rowsCalls home rows workspace
  | .filterHas relation body, query, workspace =>
    match query.relationLink relation with
    | .error _ => []
    | .ok link =>
      let related := (query.relatedRows link).run workspace
      stepsCalls home body related.1 related.2
  | .values row, _, workspace => allCalls home row workspace
  | .assign column value, _, workspace =>
    operandCalls home column workspace ++
      operandCalls home value ((buildOperand home column).run workspace).2
  | .returning columns, _, workspace => allCalls home columns workspace
  | _, _, _ => []

/-- The calls that steps in a row make: each step itself, and the calls that it makes in turn. -/
def stepsCalls (home : Connection) : List Step → Query → Workspace → List Call
  | [], _, _ => []
  | step :: rest, query, workspace =>
    let out := ((call home step).run query).run workspace
    ⟨step, query, workspace, out.1.2⟩ :: (innerCalls home step query workspace ++
      stepsCalls home rest out.1.2 out.2)

end

/-- The query that a command finds under a name; a name that no query has stands for a new one. -/
def findQuery (home : Connection) (name : String) (workspace : Workspace) : Query × Workspace :=
  match workspace.get? name with
  | some query => (query, workspace)
  | none => (Query.new home).run workspace

/-- The calls of a command. -/
def Command.calls (home : Connection) : Command → Workspace → List Call
  | .create _ _, _ => []
  | .on name step, workspace =>
    let found := findQuery home name workspace
    let out := ((call home step).run found.1).run found.2
    ⟨step, found.1, found.2, out.1.2⟩ :: innerCalls home step found.1 found.2

/-- The calls of commands in a row. -/
def commandsCalls (home : Connection) : List Command → Workspace → List Call
  | [], _ => []
  | command :: rest, workspace =>
    command.calls home workspace ++
      commandsCalls home rest ((command.run home).run workspace).2

/-- The workspace in which the commands of a program start. -/
def Program.start (program : Program) : Workspace :=
  let made := (Origin.make program.connection { model := program.model }).run {}
  made.2.insert firstName made.1

/-- All builder calls of a program. -/
def Program.calls (program : Program) : List Call :=
  commandsCalls program.connection program.commands program.start

/-- All queries that the builder calls of a program find or leave. -/
def Program.queries (program : Program) : List Query :=
  program.calls.flatMap fun call => [call.query, call.result]

theorem Command.run_on (home : Connection) (name : String) (step : Step) (workspace : Workspace) :
    (Command.run home (.on name step)).run workspace =
      let found := findQuery home name workspace
      let out := ((call home step).run found.1).run found.2
      (out.1.1.seen out.1.2, out.2.insert name out.1.2) := by
  unfold findQuery Command.run
  simp only [StateT.run_bind, StateT.run_get, pure_bind]
  cases workspace.get? name <;> rfl

theorem Program.run_eq (program : Program) :
    program.run = (runCommands program.connection program.commands).run program.start := rfl

/-! ### What calls are made of -/

/-- The connection that a nested query asks for. -/
def QueryDraft.connection? : QueryDraft → Option Connection
  | .recipe connection _ _ _ => connection
  | .take _ | .clone _ => none

/-- The leaves of the arguments of a builder call: verbatim SQL, bound values, nested queries and
user-defined expressions. -/
def Step.leaves : Step → List (Leaf QueryDraft CustomDraft)
  | .merge draft => [.nested draft]
  | .raw sql => [.verbatim sql]
  | .compileOperand draft => draft.leaves
  | .bindScalar value => [.bound value]
  | .compileExpr draft => draft.leaves
  | .select _ columns => columns.flatMap Operand.resolvedLeaves
  | .selectAs column _ => column.resolvedLeaves
  | .selectRaw sql => [.verbatim sql]
  | .sourceQuery draft _ => [.nested draft]
  | .addTerms _ columns => columns.flatMap Operand.resolvedLeaves
  | .addOrder column _ => column.resolvedLeaves
  | .addOrderRaw sql => [.verbatim sql]
  | .union _ draft => [.nested draft]
  | .addCommonTable _ _ draft => [.nested draft]
  | .condition _ _ predicate => predicate.leaves
  | .filterIn _ lhs list => lhs.resolvedLeaves ++ Operand.leavesAll list
  | .addExpression keyword lhs comparator rhs =>
    .verbatim keyword :: (lhs.toList.flatMap Operand.resolvedLeaves ++
      (comparator.toList.map Leaf.verbatim ++ rhs.toList.flatMap Operand.resolvedLeaves))
  | .addPredicate keyword predicate => .verbatim keyword :: predicate.leaves
  | .filterByKey keys => keys.flatMap Operand.resolvedLeaves
  | .filterByKeys rows => rows.flatten.flatMap Operand.resolvedLeaves
  | .values row => row.flatMap Operand.resolvedLeaves
  | .assign column value => column.resolvedLeaves ++ value.resolvedLeaves
  | .assignRaw _ sql => [.verbatim sql]
  | .returning columns => columns.flatMap Operand.resolvedLeaves
  | _ => []

/-- Whether a builder call places or replaces a fragment as it is. -/
def Step.placesFragment : Step → Bool
  | .add _ | .replaceClause _ _ => true
  | _ => false

/-- The predicate that parts make, if they make one. -/
def predicateOf? {Nested Custom : Type} :
    Option (Operand Nested Custom) → Option String → Option (Operand Nested Custom) →
      Option (Predicate Nested Custom)
  | some lhs, none, none => some (.single lhs)
  | some lhs, none, some rhs => some (.pair lhs rhs)
  | some lhs, some comparator, some rhs => some (.compare lhs comparator rhs)
  | _, _, _ => none

/-- The leaves of the items that a builder call adds to a select list, as they are built. -/
def Call.itemLeaves (home : Connection) (call : Call) : List (Leaf Query CustomExpr) :=
  match call.step with
  | .select _ columns =>
    ((buildAll home columns).run call.workspace).1.flatMap Operand.resolvedLeaves
  | .selectAs column _ => ((buildOperand home column).run call.workspace).1.resolvedLeaves
  | .addPredicate keyword predicate =>
    if isSelectKeyword keyword then
      ((buildPredicate home predicate).run call.workspace).1.leaves
    else []
  | .addExpression keyword lhs comparator rhs =>
    let first := (buildOption home lhs).run call.workspace
    let second := (buildOption home rhs).run first.2
    if isSelectKeyword keyword then
      ((predicateOf? first.1 comparator second.1).map Predicate.leaves).getD []
    else []
  | _ => []

/-- Whether a builder call is given a value. -/
def Step.Gives (step : Step) (value : Scalar) : Prop :=
  ∃ leaf ∈ step.leaves, leaf.scalar? = some value

/-- Whether verbatim SQL has certain characters only, values are certain values only and nested
queries ask for certain connections only. Nothing may be user-defined. -/
def Within (character : Char → Bool) (values : Scalar → Prop) (connections : Connection → Prop) :
    Leaf QueryDraft CustomDraft → Prop
  | .verbatim text => ∀ c ∈ text.toList, character c = true
  | .bound value | .literal value => values value
  | .nested draft => ∀ connection ∈ draft.connection?, connections connection
  | .custom _ => False

/-- Whether a builder call places no fragment as it is, and its arguments are within bounds. -/
structure Step.Within (character : Char → Bool) (connections : Connection → Prop) (step : Step) :
    Prop where
  placed : step.placesFragment = false
  leaves : ∀ leaf ∈ step.leaves, Script.Within character (fun _ => True) connections leaf

/-- Whether a builder call of a program is given a value. -/
def Program.Gives (program : Program) (value : Scalar) : Prop :=
  ∃ call ∈ program.calls, call.step.Gives value

/-- The connection that a command asks for. -/
def Command.connection? : Command → Option Connection
  | .create _ origin => origin.connection
  | .on _ _ => none

/-- Whether all builder calls of a program are within bounds, and the connections that its commands
ask for. -/
structure Program.Within (character : Char → Bool) (connections : Connection → Prop)
    (program : Program) : Prop where
  commands : ∀ command ∈ program.commands, ∀ connection ∈ command.connection?,
    connections connection
  calls : ∀ call ∈ program.calls, call.step.Within character connections

/-- Values are within bounds if they are among those that are given. -/
theorem Within.giving {character : Char → Bool} {values : Scalar → Prop}
    {connections : Connection → Prop} {leaf : Leaf QueryDraft CustomDraft}
    (within : Within character (fun _ => True) connections leaf)
    (given : ∀ value, leaf.scalar? = some value → values value) :
    Within character values connections leaf := by
  cases leaf with
  | verbatim text => exact within
  | bound value => exact given value rfl
  | literal value => exact given value rfl
  | nested draft => exact within
  | custom draft => exact within

theorem Within.imp {character wider : Char → Bool} {values : Scalar → Prop}
    {connections more : Connection → Prop} {leaf : Leaf QueryDraft CustomDraft}
    (within : Within character values connections leaf)
    (characters : ∀ c, character c = true → wider c = true)
    (allowed : ∀ connection, connections connection → more connection) :
    Within wider values more leaf := by
  cases leaf with
  | verbatim text => exact fun c mem => characters c (within c mem)
  | bound value => exact within
  | literal value => exact within
  | nested draft => exact fun connection mem => allowed connection (within connection mem)
  | custom draft => exact within

theorem Program.Within.imp {character wider : Char → Bool} {connections more : Connection → Prop}
    {program : Program} (within : program.Within character connections)
    (characters : ∀ c, character c = true → wider c = true)
    (allowed : ∀ connection, connections connection → more connection) :
    program.Within wider more where
  commands command mem connection asked := allowed connection
    (within.commands command mem connection asked)
  calls call mem :=
    { placed := (within.calls call mem).placed
      leaves := fun leaf leaf_mem =>
        ((within.calls call mem).leaves leaf leaf_mem).imp characters allowed }

/-- Whether a leaf binds nothing. -/
def bindsNothing : Leaf Query CustomExpr → Prop
  | .verbatim _ => True
  | .literal _ => True
  | .bound _ => False
  | .nested query => query.params = []
  | .custom _ => False

end SqlBuilder.Script
