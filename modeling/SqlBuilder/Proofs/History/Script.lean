import SqlBuilder.Proofs.History.Annals
import SqlBuilder.Proofs.Nesting.Compile

/-!
# Histories of scripts

Every script keeps annals true. The induction is over drafts and steps together: an operand is built
while its events are told, so a nested query comes with its history when it is taken in, whatever
the depth of the tree that it is a leaf of. What a query has named by the end of a call is known
from then on, so the query can be taken in.
-/

namespace SqlBuilder

open Script

/-- Whether a leaf is a user-defined expression. -/
def Leaf.isCustom {Nested Custom : Type} : Leaf Nested Custom → Bool
  | .custom _ => true
  | _ => false

/-- Leaves without user-defined expressions. -/
abbrev NoneCustom (leaves : List (Leaf QueryDraft CustomDraft)) : Prop :=
  ∀ leaf ∈ leaves, leaf.isCustom = false

/-- Whether a step is given no user-defined expression. -/
def Script.Step.IsPlain (step : Step) : Prop := NoneCustom step.leaves

instance (step : Step) : Decidable step.IsPlain :=
  inferInstanceAs (Decidable (∀ leaf ∈ step.leaves, leaf.isCustom = false))

/-- Whether a call leaves a parameter under a name that its query has counted. -/
def Script.Call.Names (call : Call) (param : Param) : Prop :=
  param ∈ call.result.ledger.params.entries ∧ call.result.ledger.params.Counts param.name

/-- Whether a call is given no user-defined expression, and what it leaves named is known. -/
structure Script.Call.IsPlain (known : Param → Prop) (call : Call) : Prop where
  plain : call.step.IsPlain
  known : ∀ param, call.Names param → known param

/-- Other queries may know all that is shown in the end. -/
theorem Script.Call.IsPlain.settles {known : Param → Prop} {call : Call} {history : List Event}
    (plain : call.IsPlain known) (shows : call.result.ledger.Shows known history) :
    call.result.ledger.Settles known history where
  toShows := shows
  known param mem :=
    (shows.others param mem).elim id fun counted => plain.known param ⟨mem, counted⟩

namespace NoneCustom

variable {leaf : Leaf QueryDraft CustomDraft} {leaves more : List (Leaf QueryDraft CustomDraft)}

theorem left (plain : NoneCustom (leaves ++ more)) : NoneCustom leaves :=
  fun leaf mem => plain leaf (List.mem_append_left _ mem)

theorem right (plain : NoneCustom (leaves ++ more)) : NoneCustom more :=
  fun leaf mem => plain leaf (List.mem_append_right _ mem)

theorem tail (plain : NoneCustom (leaf :: leaves)) : NoneCustom leaves :=
  fun other mem => plain other (List.mem_cons_of_mem _ mem)

theorem of_resolved {draft : Draft} (plain : NoneCustom draft.resolvedLeaves) :
    NoneCustom draft.leaves :=
  (Operand.forall_resolvedLeaves_iff (fun _ => rfl) (fun _ => rfl) draft).1 plain

theorem all_of_resolved {drafts : List Draft}
    (plain : NoneCustom (drafts.flatMap Operand.resolvedLeaves)) :
    NoneCustom (Operand.leavesAll drafts) := by
  induction drafts with
  | nil => exact List.forall_mem_nil _
  | cons draft rest ih =>
      rw [List.flatMap_cons] at plain
      exact List.forall_mem_append.2 ⟨of_resolved plain.left, ih plain.right⟩

end NoneCustom

namespace Script

variable {known : Param → Prop} {home : Connection}

theorem isEmpty_buildAll (drafts : List Draft) (workspace : Workspace) :
    ((buildAll home drafts).run workspace).1.isEmpty = drafts.isEmpty := by
  cases drafts <;> rfl

mutual

theorem buildOperand_tells {host : Connection} (slot : Slot) (draft : Draft) {workspace : Workspace}
    (plain : NoneCustom draft.leaves)
    (calls : ∀ call ∈ operandCalls home draft workspace, call.IsPlain known) :
    Session.Tells known workspace (buildOperand home draft)
      (operandEvents home host slot draft workspace)
      (Operand.Records known host slot) := by
  match draft with
  | .column name => exact .pure (.column name)
  | .raw sql => exact .pure (.raw sql)
  | .scalar value => exact .pure (.scalar value)
  | .backing value => exact .pure (.backing value)
  | .expr expr => exact (buildExpr_tells expr plain calls).wrap fun _ _ => .expr
  | .query draft => exact (buildQuery_tells draft calls).map fun _ _ => .query
  | .custom draft => cases plain _ (List.mem_singleton_self _)

theorem buildAll_tells {host : Connection} (slot : Slot) (drafts : List Draft)
    {workspace : Workspace}
    (plain : NoneCustom (Operand.leavesAll drafts))
    (calls : ∀ call ∈ allCalls home drafts workspace, call.IsPlain known) :
    Session.Tells known workspace (buildAll home drafts) (allEvents home host slot drafts workspace)
      (Operand.RecordsAll known host slot) := by
  match drafts with
  | [] => exact .pure .nil
  | draft :: rest =>
      have calls := List.forall_mem_append.1 calls
      exact (buildOperand_tells slot draft plain.left calls.1).both
        (buildAll_tells slot rest plain.right calls.2) .cons

theorem buildRows_tells {host : Connection} (slot : Slot) (rows : List (List Draft))
    {workspace : Workspace}
    (plain : NoneCustom (rows.flatten.flatMap Operand.resolvedLeaves))
    (calls : ∀ call ∈ rowsCalls home rows workspace, call.IsPlain known) :
    Session.Tells known workspace (buildRows home rows) (rowsEvents home host slot rows workspace)
      (Edit.RecordsRows known host slot) := by
  match rows with
  | [] => exact .pure .nil
  | row :: rest =>
      have calls := List.forall_mem_append.1 calls
      rw [List.flatten_cons, List.flatMap_append] at plain
      exact (buildAll_tells slot row (.all_of_resolved plain.left) calls.1).both
        (buildRows_tells slot rest plain.right calls.2) .cons

theorem buildOrder_tells {host : Connection} (terms : List (Draft × Bool)) {workspace : Workspace}
    (plain : NoneCustom (Operand.leavesOrder terms))
    (calls : ∀ call ∈ orderCalls home terms workspace, call.IsPlain known) :
    Session.Tells known workspace (buildOrder home terms) (orderEvents home host terms workspace)
      (Operand.RecordsOrder known host) := by
  match terms with
  | [] => exact .pure .nil
  | (draft, descends) :: rest =>
      have calls := List.forall_mem_append.1 calls
      exact (buildOperand_tells .inside draft plain.left calls.1).both
        (buildOrder_tells rest plain.right calls.2) .cons

theorem buildOption_tells {host : Connection} (slot : Slot) (draft : Option Draft)
    {workspace : Workspace}
    (plain : NoneCustom (draft.toList.flatMap Operand.resolvedLeaves))
    (calls : ∀ call ∈ optionCalls home draft workspace, call.IsPlain known) :
    Session.Tells known workspace (buildOption home draft)
      (optionEvents home host slot draft workspace)
      (Operand.RecordsOption known host slot) := by
  match draft with
  | none => exact .pure .none
  | some draft =>
      rw [Option.toList_some, List.flatMap_singleton] at plain
      exact (buildOperand_tells slot draft (.of_resolved plain) calls).wrap fun _ _ => .some

theorem buildExpr_tells {host : Connection} (draft : ExprDraft) {workspace : Workspace}
    (plain : NoneCustom draft.leaves)
    (calls : ∀ call ∈ exprCalls home draft workspace, call.IsPlain known) :
    Session.Tells known workspace (buildExpr home draft) (exprEvents home host draft workspace)
      fun expr => Compile.Records known (expr.compile host) := by
  match draft with
  | .between lower upper =>
      have calls := List.forall_mem_append.1 calls
      exact (buildOperand_tells .inside lower plain.left calls.1).both
        (buildOperand_tells .inside upper plain.right calls.2) Expr.records_between
  | .inList values =>
      exact (buildAll_tells .inside values plain calls).wrap fun _ _ => Expr.records_inList
  | .isNull => exact .pure (.pure _)
  | .exists draft =>
      exact (buildQuery_tells draft calls).map fun _ _ settles => .callNested settles _
  | .not inner => exact (buildExpr_tells inner plain calls).wrap fun _ _ => Expr.records_not
  | .call name arguments =>
      exact (buildAll_tells .inside arguments plain.tail calls).wrap fun _ _ =>
        Expr.records_call name
  | .aggregate name arguments distinct =>
      exact (buildAll_tells .inside arguments plain.tail calls).wrap fun _ _ =>
        Expr.records_aggregate name distinct
  | .groupConcat value distinct order separator limit offset =>
      have calls := List.forall_mem_append.1 calls
      exact (buildOperand_tells .inside value plain.left calls.1).both
        (buildOrder_tells order plain.right calls.2) fun value terms =>
          Expr.records_groupConcat value distinct terms separator limit offset
  | .ifElse condition yes no =>
      obtain ⟨calls, others⟩ := List.forall_mem_append.1 calls
      obtain ⟨calls', calls''⟩ := List.forall_mem_append.1 others
      have parts : NoneCustom (yes.leaves ++ no.leaves) := plain.right
      refine (buildOperand_tells .inside condition plain.left calls).bind fun _ _ test => ?_
      exact (buildOperand_tells .inside yes parts.left calls').both
        (buildOperand_tells .inside no parts.right calls'') (Expr.records_ifElse test)
  | .ifNull value fallback =>
      have calls := List.forall_mem_append.1 calls
      exact (buildOperand_tells .inside value plain.left calls.1).both
        (buildOperand_tells .inside fallback plain.right calls.2) Expr.records_ifNull
  | .nullIf value other =>
      have calls := List.forall_mem_append.1 calls
      exact (buildOperand_tells .inside value plain.left calls.1).both
        (buildOperand_tells .inside other plain.right calls.2) Expr.records_nullIf
  | .matchAgainst fields search booleanMode queryExpansion =>
      have calls := List.forall_mem_append.1 calls
      exact (buildAll_tells .inside fields plain.left calls.1).both
        (buildOperand_tells .inside search plain.right calls.2) fun fields search =>
          Expr.records_matchAgainst fields search booleanMode queryExpansion
  | .operation lhs operator rhs =>
      have calls := List.forall_mem_append.1 calls
      have parts : NoneCustom (lhs.leaves ++ rhs.leaves) := plain.tail
      exact (buildOperand_tells .inside lhs parts.left calls.1).both
        (buildOperand_tells .inside rhs parts.right calls.2) (Expr.records_operation operator)
  | .nested draft =>
      exact (buildQuery_tells draft calls).map fun _ _ settles => .callNested settles _
  | .assign name draft =>
      exact (buildQuery_tells draft calls).map fun _ _ => Expr.records_assign name
  | .cast value type =>
      exact (buildOperand_tells .inside value plain.tail calls).wrap fun _ _ =>
        Expr.records_cast type

theorem buildPredicate_tells {host : Connection} (draft : PredicateDraft) {workspace : Workspace}
    (plain : NoneCustom draft.leaves)
    (calls : ∀ call ∈ predicateCalls home draft workspace, call.IsPlain known) :
    Session.Tells known workspace (buildPredicate home draft)
      (predicateEvents home host draft workspace)
      (Predicate.Records known host) := by
  have parts := (Predicate.forall_leaves_iff (fun _ => rfl) (fun _ => rfl) draft).1 plain
  match draft with
  | .single operand =>
      exact (buildOperand_tells .item operand parts calls).wrap fun _ _ => .single
  | .pair lhs rhs =>
      have calls := List.forall_mem_append.1 calls
      exact (buildOperand_tells .item lhs parts.1 calls.1).both
        (buildOperand_tells .side rhs parts.2 calls.2) .pair
  | .compare lhs comparator rhs =>
      have calls := List.forall_mem_append.1 calls
      exact (buildOperand_tells .item lhs parts.2.1 calls.1).both
        (buildOperand_tells .item rhs parts.2.2 calls.2) (.compare · comparator ·)

theorem buildQuery_tells (draft : QueryDraft) {workspace : Workspace}
    (calls : ∀ call ∈ queryCalls home draft workspace, call.IsPlain known) :
    Session.Tells.TellsQuery known workspace (buildQuery home draft)
      (queryHistory home draft workspace) := by
  match draft with
  | .recipe connection model table steps =>
      exact .recipe home { connection, model, table } (runSteps_settles steps calls)
  | .take name => exact .take home name workspace
  | .clone name => exact .cloneNamed home name workspace

/-- What a builder call lists is added to the history of its query. -/
theorem call_tells (step : Step) {query : Query} {workspace : Workspace} {history : List Event}
    (plain : step.IsPlain)
    (calls : ∀ call ∈ innerCalls home step query workspace, call.IsPlain known) :
    Edit.Tells known query workspace history (call home step)
      (stepHistory home step query workspace history) := by
  have plain : NoneCustom step.leaves := plain
  match step with
  | .add fragment =>
      exact .change (.of_rearranges (.add query fragment))
  | .removeClause keyword => exact .change (.removeClause query keyword)
  | .replaceClause keyword replacement => exact .replaceClause keyword replacement
  | .merge draft =>
      refine .builtWith Event.carried (buildQuery_tells draft calls) fun _ settles => ?_
      exact Edit.Records.modify (fun query => .merge query settles) query _ rfl
  | .parenthesis pull body =>
      exact .returning (.parenthesis pull (runSteps_settles body calls).tells) fun _ => ⟨_, rfl⟩
  | .raw sql => exact .change (.of_ledger rfl rfl)
  | .bindModel model => exact .change (.of_ledger rfl rfl)
  | .view view => exact .nothing ⟨.of_ledger rfl rfl, rfl⟩
  | .compileOperand draft =>
      refine .built (buildOperand_tells .inside draft plain calls) fun _ records => ?_
      exact Edit.Records.compiling records.compiles query _ rfl
  | .bindScalar value =>
      have bound : Edit.Records known query.connection (Edit.compiling fun connection =>
          modifyGet (Ledger.bind connection value)) (query.connection.bindings value) :=
        .compiling (.bindValue query.connection value)
      exact .lists (bound query workspace rfl)
  | .compileExpr draft =>
      refine .built (buildExpr_tells draft plain calls) fun _ records => ?_
      exact Edit.Records.compiling records query _ rfl
  | .copy kind name => exact .get_bind (.copy kind name)
  | .select distinct columns =>
      refine .built (buildAll_tells .item columns plain.all_of_resolved calls) fun _ all => ?_
      exact Edit.Records.select distinct all query _ rfl
  | .selectAs column label =>
      refine .built (buildOperand_tells .item column plain.of_resolved calls) fun _ records => ?_
      exact Edit.Records.selectAs records label query _ rfl
  | .selectRaw sql =>
      exact .change (.of_rearranges (.add query _))
  | .source table label => exact .change (.setText query "from" _)
  | .sourceQuery draft label =>
      refine .builtWith Event.carried (buildQuery_tells draft calls) fun _ settles => ?_
      exact Edit.Records.sourceQuery settles label query _ rfl
  | .join kind table label none =>
      have joined : Edit.Tells known query workspace history
          (Edit.join kind table label (return ())) _ := .join kind table label fun _ => .pure ()
      rw [ite_self] at joined
      exact joined.returning fun _ => ⟨_, rfl⟩
  | .join kind table label (some body) =>
      refine .returning (.join kind table label fun absent => (runSteps_settles body ?_).tells)
        fun reports => ?_
      · simpa [innerCalls, absent] using calls
      · cases reports <;> exact ⟨_, rfl⟩
  | .addTerms clause columns =>
      refine .built (buildAll_tells .item columns plain.all_of_resolved calls) fun _ all => ?_
      exact Edit.Records.addTerms clause all query _ rfl
  | .addOrder column descends =>
      refine .built (buildOperand_tells .item column plain.of_resolved calls) fun _ records => ?_
      exact Edit.Records.addOrder records descends query _ rfl
  | .addOrderRaw sql => exact .change (.addTerm query "order by" sql)
  | .limit count => exact .change (.setText query "limit" _)
  | .offset count => exact .change (.setText query "offset" _)
  | .paginate request =>
      exact .change ((Query.Lists.setText query "limit" _).before (.setText _ "offset" _))
  | .union keepsDuplicates draft =>
      refine .builtWith Event.carried (buildQuery_tells draft calls) fun _ settles => ?_
      exact Edit.Records.modify (fun query => .union query keepsDuplicates settles) query _ rfl
  | .addCommonTable isRecursive name draft =>
      refine .builtWith Event.carried (buildQuery_tells draft calls) fun _ settles => ?_
      exact Edit.Records.addCommonTable isRecursive name settles query _ rfl
  | .lockForUpdate => exact .lists (Edit.Records.lockForUpdate query workspace rfl)
  | .condition clause connective predicate =>
      refine .built (buildPredicate_tells predicate plain calls) fun _ records => ?_
      exact Edit.Records.condition clause connective records query _ rfl
  | .filterIn negated lhs values =>
      have calls := List.forall_mem_append.1 calls
      have left : NoneCustom lhs.resolvedLeaves := plain.left
      refine .builtTwo (fun events more => if values.isEmpty then [] else events ++ more)
        (buildOperand_tells .item lhs left.of_resolved calls.1)
        (buildAll_tells .inside values plain.right calls.2) fun _ _ left all => ?_
      have listed := Edit.Records.filterIn negated left all
      rw [isEmpty_buildAll] at listed
      exact listed query _ rfl
  | .conditionGroup connective body =>
      exact .returning (.conditionGroup connective (runSteps_settles body calls).tells)
        fun _ => ⟨_, rfl⟩
  | .addExpression keyword lhs comparator rhs =>
      have calls := List.forall_mem_append.1 calls
      have parts : NoneCustom _ := plain.tail
      exact .builtTwo (fun events more => onSuccess _ (events ++ more))
        (buildOption_tells .item lhs parts.left calls.1)
        (buildOption_tells (Edit.rightSlot comparator) rhs parts.right.right calls.2)
        fun _ _ left right => Edit.lists_addExpression keyword left right _
  | .addPredicate keyword predicate =>
      refine .built (buildPredicate_tells predicate plain.tail calls) fun _ records => ?_
      exact Edit.Records.addPredicate keyword records query _ rfl
  | .filterByKey key =>
      exact .builtWith (onSuccess _) (buildAll_tells .side key plain.all_of_resolved calls)
        fun _ all => Edit.lists_filterByKey all _
  | .filterByKeys rows =>
      exact .builtWith (onSuccess _) (buildRows_tells query.keySlot rows plain calls)
        fun _ all => Edit.lists_filterByKeys all _
  | .filterHas relation body =>
      refine .returning (.filterHas relation
        (fun related => stepsHistory home body related.1 related.2 []) fun link found =>
          runSteps_settles body ?_) fun _ => ⟨_, rfl⟩
      simpa [innerCalls, found] using calls
  | .insertInto replaces table columns =>
      exact .attempt fun changed inserted => .insertInto inserted
  | .values row =>
      exact .builtWith (onSuccess _) (buildAll_tells .item row plain.all_of_resolved calls)
        fun _ all => Edit.lists_values all _
  | .update table => exact .change (.addText query "update" _)
  | .assign column value =>
      have calls := List.forall_mem_append.1 calls
      have left : NoneCustom column.resolvedLeaves := plain.left
      have right : NoneCustom value.resolvedLeaves := plain.right
      refine .builtTwo (· ++ ·) (buildOperand_tells .item column left.of_resolved calls.1)
        (buildOperand_tells .item value right.of_resolved calls.2) fun _ _ left right => ?_
      exact Edit.Records.assign left right query _ rfl
  | .assignRaw column sql => exact .change (.addTerm query "set" _)
  | .deleteFrom table => exact .change (.addText query "delete from" _)
  | .onConflictUpdate conflict columns =>
      exact .attempt fun changed updated => .onConflictUpdate updated
  | .onConflictDoNothing conflict =>
      exact .attempt fun changed updated => .onConflictDoNothing updated
  | .returning columns =>
      exact .builtWith (onSuccess _) (buildAll_tells .item columns plain.all_of_resolved calls)
        fun _ all => Edit.lists_returning all _
  | .fetch kind responses =>
      exact .get_bind (.returning (.fetch kind responses.toExecutor) fun _ => ⟨_, rfl⟩)

/-- Builder calls in a row add to the history of their query, each a chapter of its own. -/
theorem runSteps_settles (steps : List Step) {query : Query} {workspace : Workspace}
    {history : List Event}
    (calls : ∀ call ∈ stepsCalls home steps query workspace, call.IsPlain known) :
    Edit.Settles known query workspace history (runSteps home steps)
      (stepsHistory home steps query workspace history) := by
  match steps with
  | [] => exact fun _ settled fits => ⟨fits, settled, List.prefix_rfl⟩
  | step :: rest =>
      obtain ⟨own, others⟩ := List.forall_mem_cons.1 calls
      obtain ⟨inner, after⟩ := List.forall_mem_append.1 others
      intro annals settled fits
      obtain ⟨between, shows, grows⟩ := call_tells step own.plain inner annals settled fits
      have settled' := own.settles shows
      have isTrue : Chapter.IsTrue known
          { call := ⟨step, query, workspace, _⟩, before := history, after := _ } :=
        ⟨settled, settled', grows⟩
      obtain ⟨last, settled'', more⟩ := runSteps_settles rest after _ settled' (between.add isTrue)
      exact ⟨last, settled'', grows.trans more⟩

end

/-! ### Programs -/

theorem Command.run_tells (command : Command) {workspace : Workspace}
    (calls : ∀ call ∈ command.calls home workspace, call.IsPlain known) :
    Session.Tells known workspace (command.run home) (command.tell home workspace)
      fun _ _ => True := by
  match command with
  | .create name origin =>
      intro annals fits
      have grown := Workspace.Sound.grown_of_made
        (Query.Made.make workspace (fun _ => []) home origin)
      exact ⟨(fits.grown grown).name name (origin.settles_make known home workspace), trivial⟩
  | .on name step =>
      obtain ⟨own, inner⟩ := List.forall_mem_cons.1 calls
      intro annals fits
      have found : annals.Fits known (findQuery home name workspace).2 ∧
          (findQuery home name workspace).1.ledger.Settles known (annals.past name) := by
        unfold findQuery
        cases asked : workspace.get? name with
        | some query => exact ⟨fits, fits.named name query asked⟩
        | none =>
            refine ⟨fits.grown ⟨rfl, Nat.le_succ _, rfl⟩, ?_⟩
            rw [fits.absent name asked]
            exact Query.settles_new known home workspace
      obtain ⟨between, shows, grows⟩ := call_tells step own.plain inner annals found.2 found.1
      have settled := own.settles shows
      have isTrue : Chapter.IsTrue known
          { call := ⟨step, (findQuery home name workspace).1, (findQuery home name workspace).2, _⟩
            before := annals.past name
            after := _ } := ⟨found.2, settled, grows⟩
      rw [Command.run_on]
      exact ⟨(between.add isTrue).name name settled, trivial⟩

theorem runCommands_tells (commands : List Command) {workspace : Workspace}
    (calls : ∀ call ∈ commandsCalls home commands workspace, call.IsPlain known) :
    Session.Tells known workspace (runCommands home commands) (tellCommands home commands workspace)
      fun _ _ => True := by
  induction commands generalizing workspace with
  | nil => exact .pure trivial
  | cons command rest ih =>
      obtain ⟨own, others⟩ := List.forall_mem_append.1 calls
      intro annals fits
      obtain ⟨between, -⟩ := command.run_tells own annals fits
      exact ih others _ between

/-- Whether a builder call of a program has named a parameter. -/
def Program.Names (program : Program) (param : Param) : Prop :=
  ∃ call ∈ program.calls, call.Names param

/-- The annals of a program are true, and tell about all queries that it leaves. -/
theorem Program.annals_fit (program : Program)
    (plain : ∀ call ∈ program.calls, call.step.IsPlain) :
    program.annals.Fits program.Names program.run.2 := by
  have known : ∀ call ∈ program.calls, call.IsPlain program.Names := fun call mem =>
    ⟨plain call mem, fun param names => ⟨call, mem, names⟩⟩
  have begun : Annals.Fits program.Names {} program.start := by
    have made := Origin.settles_make program.Names program.connection { model := program.model } {}
    have grown := Workspace.Sound.grown_of_made (Query.Made.make {} (fun _ => [])
      program.connection { model := program.model })
    have start (name : String) : program.start.get? name =
        if name = firstName then some ((Origin.make program.connection
          { model := program.model }).run {}).1 else none := by
      change (Workspace.insert ((Origin.make program.connection
        { model := program.model }).run {}).2 firstName _).get? name = _
      rw [Workspace.get?_insert, Workspace.get?, grown.queries]
      rfl
    refine ⟨fun name query found => ?_, fun _ _ => rfl, List.forall_mem_nil _⟩
    rw [start] at found
    split at found
    case isTrue =>
      obtain rfl := Option.some.inj found
      exact made
    case isFalse => cases found
  exact (runCommands_tells program.commands known {} begun).1

end Script

end SqlBuilder
