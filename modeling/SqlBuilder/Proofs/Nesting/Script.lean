import SqlBuilder.Proofs.Nesting.Edit
import SqlBuilder.Proofs.Script.Calls
import SqlBuilder.Proofs.Twin.Make

/-!
# Programs whose texts are closed

In every query that a program leaves, quoted spans end and parentheses are balanced. A program may
put verbatim SQL without quotes and parentheses wherever verbatim SQL goes, and any names and
values. Callbacks of groups and joins add conditions and groups only, since anything else could end
up on one side of a parenthesis that is still open.

The induction is over drafts and steps together. Every nested query is made by steps of its own, so
it is sealed when it is embedded, whatever the depth of the tree that it is a leaf of.
-/

namespace SqlBuilder

open Nesting Script

namespace Script

/-- Whether a step adds nothing to its query but conditions and groups. -/
def Step.addsConditions : Step → Bool
  | .condition _ _ _ | .filterIn _ _ _ | .filterByKey _ | .filterByKeys _ | .filterHas _ _ => true
  | .conditionGroup _ _ | .parenthesis _ _ => true
  | .view _ | .bindModel _ | .compileOperand _ | .bindScalar _ | .compileExpr _ | .fetch _ _ => true
  | _ => false

/-- Whether a step places no fragment as it is, adds predicates to clauses only, removes no
parenthesis and no conditions, and adds nothing but conditions inside groups and joins. -/
def Step.staysBalanced : Step → Bool
  | .add _ | .replaceClause _ _ | .addPredicate _ _ | .addExpression _ _ _ _ => false
  | .removeClause keyword => !groupKeywords.contains keyword
  | .conditionGroup _ body | .parenthesis _ body | .join _ _ _ (some body) =>
    body.all (·.addsConditions)
  | _ => true

end Script

variable {dialect : Dialect} {home : Connection}

/-- Leaves of drafts without quotes and parentheses of their own. -/
abbrev BareLeaves (dialect : Dialect) (leaves : List (Leaf QueryDraft CustomDraft)) : Prop :=
  ∀ leaf ∈ leaves, Within isBare (fun _ => True) (Connection.Speaks dialect) leaf

/-- Whether a step stays balanced, with verbatim SQL that has no quotes and no parentheses. -/
structure Script.Step.Tidy (dialect : Dialect) (step : Step) : Prop where
  balanced : step.staysBalanced = true
  leaves : BareLeaves dialect step.leaves

namespace BareLeaves

variable {leaf : Leaf QueryDraft CustomDraft} {leaves more : List (Leaf QueryDraft CustomDraft)}

theorem left (bare : BareLeaves dialect (leaves ++ more)) : BareLeaves dialect leaves :=
  fun leaf mem => bare leaf (List.mem_append_left _ mem)

theorem right (bare : BareLeaves dialect (leaves ++ more)) : BareLeaves dialect more :=
  fun leaf mem => bare leaf (List.mem_append_right _ mem)

theorem tail (bare : BareLeaves dialect (leaf :: leaves)) : BareLeaves dialect leaves :=
  fun other mem => bare other (List.mem_cons_of_mem _ mem)

theorem verbatim {text : String} (bare : BareLeaves dialect (.verbatim text :: leaves)) :
    dialect.Closed text :=
  .of_bare (bare (.verbatim text) List.mem_cons_self)

theorem of_resolved {draft : Draft} (bare : BareLeaves dialect draft.resolvedLeaves) :
    BareLeaves dialect draft.leaves :=
  (Operand.forall_resolvedLeaves_iff (fun _ => trivial) (fun _ => trivial) draft).1 bare

theorem all_of_resolved {drafts : List Draft}
    (bare : BareLeaves dialect (drafts.flatMap Operand.resolvedLeaves)) :
    BareLeaves dialect (Operand.leavesAll drafts) := by
  induction drafts with
  | nil =>
      intro leaf mem
      cases mem
  | cons draft rest ih =>
      rw [List.flatMap_cons] at bare
      exact List.forall_mem_append.2 ⟨of_resolved bare.left, ih bare.right⟩

end BareLeaves

theorem ClosedLeaves.nil : ClosedLeaves dialect [] := by
  intro leaf mem
  cases mem

theorem ClosedLeaves.append {leaves more : List (Leaf Query CustomExpr)}
    (closed : ClosedLeaves dialect leaves) (others : ClosedLeaves dialect more) :
    ClosedLeaves dialect (leaves ++ more) :=
  List.forall_mem_append.2 ⟨closed, others⟩

theorem ClosedLeaves.cons {leaf : Leaf Query CustomExpr} {leaves : List (Leaf Query CustomExpr)}
    (closed : leaf.Closed dialect) (others : ClosedLeaves dialect leaves) :
    ClosedLeaves dialect (leaf :: leaves) :=
  List.forall_mem_cons.2 ⟨closed, others⟩

theorem ClosedLeaves.nested {query : Query} (closed : query.Sealed dialect) :
    ClosedLeaves dialect [.nested query] :=
  .cons closed.sql .nil

namespace Session.Seals

variable {workspace : Workspace} {α β γ : Type}

/-- Two parts that are built in a row. -/
theorem both {action : Session α} {next : Session β} {build : α → β → γ} {mid : α → Prop}
    {mid' : β → Prop} {post : γ → Prop}
    (first : Session.Seals dialect workspace action mid)
    (second : Session.Seals dialect (action.run workspace).2 next mid')
    (holds : ∀ value other, mid value → mid' other → post (build value other)) :
    Session.Seals dialect workspace (do let value ← action; return build value (← next)) post :=
  first.bind fun found => second.map fun other found' => holds _ other found found'

theorem take (speaks : home.Speaks dialect) (name : String) :
    Session.Seals dialect workspace (buildQuery home (.take name)) (Query.Sealed dialect) := by
  intro closed
  cases found : workspace.get? name with
  | some query =>
      rw [run_take_of_some home found]
      exact ⟨closed.erase name, closed _ (Workspace.get?_mem found)⟩
  | none =>
      rw [run_take_of_none home found]
      exact ⟨closed, .new speaks workspace⟩

theorem cloneNamed (speaks : home.Speaks dialect) (name : String) :
    Session.Seals dialect workspace (buildQuery home (.clone name)) (Query.Sealed dialect) := by
  intro closed
  cases found : workspace.get? name with
  | some query =>
      rw [run_clone_of_some home found]
      exact ⟨closed, (closed _ (Workspace.get?_mem found)).clone workspace⟩
  | none =>
      rw [run_clone_of_none home found]
      exact ⟨closed, .new speaks workspace⟩

/-- A new query that is changed by steps. -/
theorem recipe {origin : Origin} {body : Edit (List Report)} (speaks : home.Speaks dialect)
    (asked : ∀ connection ∈ origin.connection, connection.Speaks dialect)
    (inside : Edit.Seals dialect .anything ((origin.make home).run workspace).1
      ((origin.make home).run workspace).2 body fun _ => True) :
    Session.Seals dialect workspace (do
      let query ← origin.make home
      return (← body.run query).2) (Query.Sealed dialect) := by
  intro closed
  have made := Query.Sealed.make speaks asked workspace
  have between := closed.grown
    (Workspace.Sound.grown_of_made (Query.Made.make workspace (fun _ => []) home origin))
  rcases inside made between with ⟨changed, after, -⟩
  exact ⟨after, changed⟩

/-- A query that is made from a sealed one and named. -/
theorem copy {query : Query} (own : query.Sealed dialect) (kind : CopyKind) (name : String) :
    Session.Seals dialect workspace (kind.make query >>= nameCopy name) fun _ => True := by
  intro closed
  have between := closed.grown (Workspace.Grown.copy kind query workspace)
  refine ⟨?_, trivial⟩
  cases made : ((kind.make query).run workspace).1 with
  | ok copy =>
      rw [snd_run_nameCopy_of_ok name made]
      exact between.insert name (own.copy kind made)
  | error error =>
      rw [snd_run_nameCopy_of_error name made]
      exact between

theorem fetch (kind : FetchKind) (executor : Executor) (query : Query) :
    Session.Seals dialect workspace ((kind.run executor query).run.run {}) fun _ => True :=
  fun closed => ⟨closed.grown (kind.grows executor query {} workspace), trivial⟩

end Session.Seals

namespace Script

/-- What a step may do. -/
def Step.scope (step : Step) : Scope := if step.addsConditions then .conditions else .anything

/-- Outside callbacks every step may do what it does. -/
theorem Step.unscoped {step : Step} {query : Query} {workspace : Workspace} {α : Type}
    {action : Edit α} {post : α → Prop}
    (seals : Edit.Seals dialect step.scope query workspace action post) :
    Edit.Seals dialect .anything query workspace action post := by
  unfold Step.scope at seals
  split at seals
  · exact seals.widen
  · exact seals

mutual

theorem buildOperand_closed (speaks : home.Speaks dialect) (draft : Draft) {workspace : Workspace}
    (bare : BareLeaves dialect draft.leaves)
    (tidy : ∀ call ∈ operandCalls home draft workspace, call.step.Tidy dialect) :
    Session.Seals dialect workspace (buildOperand home draft) fun value =>
      ClosedLeaves dialect value.leaves := by
  match draft with
  | .column name => exact .pure (ClosedLeaves.column name)
  | .raw sql => exact .pure (ClosedLeaves.cons bare.verbatim ClosedLeaves.nil)
  | .scalar value =>
      refine .pure ?_
      have bound : ClosedLeaves dialect (Operand.scalar value : Value).resolvedLeaves := by
        simp [Operand.resolvedLeaves, ClosedLeaves, Leaf.Closed]
      exact (Operand.forall_resolvedLeaves_iff (fun _ => trivial) (fun _ => trivial) _).1 bound
  | .backing value => exact .pure ClosedLeaves.nil
  | .expr expr => exact .map (buildExpr_closed speaks expr bare tidy) fun _ closed => closed
  | .query draft =>
      have made := buildQuery_closed speaks draft (bare _ (List.mem_singleton_self _)) tidy
      exact .map made fun query closed => ClosedLeaves.nested closed
  | .custom draft => exact (bare _ (List.mem_singleton_self _)).elim

theorem buildAll_closed (speaks : home.Speaks dialect) (drafts : List Draft) {workspace : Workspace}
    (bare : BareLeaves dialect (Operand.leavesAll drafts))
    (tidy : ∀ call ∈ allCalls home drafts workspace, call.step.Tidy dialect) :
    Session.Seals dialect workspace (buildAll home drafts) fun values =>
      ClosedLeaves dialect (Operand.leavesAll values) := by
  match drafts with
  | [] => exact .pure ClosedLeaves.nil
  | draft :: rest =>
      have tidy := List.forall_mem_append.1 tidy
      exact .both (buildOperand_closed speaks draft bare.left tidy.1)
        (buildAll_closed speaks rest bare.right tidy.2) fun _ _ => ClosedLeaves.append

theorem buildRows_closed (speaks : home.Speaks dialect) (rows : List (List Draft))
    {workspace : Workspace}
    (bare : BareLeaves dialect (rows.flatten.flatMap Operand.resolvedLeaves))
    (tidy : ∀ call ∈ rowsCalls home rows workspace, call.step.Tidy dialect) :
    Session.Seals dialect workspace (buildRows home rows) fun rows =>
      ∀ row ∈ rows, ClosedLeaves dialect (Operand.leavesAll row) := by
  match rows with
  | [] => exact .pure (by simp)
  | row :: rest =>
      have tidy := List.forall_mem_append.1 tidy
      rw [List.flatten_cons, List.flatMap_append] at bare
      exact .both (buildAll_closed speaks row (.all_of_resolved bare.left) tidy.1)
        (buildRows_closed speaks rest bare.right tidy.2) fun _ _ closed others =>
          List.forall_mem_cons.2 ⟨closed, others⟩

theorem buildOrder_closed (speaks : home.Speaks dialect) (terms : List (Draft × Bool))
    {workspace : Workspace} (bare : BareLeaves dialect (Operand.leavesOrder terms))
    (tidy : ∀ call ∈ orderCalls home terms workspace, call.step.Tidy dialect) :
    Session.Seals dialect workspace (buildOrder home terms) fun terms =>
      ClosedLeaves dialect (Operand.leavesOrder terms) := by
  match terms with
  | [] => exact .pure ClosedLeaves.nil
  | (draft, descends) :: rest =>
      have tidy := List.forall_mem_append.1 tidy
      exact .both (buildOperand_closed speaks draft bare.left tidy.1)
        (buildOrder_closed speaks rest bare.right tidy.2) fun _ _ => ClosedLeaves.append

theorem buildExpr_closed (speaks : home.Speaks dialect) (draft : ExprDraft) {workspace : Workspace}
    (bare : BareLeaves dialect draft.leaves)
    (tidy : ∀ call ∈ exprCalls home draft workspace, call.step.Tidy dialect) :
    Session.Seals dialect workspace (buildExpr home draft) fun expr =>
      ClosedLeaves dialect expr.leaves := by
  match draft with
  | .between lower upper =>
      have tidy := List.forall_mem_append.1 tidy
      exact .both (buildOperand_closed speaks lower bare.left tidy.1)
        (buildOperand_closed speaks upper bare.right tidy.2) fun _ _ => ClosedLeaves.append
  | .inList values => exact .map (buildAll_closed speaks values bare tidy) fun _ closed => closed
  | .isNull => exact .pure ClosedLeaves.nil
  | .exists draft =>
      have made := buildQuery_closed speaks draft (bare _ (List.mem_singleton_self _)) tidy
      exact .map made fun query closed => ClosedLeaves.nested closed
  | .not inner => exact .map (buildExpr_closed speaks inner bare tidy) fun _ closed => closed
  | .call name arguments =>
      exact .map (buildAll_closed speaks arguments bare.tail tidy) fun _ closed =>
        ClosedLeaves.cons bare.verbatim closed
  | .aggregate name arguments distinct =>
      exact .map (buildAll_closed speaks arguments bare.tail tidy) fun _ closed =>
        ClosedLeaves.cons bare.verbatim closed
  | .groupConcat value distinct order separator limit offset =>
      have tidy := List.forall_mem_append.1 tidy
      exact .both (buildOperand_closed speaks value bare.left tidy.1)
        (buildOrder_closed speaks order bare.right tidy.2) fun _ _ => ClosedLeaves.append
  | .ifElse condition yes no =>
      rcases List.forall_mem_append.1 tidy with ⟨tidy, others⟩
      rcases List.forall_mem_append.1 others with ⟨tidy', tidy''⟩
      have parts : BareLeaves dialect (yes.leaves ++ no.leaves) := bare.right
      refine .bind (buildOperand_closed speaks condition bare.left tidy) fun first => ?_
      exact .both (buildOperand_closed speaks yes parts.left tidy')
        (buildOperand_closed speaks no parts.right tidy'') fun _ _ second third =>
          ClosedLeaves.append first (ClosedLeaves.append second third)
  | .ifNull value fallback =>
      have tidy := List.forall_mem_append.1 tidy
      exact .both (buildOperand_closed speaks value bare.left tidy.1)
        (buildOperand_closed speaks fallback bare.right tidy.2) fun _ _ => ClosedLeaves.append
  | .nullIf value other =>
      have tidy := List.forall_mem_append.1 tidy
      exact .both (buildOperand_closed speaks value bare.left tidy.1)
        (buildOperand_closed speaks other bare.right tidy.2) fun _ _ => ClosedLeaves.append
  | .matchAgainst fields search booleanMode queryExpansion =>
      have tidy := List.forall_mem_append.1 tidy
      exact .both (buildAll_closed speaks fields bare.left tidy.1)
        (buildOperand_closed speaks search bare.right tidy.2) fun _ _ => ClosedLeaves.append
  | .operation lhs operator rhs =>
      have tidy := List.forall_mem_append.1 tidy
      have parts : BareLeaves dialect (lhs.leaves ++ rhs.leaves) := bare.tail
      exact .both (buildOperand_closed speaks lhs parts.left tidy.1)
        (buildOperand_closed speaks rhs parts.right tidy.2) fun _ _ first second =>
          ClosedLeaves.cons bare.verbatim (ClosedLeaves.append first second)
  | .nested draft =>
      have made := buildQuery_closed speaks draft (bare _ (List.mem_singleton_self _)) tidy
      exact .map made fun query closed => ClosedLeaves.nested closed
  | .assign name draft =>
      have made := buildQuery_closed speaks draft (bare.tail _ (List.mem_singleton_self _)) tidy
      exact .map made fun query closed =>
        ClosedLeaves.cons bare.verbatim (ClosedLeaves.nested closed)
  | .cast value type =>
      exact .map (buildOperand_closed speaks value bare.tail tidy) fun _ closed =>
        ClosedLeaves.cons bare.verbatim closed

theorem buildPredicate_closed (speaks : home.Speaks dialect) (draft : PredicateDraft)
    {workspace : Workspace} (bare : BareLeaves dialect draft.leaves)
    (tidy : ∀ call ∈ predicateCalls home draft workspace, call.step.Tidy dialect) :
    Session.Seals dialect workspace (buildPredicate home draft) fun predicate =>
      ClosedLeaves dialect predicate.leaves := by
  have parts := (Predicate.forall_leaves_iff (fun _ => trivial) (fun _ => trivial) draft).1 bare
  match draft with
  | .single operand =>
      exact .map (buildOperand_closed speaks operand parts tidy) fun _ closed =>
        ClosedLeaves.of_all closed
  | .pair lhs rhs =>
      have tidy := List.forall_mem_append.1 tidy
      exact .both (buildOperand_closed speaks lhs parts.1 tidy.1)
        (buildOperand_closed speaks rhs parts.2 tidy.2) fun _ _ first second =>
          ClosedLeaves.of_all ⟨first, second⟩
  | .compare lhs comparator rhs =>
      have tidy := List.forall_mem_append.1 tidy
      have word : dialect.Closed comparator := bare.verbatim
      exact .both (buildOperand_closed speaks lhs parts.2.1 tidy.1)
        (buildOperand_closed speaks rhs parts.2.2 tidy.2) fun _ _ first second =>
          ClosedLeaves.of_all ⟨word, first, second⟩

theorem buildQuery_closed (speaks : home.Speaks dialect) (draft : QueryDraft)
    {workspace : Workspace}
    (bare : Within isBare (fun _ => True) (Connection.Speaks dialect) (.nested draft))
    (tidy : ∀ call ∈ queryCalls home draft workspace, call.step.Tidy dialect) :
    Session.Seals dialect workspace (buildQuery home draft) (Query.Sealed dialect) := by
  match draft with
  | .recipe connection model table steps =>
      exact .recipe speaks bare (runSteps_sealed speaks steps tidy)
  | .take name => exact .take speaks name
  | .clone name => exact .cloneNamed speaks name

/-- A builder call keeps to its scope. -/
theorem call_sealed (speaks : home.Speaks dialect) (step : Step) {query : Query}
    {workspace : Workspace} (own : step.Tidy dialect)
    (tidy : ∀ call ∈ innerCalls home step query workspace, call.step.Tidy dialect) :
    Edit.Seals dialect step.scope query workspace (call home step) fun _ => True := by
  have bare : BareLeaves dialect step.leaves := own.leaves
  match step with
  | .add fragment => exact Bool.noConfusion own.balanced
  | .replaceClause keyword replacement => exact Bool.noConfusion own.balanced
  | .addPredicate keyword predicate => exact Bool.noConfusion own.balanced
  | .addExpression keyword lhs comparator rhs => exact Bool.noConfusion own.balanced
  | .removeClause keyword =>
      have clause : keyword ∉ groupKeywords := by
        simpa [Step.staysBalanced] using own.balanced
      exact .returned (.change fun query closed => closed.removeClause clause)
  | .merge draft =>
      have made := buildQuery_closed speaks draft (bare _ (List.mem_singleton_self _)) tidy
      exact .build_bind made fun other =>
        .returned (.change fun query closed => closed.merge other)
  | .parenthesis pull body =>
      exact .returned (.parenthesis pull
        (runSteps_grown speaks body (List.all_eq_true.1 own.balanced) tidy))
  | .raw sql =>
      exact .returned (.change fun query closed => closed.insertToken bare.verbatim)
  | .bindModel model =>
      exact .returned (.changing fun _ => .of_congr rfl rfl rfl)
  | .view view => exact .get_bind (.pure trivial)
  | .compileOperand draft =>
      exact .build_bind (buildOperand_closed speaks draft bare tidy) fun closed =>
        .returned (.compiling fun speaks => Operand.compile_closed speaks _ closed)
  | .bindScalar value => exact .returned (.compiling fun _ => .anything _)
  | .compileExpr draft =>
      exact .build_bind (buildExpr_closed speaks draft bare tidy) fun closed =>
        .returned (.compiling fun speaks => Expr.compile_closed speaks _ closed)
  | .copy kind name => exact .of_ready fun ready => .get_bind (.built (.copy ready kind name))
  | .select distinct columns =>
      exact .build_bind (buildAll_closed speaks columns bare.all_of_resolved tidy) fun closed =>
        .returned (.select distinct closed)
  | .selectAs column label =>
      exact .build_bind (buildOperand_closed speaks column bare.of_resolved tidy) fun closed =>
        .returned (.selectAs closed label)
  | .selectRaw sql =>
      exact .returned (.change fun query closed => closed.selectRaw bare.verbatim)
  | .source table label =>
      exact .returned (.change fun query closed => closed.source table label)
  | .sourceQuery draft label =>
      have made := buildQuery_closed speaks draft (bare _ (List.mem_singleton_self _)) tidy
      exact .build_bind made fun nested => .returned (.sourceQuery nested label)
  | .join kind table label none =>
      exact .returned (.join kind table label fun _ => .pure trivial)
  | .join kind table label (some body) =>
      refine .bind (.join kind table label fun absent => ?_) fun _ => ?_
      · refine runSteps_grown speaks body (List.all_eq_true.1 own.balanced) ?_
        simpa [innerCalls, absent] using tidy
      · split
        · exact .pure trivial
        · exact .pure trivial
  | .addTerms clause columns =>
      exact .build_bind (buildAll_closed speaks columns bare.all_of_resolved tidy) fun closed =>
        .returned (.addTerms clause closed)
  | .addOrder column descends =>
      exact .build_bind (buildOperand_closed speaks column bare.of_resolved tidy) fun closed =>
        .returned (.addOrder closed descends)
  | .addOrderRaw sql =>
      exact .returned (.change fun query closed =>
        closed.addTerm (.of_all (by decide)) bare.verbatim)
  | .limit count => exact .returned (.change fun query closed => closed.limit count)
  | .offset count => exact .returned (.change fun query closed => closed.offset count)
  | .paginate request => exact .returned (.change fun query closed => closed.paginate request)
  | .union keepsDuplicates draft =>
      have made := buildQuery_closed speaks draft (bare _ (List.mem_singleton_self _)) tidy
      exact .build_bind made fun other =>
        .returned (.change fun query closed => closed.union keepsDuplicates other)
  | .addCommonTable isRecursive name draft =>
      have made := buildQuery_closed speaks draft (bare _ (List.mem_singleton_self _)) tidy
      exact .build_bind made fun nested => .returned (.addCommonTable isRecursive name nested)
  | .lockForUpdate => exact .returned .lockForUpdate
  | .condition clause connective predicate =>
      exact .build_bind (buildPredicate_closed speaks predicate bare tidy) fun closed =>
        .returned (.condition closed clause connective)
  | .filterIn negated lhs values =>
      have tidy := List.forall_mem_append.1 tidy
      have left : BareLeaves dialect lhs.resolvedLeaves := bare.left
      refine .build_bind (buildOperand_closed speaks lhs left.of_resolved tidy.1) fun closed => ?_
      exact .build_bind (buildAll_closed speaks values bare.right tidy.2) fun others =>
        .returned (.filterIn negated closed others)
  | .conditionGroup connective body =>
      exact .returned (.conditionGroup connective
        (runSteps_grown speaks body (List.all_eq_true.1 own.balanced) tidy))
  | .filterByKey values =>
      exact .build_bind (buildAll_closed speaks values bare.all_of_resolved tidy) fun closed =>
        .returned (.filterByKey closed)
  | .filterByKeys rows =>
      exact .build_bind (buildRows_closed speaks rows bare tidy) fun closed =>
        .returned (.filterByKeys closed)
  | .filterHas relation body =>
      refine .returned (.filterHas relation fun link found => ?_)
      refine runSteps_sealed speaks body ?_
      simpa [innerCalls, found] using tidy
  | .insertInto replaces table columns =>
      refine .returned (.attempt fun query changed closed inserted => ?_)
      cases replaces with
      | true => exact closed.replaceInto inserted
      | false => exact closed.insertHead (.of_all (by decide)) inserted
  | .values row =>
      exact .build_bind (buildAll_closed speaks row bare.all_of_resolved tidy) fun closed =>
        .returned (.values closed)
  | .update table =>
      exact .returned (.change fun query closed =>
        closed.addText (.of_all (by decide)) (Query.closed_escape closed.speaks table))
  | .assign column value =>
      have tidy := List.forall_mem_append.1 tidy
      have left : BareLeaves dialect column.resolvedLeaves := bare.left
      have right : BareLeaves dialect value.resolvedLeaves := bare.right
      refine .build_bind (buildOperand_closed speaks column left.of_resolved tidy.1)
        fun closed => ?_
      exact .build_bind (buildOperand_closed speaks value right.of_resolved tidy.2) fun others =>
        .returned (.assign closed others)
  | .assignRaw column sql =>
      have equals : dialect.Closed " = " := .of_all (by decide)
      exact .returned (.change fun query closed => closed.addTerm (.of_all (by decide))
        (((Query.closed_escape closed.speaks column).append equals).append bare.verbatim))
  | .deleteFrom table =>
      exact .returned (.change fun query closed =>
        closed.addText (.of_all (by decide)) (Query.closed_escape closed.speaks table))
  | .onConflictUpdate conflict columns =>
      exact .returned (.attempt fun query changed closed updated =>
        closed.onConflictUpdate updated)
  | .onConflictDoNothing conflict =>
      exact .returned (.attempt fun query changed closed updated =>
        closed.onConflictDoNothing updated)
  | .returning columns =>
      exact .build_bind (buildAll_closed speaks columns bare.all_of_resolved tidy) fun closed =>
        .returned (.returning closed)
  | .fetch kind responses =>
      exact .get_bind (.build_bind (.fetch kind responses.toExecutor query) fun _ => .pure trivial)

/-- Builder calls in a row, outside callbacks. -/
theorem runSteps_sealed (speaks : home.Speaks dialect) (steps : List Step) {query : Query}
    {workspace : Workspace}
    (tidy : ∀ call ∈ stepsCalls home steps query workspace, call.step.Tidy dialect) :
    Edit.Seals dialect .anything query workspace (runSteps home steps) fun _ => True := by
  match steps with
  | [] => exact .pure trivial
  | step :: rest =>
      rcases List.forall_mem_cons.1 tidy with ⟨own, others⟩
      rcases List.forall_mem_append.1 others with ⟨inner, after⟩
      have first := call_sealed speaks step own inner
      exact .bind (Step.unscoped first) fun _ =>
        .get_bind (.returned (runSteps_sealed speaks rest after))

/-- Builder calls in a row that add conditions only. -/
theorem runSteps_grown (speaks : home.Speaks dialect) (steps : List Step) {query : Query}
    {workspace : Workspace} (conditions : ∀ step ∈ steps, step.addsConditions = true)
    (tidy : ∀ call ∈ stepsCalls home steps query workspace, call.step.Tidy dialect) :
    Edit.Seals dialect .conditions query workspace (runSteps home steps) fun _ => True := by
  match steps with
  | [] => exact .pure trivial
  | step :: rest =>
      rcases List.forall_mem_cons.1 tidy with ⟨own, others⟩
      rcases List.forall_mem_append.1 others with ⟨inner, after⟩
      rcases List.forall_mem_cons.1 conditions with ⟨adds, more⟩
      have first := call_sealed speaks step own inner
      rw [Step.scope, if_pos adds] at first
      exact .bind first fun _ => .get_bind (.returned (runSteps_grown speaks rest more after))

end

/-! ### Programs -/

/-- A program in one dialect whose steps are tidy. -/
structure Program.Tidy (dialect : Dialect) (program : Program) : Prop where
  home : program.connection.Speaks dialect
  commands : ∀ command ∈ program.commands, ∀ connection ∈ command.connection?,
    connection.Speaks dialect
  calls : ∀ call ∈ program.calls, call.step.Tidy dialect

theorem Command.run_sealed (speaks : home.Speaks dialect) (command : Command)
    {workspace : Workspace}
    (closed : workspace.Sealed dialect)
    (asked : ∀ connection ∈ command.connection?, connection.Speaks dialect)
    (tidy : ∀ call ∈ command.calls home workspace, call.step.Tidy dialect) :
    ((command.run home).run workspace).2.Sealed dialect := by
  cases command with
  | create name origin =>
      have made := Query.Sealed.make speaks asked workspace
      have between := closed.grown
        (Workspace.Sound.grown_of_made (Query.Made.make workspace (fun _ => []) home origin))
      exact between.insert name made
  | on name step =>
      rcases List.forall_mem_cons.1 tidy with ⟨own, inner⟩
      have found : (findQuery home name workspace).1.Sealed dialect ∧
          (findQuery home name workspace).2.Sealed dialect := by
        unfold findQuery
        cases present : workspace.get? name with
        | some query => exact ⟨closed _ (Workspace.get?_mem present), closed⟩
        | none => exact ⟨.new speaks workspace, closed⟩
      have outside : Edit.Seals dialect .anything (findQuery home name workspace).1
          (findQuery home name workspace).2 (call home step) fun _ => True :=
        Step.unscoped (call_sealed speaks step own inner)
      rcases outside found.1 found.2 with ⟨changed, after, -⟩
      rw [Command.run_on]
      exact Workspace.Sealed.insert after name changed

theorem runCommands_sealed (speaks : home.Speaks dialect) (commands : List Command)
    {workspace : Workspace} (closed : workspace.Sealed dialect)
    (asked : ∀ command ∈ commands, ∀ connection ∈ command.connection?, connection.Speaks dialect)
    (tidy : ∀ call ∈ commandsCalls home commands workspace, call.step.Tidy dialect) :
    ((runCommands home commands).run workspace).2.Sealed dialect := by
  induction commands generalizing workspace with
  | nil => exact closed
  | cons command rest ih =>
      rcases List.forall_mem_cons.1 asked with ⟨own, others⟩
      rcases List.forall_mem_append.1 tidy with ⟨first, after⟩
      exact ih (command.run_sealed speaks closed own first) others after

theorem Program.start_sealed {program : Program} (speaks : program.connection.Speaks dialect) :
    program.start.Sealed dialect := by
  have nothing : Workspace.Sealed dialect {} := by
    intro entry mem
    cases mem
  have none : ∀ connection ∈ ({ model := program.model } : Origin).connection,
      connection.Speaks dialect := by
    rintro _ ⟨⟩
  have between := nothing.grown (Workspace.Sound.grown_of_made
    (Query.Made.make {} (fun _ => []) program.connection { model := program.model }))
  exact between.insert firstName (Query.Sealed.make speaks none {})

/--
Rendered SQL is lexically closed. A reader of the dialect that goes through the text of any query
that a tidy program leaves ends outside quoted spans and with no parenthesis open, and nowhere finds
a closing parenthesis without an open one.
-/
theorem Program.sql_closed {program : Program} (tidy : program.Tidy dialect) :
    ∀ entry ∈ program.run.2.queries,
      Nesting.read dialect.readsBackslash (.code, 0) entry.2.sql.toList = some (.code, 0) := by
  intro entry mem
  rw [Program.run_eq] at mem
  have closed := runCommands_sealed tidy.home program.commands (start_sealed tidy.home)
    tidy.commands tidy.calls
  exact (closed entry mem).sql 0

/-- Names and values with quotes and parentheses, a group that keeps one of two groups, a join that
comes late and a clause that is removed. -/
theorem Program.sql_closed_quoted :
    let compared : Step := .condition .filter .and
      (.compare (.column "c") ">" (.expr (.call "abs" [.scalar (.text "')")])))
    let equal : Step := .condition .join .and (.pair (.column "t.id") (.column "u.id"))
    let program : Program :=
      { connection := .ofConfig { prepared := false, dialect := .mysql }
        commands :=
          [.on "q" (.select false [.column "a(\x60b"]), .on "q" (.source "t" (some "x) y")),
            .on "q" (.condition .filter .and (.pair (.column "n") (.scalar (.text "it's (\\")))),
            .on "q" (.conditionGroup .or
              [.conditionGroup .and [compared], .conditionGroup .and []]),
            .on "q" (.join .left "u" none (some [equal])), .on "q" (.limit 3),
            .on "q" (.removeClause "limit")] }
    program.Tidy .mysql ∧ ∃ entry ∈ program.run.2.queries,
      entry.2.sql = "select \x60a(\x60\x60b\x60 from \x60t\x60 as \x60x) y\x60 left join " ++
        "\x60u\x60 on \x60t\x60.\x60id\x60 = \x60u\x60.\x60id\x60 where \x60n\x60 = " ++
        "'it''s (\\\\' or ((\x60c\x60 > abs(''')')))" ∧
      Nesting.read Dialect.mysql.readsBackslash (.code, 0) entry.2.sql.toList =
        some (.code, 0) := by
  intro compared equal program
  have silent {step : Step} (balanced : step.staysBalanced = true) (none : step.leaves = []) :
      step.Tidy .mysql := ⟨balanced, none ▸ List.forall_mem_nil _⟩
  have valued : (Step.condition .filter .and
      (.pair (.column "n") (.scalar (.text "it's (\\")))).Tidy .mysql :=
    ⟨rfl, List.forall_mem_singleton.2 trivial⟩
  have comparator : ∀ c ∈ ">".toList, isBare c = true := List.all_eq_true.1 (by decide)
  have function : ∀ c ∈ "abs".toList, isBare c = true := List.all_eq_true.1 (by decide)
  have words : compared.Tidy .mysql :=
    ⟨rfl, List.forall_mem_cons.2 ⟨comparator, List.forall_mem_cons.2 ⟨function,
      List.forall_mem_singleton.2 trivial⟩⟩⟩
  have joined (query : Query) (workspace : Workspace) :
      ∀ call ∈ innerCalls program.connection (.join .left "u" none (some [equal])) query workspace,
        call.step.Tidy .mysql := by
    unfold innerCalls
    split
    · exact List.forall_mem_nil _
    · exact List.forall_mem_singleton.2 (silent rfl rfl)
  have calls : ∀ call ∈ program.calls, call.step.Tidy .mysql := by
    refine List.forall_mem_append.2 ⟨List.forall_mem_singleton.2 (silent rfl rfl), ?_⟩
    refine List.forall_mem_append.2 ⟨List.forall_mem_singleton.2 (silent rfl rfl), ?_⟩
    refine List.forall_mem_append.2 ⟨List.forall_mem_singleton.2 valued, ?_⟩
    refine List.forall_mem_append.2 ⟨List.forall_mem_cons.2 ⟨silent rfl rfl, ?_⟩, ?_⟩
    · exact List.forall_mem_cons.2 ⟨silent rfl rfl, List.forall_mem_cons.2 ⟨words,
        List.forall_mem_singleton.2 (silent rfl rfl)⟩⟩
    refine List.forall_mem_append.2 ⟨List.forall_mem_cons.2 ⟨silent rfl rfl, joined _ _⟩, ?_⟩
    refine List.forall_mem_append.2 ⟨List.forall_mem_singleton.2 (silent rfl rfl), ?_⟩
    exact List.forall_mem_singleton.2 (silent (by decide) rfl)
  have tidy : program.Tidy .mysql :=
    ⟨rfl, by simp [program, Command.connection?], calls⟩
  exact ⟨tidy, program.run.2.queries.get ⟨0, by decide +kernel⟩, List.get_mem _ _,
    by decide +kernel, Program.sql_closed tidy _ (List.get_mem _ _)⟩

end Script

end SqlBuilder
