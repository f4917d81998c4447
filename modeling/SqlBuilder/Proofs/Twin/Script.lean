import SqlBuilder.Proofs.Twin.Draft

/-!
# Steps in both runs

Every builder call runs alike on twin queries, whatever it is made of: the induction is over drafts
and steps together, with one case for each way to build an operand and each builder call. What it
needs is that the calls on the way are clean, and what it gives is that they are made on twin
queries.
-/

namespace SqlBuilder

open Script

namespace Coupling

variable {coupling : Coupling} {home home' : Connection}

mutual

theorem buildOperand_twin (connections : coupling.connections home home') (draft : Draft)
    {registry : Registry} {workspace workspace' : Workspace}
    (leaves : coupling.CleanLeaves draft.leaves)
    (clean : ∀ call ∈ operandCalls home draft workspace, coupling.Clean home call) :
    coupling.Builds registry workspace workspace' (operandCalls home draft workspace)
      (operandCalls home' draft workspace') (buildOperand home draft) (buildOperand home' draft)
      coupling.ValueTwin := by
  match draft with
  | .column name => exact .pure ⟨.column name, rfl, rfl, by simp [AdmitsAll, Operand.leaves]⟩
  | .raw sql =>
      have verbatim : coupling.Verbatim sql := leaves (.verbatim sql) (List.mem_singleton_self _)
      refine .pure ⟨.raw sql, rfl, rfl, fun leaf mem => ?_⟩
      obtain rfl := List.mem_singleton.1 mem
      exact verbatim
  | .scalar value =>
      refine .pure ⟨.scalar value, rfl, rfl, fun leaf mem => ?_⟩
      rw [Operand.leaves] at mem leaves
      rcases value.leaves_eq with same | same <;> rw [same] at mem leaves <;>
        obtain rfl := List.mem_singleton.1 mem
      · exact leaves (.literal value) (List.mem_singleton_self _)
      · exact ⟨rfl, leaves (.bound value) (List.mem_singleton_self _)⟩
  | .backing value => exact .pure ⟨.backing value, rfl, rfl, by simp [AdmitsAll, Operand.leaves]⟩
  | .expr expr =>
      exact .tree Operand.expr Operand.expr Operand.expr (fun _ => rfl) (fun _ => rfl)
        (buildExpr_twin connections expr leaves clean) id
  | .query draft =>
      refine .map (buildQuery_twin connections draft (leaves _ (List.mem_singleton_self _)) clean)
        fun later query query' _ nested => ⟨.query (query, query'), rfl, rfl, fun leaf mem => ?_⟩
      obtain rfl := List.mem_singleton.1 mem
      exact nested
  | .custom draft => exact (leaves _ (List.mem_singleton_self _)).elim

theorem buildAll_twin (connections : coupling.connections home home') (drafts : List Draft)
    {registry : Registry} {workspace workspace' : Workspace}
    (leaves : coupling.CleanLeaves (Operand.leavesAll drafts))
    (clean : ∀ call ∈ allCalls home drafts workspace, coupling.Clean home call) :
    coupling.Builds registry workspace workspace' (allCalls home drafts workspace)
      (allCalls home' drafts workspace') (buildAll home drafts) (buildAll home' drafts)
      coupling.ValuesTwin := by
  match drafts with
  | [] => exact .pure ⟨[], rfl, rfl, by simp [AdmitsAll, Operand.leavesAll]⟩
  | draft :: rest =>
      exact .trees List.cons List.cons List.cons (fun _ _ => rfl) (fun _ _ => rfl)
        (buildOperand_twin connections draft leaves.left fun call mem =>
          clean call (List.mem_append_left _ mem))
        (fun later grown => buildAll_twin connections rest leaves.right fun call mem =>
          clean call (List.mem_append_right _ mem))
        AdmitsAll.append

theorem buildRows_twin (connections : coupling.connections home home') (rows : List (List Draft))
    {registry : Registry} {workspace workspace' : Workspace}
    (leaves : coupling.CleanLeaves (Operand.leavesAll rows.flatten))
    (clean : ∀ call ∈ rowsCalls home rows workspace, coupling.Clean home call) :
    coupling.Builds registry workspace workspace' (rowsCalls home rows workspace)
      (rowsCalls home' rows workspace') (buildRows home rows) (buildRows home' rows)
      coupling.RowsTwin := by
  match rows with
  | [] => exact .pure ⟨[], rfl, rfl, by simp [AdmitsAll, Operand.leavesAll]⟩
  | row :: rest =>
      rw [List.flatten_cons, Operand.leavesAll_append] at leaves
      refine .trees List.cons List.cons List.cons (fun _ _ => rfl) (fun _ _ => rfl)
        (buildAll_twin connections row leaves.left fun call mem =>
          clean call (List.mem_append_left _ mem))
        (fun later grown => buildRows_twin connections rest leaves.right fun call mem =>
          clean call (List.mem_append_right _ mem))
        fun admits admitted => ?_
      rw [List.flatten_cons, Operand.leavesAll_append]
      exact admits.append admitted

theorem buildOrder_twin (connections : coupling.connections home home')
    (terms : List (Draft × Bool)) {registry : Registry} {workspace workspace' : Workspace}
    (leaves : coupling.CleanLeaves (Operand.leavesOrder terms))
    (clean : ∀ call ∈ orderCalls home terms workspace, coupling.Clean home call) :
    coupling.Builds registry workspace workspace' (orderCalls home terms workspace)
      (orderCalls home' terms workspace') (buildOrder home terms) (buildOrder home' terms)
      coupling.OrderTwin := by
  match terms with
  | [] => exact .pure ⟨[], rfl, rfl, by simp [AdmitsAll, Operand.leavesOrder]⟩
  | (draft, descends) :: rest =>
      exact .trees (fun value others => (value, descends) :: others)
        (fun value others => (value, descends) :: others)
        (fun tree others => (tree, descends) :: others) (fun _ _ => rfl) (fun _ _ => rfl)
        (buildOperand_twin connections draft leaves.left fun call mem =>
          clean call (List.mem_append_left _ mem))
        (fun later grown => buildOrder_twin connections rest leaves.right fun call mem =>
          clean call (List.mem_append_right _ mem))
        AdmitsAll.append

theorem buildOption_twin (connections : coupling.connections home home') (draft : Option Draft)
    {registry : Registry} {workspace workspace' : Workspace}
    (leaves : ∀ present ∈ draft, coupling.CleanLeaves present.leaves)
    (clean : ∀ call ∈ optionCalls home draft workspace, coupling.Clean home call) :
    coupling.Builds registry workspace workspace' (optionCalls home draft workspace)
      (optionCalls home' draft workspace') (buildOption home draft) (buildOption home' draft)
      coupling.OptionTwin := by
  match draft with
  | none => exact .pure ⟨none, rfl, rfl, by simp [AdmitsAll]⟩
  | some draft =>
      exact .tree some some some (fun _ => rfl) (fun _ => rfl)
        (buildOperand_twin connections draft (leaves draft rfl) clean) id

theorem buildExpr_twin (connections : coupling.connections home home') (draft : ExprDraft)
    {registry : Registry} {workspace workspace' : Workspace}
    (leaves : coupling.CleanLeaves draft.leaves)
    (clean : ∀ call ∈ exprCalls home draft workspace, coupling.Clean home call) :
    coupling.Builds registry workspace workspace' (exprCalls home draft workspace)
      (exprCalls home' draft workspace') (buildExpr home draft) (buildExpr home' draft)
      coupling.ExprTwin := by
  match draft with
  | .between lower upper =>
      exact .trees Expr.between Expr.between Expr.between (fun _ _ => rfl) (fun _ _ => rfl)
        (buildOperand_twin connections lower leaves.left fun call mem =>
          clean call (List.mem_append_left _ mem))
        (fun later grown => buildOperand_twin connections upper leaves.right fun call mem =>
          clean call (List.mem_append_right _ mem))
        AdmitsAll.append
  | .inList values =>
      exact .tree Expr.inList Expr.inList Expr.inList (fun _ => rfl) (fun _ => rfl)
        (buildAll_twin connections values leaves clean) id
  | .isNull => exact .pure ⟨.isNull, rfl, rfl, by simp [AdmitsAll, Expr.leaves]⟩
  | .exists draft =>
      exact .map (buildQuery_twin connections draft (leaves _ (List.mem_singleton_self _)) clean)
        fun later query query' _ nested =>
          ⟨.exists (query, query'), rfl, rfl, .nested nested⟩
  | .not inner =>
      exact .tree Expr.not Expr.not Expr.not (fun _ => rfl) (fun _ => rfl)
        (buildExpr_twin connections inner leaves clean) id
  | .call name arguments =>
      have verbatim : coupling.Verbatim name := leaves (.verbatim name) List.mem_cons_self
      exact .tree (Expr.call name) (Expr.call name) (Expr.call name) (fun _ => rfl) (fun _ => rfl)
        (buildAll_twin connections arguments leaves.tail clean) (.cons_verbatim verbatim)
  | .aggregate name arguments distinct =>
      have verbatim : coupling.Verbatim name := leaves (.verbatim name) List.mem_cons_self
      exact .tree (Expr.aggregate name · distinct) (Expr.aggregate name · distinct)
        (Expr.aggregate name · distinct) (fun _ => rfl) (fun _ => rfl)
        (buildAll_twin connections arguments leaves.tail clean) (.cons_verbatim verbatim)
  | .groupConcat value distinct order separator limit offset =>
      exact .trees (Expr.groupConcat · distinct · separator limit offset)
        (Expr.groupConcat · distinct · separator limit offset)
        (Expr.groupConcat · distinct · separator limit offset) (fun _ _ => rfl) (fun _ _ => rfl)
        (buildOperand_twin connections value leaves.left fun call mem =>
          clean call (List.mem_append_left _ mem))
        (fun later grown => buildOrder_twin connections order leaves.right fun call mem =>
          clean call (List.mem_append_right _ mem))
        AdmitsAll.append
  | .ifElse condition yes no =>
      refine .bind
        (buildOperand_twin connections condition leaves.left fun call mem =>
          clean call (List.mem_append_left _ mem))
        fun later grown ⟨tree, same, same', admits⟩ => ?_
      refine .bind
        (buildOperand_twin connections yes leaves.right.left fun call mem =>
          clean call (List.mem_append_right _ (List.mem_append_left _ mem)))
        fun last more ⟨first, chosen, chosen', allowed⟩ => ?_
      refine .map
        (buildOperand_twin connections no leaves.right.right fun call mem =>
          clean call (List.mem_append_right _ (List.mem_append_right _ mem)))
        fun latest value value' most ⟨second, other, other', allowed'⟩ => ?_
      rw [same, same', chosen, chosen', other, other']
      exact ⟨.ifElse tree first second, rfl, rfl,
        (admits.mono (more.trans most)).append ((allowed.mono most).append allowed')⟩
  | .ifNull value fallback =>
      exact .trees Expr.ifNull Expr.ifNull Expr.ifNull (fun _ _ => rfl) (fun _ _ => rfl)
        (buildOperand_twin connections value leaves.left fun call mem =>
          clean call (List.mem_append_left _ mem))
        (fun later grown => buildOperand_twin connections fallback leaves.right fun call mem =>
          clean call (List.mem_append_right _ mem))
        AdmitsAll.append
  | .nullIf value other =>
      exact .trees Expr.nullIf Expr.nullIf Expr.nullIf (fun _ _ => rfl) (fun _ _ => rfl)
        (buildOperand_twin connections value leaves.left fun call mem =>
          clean call (List.mem_append_left _ mem))
        (fun later grown => buildOperand_twin connections other leaves.right fun call mem =>
          clean call (List.mem_append_right _ mem))
        AdmitsAll.append
  | .matchAgainst fields search booleanMode queryExpansion =>
      exact .trees (Expr.matchAgainst · · booleanMode queryExpansion)
        (Expr.matchAgainst · · booleanMode queryExpansion)
        (Expr.matchAgainst · · booleanMode queryExpansion) (fun _ _ => rfl) (fun _ _ => rfl)
        (buildAll_twin connections fields leaves.left fun call mem =>
          clean call (List.mem_append_left _ mem))
        (fun later grown => buildOperand_twin connections search leaves.right fun call mem =>
          clean call (List.mem_append_right _ mem))
        AdmitsAll.append
  | .operation lhs operator rhs =>
      have verbatim : coupling.Verbatim operator := leaves (.verbatim operator) List.mem_cons_self
      exact .trees (Expr.operation · operator ·) (Expr.operation · operator ·)
        (Expr.operation · operator ·) (fun _ _ => rfl) (fun _ _ => rfl)
        (buildOperand_twin connections lhs leaves.tail.left fun call mem =>
          clean call (List.mem_append_left _ mem))
        (fun later grown => buildOperand_twin connections rhs leaves.tail.right fun call mem =>
          clean call (List.mem_append_right _ mem))
        fun admits admitted => .cons_verbatim verbatim (admits.append admitted)
  | .nested draft =>
      exact .map (buildQuery_twin connections draft (leaves _ (List.mem_singleton_self _)) clean)
        fun later query query' _ nested =>
          ⟨.nested (query, query'), rfl, rfl, .nested nested⟩
  | .assign name draft =>
      have verbatim : coupling.Verbatim name := leaves (.verbatim name) List.mem_cons_self
      exact .map (buildQuery_twin connections draft (leaves (.nested draft) (by simp [Expr.leaves]))
        clean) fun later query query' _ nested =>
          ⟨.assign name (query, query'), rfl, rfl, .cons_verbatim verbatim (.nested nested)⟩
  | .cast value type =>
      have verbatim : coupling.Verbatim type := leaves (.verbatim type) List.mem_cons_self
      exact .tree (Expr.cast · type) (Expr.cast · type) (Expr.cast · type) (fun _ => rfl)
        (fun _ => rfl) (buildOperand_twin connections value leaves.tail clean)
        (.cons_verbatim verbatim)

theorem buildPredicate_twin (connections : coupling.connections home home')
    (draft : PredicateDraft) {registry : Registry} {workspace workspace' : Workspace}
    (leaves : coupling.CleanLeaves draft.leaves)
    (clean : ∀ call ∈ predicateCalls home draft workspace, coupling.Clean home call) :
    coupling.Builds registry workspace workspace' (predicateCalls home draft workspace)
      (predicateCalls home' draft workspace') (buildPredicate home draft)
      (buildPredicate home' draft) coupling.PredicateTwin := by
  match draft with
  | .single operand =>
      exact .tree Predicate.single Predicate.single Predicate.single (fun _ => rfl) (fun _ => rfl)
        (buildOperand_twin connections operand leaves.of_resolved clean) AdmitsAll.resolved
  | .pair lhs rhs =>
      exact .trees Predicate.pair Predicate.pair Predicate.pair (fun _ _ => rfl) (fun _ _ => rfl)
        (buildOperand_twin connections lhs leaves.of_pair.1 fun call mem =>
          clean call (List.mem_append_left _ mem))
        (fun later grown => buildOperand_twin connections rhs leaves.of_pair.2 fun call mem =>
          clean call (List.mem_append_right _ mem))
        AdmitsAll.pair
  | .compare lhs comparator rhs =>
      have verbatim : coupling.Verbatim comparator :=
        leaves (.verbatim comparator) List.mem_cons_self
      have others := CleanLeaves.tail leaves
      exact .trees (Predicate.compare · comparator ·) (Predicate.compare · comparator ·)
        (Predicate.compare · comparator ·) (fun _ _ => rfl) (fun _ _ => rfl)
        (buildOperand_twin connections lhs others.left.of_resolved fun call mem =>
          clean call (List.mem_append_left _ mem))
        (fun later grown =>
          buildOperand_twin connections rhs others.right.of_resolved fun call mem =>
            clean call (List.mem_append_right _ mem))
        (AdmitsAll.compare verbatim)

theorem buildQuery_twin (connections : coupling.connections home home') (draft : QueryDraft)
    {registry : Registry} {workspace workspace' : Workspace}
    (leaf : Within coupling.isCode coupling.values
      (fun connection => coupling.connections connection connection) (.nested draft))
    (clean : ∀ call ∈ queryCalls home draft workspace, coupling.Clean home call) :
    coupling.Builds registry workspace workspace' (queryCalls home draft workspace)
      (queryCalls home' draft workspace') (buildQuery home draft) (buildQuery home' draft)
      fun later query query' => coupling.Nested later false query query' := by
  match draft with
  | .recipe connection model table steps =>
      have asks : ∀ asked ∈ ({ connection, model, table } : Origin).connection,
          coupling.connections asked asked := leaf
      have made (twins : coupling.Workspaces registry workspace workspace') :=
        Made.make connections asks twins
      exact .map (.nest made (runSteps_twin connections steps clean)) fun later out out' _ nested =>
        nested
  | .take name => exact .take connections name
  | .clone name => exact .cloneNamed connections name

/-- A builder call runs alike, with the calls that it makes in turn. -/
theorem call_twin (connections : coupling.connections home home') (step : Step)
    {registry : Registry} {query query' result : Query} {workspace workspace' : Workspace}
    (own : coupling.Clean home ⟨step, query, workspace, result⟩)
    (clean : ∀ call ∈ innerCalls home step query workspace, coupling.Clean home call) :
    coupling.Edits registry query query' workspace workspace' (innerCalls home step query workspace)
      (innerCalls home' step query' workspace') (call home step) (call home' step)
      fun _ _ _ => True := by
  have leaves : coupling.CleanLeaves step.leaves := own.cleanLeaves
  match step with
  | .add fragment => exact Bool.noConfusion own.placed
  | .replaceClause keyword replacement => exact Bool.noConfusion own.placed
  | .removeClause keyword =>
      exact .returned (.placed (query.ledger_removeClause keyword)
        (query'.ledger_removeClause keyword) fun twin => twin.removeClause keyword)
        fun _ _ _ _ => trivial
  | .merge draft =>
      refine .build_bind_idle
        (buildQuery_twin connections draft (leaves _ (List.mem_singleton_self _)) clean)
        fun later _ nested => ?_
      exact .returned (.takeOver nested (query.ledger_merge _) (query'.ledger_merge _)
        fun _ twin twin' => twin.merge twin') fun _ _ _ _ => trivial
  | .parenthesis pull body =>
      exact .returned (.parenthesis pull (runSteps_twin connections body clean))
        fun _ _ _ _ => trivial
  | .raw sql =>
      have verbatim : coupling.Verbatim sql := leaves (.verbatim sql) (List.mem_singleton_self _)
      exact .returned (.placed rfl rfl fun twin => twin.insertToken verbatim) fun _ _ _ _ => trivial
  | .bindModel model =>
      exact .returned (.placed rfl rfl fun twin => { twin with model := rfl })
        fun _ _ _ _ => trivial
  | .view view => exact .get_bind (.pure trivial)
  | .compileOperand draft =>
      refine .build_bind_idle (buildOperand_twin connections draft leaves clean)
        fun later _ ⟨tree, same, same', admits⟩ => ?_
      rw [same, same']
      exact .returned (.compiling fun connections => Operand.compile_twin connections tree admits)
        fun _ _ _ _ => trivial
  | .bindScalar value =>
      have allowed : coupling.values value := leaves (.bound value) (List.mem_singleton_self _)
      exact .returned (.compiling fun connections => .bindScalar connections allowed)
        fun _ _ _ _ => trivial
  | .compileExpr draft =>
      refine .build_bind_idle (buildExpr_twin connections draft leaves clean)
        fun later _ ⟨tree, same, same', admits⟩ => ?_
      rw [same, same']
      exact .returned (.compiling fun connections => Expr.compile_twin connections tree admits)
        fun _ _ _ _ => trivial
  | .copy kind name => exact .of_hand fun hand => .get_bind (.built (.copy hand.toNested kind name))
  | .select distinct columns =>
      refine .build_bind_idle (buildAll_twin connections columns leaves.all_of_resolved clean)
        fun later _ ⟨trees, same, same', admits⟩ => ?_
      have silent := own.silent
      simp only [Call.itemLeaves] at silent
      rw [same] at silent ⊢
      rw [same']
      exact .returned (.select distinct admits (silent.imp id admits.all_quiet))
        fun _ _ _ _ => trivial
  | .selectAs column label =>
      refine .build_bind_idle (buildOperand_twin connections column leaves.of_resolved clean)
        fun later _ ⟨tree, same, same', admits⟩ => ?_
      have silent := own.silent
      simp only [Call.itemLeaves] at silent
      rw [same] at silent ⊢
      rw [same']
      exact .returned (.selectAs label admits (silent.imp id admits.resolved_quiet))
        fun _ _ _ _ => trivial
  | .selectRaw sql =>
      have verbatim : coupling.Verbatim sql := leaves (.verbatim sql) (List.mem_singleton_self _)
      exact .returned (.placed (query.ledger_selectRaw sql) (query'.ledger_selectRaw sql)
        fun twin => twin.selectRaw (.verbatim verbatim)) fun _ _ _ _ => trivial
  | .source table label =>
      exact .returned (.placed (query.ledger_source table label) (query'.ledger_source table label)
        fun twin => twin.source table label) fun _ _ _ _ => trivial
  | .sourceQuery draft label =>
      exact .build_bind_idle
        (buildQuery_twin connections draft (leaves _ (List.mem_singleton_self _)) clean)
        fun later _ nested => .returned (.sourceQuery label nested) fun _ _ _ _ => trivial
  | .join kind table label none =>
      have nothing (query query' : Query) : coupling.Edits registry query query' workspace
          workspace' [] [] (return ()) (return ()) fun _ _ _ => True := .pure trivial
      exact .returned (.join kind table label (fun _ => nothing _ _) fun _ => ⟨rfl, rfl⟩)
        fun _ _ _ _ => trivial
  | .join kind table label (some body) =>
      refine .of_hand fun hand => ?_
      have target : query'.escapeAs table label = query.escapeAs table label :=
        hand.twin.escapeAs table label
      have joined : query'.isJoined (query'.escapeAs table label) =
          query.isJoined (query.escapeAs table label) := by
        rw [target]
        exact hand.twin.isJoined (hand.twin.plain_escapeAs table label)
      simp only [innerCalls] at clean ⊢
      rw [joined]
      refine .bind_idle (.join kind table label (fun absent => ?_) fun present => ?_)
        fun _ _ _ => ?_
      · rw [absent, if_neg Bool.false_ne_true] at clean ⊢
        rw [if_neg Bool.false_ne_true]
        exact runSteps_twin connections body clean
      · rw [present]
        exact ⟨rfl, rfl⟩
      · split <;> split <;> exact .pure trivial
  | .addTerms clause columns =>
      refine .build_bind_idle (buildAll_twin connections columns leaves.all_of_resolved clean)
        fun later _ ⟨trees, same, same', admits⟩ => ?_
      rw [same, same']
      exact .returned (.addTerms clause admits) fun _ _ _ _ => trivial
  | .addOrder column descends =>
      refine .build_bind_idle (buildOperand_twin connections column leaves.of_resolved clean)
        fun later _ ⟨tree, same, same', admits⟩ => ?_
      rw [same, same']
      exact .returned (.addOrder descends admits) fun _ _ _ _ => trivial
  | .addOrderRaw sql =>
      have verbatim : coupling.Verbatim sql := leaves (.verbatim sql) (List.mem_singleton_self _)
      exact .returned (.placed (query.ledger_addTerm _ _) (query'.ledger_addTerm _ _) fun twin =>
        twin.addTerm (Writing.verbatim_of_all (by decide)) (.verbatim verbatim) (by decide))
        fun _ _ _ _ => trivial
  | .limit count =>
      exact .returned (.placed (query.ledger_setText _ _) (query'.ledger_setText _ _) fun twin =>
        twin.limit count) fun _ _ _ _ => trivial
  | .offset count =>
      exact .returned (.placed (query.ledger_setText _ _) (query'.ledger_setText _ _) fun twin =>
        twin.offset count) fun _ _ _ _ => trivial
  | .paginate request =>
      have ledger (query : Query) : (query.paginate request).ledger = query.ledger := by
        simp [Query.paginate, Query.limit, Query.offset]
      exact .returned (.placed (ledger query) (ledger query') fun twin =>
        (twin.limit _).offset _) fun _ _ _ _ => trivial
  | .union keepsDuplicates draft =>
      refine .build_bind_idle
        (buildQuery_twin connections draft (leaves _ (List.mem_singleton_self _)) clean)
        fun later _ nested => ?_
      exact .returned (.takeOver nested (query.ledger_union keepsDuplicates _)
        (query'.ledger_union keepsDuplicates _) fun _ twin twin' =>
          twin.union twin' keepsDuplicates) fun _ _ _ _ => trivial
  | .addCommonTable isRecursive name draft =>
      exact .build_bind_idle
        (buildQuery_twin connections draft (leaves _ (List.mem_singleton_self _)) clean)
        fun later _ nested =>
          .returned (.addCommonTable isRecursive name nested) fun _ _ _ _ => trivial
  | .lockForUpdate => exact .returned .lockForUpdate fun _ _ _ _ => trivial
  | .condition clause connective predicate =>
      refine .build_bind_idle (buildPredicate_twin connections predicate leaves clean)
        fun later _ ⟨tree, same, same', admits⟩ => ?_
      rw [same, same']
      exact .returned (.condition tree clause connective admits) fun _ _ _ _ => trivial
  | .filterIn negated lhs values =>
      refine .build_bind
        (buildOperand_twin connections lhs leaves.left.of_resolved fun call mem =>
          clean call (List.mem_append_left _ mem))
        fun later _ ⟨tree, same, same', admits⟩ => ?_
      refine .build_bind_idle
        (buildAll_twin connections values leaves.right fun call mem =>
          clean call (List.mem_append_right _ mem))
        fun later grown ⟨trees, all, all', admits'⟩ => ?_
      rw [same, same', all, all']
      exact .returned (.filterIn negated (admits.mono grown) admits') fun _ _ _ _ => trivial
  | .conditionGroup connective body =>
      exact .returned (.conditionGroup connective (runSteps_twin connections body clean))
        fun _ _ _ _ => trivial
  | .addExpression keyword lhs comparator rhs =>
      have verbatim : coupling.Verbatim keyword := leaves (.verbatim keyword) List.mem_cons_self
      have compared : ∀ text ∈ comparator, coupling.Verbatim text := by
        rintro text rfl
        exact leaves (.verbatim text) (by simp [Step.leaves])
      refine .build_bind
        (buildOption_twin connections lhs (CleanLeaves.option leaves.tail.left) fun call mem =>
          clean call (List.mem_append_left _ mem))
        fun later _ ⟨first, same, same', admits⟩ => ?_
      refine .build_bind_idle
        (buildOption_twin connections rhs (CleanLeaves.option leaves.tail.right.right)
          fun call mem => clean call (List.mem_append_right _ mem))
        fun later grown ⟨second, more, more', admits'⟩ => ?_
      have silent := own.silent
      simp only [Call.itemLeaves] at silent
      rw [same, more, predicateOf?_project] at silent
      rw [same, same', more, more']
      have admitted (predicate : TwinPredicate)
          (made : predicateOf? first comparator second = some predicate) :=
        AdmitsAll.predicateOf made compared (admits.mono grown) admits'
      refine .returned (.addExpression verbatim admitted fun select => ?_) fun _ _ _ _ => trivial
      refine silent.imp id fun silent predicate made => (admitted predicate made).quiet ?_
      rw [if_pos select, made] at silent
      rw [← Predicate.leaves_project]
      exact silent
  | .addPredicate keyword predicate =>
      have verbatim : coupling.Verbatim keyword := leaves (.verbatim keyword) List.mem_cons_self
      refine .build_bind_idle (buildPredicate_twin connections predicate leaves.tail clean)
        fun later _ ⟨tree, same, same', admits⟩ => ?_
      have silent := own.silent
      simp only [Call.itemLeaves] at silent
      rw [same] at silent ⊢
      rw [same']
      refine .returned (.addPredicate verbatim admits fun select => ?_) fun _ _ _ _ => trivial
      rw [if_pos select, Predicate.leaves_project] at silent
      exact silent.imp id admits.quiet
  | .filterByKey values =>
      refine .build_bind_idle (buildAll_twin connections values leaves.all_of_resolved clean)
        fun later _ ⟨trees, same, same', admits⟩ => ?_
      rw [same, same']
      exact .returned (.filterByKey admits) fun _ _ _ _ => trivial
  | .filterByKeys rows =>
      refine .build_bind_idle (buildRows_twin connections rows leaves.all_of_resolved clean)
        fun later _ ⟨trees, same, same', admits⟩ => ?_
      rw [same, same']
      exact .returned (.filterByKeys admits) fun _ _ _ _ => trivial
  | .filterHas relation body =>
      refine .of_hand fun hand => ?_
      have link : query'.relationLink relation = query.relationLink relation := by
        simp only [Query.relationLink, hand.twin.model]
      simp only [innerCalls] at clean ⊢
      rw [link]
      refine .returned (.filterHas relation (fun link known => ?_) fun error known => ?_)
        fun _ _ _ _ => trivial
      · rw [known] at clean ⊢
        exact runSteps_twin connections body clean
      · rw [known]
        exact ⟨rfl, rfl⟩
  | .insertInto replaces table columns =>
      refine .returned (.attempt fun twin => ?_) fun _ _ _ _ => trivial
      cases replaces with
      | true => exact twin.attempted_replaceInto table columns
      | false => exact twin.attempted_insertHead (by decide) (by decide) table columns
  | .values row =>
      refine .build_bind_idle (buildAll_twin connections row leaves.all_of_resolved clean)
        fun later _ ⟨trees, same, same', admits⟩ => ?_
      rw [same, same']
      exact .returned (.values admits.all_resolved) fun _ _ _ _ => trivial
  | .update table =>
      exact .returned (.placed (query.ledger_addText _ _) (query'.ledger_addText _ _) fun twin =>
        twin.update table) fun _ _ _ _ => trivial
  | .assign column value =>
      refine .build_bind
        (buildOperand_twin connections column leaves.left.of_resolved fun call mem =>
          clean call (List.mem_append_left _ mem))
        fun later _ ⟨tree, same, same', admits⟩ => ?_
      refine .build_bind_idle
        (buildOperand_twin connections value leaves.right.of_resolved fun call mem =>
          clean call (List.mem_append_right _ mem))
        fun later grown ⟨other, more, more', admits'⟩ => ?_
      rw [same, same', more, more']
      exact .returned (.assign (admits.mono grown) admits') fun _ _ _ _ => trivial
  | .assignRaw column sql =>
      have verbatim : coupling.Verbatim sql := leaves (.verbatim sql) (List.mem_singleton_self _)
      exact .returned (.placed (query.ledger_addTerm _ _) (query'.ledger_addTerm _ _) fun twin =>
        twin.setRaw column verbatim) fun _ _ _ _ => trivial
  | .deleteFrom table =>
      exact .returned (.placed (query.ledger_addText _ _) (query'.ledger_addText _ _) fun twin =>
        twin.deleteFrom table) fun _ _ _ _ => trivial
  | .onConflictUpdate conflict columns =>
      exact .returned (.attempt fun twin => twin.attempted_onConflictUpdate conflict columns)
        fun _ _ _ _ => trivial
  | .onConflictDoNothing conflict =>
      exact .returned (.attempt fun twin => twin.attempted_onConflictDoNothing conflict)
        fun _ _ _ _ => trivial
  | .returning columns =>
      refine .build_bind_idle (buildAll_twin connections columns leaves.all_of_resolved clean)
        fun later _ ⟨trees, same, same', admits⟩ => ?_
      rw [same, same']
      exact .returned (.returning admits.all_resolved) fun _ _ _ _ => trivial
  | .fetch kind responses =>
      exact .of_hand fun hand => .get_bind
        (.build_bind_idle (.fetch hand.toNested kind responses.toExecutor) fun _ _ _ =>
          .pure trivial)

theorem runSteps_twin (connections : coupling.connections home home') (steps : List Step)
    {registry : Registry} {query query' : Query} {workspace workspace' : Workspace}
    (clean : ∀ call ∈ stepsCalls home steps query workspace, coupling.Clean home call) :
    coupling.Edits registry query query' workspace workspace'
      (stepsCalls home steps query workspace) (stepsCalls home' steps query' workspace')
      (runSteps home steps) (runSteps home' steps) fun _ _ _ => True := by
  match steps with
  | [] => exact .pure trivial
  | step :: rest =>
      have first : coupling.Edits registry query query' workspace workspace'
          (innerCalls home step query workspace) (innerCalls home' step query' workspace')
          (call home step) (call home' step) fun _ _ _ => True :=
        call_twin connections step (clean _ List.mem_cons_self) fun call mem =>
          clean call (List.mem_cons_of_mem _ (List.mem_append_left _ mem))
      refine .bind (first.called step) fun later _ _ => .get_bind ?_
      exact .returned (runSteps_twin connections rest fun call mem =>
        clean call (List.mem_cons_of_mem _ (List.mem_append_right _ mem))) fun _ _ _ _ => trivial

end

end Coupling

end SqlBuilder
