import SqlBuilder.Proofs.Twin.Edit

/-!
# Conditions and groups in both runs

Conditions, the groups and joins that callbacks fill, and the conditions that follow from models.
A callback runs on a twin pair of its own: the queries that the group or the join has opened, or the
queries of the related rows.
-/

namespace SqlBuilder

open Script

theorem Predicate.customs_project (pick : Query × Query → Query) (predicate : TwinPredicate) :
    (predicate.project pick).customs = [] := by
  have none (operand : TwinOperand) : (operand.project pick).custom? = none := by
    cases operand with
    | custom own => exact own.elim
    | column name => rfl
    | raw sql => rfl
    | scalar value => rfl
    | backing value => rfl
    | expr expr => rfl
    | query twins => rfl
  cases predicate with
  | single operand => simp [Predicate.project, Predicate.customs, Predicate.operands, none]
  | pair lhs rhs => simp [Predicate.project, Predicate.customs, Predicate.operands, none]
  | compare lhs comparator rhs =>
      simp [Predicate.project, Predicate.customs, Predicate.operands, none]

theorem Operand.projectAll_eq_map (pick : Query × Query → Query) (operands : List TwinOperand) :
    Operand.projectAll pick operands = operands.map (Operand.project pick) := by
  induction operands with
  | nil => rfl
  | cons operand rest ih => rw [Operand.projectAll, ih, List.map_cons]

theorem Operand.flatten_projectAll (pick : Query × Query → Query) (rows : List (List TwinOperand)) :
    (rows.map (Operand.projectAll pick)).flatten = Operand.projectAll pick rows.flatten := by
  rw [Operand.projectAll_eq_map, List.map_flatten]
  refine congrArg List.flatten (List.map_congr_left fun row _ => ?_)
  exact Operand.projectAll_eq_map pick row

theorem Operand.leavesAll_eq_flatMap {Nested Custom : Type}
    (operands : List (Operand Nested Custom)) :
    Operand.leavesAll operands = operands.flatMap Operand.leaves := by
  induction operands with
  | nil => rfl
  | cons operand rest ih => rw [Operand.leavesAll, ih, List.flatMap_cons]

theorem Operand.leavesAll_append {Nested Custom : Type}
    (operands more : List (Operand Nested Custom)) :
    Operand.leavesAll (operands ++ more) =
      Operand.leavesAll operands ++ Operand.leavesAll more := by
  simp [Operand.leavesAll_eq_flatMap]

namespace Coupling.AdmitsAll

variable {coupling : Coupling} {registry : Registry} {lhs rhs : TwinOperand}

/-- Equality with null leaves its right side out. -/
theorem pair (admits : coupling.AdmitsAll registry false lhs.leaves)
    (admits' : coupling.AdmitsAll registry false rhs.leaves) :
    coupling.AdmitsAll registry false (Predicate.pair lhs rhs).leaves := by
  by_cases null : rhs = .scalar .null
  · subst null
    exact admits.resolved.append admits'
  · have leaves : (Predicate.pair lhs rhs).leaves = lhs.resolvedLeaves ++ rhs.resolvedLeaves := by
      rw [Predicate.leaves]
      exact null
    rw [leaves]
    exact admits.resolved.append admits'.resolved

theorem compare {comparator : String} (verbatim : coupling.Verbatim comparator)
    (admits : coupling.AdmitsAll registry false lhs.leaves)
    (admits' : coupling.AdmitsAll registry false rhs.leaves) :
    coupling.AdmitsAll registry false (Predicate.compare lhs comparator rhs).leaves := by
  intro leaf mem
  rcases List.mem_cons.1 mem with rfl | mem
  · exact verbatim
  · exact (admits.resolved.append admits'.resolved) leaf mem

end Coupling.AdmitsAll

theorem Operand.isEmpty_projectAll (pick : Query × Query → Query) (operands : List TwinOperand) :
    (Operand.projectAll pick operands).isEmpty = operands.isEmpty := by
  cases operands <;> rfl

namespace Coupling.Edits

variable {coupling : Coupling} {registry : Registry} {query query' : Query}
  {workspace workspace' : Workspace} {calls calls' : List Call} {α β γ δ : Type}

/-- A predicate is a select item if its keyword says so, and then it has to be the same. -/
theorem compilePredicate {predicate : TwinPredicate} (keyword : String)
    (admits : coupling.AdmitsAll registry false predicate.leaves)
    (silent : isSelectKeyword keyword = true →
      coupling.identical ∨ coupling.AdmitsAll registry true predicate.leaves) :
    coupling.Edits registry query query' workspace workspace' [] []
      (Edit.compiling fun connection => (predicate.project Prod.fst).compile connection)
      (Edit.compiling fun connection => (predicate.project Prod.snd).compile connection)
      fun world text text' => coupling.Text world.known text text' ∧
        (isSelectKeyword keyword = true → text' = text) := by
  have written (quiet : Bool) (admits : coupling.AdmitsAll registry quiet predicate.leaves) :
      coupling.Edits registry query query' workspace workspace' [] []
        (Edit.compiling fun connection => (predicate.project Prod.fst).compile connection)
        (Edit.compiling fun connection => (predicate.project Prod.snd).compile connection)
        fun world text text' => coupling.Text (world.visible quiet) text text' :=
    .compiling fun connections => Predicate.compile_twin connections predicate admits
  by_cases select : isSelectKeyword keyword = true
  · rcases silent select with identical | silent
    · have literal := (coupling.alike identical).2.2.2
      exact (written false admits).consequence fun world text text' twin =>
        ⟨twin, fun _ => (twin.eq_of_literal literal).symm⟩
    · exact (written true silent).consequence fun world text text' twin =>
        ⟨twin.mono (List.nil_subset _), fun _ => twin.eq_of_known_eq_nil.symm⟩
  · exact (written false admits).consequence fun world text text' twin =>
      ⟨twin, fun isSelect => absurd isSelect select⟩

theorem addPredicate {predicate : TwinPredicate} {keyword : String}
    (verbatim : coupling.Verbatim keyword)
    (admits : coupling.AdmitsAll registry false predicate.leaves)
    (silent : isSelectKeyword keyword = true →
      coupling.identical ∨ coupling.AdmitsAll registry true predicate.leaves) :
    coupling.Edits registry query query' workspace workspace' [] []
      (Edit.addPredicate keyword (predicate.project Prod.fst))
      (Edit.addPredicate keyword (predicate.project Prod.snd)) fun _ _ _ => True := by
  have idle {registry : Registry} {query query' : Query} {workspace workspace' : Workspace} :
      coupling.Edits registry query query' workspace workspace' [] [] (Edit.runAll [])
        (Edit.runAll []) fun _ _ _ => True := .pure trivial
  unfold Edit.addPredicate
  rw [Predicate.customs_project, Predicate.customs_project]
  refine .bind_idle idle fun later grown _ => ?_
  refine .bind_idle (.compilePredicate keyword (admits.mono grown.registry) fun select =>
    (silent select).imp id fun silent => silent.mono grown.registry)
    fun last further ⟨written, listed⟩ => ?_
  exact .bind_idle (.placed (Query.ledger_addText _ _ _) (Query.ledger_addText _ _ _) fun twin =>
    twin.addText verbatim written listed) fun _ _ _ => idle

theorem condition (predicate : TwinPredicate) (clause : ConditionClause) (connective : Connective)
    (admits : coupling.AdmitsAll registry false predicate.leaves) :
    coupling.Edits registry query query' workspace workspace' [] []
      (Edit.condition clause connective (predicate.project Prod.fst))
      (Edit.condition clause connective (predicate.project Prod.snd)) fun _ _ _ => True := by
  have keywords : coupling.Edits registry query query' workspace workspace' [] []
      (modifyGet (·.nextKeyword clause connective)) (modifyGet (·.nextKeyword clause connective))
      fun _ keyword keyword' => keyword' = keyword ∧ coupling.Verbatim keyword ∧
        isSelectKeyword keyword = false := by
    obtain ⟨plain, notSelect⟩ := Query.Twin.nextKeyword_word query clause connective
    exact .place rfl rfl fun twin => ⟨twin.nextKeyword clause connective,
      twin.nextKeyword_eq clause connective, Writing.verbatim_of_all plain, notSelect⟩
  refine .bind_idle keywords fun later grown ⟨same, verbatim, notSelect⟩ => ?_
  rw [same]
  exact .addPredicate verbatim (admits.mono grown.registry) fun select =>
    absurd (notSelect.symm.trans select) Bool.false_ne_true

theorem filter (predicate : TwinPredicate)
    (admits : coupling.AdmitsAll registry false predicate.leaves) :
    coupling.Edits registry query query' workspace workspace' [] []
      (Edit.filter (predicate.project Prod.fst)) (Edit.filter (predicate.project Prod.snd))
      fun _ _ _ => True :=
  .condition predicate .filter .and admits

/-- A condition given by verbatim SQL. -/
theorem filterRaw {sql : String} (verbatim : coupling.Verbatim sql) :
    coupling.Edits registry query query' workspace workspace' [] [] (Edit.filter (.raw sql))
      (Edit.filter (.raw sql)) fun _ _ _ => True := by
  have admits : coupling.AdmitsAll registry false (Predicate.single (.raw sql)).leaves := by
    intro leaf mem
    obtain rfl := List.mem_singleton.1 mem
    exact verbatim
  exact .filter (.single (.raw sql)) admits

theorem filterIn {lhs : TwinOperand} {values : List TwinOperand} (negated : Bool)
    (admits : coupling.AdmitsAll registry false lhs.leaves)
    (admits' : coupling.AdmitsAll registry false (Operand.leavesAll values)) :
    coupling.Edits registry query query' workspace workspace' [] []
      (Edit.filterIn negated (lhs.project Prod.fst) (Operand.projectAll Prod.fst values))
      (Edit.filterIn negated (lhs.project Prod.snd) (Operand.projectAll Prod.snd values))
      fun _ _ _ => True := by
  unfold Edit.filterIn
  rw [Operand.isEmpty_projectAll, Operand.isEmpty_projectAll]
  split
  · refine .filterRaw ?_
    cases negated <;> exact Writing.verbatim_of_all (by decide)
  · have all : coupling.AdmitsAll registry false (Predicate.inList negated lhs values).leaves := by
      cases negated <;> exact admits.resolved.append admits'
    cases negated with
    | true => exact .filter (.pair lhs (.expr (.not (.inList values)))) all
    | false => exact .filter (.pair lhs (.expr (.inList values))) all

theorem hasRows {nested nested' : Query} (twins : coupling.Nested registry false nested nested') :
    coupling.Edits registry query query' workspace workspace' [] []
      (Edit.filter (.hasRows nested)) (Edit.filter (.hasRows nested')) fun _ _ _ => True := by
  have admits : coupling.AdmitsAll registry false
      (Predicate.hasRows (nested, nested') : TwinPredicate).leaves := by
    intro leaf mem
    obtain rfl := List.mem_singleton.1 mem
    exact twins
  exact .filter (.single (.expr (.exists (nested, nested')))) admits

/-- Parts that make a predicate make one in both runs. -/
theorem addExpression {keyword : String} {lhs rhs : Option TwinOperand}
    {comparator : Option String} (verbatim : coupling.Verbatim keyword)
    (admits : ∀ predicate, predicateOf? lhs comparator rhs = some predicate →
      coupling.AdmitsAll registry false predicate.leaves)
    (silent : isSelectKeyword keyword = true → coupling.identical ∨
      ∀ predicate, predicateOf? lhs comparator rhs = some predicate →
        coupling.AdmitsAll registry true predicate.leaves) :
    coupling.Edits registry query query' workspace workspace' [] []
      (Edit.addExpression keyword (lhs.map (Operand.project Prod.fst)) comparator
        (rhs.map (Operand.project Prod.fst)))
      (Edit.addExpression keyword (lhs.map (Operand.project Prod.snd)) comparator
        (rhs.map (Operand.project Prod.snd))) fun _ _ _ => True := by
  have added (predicate : TwinPredicate)
      (made : predicateOf? lhs comparator rhs = some predicate) :
      coupling.Edits registry query query' workspace workspace' [] []
        (Except.ok <$> Edit.addPredicate keyword (predicate.project Prod.fst))
        (Except.ok <$> Edit.addPredicate keyword (predicate.project Prod.snd))
        fun _ (_ _ : Except QueryError Unit) => True := by
    rw [← bind_pure_comp, ← bind_pure_comp]
    refine (addPredicate verbatim (admits predicate made) fun select => ?_).returned
      fun _ _ _ _ => trivial
    exact (silent select).imp id fun silent => silent predicate made
  cases lhs with
  | none => exact .pure trivial
  | some lhs =>
      cases comparator with
      | none =>
          cases rhs with
          | none => exact added (.single lhs) rfl
          | some rhs => exact added (.pair lhs rhs) rfl
      | some comparator =>
          cases rhs with
          | none => exact .pure trivial
          | some rhs => exact added (.compare lhs comparator rhs) rfl

/-! ### Groups and joins -/

/-- A step that opens something, runs a callback inside, and closes it again. -/
theorem wrapped {action : Edit γ} {action' : Edit δ} {body : Edit α} {body' : Edit β}
    {entered entered' : Query} {post : World → α → β → Prop} (build : α → γ) (build' : β → δ)
    (leave leave' : Query → Query)
    (inside : coupling.Edits registry entered entered' workspace workspace' calls calls' body body'
      post)
    (ran : (action.run query).run workspace =
      let out := (body.run entered).run workspace
      ((build out.1.1, leave out.1.2), out.2))
    (ran' : (action'.run query').run workspace' =
      let out := (body'.run entered').run workspace'
      ((build' out.1.1, leave' out.1.2), out.2))
    (same : entered.ledger = query.ledger) (same' : entered'.ledger = query'.ledger)
    (enters : query.Twin coupling query.params query' →
      entered.Twin coupling query.params entered')
    (kept : ∀ inside, (leave inside).ledger = inside.ledger)
    (kept' : ∀ inside, (leave' inside).ledger = inside.ledger)
    (leaves : ∀ {known inside inside'}, query.Twin coupling query.params query' →
      inside.Twin coupling known inside' → (leave inside).Twin coupling known (leave' inside')) :
    coupling.Edits registry query query' workspace workspace' calls calls' action action'
      fun _ _ _ => True := by
  have params : entered.params = query.params :=
    congrArg (fun ledger => ledger.params.entries) same
  have namespaceId : entered.namespaceId = query.namespaceId :=
    congrArg (fun ledger => ledger.params.namespaceId) same
  intro hand twins
  -- Entering and leaving change fragments only: the ledgers are those of the callback.
  have opened := hand.of_ledger_eq same same' (enters hand.twin)
  obtain ⟨later, progress, sameId, known, closing, twins, called, -⟩ := inside opened twins
  rw [namespaceId] at progress sameId
  rw [params] at known
  dsimp only
  rw [ran, ran']
  dsimp only
  generalize (body.run entered).run workspace = out at *
  generalize (body'.run entered').run workspace' = out' at *
  have keptParams : (leave out.1.2).params = out.1.2.params :=
    congrArg (fun ledger => ledger.params.entries) (kept out.1.2)
  have keptId : (leave out.1.2).namespaceId = out.1.2.namespaceId :=
    congrArg (fun ledger => ledger.params.namespaceId) (kept out.1.2)
  refine ⟨later, progress, keptId.trans sameId, ?_, ?_, twins, called, trivial⟩
  · rw [keptParams]
    exact known
  · exact closing.of_ledger_eq (kept _) (kept' _) (leaves hand.twin closing.twin)

theorem parenthesis (pull : Bool) {body : Edit α} {body' : Edit β} {post : World → α → β → Prop}
    (inside : coupling.Edits registry (query.insertToken "(") (query'.insertToken "(") workspace
      workspace' calls calls' body body' post) :
    coupling.Edits registry query query' workspace workspace' calls calls'
      (Edit.parenthesis pull body) (Edit.parenthesis pull body') fun _ _ _ => True := by
  have mark : coupling.Verbatim "(" := Writing.verbatim_of_all (by decide)
  refine .wrapped id id
    (·.closeGroup pull query.insertionPoint (query.insertToken "(").fragments.length)
    (·.closeGroup pull query'.insertionPoint (query'.insertToken "(").fragments.length) inside
    (Edit.run_parenthesis pull body query workspace)
    (Edit.run_parenthesis pull body' query' workspace') rfl rfl
    (fun twin => twin.insertToken mark) (fun inside => inside.ledger_closeGroup _ _ _)
    (fun inside => inside.ledger_closeGroup _ _ _) (fun twin closing => ?_)
  rw [twin.insertionPoint, (twin.insertToken mark).length]
  exact closing.closeGroup pull _ _

theorem conditionGroup (connective : Connective) {body : Edit α} {body' : Edit β}
    {post : World → α → β → Prop}
    (inside : coupling.Edits registry (query.openGroup connective) (query'.openGroup connective)
      workspace workspace' calls calls' body body' post) :
    coupling.Edits registry query query' workspace workspace' calls calls'
      (Edit.conditionGroup connective body) (Edit.conditionGroup connective body')
      fun _ _ _ => True :=
  .wrapped id id (query.closeConditionGroup · connective)
    (query'.closeConditionGroup · connective) inside
    (Edit.run_conditionGroup connective body query workspace)
    (Edit.run_conditionGroup connective body' query' workspace') rfl rfl
    (fun twin => twin.openGroup connective) (fun inside => inside.ledger_closeGroup _ _ _)
    (fun inside => inside.ledger_closeGroup _ _ _)
    (fun twin closing => twin.closeConditionGroup closing connective)

/-- Twin queries have lost fragments in both runs or in neither. -/
theorem keeping {before before' : Query} {body : Edit α} {body' : Edit β}
    {post : World → α → β → Prop}
    (length : before'.fragments.length = before.fragments.length)
    (inside : coupling.Edits registry query query' workspace workspace' calls calls' body body'
      post) :
    coupling.Edits registry query query' workspace workspace' calls calls' (body.keeping before)
      (body'.keeping before') post := by
  intro hand twins
  obtain ⟨later, progress, same, known, hand, twins, called, held⟩ := inside hand twins
  have lost : ((body'.run query').run workspace').1.2.lostFragments before' =
      ((body.run query).run workspace).1.2.lostFragments before := by
    rw [Query.lostFragments, Query.lostFragments, length, hand.twin.length]
  exact ⟨later, { progress with }, same, known, hand,
    { twins with aborted := congrArg₂ or lost twins.aborted }, called, held⟩

/-- A join opens in both runs or in neither, since values are not taken for names. -/
theorem join (kind : JoinKind) (table : String) (label : Option String) {body : Edit α}
    {body' : Edit β}
    (inside : query.isJoined (query.escapeAs table label) = false →
      coupling.Edits registry (query.openJoin kind (query.escapeAs table label))
        (query'.openJoin kind (query'.escapeAs table label)) workspace workspace' calls calls' body
        body' fun _ _ _ => True)
    (idle : query.isJoined (query.escapeAs table label) = true → calls = [] ∧ calls' = []) :
    coupling.Edits registry query query' workspace workspace' calls calls'
      (Edit.join kind table label body) (Edit.join kind table label body') fun _ _ _ => True := by
  have ran := Edit.run_join kind table label body query workspace
  have ran' := Edit.run_join kind table label body' query' workspace'
  refine .of_hand fun hand => ?_
  have target : query'.escapeAs table label = query.escapeAs table label :=
    hand.twin.escapeAs table label
  have joined := hand.twin.isJoined (hand.twin.plain_escapeAs table label)
  dsimp only at ran ran'
  rw [target, joined] at ran'
  cases known : query.isJoined (query.escapeAs table label) with
  | true =>
      obtain ⟨rfl, rfl⟩ := idle known
      rw [known, if_pos rfl] at ran ran'
      intro hand twins
      dsimp only
      rw [ran, ran']
      exact ⟨registry, .refl registry _ workspace, rfl, List.Subset.refl _, hand, twins, .nil,
        trivial⟩
  | false =>
      rw [known, if_neg Bool.false_ne_true] at ran ran'
      have opened := inside known
      rw [target] at opened
      have isPlain := hand.twin.plain_escapeAs table label
      exact .wrapped some some (·.closeJoin query) (·.closeJoin query')
        (opened.keeping hand.twin.length) ran ran' rfl rfl
        (fun twin => twin.openJoin kind isPlain) (fun _ => rfl) (fun _ => rfl)
        (fun twin closing => twin.closeJoin closing)

/-! ### Keys and relations -/

theorem keyConditions (keys : List String) {values : List TwinOperand}
    (admits : coupling.AdmitsAll registry false (Operand.leavesAll values)) :
    coupling.Edits registry query query' workspace workspace' [] []
      (Edit.keyConditions keys (Operand.projectAll Prod.fst values))
      (Edit.keyConditions keys (Operand.projectAll Prod.snd values)) fun _ _ _ => True := by
  induction keys generalizing registry query query' workspace workspace' values with
  | nil => exact .pure trivial
  | cons key keys ih =>
      cases values with
      | nil => exact .pure trivial
      | cons value values =>
          have column : coupling.AdmitsAll registry false (Operand.column key).leaves := by
            intro leaf mem
            simp [Operand.leaves] at mem
          refine .bind_idle (.filter (.pair (.column key) value) (column.pair admits.left))
            fun later grown _ => ?_
          exact ih (admits.right.mono grown.registry)

theorem filterByKey {values : List TwinOperand}
    (admits : coupling.AdmitsAll registry false (Operand.leavesAll values)) :
    coupling.Edits registry query query' workspace workspace' [] []
      (Edit.filterByKey (Operand.projectAll Prod.fst values))
      (Edit.filterByKey (Operand.projectAll Prod.snd values)) fun _ _ _ => True := by
  refine .of_hand fun hand => .get_bind ?_
  have columns : query'.keyColumns "where_primary_key" = query.keyColumns "where_primary_key" := by
    simp only [Query.keyColumns, hand.twin.model]
  rw [columns]
  cases query.keyColumns "where_primary_key" with
  | error error => exact .pure trivial
  | ok columns =>
      have counted (pick : Query × Query → Query) :
          (Operand.projectAll pick values).length = values.length := by
        rw [Operand.projectAll_eq_map, List.length_map]
      dsimp only
      rw [counted, counted]
      cases KeyArityError.check columns.length values.length with
      | error error => exact .pure trivial
      | ok => exact .bind_idle (.keyConditions columns admits) fun _ _ _ => .pure trivial

theorem furtherKeys (columns : List String) {rows : List (List TwinOperand)}
    (admits : coupling.AdmitsAll registry false (Operand.leavesAll rows.flatten)) :
    coupling.Edits registry query query' workspace workspace' [] []
      (Edit.furtherKeys columns (rows.map (Operand.projectAll Prod.fst)))
      (Edit.furtherKeys columns (rows.map (Operand.projectAll Prod.snd))) fun _ _ _ => True := by
  induction rows generalizing registry query query' workspace workspace' with
  | nil => exact .pure trivial
  | cons row rest ih =>
      rw [List.flatten_cons, Operand.leavesAll_append] at admits
      refine .bind_idle (.conditionGroup .or (.keyConditions columns admits.left))
        fun later grown _ => ?_
      exact ih (admits.right.mono grown.registry)

theorem keyGroup (columns : List String) {rows : List (List TwinOperand)}
    (admits : coupling.AdmitsAll registry false (Operand.leavesAll rows.flatten)) :
    coupling.Edits registry query query' workspace workspace' [] []
      (Edit.keyGroup columns (rows.map (Operand.projectAll Prod.fst)))
      (Edit.keyGroup columns (rows.map (Operand.projectAll Prod.snd))) fun _ _ _ => True := by
  cases rows with
  | nil => exact .pure trivial
  | cons row rest =>
      rw [List.flatten_cons, Operand.leavesAll_append] at admits
      refine .bind_idle (.conditionGroup .and (.keyConditions columns admits.left))
        fun later grown _ => ?_
      exact .furtherKeys columns (admits.right.mono grown.registry)

theorem filterByKeys {rows : List (List TwinOperand)}
    (admits : coupling.AdmitsAll registry false (Operand.leavesAll rows.flatten)) :
    coupling.Edits registry query query' workspace workspace' [] []
      (Edit.filterByKeys (rows.map (Operand.projectAll Prod.fst)))
      (Edit.filterByKeys (rows.map (Operand.projectAll Prod.snd))) fun _ _ _ => True := by
  refine .of_hand fun hand => .get_bind ?_
  have columns : query'.keyColumns "where_primary_key_in" =
      query.keyColumns "where_primary_key_in" := by
    simp only [Query.keyColumns, hand.twin.model]
  rw [columns]
  cases query.keyColumns "where_primary_key_in" with
  | error error => exact .pure trivial
  | ok columns =>
      have counted (pick : Query × Query → Query) :
          (rows.map (Operand.projectAll pick)).map List.length = rows.map List.length := by
        rw [List.map_map]
        exact List.map_congr_left fun row _ => by
          simp [Operand.projectAll_eq_map]
      dsimp only
      rw [counted, counted]
      cases KeyArityError.checkRows columns.length (rows.map List.length) with
      | error error => exact .pure trivial
      | ok =>
          cases rows with
          | nil =>
              have none : coupling.Verbatim "1 = 0" := Writing.verbatim_of_all (by decide)
              exact .bind_idle (.filterRaw none) fun _ _ _ => .pure trivial
          | cons row rest =>
              have listed (column : String) : coupling.Edits registry query query' workspace
                  workspace' [] []
                  (Edit.filterIn false (.column column)
                    ((row :: rest).map (Operand.projectAll Prod.fst)).flatten)
                  (Edit.filterIn false (.column column)
                    ((row :: rest).map (Operand.projectAll Prod.snd)).flatten)
                  fun _ _ _ => True := by
                rw [Operand.flatten_projectAll, Operand.flatten_projectAll]
                have name : coupling.AdmitsAll registry false
                    (Operand.column column : TwinOperand).leaves := by
                  simp [AdmitsAll, Operand.leaves]
                exact (filterIn false name admits :)
              have grouped (columns : List String) : coupling.Edits registry query query' workspace
                  workspace' [] []
                  (Edit.conditionGroup .and
                    (Edit.keyGroup columns ((row :: rest).map (Operand.projectAll Prod.fst))))
                  (Edit.conditionGroup .and
                    (Edit.keyGroup columns ((row :: rest).map (Operand.projectAll Prod.snd))))
                  fun _ _ _ => True := .conditionGroup .and (.keyGroup columns admits)
              rcases columns with _ | ⟨column, _ | ⟨other, more⟩⟩
              · exact .bind_idle (grouped []) fun _ _ _ => .pure trivial
              · exact .bind_idle (listed column) fun _ _ _ => .pure trivial
              · exact .bind_idle (grouped (column :: other :: more)) fun _ _ _ => .pure trivial

/-- The callback of an existence condition runs on new twin queries, which are then nested. -/
theorem filterHas (name : String) {body : Edit α} {body' : Edit β}
    (inside : ∀ link, query.relationLink name = .ok link →
      coupling.Edits registry ((query.relatedRows link).run workspace).1
        ((query'.relatedRows link).run workspace').1 ((query.relatedRows link).run workspace).2
        ((query'.relatedRows link).run workspace').2 calls calls' body body'
        fun _ _ _ => True)
    (idle : ∀ error, query.relationLink name = .error error → calls = [] ∧ calls' = []) :
    coupling.Edits registry query query' workspace workspace' calls calls'
      (Edit.filterHas name body) (Edit.filterHas name body') fun _ _ _ => True := by
  have ran := Edit.run_filterHas name body query workspace
  have ran' := Edit.run_filterHas name body' query' workspace'
  refine .of_hand fun hand => ?_
  have link : query'.relationLink name = query.relationLink name := by
    simp only [Query.relationLink, hand.twin.model]
  rw [link] at ran'
  cases known : query.relationLink name with
  | error error =>
      obtain ⟨rfl, rfl⟩ := idle error known
      rw [known] at ran ran'
      have failed : coupling.Edits registry query query' workspace workspace' [] []
          (return .error error : Edit (Except QueryError α))
          (return .error error : Edit (Except QueryError β)) fun _ _ _ => True := .pure trivial
      exact failed.of_run_eq ran ran'
  | ok link =>
      rw [known] at ran ran'
      have nested := Builds.nest (fun twins => Made.relatedRows hand.toNested link twins)
        (inside link known)
      have steps : coupling.Edits registry query query' workspace workspace' calls calls'
          (do
            let inside ← (do
              let related ← query.relatedRows link
              body.run related : Session (α × Query))
            Edit.filter (.hasRows inside.2)
            return (.ok inside.1 : Except QueryError α))
          (do
            let inside ← (do
              let related ← query'.relatedRows link
              body'.run related : Session (β × Query))
            Edit.filter (.hasRows inside.2)
            return (.ok inside.1 : Except QueryError β)) fun _ _ _ => True :=
        .build_bind_idle nested fun later _ twins =>
          .bind_idle (.hasRows twins) fun _ _ _ => .pure trivial
      exact of_run_eq steps ran ran'

end Coupling.Edits

end SqlBuilder
