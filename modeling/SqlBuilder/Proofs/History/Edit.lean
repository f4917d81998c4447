import SqlBuilder.Proofs.History.Compile
import SqlBuilder.Proofs.Script.Preservation
import SqlBuilder.Query.Mutation

/-!
# Events of builder calls

What a builder call on built operands lists, one lemma for each call. A call that fails lists
nothing, and a call without callback never touches the workspace, so the events of its operands are
all there is to tell.
-/

namespace SqlBuilder

open Operand (RecordsAll RecordsOption)

variable {α β : Type} {known : Param → Prop} {connection : Connection} {query : Query}
  {workspace : Workspace} {events more history : List Event}

/-- The events of a call if it succeeded. -/
def onSuccess (result : Except QueryError α) (events : List Event) : List Event :=
  match result with
  | .ok _ => events
  | .error _ => []

/-- Whether a change of a query lists events, which lead from its ledger before to the one
behind. -/
structure Query.Lists (known : Param → Prop) (query changed : Query) (events : List Event) :
    Prop where
  connection : changed.connection = query.connection
  ledger : query.ledger.Gains known changed.ledger events

namespace Query.Lists

variable {changed last : Query}

/-- Changes that concern the fragments list nothing. -/
theorem of_ledger (connection : changed.connection = query.connection)
    (ledger : changed.ledger = query.ledger) : query.Lists known changed [] :=
  ⟨connection, by rw [ledger]; exact .refl known _⟩

theorem of_rearranges (rearranges : query.Rearranges changed) : query.Lists known changed [] :=
  .of_ledger rearranges.connection rearranges.ledger

theorem trans (first : query.Lists known changed events) (second : changed.Lists known last more) :
    query.Lists known last (events ++ more) where
  connection := second.connection.trans first.connection
  ledger := first.ledger.trans second.ledger

/-- What lists nothing may come before. -/
theorem after (second : changed.Lists known last events) (first : query.Lists known changed []) :
    query.Lists known last events :=
  first.trans second

/-- What lists nothing may come behind. -/
theorem before (first : query.Lists known changed events) (second : changed.Lists known last []) :
    query.Lists known last events := by
  have both := first.trans second
  rwa [List.append_nil] at both

theorem addText (query : Query) (keyword text : String) :
    query.Lists known (query.addText keyword text) [] :=
  .of_rearranges (.add query _)

theorem addTerm (query : Query) (keyword term : String) :
    query.Lists known (query.addTerm keyword term) [] :=
  .addText query _ term

theorem setText (query : Query) (keyword text : String) :
    query.Lists known (query.setText keyword text) [] :=
  .of_rearranges (.setText query keyword text)

theorem removeClause (query : Query) (keyword : String) :
    query.Lists known (query.removeClause keyword) [] :=
  .of_rearranges (.removeClause query keyword)

theorem merge (query : Query) {other : Query} (settles : other.ledger.Settles known history) :
    query.Lists known (query.merge other) (Event.carried history) where
  connection := query.connection_foldl_insert other.fragments
  ledger := by
    rw [query.ledger_merge other]
    exact .adopt settles

theorem union (query : Query) (keepsDuplicates : Bool) {other : Query}
    (settles : other.ledger.Settles known history) :
    query.Lists known (query.union keepsDuplicates other) (Event.carried history) := by
  have token : query.Lists known
      (query.insertToken (if keepsDuplicates then "union all" else "union")) [] :=
    .of_ledger rfl rfl
  exact (merge _ settles).after token

theorem insertInto {replaces : Bool} {table : String} {columns : List String}
    (inserted : (if replaces then query.replaceInto table columns
      else query.insertInto table columns) = .ok changed) : query.Lists known changed [] := by
  cases replaces with
  | true =>
      obtain ⟨text, rfl⟩ := eq_addText_of_replaceInto inserted
      exact addText query _ text
  | false =>
      obtain ⟨text, rfl⟩ := eq_addText_of_insertHead inserted
      exact addText query _ text

theorem onConflictUpdate {conflict columns : List String}
    (updated : query.onConflictUpdate conflict columns = .ok changed) :
    query.Lists known changed [] := by
  obtain ⟨keyword, -, text, rfl⟩ := eq_addText_of_onConflictUpdate updated
  exact addText query keyword text

theorem onConflictDoNothing {conflict : List String}
    (updated : query.onConflictDoNothing conflict = .ok changed) :
    query.Lists known changed [] := by
  obtain ⟨text, rfl⟩ := eq_addText_of_onConflictDoNothing updated
  exact addText query _ text

theorem closeGroup (query : Query) (pull : Bool) (opening count : Nat) :
    query.Lists known (query.closeGroup pull opening count) [] :=
  .of_rearranges (.closeGroup query pull opening count)

end Query.Lists

namespace Edit

/-- Whether a step lists events, and leaves the workspace alone. -/
def Lists (known : Param → Prop) (query : Query) (workspace : Workspace) (action : Edit α)
    (events : List Event) : Prop :=
  query.Lists known ((action.run query).run workspace).1.2 events ∧
    ((action.run query).run workspace).2 = workspace

/-- Whether a step lists events on every query of a connection. -/
def Records (known : Param → Prop) (connection : Connection) (action : Edit α)
    (events : List Event) : Prop :=
  ∀ query workspace, query.connection = connection → action.Lists known query workspace events

theorem Lists.bind {action : Edit α} {next : α → Edit β}
    (first : action.Lists known query workspace events)
    (second : ∀ value, Records known query.connection (next value) more) :
    (action >>= next).Lists known query workspace (events ++ more) := by
  obtain ⟨lists, same⟩ := first
  obtain ⟨others, still⟩ := second ((action.run query).run workspace).1.1 _
    ((action.run query).run workspace).2 lists.connection
  exact ⟨lists.trans others, still.trans same⟩

/-- What a call returns is made of the result. -/
theorem Lists.map {action : Edit α} (lists : action.Lists known query workspace events)
    (change : α → β) :
    (do return change (← action) : Edit β).Lists known query workspace events :=
  lists

namespace Records

theorem pure (value : α) : Records known connection (pure value) [] :=
  fun _ _ _ => ⟨.of_ledger rfl rfl, rfl⟩

theorem bind {action : Edit α} {next : α → Edit β} (first : Records known connection action events)
    (second : ∀ value, Records known connection (next value) more) :
    Records known connection (action >>= next) (events ++ more) := by
  intro query workspace same
  exact (first query workspace same).bind fun value => same.symm ▸ second value

/-- What lists nothing may come behind. -/
theorem bind_nil {action : Edit α} {next : α → Edit β}
    (first : Records known connection action events)
    (second : ∀ value, Records known connection (next value) []) :
    Records known connection (action >>= next) events := by
  have both := first.bind second
  rwa [List.append_nil] at both

theorem map {action : Edit α} (records : Records known connection action events) (change : α → β) :
    Records known connection (do return change (← action)) events :=
  fun query workspace same => (records query workspace same).map change

theorem modify {change : Query → Query}
    (lists : ∀ query : Query, query.Lists known (change query) events) :
    Records known connection (modify change : Edit PUnit) events :=
  fun query _ _ => ⟨lists query, rfl⟩

theorem compiling {action : Connection → Compile α}
    (records : Compile.Records known (action connection) events) :
    Records known connection (compiling action) events := by
  rintro query workspace rfl
  obtain ⟨gains, same⟩ := records query.ledger workspace
  exact ⟨⟨rfl, gains⟩, same⟩

theorem resolve {operand : Value} (records : operand.Records known connection .item events) :
    Records known connection (resolve operand) events :=
  .compiling records.compiles

theorem resolveAll {operands : List Value}
    (all : RecordsAll known connection .item operands events) :
    Records known connection (resolveAll operands) events := by
  induction all with
  | nil => exact .pure _
  | cons first _ ih => exact (Records.resolve first).bind fun text => ih.map (text :: ·)

theorem embed {nested : Query} (settles : nested.ledger.Settles known history) :
    Records known connection (embed nested) (Event.carried history) :=
  .compiling (.embed settles)

/-! ### Conditions -/

theorem addPredicate (keyword : String) {predicate : Predicate Query CustomExpr}
    (records : predicate.Records known connection events) :
    Records known connection (addPredicate keyword predicate) events := by
  rintro query workspace rfl
  have compiling : Records known query.connection (Edit.compiling (predicate.compile ·)) events :=
    .compiling records.compiles
  obtain ⟨compiled, same⟩ := compiling query workspace rfl
  rw [Lists, run_addPredicate records.hookFree]
  exact ⟨compiled.before (.addText _ keyword _), same⟩

theorem condition (clause : ConditionClause) (connective : Connective)
    {predicate : Predicate Query CustomExpr} (records : predicate.Records known connection events) :
    Records known connection (condition clause connective predicate) events := by
  intro query workspace same
  have named : query.Lists known (query.nextKeyword clause connective).2 [] := .of_ledger rfl rfl
  obtain ⟨lists, still⟩ := Records.addPredicate (query.nextKeyword clause connective).1 records
    (query.nextKeyword clause connective).2 workspace same
  exact ⟨lists.after named, still⟩

theorem filter {predicate : Predicate Query CustomExpr}
    (records : predicate.Records known connection events) :
    Records known connection (filter predicate) events :=
  .condition .filter .and records

theorem filterRaw (sql : String) : Records known connection (Edit.filter (.raw sql)) [] :=
  .filter (.single (.raw sql))

/-- The values of an empty list are not compiled. -/
theorem filterIn (negated : Bool) {lhs : Value} {values : List Value}
    (left : lhs.Records known connection .item events)
    (all : RecordsAll known connection .inside values more) :
    Records known connection (filterIn negated lhs values)
      (if values.isEmpty then [] else events ++ more) := by
  unfold Edit.filterIn
  split
  · exact .filterRaw _
  · refine .filter (.pair left (.expr ?_))
    cases negated with
    | false => exact Expr.records_inList all
    | true => exact Expr.records_not (Expr.records_inList all)

/-- Keys are compared with as many values. -/
theorem keyConditions {keys : List String} {values : List Value}
    (all : RecordsAll known connection .side values events) (arity : keys.length = values.length) :
    Records known connection (keyConditions keys values) events := by
  induction all generalizing keys with
  | nil =>
      cases keys with
      | nil => exact .pure _
      | cons key keys => exact .pure _
  | cons first _ ih =>
      cases keys with
      | nil => cases arity
      | cons key keys =>
          have compared : Records known connection (Edit.filter (.pair (.column key) _))
              ([] ++ _) := .filter (.pair (.column key) first)
          exact compared.bind fun _ => ih (Nat.succ.inj arity)

theorem conditionGroup (connective : Connective) {body : Edit α}
    (inside : Records known connection body events) :
    Records known connection (conditionGroup connective body) events := by
  intro query workspace same
  obtain ⟨lists, still⟩ := inside (query.openGroup connective) workspace same
  have opened : query.Lists known (query.openGroup connective) [] := .of_ledger rfl rfl
  have closed := (lists.after opened).before (.closeGroup _ true query.insertionPoint
    (query.openGroup connective).fragments.length)
  rw [Lists, run_conditionGroup]
  exact ⟨closed.before (.of_ledger rfl rfl), still⟩

end Records

/-- Whether compiling rows of operands lists events. -/
inductive RecordsRows (known : Param → Prop) (connection : Connection) (slot : Slot) :
    List (List Value) → List Event → Prop
  | nil : RecordsRows known connection slot [] []
  | cons {row : List Value} {rest : List (List Value)} {events more : List Event} :
      RecordsAll known connection slot row events → RecordsRows known connection slot rest more →
      RecordsRows known connection slot (row :: rest) (events ++ more)

theorem RecordsRows.flatten {slot : Slot} {rows : List (List Value)}
    (all : RecordsRows known connection slot rows events) :
    RecordsAll known connection slot rows.flatten events := by
  induction all with
  | nil => exact .nil
  | cons first _ ih => exact first.append ih

theorem Records.furtherKeys {columns : List String} {rows : List (List Value)}
    (all : RecordsRows known connection .side rows events)
    (arity : ∀ row ∈ rows, columns.length = row.length) :
    Records known connection (furtherKeys columns rows) events := by
  induction all with
  | nil => exact .pure _
  | cons first _ ih =>
      obtain ⟨own, others⟩ := List.forall_mem_cons.1 arity
      exact (Records.conditionGroup .or (.keyConditions first own)).bind fun _ => ih others

theorem Records.keyGroup {columns : List String} {rows : List (List Value)}
    (all : RecordsRows known connection .side rows events)
    (arity : ∀ row ∈ rows, columns.length = row.length) :
    Records known connection (keyGroup columns rows) events := by
  cases all with
  | nil => exact .pure _
  | cons first rest =>
      obtain ⟨own, others⟩ := List.forall_mem_cons.1 arity
      exact (Records.conditionGroup .and (.keyConditions first own)).bind fun _ =>
        .furtherKeys rest others

end Edit

/-! ### Keys -/

/-- The place of the values of keys: those of one column are a list. -/
def Query.keySlot (query : Query) : Slot :=
  match query.keyColumns "where_primary_key_in" with
  | .ok [_] => .inside
  | _ => .side

namespace Edit

theorem lists_filterByKey {values : List Value}
    (all : RecordsAll known query.connection .side values events) (workspace : Workspace) :
    (filterByKey values).Lists known query workspace
      (onSuccess (((filterByKey values).run query).run workspace).1.1 events) := by
  unfold filterByKey
  cases asked : query.keyColumns "where_primary_key" with
  | error error =>
      simp only [Lists, StateT.run_bind, StateT.run_get, pure_bind, asked]
      exact ⟨.of_ledger rfl rfl, rfl⟩
  | ok columns =>
      cases counted : KeyArityError.check columns.length values.length with
      | error error =>
          simp only [Lists, StateT.run_bind, StateT.run_get, pure_bind, asked, counted]
          exact ⟨.of_ledger rfl rfl, rfl⟩
      | ok _ =>
          simp only [Lists, StateT.run_bind, StateT.run_get, pure_bind, asked, counted]
          exact Records.keyConditions all (KeyArityError.check_eq_ok_iff.1 counted) query workspace
            rfl

/-- Keys of one column are a list. -/
theorem Records.filterKeys (column : String) {values : List Value}
    (all : RecordsAll known connection .inside values events) :
    Records known connection (Edit.filterIn false (.column column) values) events := by
  have listed : Records known connection _ _ := .filterIn false (.column column) all
  cases all <;> exact listed

theorem lists_filterByKeys {rows : List (List Value)}
    (all : RecordsRows known query.connection query.keySlot rows events) (workspace : Workspace) :
    (filterByKeys rows).Lists known query workspace
      (onSuccess (((filterByKeys rows).run query).run workspace).1.1 events) := by
  unfold filterByKeys
  unfold Query.keySlot at all
  cases asked : query.keyColumns "where_primary_key_in" with
  | error error =>
      simp only [Lists, StateT.run_bind, StateT.run_get, pure_bind, asked]
      exact ⟨.of_ledger rfl rfl, rfl⟩
  | ok columns =>
      cases counted : KeyArityError.checkRows columns.length (rows.map List.length) with
      | error error =>
          simp only [Lists, StateT.run_bind, StateT.run_get, pure_bind, asked, counted]
          exact ⟨.of_ledger rfl rfl, rfl⟩
      | ok _ =>
          have arity : ∀ row ∈ rows, columns.length = row.length := fun row mem =>
            KeyArityError.checkRows_eq_ok_iff.1 counted _ (List.mem_map_of_mem mem)
          simp only [Lists, StateT.run_bind, StateT.run_get, pure_bind, asked, counted]
          rw [asked] at all
          match rows, columns with
          | [], _ =>
              cases all
              exact Records.filterRaw "1 = 0" query workspace rfl
          | row :: rows, [column] => exact Records.filterKeys column all.flatten query workspace rfl
          | row :: rows, [] =>
              exact Records.conditionGroup .and (.keyGroup all arity) query workspace rfl
          | row :: rows, _ :: _ :: _ =>
              exact Records.conditionGroup .and (.keyGroup all arity) query workspace rfl

/-! ### Clauses -/

namespace Records

theorem items {columns : List Value} (all : RecordsAll known connection .item columns events) :
    Records known connection (items columns) events :=
  (Records.resolveAll all).map _

theorem select (distinct : Bool) {columns : List Value}
    (all : RecordsAll known connection .item columns events) :
    Records known connection (select distinct columns) events :=
  (Records.items all).bind_nil fun _ => .modify fun query =>
    .of_rearranges (.add query _)

theorem selectAs {column : Value} (records : column.Records known connection .item events)
    (label : String) : Records known connection (selectAs column label) events :=
  (Records.resolve records).bind_nil fun _ => .modify fun query =>
    .of_rearranges (.add query _)

theorem sourceQuery {nested : Query} (settles : nested.ledger.Settles known history)
    (label : String) :
    Records known connection (sourceQuery nested label) (Event.carried history) :=
  (Records.embed settles).bind_nil fun _ => .modify fun query => .setText query "from" _

theorem addTerms (clause : ListClause) {columns : List Value}
    (all : RecordsAll known connection .item columns events) :
    Records known connection (addTerms clause columns) events := by
  induction all with
  | nil => exact .pure _
  | cons first _ ih =>
      exact (Records.resolve first).bind fun term =>
        (Records.modify fun query => .addTerm query clause.keyword term).bind fun _ => ih

theorem addOrder {column : Value} (records : column.Records known connection .item events)
    (descends : Bool) : Records known connection (addOrder column descends) events :=
  (Records.resolve records).bind_nil fun _ => .modify fun query => .addTerm query "order by" _

theorem addCommonTable (isRecursive : Bool) (name : String) {nested : Query}
    (settles : nested.ledger.Settles known history) :
    Records known connection (addCommonTable isRecursive name nested) (Event.carried history) :=
  (Records.embed settles).bind_nil fun _ => .modify fun query =>
    .of_rearranges (.addCommonTable query isRecursive _)

theorem lockForUpdate :
    Records known connection lockForUpdate (connection.lacks .lockForUpdate) := by
  have asked : Records known connection (Edit.compiling fun connection =>
      modifyGet (Ledger.require connection .lockForUpdate)) (connection.lacks .lockForUpdate) :=
    .compiling (.require connection .lockForUpdate)
  refine asked.bind_nil fun supported => ?_
  split
  · exact .modify fun query => .of_ledger rfl rfl
  · exact .pure _

theorem assign {column value : Value} (left : column.Records known connection .item events)
    (right : value.Records known connection .item more) :
    Records known connection (assign column value) (events ++ more) :=
  (Records.resolve left).bind fun _ => (Records.resolve right).bind_nil fun _ =>
    .modify fun query => .addTerm query "set" _

end Records

theorem lists_values {row : List Value} (all : RecordsAll known query.connection .item row events)
    (workspace : Workspace) :
    (values row).Lists known query workspace
      (onSuccess (((values row).run query).run workspace).1.1 events) := by
  cases row with
  | nil => exact ⟨.of_ledger rfl rfl, rfl⟩
  | cons value row =>
      have added := (Records.resolveAll all).bind_nil fun texts => Records.modify fun query =>
        .addTerm query "values" ("(" ++ String.intercalate query.columnSeparator texts ++ ")")
      exact added query workspace rfl

theorem lists_returning {columns : List Value}
    (all : RecordsAll known query.connection .item columns events) (workspace : Workspace) :
    (returning columns).Lists known query workspace
      (onSuccess (((returning columns).run query).run workspace).1.1 events) := by
  unfold returning
  cases asked : query.ensure .returning with
  | error error =>
      simp only [Lists, StateT.run_bind, StateT.run_get, pure_bind, asked]
      exact ⟨.of_ledger rfl rfl, rfl⟩
  | ok _ =>
      simp only [Lists, StateT.run_bind, StateT.run_get, pure_bind, asked]
      have added := (Records.resolveAll all).bind_nil fun texts =>
        Records.modify fun query => show query.Lists known (query.insert
          { keyword := "returning"
            payload := some (.items (if texts.isEmpty then ["*"] else texts)) }) [] from
          .of_ledger rfl rfl
      exact added query workspace rfl

/-- The place of the right side of a predicate that is given by its parts. -/
def rightSlot (comparator : Option String) : Slot := if comparator.isSome then .item else .side

theorem lists_addExpression (keyword : String) {lhs rhs : Option Value} {comparator : Option String}
    (left : RecordsOption known query.connection .item lhs events)
    (right : RecordsOption known query.connection (rightSlot comparator) rhs more)
    (workspace : Workspace) :
    (addExpression keyword lhs comparator rhs).Lists known query workspace
      (onSuccess (((addExpression keyword lhs comparator rhs).run query).run workspace).1.1
        (events ++ more)) := by
  have refused (error : QueryError) :
      (return Except.error error : Edit (Except QueryError Unit)).Lists known query workspace [] :=
    ⟨.of_ledger rfl rfl, rfl⟩
  cases left with
  | none =>
      cases comparator <;> exact refused _
  | some left =>
      cases comparator with
      | none =>
          cases right with
          | none =>
              rw [List.append_nil]
              exact Records.addPredicate keyword (.single left) query workspace rfl
          | some right =>
              exact Records.addPredicate keyword (.pair left right) query workspace rfl
      | some comparator =>
          cases right with
          | none => exact refused _
          | some right =>
              exact Records.addPredicate keyword (.compare left comparator right) query workspace
                rfl

theorem lists_attempt {attempted : Query → Except QueryError Query}
    (lists : ∀ changed, attempted query = .ok changed → query.Lists known changed [])
    (workspace : Workspace) : (attempt attempted).Lists known query workspace [] := by
  unfold attempt
  cases result : attempted query with
  | error error =>
      simp only [Lists, StateT.run_bind, StateT.run_get, pure_bind, result]
      exact ⟨.of_ledger rfl rfl, rfl⟩
  | ok changed =>
      simp only [Lists, StateT.run_bind, StateT.run_get, pure_bind, result]
      exact ⟨lists changed result, rfl⟩

end Edit

end SqlBuilder
