import SqlBuilder.Proofs.Interleaving.Condition
import SqlBuilder.Proofs.Nesting.Group

/-!
# Calls of one part

The calls that change one part of a query each: items of the select list, joins, common tables, and
the clauses behind the joins. A call does the same to its part whether the other parts are there or
not, and it leaves those as they are.
-/

namespace SqlBuilder

/-! ### Calls -/

namespace Edit

variable (registry : Registry) (connection : Connection)

/-- Additions to the select list that name no value. -/
inductive Selects : Edit Unit → Prop
  | select (distinct : Bool) {columns : List Value}
      (plain : ∀ column ∈ columns,
        PlainLeaves registry (connection.Writes False) column.resolvedLeaves) :
      Selects (Edit.select distinct columns)
  | selectAll : Selects (modify (·.selectAll))
  | selectAs {column : Value}
      (plain : PlainLeaves registry (connection.Writes False) column.resolvedLeaves)
      (label : String) : Selects (Edit.selectAs column label)
  | selectRaw (sql : String) : Selects (modify (·.selectRaw sql))

/-- Joins with conditions that name no value, such as comparisons of columns. -/
inductive Joins : Edit Unit → Prop
  | join (kind : JoinKind) (table : String) (label : Option String)
      {conditions : List (Connective × Predicate Query CustomExpr)}
      (plain : ∀ item ∈ conditions,
        PlainLeaves registry (connection.Writes False) item.2.leaves) :
      Joins (do
        let _ ← Edit.join kind table label
          (runAll (conditions.map fun item => condition .join item.1 item.2)))

/-- Common tables of queries that are there already. -/
inductive AddsCommonTable : Edit Unit → Prop
  | table (isRecursive : Bool) (name : String) {nested : Query}
      (follows : nested.ledger.params.Follows registry) :
      AddsCommonTable (Edit.addCommonTable isRecursive name nested)

/-- Conditions on rows and on groups of rows, and groups of such conditions. -/
inductive Filters : Edit Unit → Prop
  | condition {clause : ConditionClause} (rows : clause ≠ .join) (connective : Connective)
      {predicate : Predicate Query CustomExpr}
      (plain : PlainLeaves registry True predicate.leaves) :
      Filters (Edit.condition clause connective predicate)
  | filterIn (negated : Bool) {lhs : Value} {values : List Value}
      (plain : PlainLeaves registry True (Predicate.membership negated lhs values).leaves) :
      Filters (Edit.filterIn negated lhs values)
  | conditionGroup (connective : Connective) {calls : List (Edit Unit)}
      (each : ∀ call ∈ calls, Filters call) :
      Filters (Edit.conditionGroup connective (runAll calls))

/-- Additions to the clauses behind the joins. -/
inductive AddsClause : Edit Unit → Prop
  | filters {call : Edit Unit} (filters : Filters registry call) : AddsClause call
  | addTerms (clause : ListClause) {columns : List Value}
      (plain : ∀ column ∈ columns, PlainLeaves registry True column.resolvedLeaves) :
      AddsClause (Edit.addTerms clause columns)
  | addOrder {column : Value} (plain : PlainLeaves registry True column.resolvedLeaves)
      (descends : Bool) : AddsClause (Edit.addOrder column descends)
  | addOrderRaw (sql : String) : AddsClause (modify (·.addTerm "order by" sql))
  | limit (count : Nat) : AddsClause (modify (·.limit count))
  | offset (count : Nat) : AddsClause (modify (·.offset count))
  | lockForUpdate : AddsClause Edit.lockForUpdate

end Edit

namespace Part

/-- Whether a call adds to a part. -/
def Adds (registry : Registry) (connection : Connection) : Part → Edit Unit → Prop
  | .commonTables => Edit.AddsCommonTable registry
  | .selection => Edit.Selects registry connection
  | .joins => Edit.Joins registry connection
  | .clauses => Edit.AddsClause registry

/-- Only clauses behind the joins name values. -/
def naming : Part → Prop
  | .clauses => True
  | _ => False

end Part

/-! ### A part between the others -/

/-- Whether no callback is working on a query. -/
structure Query.Settled (query : Query) : Prop extends Query.AtRest query where
  onDefined : query.onDefined = false

theorem Query.Settled.congr {query changed : Query} (settled : query.Settled)
    (cursor : changed.cursor = query.cursor) (pending : changed.pending = query.pending)
    (onDefined : changed.onDefined = query.onDefined) : changed.Settled :=
  ⟨⟨cursor.trans settled.cursor, pending.trans settled.pending⟩,
    onDefined.trans settled.onDefined⟩

/-- Whether one query is another with further fragments around a part and further parameters. -/
structure Query.Hosts (part : Part) (registry : Registry) (connection : Connection)
    (others : Param → Prop) (front behind : List Fragment) (query own : Query) : Prop where
  connected : query.connection = connection
  ownConnected : own.connection = connection
  settled : query.Settled
  ownSettled : own.Settled
  fragments : query.fragments = front ++ own.fragments ++ behind
  shape : part.Shape own.fragments
  params : query.ledger.params.Covers registry part.naming others own.ledger.params

variable {registry : Registry} {connection : Connection} {part : Part}

/-- Whether a call does to a part of a query what it does to the part alone. -/
def Edit.Hosted (part : Part) (registry : Registry) (connection : Connection) (call : Edit Unit) :
    Prop :=
  ∀ (others : Param → Prop) (front behind : List Fragment) (query own : Query),
    part.Frames front behind → query.Hosts part registry connection others front behind own →
    ∃ query' own', call.Turns query () query' ∧ call.Turns own () own' ∧
      query'.Hosts part registry connection others front behind own' ∧
      query.ledger.params.Passes part.naming query'.ledger.params

namespace Edit

variable {α β : Type} {naming : Prop}

/-- Whether an edit compiles the same for both queries, and changes their ledgers only. -/
def Agrees (registry : Registry) (connection : Connection) (naming : Prop) (edit : Edit α) : Prop :=
  ∀ (others : Param → Prop) (query own : Query), query.connection = connection →
    own.connection = connection →
    query.ledger.params.Covers registry naming others own.ledger.params →
    ∃ value ledger own', edit.Turns query value { query with ledger } ∧
      edit.Turns own value { own with ledger := own' } ∧
      ledger.params.Covers registry naming others own'.params ∧
      query.ledger.params.Passes naming ledger.params

namespace Agrees

theorem pure (value : α) : Agrees registry connection naming (pure value : Edit α) := by
  intro others query own _ _ covers
  exact ⟨value, query.ledger, own.ledger, .pure value query, .pure value own, covers,
    .refl naming _⟩

theorem bind {edit : Edit α} {next : α → Edit β} (first : Agrees registry connection naming edit)
    (second : ∀ value, Agrees registry connection naming (next value)) :
    Agrees registry connection naming (edit >>= next) := by
  intro others query own connected ownConnected covers
  rcases first others query own connected ownConnected covers with
    ⟨value, ledger, ledger', ran, ran', between, passed⟩
  rcases second value others { query with ledger } { own with ledger := ledger' } connected
    ownConnected between with
    ⟨result, last, last', went, went', covers', passed'⟩
  exact ⟨result, last, last', ran.bind went, ran'.bind went', covers', passed.trans passed'⟩

theorem compiling {action : Connection → Compile α}
    (agrees : (action connection).Agrees registry naming) :
    Agrees registry connection naming (Edit.compiling action) := by
  intro others query own connected ownConnected covers
  rcases agrees others query.ledger own.ledger covers with
    ⟨value, ledger, ledger', ran, ran', covers', passed⟩
  rw [← connected] at ran
  rw [← ownConnected] at ran'
  exact ⟨value, ledger, ledger', .compiling ran, .compiling ran', covers', passed⟩

theorem resolve {operand : Value}
    (plain : PlainLeaves registry (connection.Writes naming) operand.resolvedLeaves) :
    Agrees registry connection naming (Edit.resolve operand) :=
  .compiling (Operand.resolve_agrees connection operand plain)

theorem resolveAll {operands : List Value}
    (plain : ∀ operand ∈ operands,
      PlainLeaves registry (connection.Writes naming) operand.resolvedLeaves) :
    Agrees registry connection naming (Edit.resolveAll operands) := by
  induction operands with
  | nil => exact .pure []
  | cons operand rest ih =>
      rcases List.forall_mem_cons.1 plain with ⟨first, others⟩
      exact .bind (.resolve first) fun text => .bind (ih others) fun texts => .pure _

theorem items {columns : List Value}
    (plain : ∀ column ∈ columns,
      PlainLeaves registry (connection.Writes naming) column.resolvedLeaves) :
    Agrees registry connection naming (Edit.items columns) :=
  .bind (.resolveAll plain) fun _ => .pure _

theorem embed {nested : Query} (follows : nested.ledger.params.Follows registry) :
    Agrees registry connection naming (Edit.embed nested) :=
  .compiling (.embed follows)

end Agrees

namespace Hosted

theorem pure : Hosted part registry connection (pure ()) := by
  intro others front behind query own frames hosts
  exact ⟨query, own, .pure () query, .pure () own, hosts, .refl _ _⟩

theorem bind {call : Edit Unit} {next : Edit Unit} (first : call.Hosted part registry connection)
    (second : next.Hosted part registry connection) :
    Hosted part registry connection (do call; next) := by
  intro others front behind query own frames hosts
  rcases first others front behind query own frames hosts with
    ⟨query', own', ran, ran', between, passed⟩
  rcases second others front behind query' own' frames between with
    ⟨last, last', went, went', stop, passed'⟩
  exact ⟨last, last', ran.bind went, ran'.bind went', stop, passed.trans passed'⟩

/-- A text is compiled, and a call goes on with it. -/
theorem compiled {edit : Edit α} {next : α → Edit Unit}
    (agrees : edit.Agrees registry connection part.naming)
    (call : ∀ value, (next value).Hosted part registry connection) :
    Hosted part registry connection (edit >>= next) := by
  intro others front behind query own frames hosts
  rcases agrees others query own hosts.connected hosts.ownConnected hosts.params with
    ⟨value, ledger, ledger', ran, ran', covers, passed⟩
  have between : Query.Hosts part registry connection others front behind { query with ledger }
      { own with ledger := ledger' } :=
    ⟨hosts.connected, hosts.ownConnected, hosts.settled.congr rfl rfl rfl,
      hosts.ownSettled.congr rfl rfl rfl, hosts.fragments, hosts.shape, covers⟩
  rcases call value others front behind _ _ frames between with
    ⟨query', own', went, went', stop, passed'⟩
  exact ⟨query', own', ran.bind went, ran'.bind went', stop, passed.trans passed'⟩

/-- A change of the part compiles nothing. -/
theorem changing {change : Query → Query} (places : part.Places change) :
    Hosted part registry connection (modify change) := by
  intro others front behind query own frames hosts
  rcases places with ⟨extend, shape, placed⟩
  have alone : own.fragments = [] ++ own.fragments ++ [] := by simp
  rcases placed frames hosts.shape hosts.settled.cursor hosts.fragments with ⟨clause, changed⟩
  rcases placed part.frames_nil hosts.shape hosts.ownSettled.cursor alone with ⟨clause', changed'⟩
  rw [List.nil_append, List.append_nil] at changed'
  have turned : Turns (modify change) query () (change query) := fun _ => rfl
  have turned' : Turns (modify change) own () (change own) := fun _ => rfl
  rw [changed] at turned
  rw [changed'] at turned'
  refine ⟨_, _, turned, turned', ?_, .refl _ _⟩
  refine ⟨hosts.connected, hosts.ownConnected, hosts.settled.congr rfl rfl rfl,
    hosts.ownSettled.congr rfl rfl rfl, ?_, shape own.connection own.fragments hosts.shape,
    hosts.params⟩
  dsimp only
  rw [hosts.connected, hosts.ownConnected]

end Hosted

end Edit

/-! ### Joins -/

/-- Whether the callback of a join works on one query as on another, where other fragments stand
around the joins. -/
structure Query.Joining (registry : Registry) (connection : Connection) (others : Param → Prop)
    (moving : Bool) (front behind : List Fragment) (query own : Query) : Prop where
  connected : query.connection = connection
  ownConnected : own.connection = connection
  pending : query.pending = none
  ownPending : own.pending = none
  onDefined : query.onDefined = own.onDefined
  splits : query.Splits moving (front ++ own.fragments) behind
  ownSplits : own.Splits false own.fragments []
  params : query.ledger.params.Covers registry False others own.ledger.params

/-- The keywords of the conditions of a join. -/
theorem Query.nextKeyword_join_mem (query : Query) (connective : Connective) :
    (query.nextKeyword .join connective).1 ∈ ["on", "and", "or"] := by
  change (if query.onDefined then (query.pending.getD connective).keyword else "on") ∈ _
  split
  · cases query.pending.getD connective <;> decide
  · decide

theorem Query.addText_of_mem_join (query : Query) {keyword : String}
    (word : keyword ∈ ["on", "and", "or"]) (text : String) :
    query.addText keyword text = query.insert (.withText keyword text) := by
  have plain : ∀ word ∈ ["on", "and", "or"], isSelectKeyword word = false := by decide
  unfold addText add
  rw [if_neg]
  simpa [Fragment.withText] using plain keyword word

namespace Query.Joining

variable {others : Param → Prop} {moving : Bool} {front behind : List Fragment} {query own : Query}

/-- A fragment goes behind the joins that there are. -/
theorem insert (joining : query.Joining registry connection others moving front behind own)
    (fragment : Fragment) :
    (query.insert fragment).Joining registry connection others moving front behind
      (own.insert fragment) := by
  have added := joining.ownSplits.insert fragment
  have fragments : (own.insert fragment).fragments = own.fragments ++ [fragment] := by
    rw [added.fragments, List.append_nil]
  refine ⟨joining.connected, joining.ownConnected, joining.pending, joining.ownPending,
    joining.onDefined, ?_, ?_, joining.params⟩
  · rw [fragments, ← List.append_assoc]
    exact joining.splits.insert fragment
  · rw [fragments]
    exact added

theorem condition (connective : Connective) {predicate : Predicate Query CustomExpr}
    (plain : PlainLeaves registry (connection.Writes False) predicate.leaves)
    (joining : query.Joining registry connection others moving front behind own) :
    ∃ query' own' keyword text, (Edit.condition .join connective predicate).Turns query () query' ∧
      (Edit.condition .join connective predicate).Turns own () own' ∧
      query'.Joining registry connection others moving front behind own' ∧
      own'.fragments = own.fragments ++ [.withText keyword text] ∧ keyword ∈ ["on", "and", "or"] ∧
      query.ledger.params.Passes False query'.ledger.params := by
  rcases Predicate.compile_agrees connection predicate plain others query.ledger own.ledger
    joining.params with ⟨text, ledger, ledger', ran, ran', covers, passed⟩
  rw [← joining.connected] at ran
  rw [← joining.ownConnected] at ran'
  have turned : (Edit.condition .join connective predicate).Turns query () _ :=
    .condition plain.hookFree .join connective ran
  have turned' : (Edit.condition .join connective predicate).Turns own () _ :=
    .condition plain.hookFree .join connective ran'
  have word := own.nextKeyword_join_mem connective
  have same : (query.nextKeyword .join connective).1 = (own.nextKeyword .join connective).1 := by
    change (if query.onDefined then _ else _) = if own.onDefined then _ else _
    rw [joining.onDefined, joining.pending, joining.ownPending]
  rw [same, Query.addText_of_mem_join _ word] at turned
  rw [Query.addText_of_mem_join _ word] at turned'
  have started : Query.Joining registry connection others moving front behind
      { (query.nextKeyword .join connective).2 with ledger }
      { (own.nextKeyword .join connective).2 with ledger := ledger' } := by
    refine ⟨joining.connected, joining.ownConnected, rfl, rfl, ?_, joining.splits.congr rfl rfl,
      joining.ownSplits.congr rfl rfl, covers⟩
    exact congrArg (· || true) joining.onDefined
  refine ⟨_, _, _, text, turned, turned', started.insert _, ?_, word, passed⟩
  rw [(started.ownSplits.insert _).fragments, List.append_nil]
  rfl

theorem conditions {items : List (Connective × Predicate Query CustomExpr)}
    (plain : ∀ item ∈ items, PlainLeaves registry (connection.Writes False) item.2.leaves)
    (joining : query.Joining registry connection others moving front behind own) :
    ∃ query' own' added,
      (Edit.runAll (items.map fun item => .condition .join item.1 item.2)).Turns query () query' ∧
      (Edit.runAll (items.map fun item => .condition .join item.1 item.2)).Turns own () own' ∧
      query'.Joining registry connection others moving front behind own' ∧
      own'.fragments = own.fragments ++ added ∧
      (∀ fragment ∈ added, fragment.keyword ∈ ["on", "and", "or"]) ∧
      query.ledger.params.Passes False query'.ledger.params := by
  induction items generalizing query own with
  | nil =>
      exact ⟨query, own, [], .pure () query, .pure () own, joining, by simp, by simp,
        .refl False _⟩
  | cons item rest ih =>
      rcases List.forall_mem_cons.1 plain with ⟨first, others⟩
      rcases joining.condition item.1 first with
        ⟨query', own', keyword, text, ran, ran', between, fragments, word, passed⟩
      rcases ih others between with
        ⟨last, last', added, went, went', stop, fragments', words, passed'⟩
      refine ⟨last, last', .withText keyword text :: added, ran.bind went, ran'.bind went', stop,
        ?_, ?_, passed.trans passed'⟩
      · rw [fragments', fragments]
        simp
      · exact List.forall_mem_cons.2 ⟨word, words⟩

end Query.Joining

namespace Query

variable {front fragments behind : List Fragment} {query : Query}

/-- What is joined already is seen among the joins only. -/
theorem isJoined_eq (frames : Part.joins.Frames front behind)
    (parts : query.fragments = front ++ fragments ++ behind) (target : String) :
    query.isJoined target = fragments.any fun fragment =>
      "join".toList.isSuffixOf fragment.keyword.toList &&
        fragment.payload == some (.text target) := by
  rcases frames with ⟨-, -, foreign⟩
  rcases List.forall_mem_append.1 foreign with ⟨before, after⟩
  have none {others : List Fragment}
      (foreign : ∀ fragment ∈ others, "join".toList.isSuffixOf fragment.keyword.toList = false) :
      (others.any fun fragment => "join".toList.isSuffixOf fragment.keyword.toList &&
        fragment.payload == some (.text target)) = false := by
    refine List.any_eq_false.2 fun fragment mem => ?_
    rw [foreign fragment mem, Bool.false_and]
    exact Bool.false_ne_true
  unfold isJoined
  rw [parts, List.any_append, List.any_append, none before, none after, Bool.false_or,
    Bool.or_false]

/-- A join goes behind the joins that there are. -/
theorem joinPoint?_eq (frames : Part.joins.Frames front behind) (shape : Part.joins.Shape fragments)
    (parts : query.fragments = front ++ fragments ++ behind) :
    query.joinPoint? = if behind.isEmpty then none else some (front ++ fragments).length := by
  rcases frames with ⟨before, next, -⟩
  have unlike : ∀ keyword ∈ Part.joins.anchors ++ Part.joins.furtherKeywords,
      keyword ∉ clausesAfterJoins := by decide
  have foreign : ∀ fragment ∈ front ++ fragments,
      clausesAfterJoins.contains fragment.keyword = false := by
    intro fragment mem
    rw [List.contains_eq_mem, decide_eq_false_iff_not]
    rcases List.mem_append.1 mem with mem | mem
    · exact before fragment mem
    · exact shape.forall_keyword unlike fragment mem
  unfold joinPoint?
  rw [parts, findIdx?_append_of_forall foreign]
  cases behind with
  | nil => rfl
  | cons clause rest =>
      have found : clausesAfterJoins.contains clause.keyword = true :=
        List.contains_iff_mem.2 (next clause rfl)
      rw [List.findIdx?_cons, if_pos found]
      simp

end Query

namespace Query.Hosts

variable {others : Param → Prop} {front behind : List Fragment} {query own : Query}

/-- A join is opened behind those that there are. -/
theorem openJoin (frames : Part.joins.Frames front behind)
    (hosts : query.Hosts .joins registry connection others front behind own) (kind : JoinKind)
    (target : String) :
    (query.openJoin kind target).Joining registry connection others (!behind.isEmpty) front behind
        (own.openJoin kind target) ∧
      (own.openJoin kind target).fragments = own.fragments ++ [.withText kind.keyword target] := by
  have alone : own.fragments = [] ++ own.fragments ++ [] := by simp
  have place := Query.joinPoint?_eq frames hosts.shape hosts.fragments
  have place' := Query.joinPoint?_eq Part.joins.frames_nil hosts.shape alone
  have moved : Query.Joining registry connection others (!behind.isEmpty) front behind
      { query with cursor := query.joinPoint?.or query.cursor }
      { own with cursor := own.joinPoint?.or own.cursor } := by
    refine ⟨hosts.connected, hosts.ownConnected, hosts.settled.pending, hosts.ownSettled.pending,
      hosts.settled.onDefined.trans hosts.ownSettled.onDefined.symm, ⟨hosts.fragments, ?_, ?_⟩,
      ⟨by simp, ?_, fun _ => rfl⟩, hosts.params⟩
    · rw [place, hosts.settled.cursor]
      cases behind <;> rfl
    · intro atEnd
      cases behind with
      | nil => rfl
      | cons clause rest => cases atEnd
    · rw [place', hosts.ownSettled.cursor]
      rfl
  have opened := moved.insert (.withText kind.keyword target)
  refine ⟨⟨opened.connected, opened.ownConnected, opened.pending, opened.ownPending, rfl,
    opened.splits.congr rfl rfl, opened.ownSplits.congr rfl rfl, opened.params⟩, ?_⟩
  exact ((moved.ownSplits.insert _).fragments).trans (List.append_nil _)

/-- A target is joined already if it is among the joins. -/
theorem isJoined_eq (frames : Part.joins.Frames front behind)
    (hosts : query.Hosts .joins registry connection others front behind own) (target : String) :
    query.isJoined target = own.isJoined target := by
  have alone : own.fragments = [] ++ own.fragments ++ [] := by simp
  rw [Query.isJoined_eq frames hosts.fragments, Query.isJoined_eq Part.joins.frames_nil alone]

/-- Behind the callback of a join both queries are as before. -/
theorem closeJoin {moving : Bool} {inside inside' : Query}
    (hosts : query.Hosts .joins registry connection others front behind own)
    (stop : inside.Joining registry connection others moving front behind inside')
    (shape : Part.joins.Shape inside'.fragments) :
    (inside.closeJoin query).Hosts .joins registry connection others front behind
      (inside'.closeJoin own) := by
  have cursor : (inside.closeJoin query).cursor = none := by
    simp [Query.closeJoin, hosts.settled.cursor]
  have cursor' : (inside'.closeJoin own).cursor = none := by
    simp [Query.closeJoin, hosts.ownSettled.cursor]
  exact ⟨stop.connected, stop.ownConnected, ⟨⟨cursor, stop.pending⟩, rfl⟩,
    ⟨⟨cursor', stop.ownPending⟩, rfl⟩, stop.splits.fragments, shape, stop.params⟩

end Query.Hosts

/-- A join with its conditions behind the joins that there are. -/
theorem Part.Shape.join {fragments conditions : List Fragment}
    (shape : Part.joins.Shape fragments) (kind : JoinKind) (target : String)
    (words : ∀ fragment ∈ conditions, fragment.keyword ∈ ["on", "and", "or"]) :
    Part.joins.Shape (fragments ++ .withText kind.keyword target :: conditions) := by
  have anchor : kind.keyword ∈ Part.joins.anchors := by
    cases kind <;> simp [JoinKind.keyword, anchors]
  have further : ∀ fragment ∈ conditions, fragment.keyword ∈ Part.joins.furtherKeywords :=
    fun fragment mem => List.mem_append_left Part.joins.anchors (words fragment mem)
  refine shape.append (fun _ => ⟨anchor, further⟩) (List.forall_mem_cons.2 ⟨?_, further⟩)
  exact List.mem_append_right ["on", "and", "or"] anchor

namespace Edit

theorem Turns.join_of_joined {α : Type} {kind : JoinKind} {table : String} {label : Option String}
    {body : Edit α} {query : Query} (joined : query.isJoined (query.escapeAs table label) = true) :
    (Edit.join kind table label body).Turns query none query := by
  intro workspace
  rw [run_join]
  exact if_pos joined

theorem Turns.join {α : Type} {kind : JoinKind} {table : String} {label : Option String}
    {body : Edit α} {query inside : Query} {value : α}
    (free : query.isJoined (query.escapeAs table label) = false)
    (ran : body.Turns (query.openJoin kind (query.escapeAs table label)) value inside)
    (kept : query.fragments.length ≤ inside.fragments.length) :
    (Edit.join kind table label body).Turns query (some value) (inside.closeJoin query) := by
  intro workspace
  rw [run_join]
  dsimp only
  rw [if_neg (Bool.eq_false_iff.1 free), ran workspace, Query.lostFragments_eq_false kept,
    Workspace.abortIf_false]

theorem Joins.hosted {call : Edit Unit} (joins : call.Joins registry connection) :
    call.Hosted .joins registry connection := by
  cases joins with
  | join kind table label plain =>
      intro others front behind query own frames hosts
      have target : query.escapeAs table label = own.escapeAs table label := by
        cases label <;>
          simp [Query.escapeAs, Query.escape, Query.escapePart, hosts.connected, hosts.ownConnected]
      have joined : query.isJoined (query.escapeAs table label) =
          own.isJoined (own.escapeAs table label) := by
        rw [target]
        exact hosts.isJoined_eq frames _
      cases known : own.isJoined (own.escapeAs table label) with
      | true =>
          exact ⟨query, own, (Turns.join_of_joined (joined.trans known)).bind (.pure () query),
            (Turns.join_of_joined known).bind (.pure () own), hosts, .refl _ _⟩
      | false =>
          rcases hosts.openJoin frames kind (own.escapeAs table label) with ⟨opened, fragments⟩
          rcases opened.conditions plain with
            ⟨inside, inside', added, ran, ran', stop, fragments', words, passed⟩
          rw [← target] at ran
          have shape : Part.joins.Shape inside'.fragments := by
            rw [fragments', fragments, List.append_assoc]
            exact hosts.shape.join kind _ words
          have kept' : own.fragments.length ≤ inside'.fragments.length := by
            rw [fragments', fragments, List.append_assoc]
            exact (List.prefix_append _ _).length_le
          have kept : query.fragments.length ≤ inside.fragments.length := by
            rw [hosts.fragments, stop.splits.fragments]
            simpa using kept'
          exact ⟨_, _, (Turns.join (joined.trans known) ran kept).bind (.pure () _),
            (Turns.join known ran' kept').bind (.pure () _), hosts.closeJoin stop shape, passed⟩

/-! ### The other parts -/

theorem Selects.hosted {call : Edit Unit} (selects : call.Selects registry connection) :
    call.Hosted .selection registry connection := by
  have raw (sql : String) : Part.selection.Places (·.selectRaw sql) :=
    .select (by simp [Part.anchors])
  cases selects with
  | select distinct plain =>
      refine .compiled (.items plain) fun texts => .changing (.select ?_)
      cases distinct <;> simp [Part.anchors]
  | selectAll => exact .changing (raw "*")
  | selectAs plain label =>
      refine .compiled (.resolve plain) fun text => .changing ?_
      exact .of_connection fun connection =>
        raw (text ++ " as " ++ connection.grammar.escapePart label)
  | selectRaw sql => exact .changing (raw sql)

theorem AddsCommonTable.hosted {call : Edit Unit} (adds : call.AddsCommonTable registry) :
    call.Hosted .commonTables registry connection := by
  cases adds with
  | table isRecursive name follows =>
      refine .compiled (.embed follows) fun sql => .changing ?_
      exact .of_connection fun connection =>
        .commonTable isRecursive (connection.grammar.escapePart name ++ callText " as " sql)

theorem Filters.tracked {call : Edit Unit} (filters : call.Filters registry) :
    call.Tracked registry := by
  induction filters with
  | condition rows connective plain => exact .condition rows connective plain
  | filterIn negated plain =>
      rw [filterIn_eq]
      exact .condition (by decide) .and plain
  | conditionGroup connective each ih => exact .group connective (.runAll ih)

/-- Conditions at the end are a change of the clauses behind the joins. -/
theorem Tracked.hosted {call : Edit Unit} (tracked : call.Tracked registry) :
    call.Hosted .clauses registry connection := by
  intro others front behind query own frames hosts
  rcases frames with ⟨rfl, foreign⟩
  have fragments : query.fragments = front ++ own.fragments := by
    rw [hosts.fragments, List.append_nil]
  have settled := hosts.settled
  have ownSettled := hosts.ownSettled
  have alike : query.connection = own.connection := hosts.connected.trans hosts.ownConnected.symm
  rcases tracked others front query own foreign ⟨alike, settled.cursor, ownSettled.cursor,
      settled.pending.trans ownSettled.pending.symm,
      settled.onDefined.trans ownSettled.onDefined.symm, fragments, hosts.params⟩ with
    ⟨query', own', added, ran, ran', tracks, gains, passed⟩
  have pending : own'.pending = none := gains.pending ownSettled.pending
  have onDefined : own'.onDefined = false := gains.onDefined.trans ownSettled.onDefined
  have ownConnected : own'.connection = connection := gains.connection.trans hosts.ownConnected
  refine ⟨query', own', ran, ran', ⟨tracks.connection.trans ownConnected, ownConnected,
    ⟨⟨tracks.cursor, tracks.pending.trans pending⟩, tracks.onDefined.trans onDefined⟩,
    ⟨⟨tracks.ownCursor, pending⟩, onDefined⟩, ?_, ?_, tracks.params⟩, passed⟩
  · rw [tracks.fragments, List.append_nil]
  · rw [gains.fragments]
    refine hosts.shape.append (fun empty => ?_) gains.keywords
    have starts := gains.starts (by simp [empty])
    cases added with
    | nil => trivial
    | cons first rest =>
        refine ⟨?_, fun fragment mem => gains.keywords fragment (List.mem_cons_of_mem _ mem)⟩
        have all : ∀ word ∈ ["where", "having"], word ∈ Part.clauses.anchors := by decide
        exact all first.keyword (starts first rfl)

theorem hosted_addTerms (clause : ListClause) {columns : List Value}
    (plain : ∀ column ∈ columns, PlainLeaves registry True column.resolvedLeaves) :
    (Edit.addTerms clause columns).Hosted .clauses registry connection := by
  have anchor : clause.keyword ∈ Part.clauses.anchors := by
    cases clause <;> simp [ListClause.keyword, Part.anchors]
  induction columns with
  | nil => exact .pure
  | cons column rest ih =>
      rcases List.forall_mem_cons.1 plain with ⟨first, others⟩
      exact .compiled (.resolve (first.writes connection)) fun term =>
        .bind (.changing (.addTerm anchor term)) (ih others)

theorem AddsClause.hosted {call : Edit Unit} (adds : call.AddsClause registry) :
    call.Hosted .clauses registry connection := by
  cases adds with
  | filters filters => exact filters.tracked.hosted
  | addTerms clause plain => exact hosted_addTerms clause plain
  | addOrder plain descends =>
      exact .compiled (.resolve (plain.writes connection)) fun term =>
        .changing (.addTerm (by simp [Part.anchors]) _)
  | addOrderRaw sql => exact .changing (.addTerm (by simp [Part.anchors]) sql)
  | limit count => exact .changing (.setText (by simp [Part.anchors]) _)
  | offset count => exact .changing (.setText (by simp [Part.anchors]) _)
  | lockForUpdate =>
      refine .compiled (.compiling (.require connection .lockForUpdate)) ?_
      intro supported
      cases supported with
      | true => exact .changing (.token (by simp [Part.anchors]))
      | false => exact .pure

end Edit

/-- A call does to its part what it does to the part alone. -/
theorem Part.Adds.hosted {call : Edit Unit} (adds : part.Adds registry connection call) :
    call.Hosted part registry connection := by
  cases part with
  | commonTables => exact Edit.AddsCommonTable.hosted adds
  | selection => exact Edit.Selects.hosted adds
  | joins => exact Edit.Joins.hosted adds
  | clauses => exact Edit.AddsClause.hosted adds

end SqlBuilder
