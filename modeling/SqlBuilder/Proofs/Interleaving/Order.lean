import SqlBuilder.Proofs.Interleaving.Call
import SqlBuilder.Proofs.Param.Workspace

/-!
# The order of calls for different parts

Calls that select, join, add common tables, and add clauses behind the joins may be mixed in any way
that keeps the order of the calls for one part. The query is always the same: each part is what its
calls make of a query that has nothing else.

What carries the proof is that at any time the query is assembled from the queries that the calls so
far make each by themselves (`Query.Assembles`). A call changes its part only, between fragments
that stay where they are.
-/

namespace SqlBuilder

/-- Whether calls are those of all parts, each part in its order. -/
inductive Interleaves : (Part → List (Edit Unit)) → List (Edit Unit) → Prop
  | done {calls : Part → List (Edit Unit)} (none : ∀ part, calls part = []) : Interleaves calls []
  | step (part : Part) {calls : Part → List (Edit Unit)} {call : Edit Unit}
      {rest mixed : List (Edit Unit)} (first : calls part = call :: rest)
      (later : Interleaves (Function.update calls part rest) mixed) :
      Interleaves calls (call :: mixed)

namespace Part

variable (source : Fragment) (fragments : Part → List Fragment)

/-- The fragments in front of a part. -/
def front : Part → List Fragment
  | .commonTables => []
  | .selection => fragments .commonTables
  | .joins => fragments .commonTables ++ fragments .selection ++ [source]
  | .clauses => fragments .commonTables ++ fragments .selection ++ [source] ++ fragments .joins

/-- The fragments behind a part. -/
def behind : Part → List Fragment
  | .commonTables => fragments .selection ++ [source] ++ fragments .joins ++ fragments .clauses
  | .selection => source :: (fragments .joins ++ fragments .clauses)
  | .joins => fragments .clauses
  | .clauses => []

/-- All parts and the source in their order. -/
def assemble : List Fragment :=
  fragments .commonTables ++ fragments .selection ++ [source] ++ fragments .joins ++
    fragments .clauses

theorem assemble_eq (part : Part) : assemble source fragments =
    part.front source fragments ++ fragments part ++ part.behind source fragments := by
  cases part <;> simp [assemble, front, behind]

variable {source fragments}

/-- Whether all keywords of fragments are among some. -/
def Has (fragments : List Fragment) (words : List String) : Prop :=
  ∀ fragment ∈ fragments, fragment.keyword ∈ words

theorem Has.append {left right : List Fragment} {words more : List String} (has : Has left words)
    (others : Has right more) : Has (left ++ right) (words ++ more) := by
  intro fragment mem
  rcases List.mem_append.1 mem with mem | mem
  · exact List.mem_append_left _ (has fragment mem)
  · exact List.mem_append_right _ (others fragment mem)

theorem Has.avoids {fragments : List Fragment} {words others : List String}
    (has : Has fragments words) (apart : ∀ word ∈ words, word ∉ others) :
    ∀ fragment ∈ fragments, fragment.keyword ∉ others :=
  fun fragment mem => apart fragment.keyword (has fragment mem)

/-- A change of a part does not show around it. -/
theorem assemble_update (part : Part) (changed : List Fragment) :
    assemble source (Function.update fragments part changed) =
      part.front source fragments ++ changed ++ part.behind source fragments := by
  cases part <;> simp [assemble, front, behind]

/-- The other parts and the source leave the place of a part clear. -/
theorem frames_front_behind (named : source.keyword = "from")
    (shape : ∀ part : Part, part.Shape (fragments part)) (part : Part) :
    part.Frames (part.front source fragments) (part.behind source fragments) := by
  -- Which keywords occur is known part by part, so every condition is one on lists of keywords.
  have within (other : Part) : Has (fragments other) (other.anchors ++ other.furtherKeywords) :=
    fun fragment mem => (shape other).keyword_mem mem
  have table : Has [source] ["from"] := by
    intro fragment mem
    rw [List.mem_singleton.1 mem, named]
    exact List.mem_singleton_self _
  have before := (within .commonTables).append (within .selection)
  have start := before.append table
  have middle := start.append (within .joins)
  cases part with
  | commonTables =>
      have after := (((within .selection).append table).append (within .joins)).append
        (within .clauses)
      refine ⟨rfl, after.avoids (by decide), ?_⟩
      have next : ∀ fragment ∈ fragments .selection ++ [source], fragment.keyword ∉ [","] :=
        ((within .selection).append table).avoids (by decide)
      intro fragment head comma
      refine next fragment ?_ (comma ▸ List.mem_singleton_self _)
      unfold behind at head
      cases known : fragments .selection with
      | nil => simp_all
      | cons first rest => simp_all
  | selection =>
      have after := table.append ((within .joins).append (within .clauses))
      refine ⟨(within .commonTables).avoids (by decide), after.avoids (by decide), ?_⟩
      rintro fragment ⟨⟩
      exact named
  | joins =>
      refine ⟨start.avoids (by decide), ?_, ?_⟩
      · intro fragment head
        have anchors : ∀ keyword ∈ Part.clauses.anchors, keyword ∈ clausesAfterJoins := by decide
        exact anchors fragment.keyword ((shape .clauses).head fragment head)
      · intro fragment mem
        have word := (start.append (within .clauses)) fragment mem
        revert word
        generalize fragment.keyword = keyword
        revert keyword
        decide
  | clauses => exact ⟨rfl, middle.avoids (by decide)⟩

end Part

/-- Whether a query is put together from queries that have one part each, between which the source
stands. -/
structure Query.Assembles (registry : Registry) (connection : Connection) (source : Fragment)
    (own : Part → Query) (query : Query) : Prop where
  connected : query.connection = connection
  ownConnected : ∀ part, (own part).connection = connection
  settled : query.Settled
  ownSettled : ∀ part, (own part).Settled
  shape : ∀ part : Part, part.Shape (own part).fragments
  fragments : query.fragments = Part.assemble source fun part => (own part).fragments
  params : ∀ part : Part, query.ledger.params.Covers registry part.naming
    (fun param => ∃ other, other ≠ part ∧ param ∈ (own other).params) (own part).ledger.params

namespace Query.Assembles

variable {registry : Registry} {connection : Connection} {source : Fragment} {own : Part → Query}
  {query : Query}

theorem hosts (assembles : query.Assembles registry connection source own) (part : Part) :
    query.Hosts part registry connection
      (fun param => ∃ other, other ≠ part ∧ param ∈ (own other).params)
      (part.front source fun part => (own part).fragments)
      (part.behind source fun part => (own part).fragments) (own part) where
  connected := assembles.connected
  ownConnected := assembles.ownConnected part
  settled := assembles.settled
  ownSettled := assembles.ownSettled part
  fragments := assembles.fragments.trans (Part.assemble_eq source _ part)
  shape := assembles.shape part
  params := assembles.params part

/-- The parameters of a query whose part was changed. -/
theorem covers_update {query' own' : Query}
    (assembles : query.Assembles registry connection source own)
    {part : Part}
    (hosts : query'.Hosts part registry connection
      (fun param => ∃ other, other ≠ part ∧ param ∈ (own other).params)
      (part.front source fun part => (own part).fragments)
      (part.behind source fun part => (own part).fragments) own')
    (passed : query.ledger.params.Passes part.naming query'.ledger.params) (other : Part) :
    query'.ledger.params.Covers registry other.naming
      (fun param => ∃ another, another ≠ other ∧
        param ∈ (Function.update own part own' another).params)
      (Function.update own part own' other).ledger.params := by
  have at_part : Function.update own part own' part = own' := Function.update_self part own' own
  have elsewhere {other : Part} (different : other ≠ part) :
      Function.update own part own' other = own other :=
    Function.update_of_ne different own' own
  by_cases here : other = part
  · rw [here, at_part]
    refine { hosts.params with known := ?_ }
    intro param mem
    rcases hosts.params.known param mem with mine | ⟨another, different, mem⟩
    · exact .inl mine
    · exact .inr ⟨another, different, by rwa [elsewhere different]⟩
  · rw [elsewhere here]
    have before := assembles.params other
    -- Only one part names values, so one that is not changed has counted as far as the query has.
    have silent (names : other.naming) : ¬part.naming := by
      intro both
      cases other <;> cases part <;> simp_all [Part.naming]
    refine ⟨passed.namespaceId.trans before.namespaceId, ?_, ?_, ?_, before.onRecord⟩
    · intro names
      exact (passed.nextIndex (silent names)).trans (before.nextIndex names)
    · intro param mem
      exact ParamList.has_mono passed.kept (before.named param mem)
    · intro param mem
      rcases hosts.params.known param mem with mine | ⟨another, different, mem⟩
      · exact .inr ⟨part, Ne.symm here, by rwa [at_part]⟩
      · by_cases same : another = other
        · exact .inl (same ▸ mem)
        · exact .inr ⟨another, same, by rwa [elsewhere different]⟩

/-- A call for one part. -/
theorem step (named : source.keyword = "from")
    (assembles : query.Assembles registry connection source own) {part : Part} {call : Edit Unit}
    (adds : part.Adds registry connection call) :
    ∃ query' own', call.Turns query () query' ∧ call.Turns (own part) () own' ∧
      query'.Assembles registry connection source (Function.update own part own') := by
  have frames := Part.frames_front_behind named assembles.shape part
  rcases adds.hosted _ _ _ query (own part) frames (assembles.hosts part) with
    ⟨query', own', ran, ran', hosts, passed⟩
  refine ⟨query', own', ran, ran', ?_⟩
  have everywhere (holds : Part → Query → Prop) (here : holds part own')
      (elsewhere : ∀ other, holds other (own other)) (other : Part) :
      holds other (Function.update own part own' other) := by
    by_cases same : other = part
    · rw [same, Function.update_self]
      exact here
    · rw [Function.update_of_ne same]
      exact elsewhere other
  have fragments_update : (fun other => (Function.update own part own' other).fragments) =
      Function.update (fun other => (own other).fragments) part own'.fragments := by
    funext other
    by_cases here : other = part
    · subst here
      simp
    · simp [here]
  refine ⟨hosts.connected, ?_, hosts.settled, ?_, ?_, ?_, assembles.covers_update hosts passed⟩
  · exact everywhere (fun _ own => own.connection = connection) hosts.ownConnected
      assembles.ownConnected
  · exact everywhere (fun _ own => own.Settled) hosts.ownSettled assembles.ownSettled
  · exact everywhere (fun part own => part.Shape own.fragments) hosts.shape
      assembles.shape
  · rw [fragments_update, Part.assemble_update]
    exact hosts.fragments

/-- Calls in any order that keeps the order of each part. -/
theorem run (named : source.keyword = "from") {calls : Part → List (Edit Unit)}
    {mixed : List (Edit Unit)} (order : Interleaves calls mixed)
    (adds : ∀ part : Part, ∀ call ∈ calls part, part.Adds registry connection call)
    (assembles : query.Assembles registry connection source own) :
    ∃ query' own', (Edit.runAll mixed).Turns query () query' ∧
      (∀ part, (Edit.runAll (calls part)).Turns (own part) () (own' part)) ∧
      query'.Assembles registry connection source own' := by
  induction order generalizing query own with
  | done none =>
      refine ⟨query, own, .pure () query, ?_, assembles⟩
      intro part
      rw [none part]
      exact .pure () (own part)
  | @step part calls call rest mixed first later ih =>
      have add : part.Adds registry connection call := adds part call (first ▸ List.mem_cons_self)
      rcases assembles.step named add with ⟨query', own', ran, ran', between⟩
      have others : ∀ other : Part, ∀ call ∈ Function.update calls part rest other,
          other.Adds registry connection call := by
        intro other another mem
        by_cases here : other = part
        · subst here
          rw [Function.update_self] at mem
          exact adds other another (first ▸ List.mem_cons_of_mem _ mem)
        · rw [Function.update_of_ne here] at mem
          exact adds other another mem
      rcases ih others between with ⟨last, last', went, went', stop⟩
      refine ⟨last, last', ran.bind went, ?_, stop⟩
      intro other
      have own_run := went' other
      by_cases here : other = part
      · subst here
        rw [Function.update_self, Function.update_self] at own_run
        rw [first]
        exact ran'.bind own_run
      · rwa [Function.update_of_ne here, Function.update_of_ne here] at own_run

/-- A new query with a source has no other parts. -/
theorem start {workspace : Workspace} (unnamed : registry workspace.nextNamespace = [])
    (connection : Connection) (model : Option Model) (table : String) :
    let fresh : Query := { ((Query.new connection).run workspace).1 with model }
    (fresh.source table none).Assembles registry connection
      (.withText "from" (connection.grammar.escapeIdentifier table)) fun _ => fresh := by
  intro fresh
  have settled : fresh.Settled := ⟨⟨rfl, rfl⟩, rfl⟩
  have owns : fresh.ledger.params.Owns registry := (congrArg List.length unnamed).symm
  refine ⟨rfl, fun _ => rfl, settled.congr rfl rfl rfl, fun _ => settled, fun _ => trivial, rfl, ?_⟩
  intro part
  exact ⟨rfl, fun _ => rfl, List.forall_mem_nil _, List.forall_mem_nil _,
    ⟨registry, .refl registry, fun _ => rfl, .nil registry _, owns⟩⟩

theorem sql_eq (assembles : query.Assembles registry connection source own) :
    query.sql = renderFragments connection.grammar.columnSeparator
      (Part.assemble source fun part => (own part).fragments) := by
  rw [Query.sql, Query.columnSeparator, assembles.fragments, assembles.connected]

/-- The parameters of the query are those of its parts. -/
theorem mem_params (assembles : query.Assembles registry connection source own) (param : Param) :
    param ∈ query.params ↔ ∃ part, param ∈ (own part).params := by
  rcases (assembles.params .clauses).onRecord with ⟨later, extended, -, follows, -⟩
  -- Only clauses behind the joins name values, so what they have put on record is all there is.
  have recorded (part : Part) : ∀ param ∈ (own part).params, param.Recorded later := by
    intro param mem
    by_cases names : part = .clauses
    · exact follows.recorded param (names ▸ mem)
    · rcases (assembles.params part).onRecord with ⟨record, -, silent, follows', -⟩
      have none : ¬part.naming := by
        cases part <;> simp_all [Part.naming]
      rw [silent none] at follows'
      exact (follows'.recorded param mem).mono extended
  constructor
  · intro mem
    rcases (assembles.params .clauses).known param mem with mine | ⟨other, -, mem⟩
    · exact ⟨.clauses, mine⟩
    · exact ⟨other, mem⟩
  · rintro ⟨part, mem⟩
    have taken := (assembles.params part).named param mem
    rcases List.mem_map.1 ((ParamList.has_iff _).1 taken) with ⟨found, found_mem, name⟩
    -- A name that is taken over is on record once, so it came with the same value.
    have found_recorded : found.Recorded later := by
      rcases (assembles.params part).known found found_mem with mine | ⟨other, -, other_mem⟩
      · exact recorded part found mine
      · exact recorded other found other_mem
    have same : found = param := found_recorded.eq_of_name (recorded part param mem) name
    exact same ▸ found_mem

end Query.Assembles

/-! ### Common tables -/

/-- A common table: whether it is recursive, its name, and its query. -/
abbrev CommonTable := Bool × String × Query

namespace CommonTable

/-- The text of a common table. -/
def text (connection : Connection) (table : CommonTable) : String :=
  connection.grammar.escapePart table.2.1 ++ callText " as " table.2.2.sql

/-- The fragments of common tables: the first one has the keyword, which says whether one of them is
recursive. -/
def fragments (connection : Connection) : List CommonTable → List Fragment
  | [] => []
  | first :: rest =>
    .withText (if (first :: rest).any (·.1) then "with recursive" else "with")
      (first.text connection) :: rest.map fun table => .withText "," (table.text connection)

/-- The call that adds a common table. -/
def call (table : CommonTable) : Edit Unit :=
  Edit.addCommonTable table.1 table.2.1 table.2.2

theorem shape_fragments (connection : Connection) (tables : List CommonTable) :
    Part.commonTables.Shape (fragments connection tables) := by
  cases tables with
  | nil => trivial
  | cons first rest =>
      refine ⟨?_, ?_⟩
      · change (if _ then "with recursive" else "with") ∈ _
        split <;> simp [Part.anchors]
      · intro fragment mem
        rcases List.mem_map.1 mem with ⟨table, -, rfl⟩
        exact List.mem_singleton_self _

theorem fragments_concat (connection : Connection) (tables : List CommonTable)
    (table : CommonTable) :
    moreCommonTables table.1 (table.text connection) (fragments connection tables) =
      fragments connection (tables ++ [table]) := by
  cases tables with
  | nil => simp [moreCommonTables, fragments]
  | cons first rest =>
      have recursive : (first :: (rest ++ [table])).any (·.1) =
          ((first :: rest).any (·.1) || table.1) := by
        simp [Bool.or_assoc]
      rw [List.cons_append, fragments, fragments, recursive]
      cases table.1 with
      | false =>
          rw [Bool.or_false]
          simp [moreCommonTables]
      | true =>
          rw [Bool.or_true]
          simp [moreCommonTables, Fragment.withText]

theorem call_turns (table : CommonTable) (query : Query) :
    (call table).Turns query () ({ query with ledger := query.ledger.adopt table.2.2.ledger
      }.addCommonTable table.1 (table.text query.connection)) :=
  fun _ => rfl

/-- What calls for common tables make of a query that has nothing else. -/
theorem runAll_eq (query : Query) (cursor : query.cursor = none) (tables : List CommonTable)
    (parts : query.fragments = fragments query.connection tables) (more : List CommonTable) :
    ∃ ledger, (Edit.runAll (more.map call)).Turns query ()
      { query with ledger, fragments := fragments query.connection (tables ++ more) } := by
  induction more generalizing query tables with
  | nil =>
      refine ⟨query.ledger, ?_⟩
      rw [List.append_nil, ← parts]
      exact .pure () query
  | cons table rest ih =>
      let between : Query := { query with ledger := query.ledger.adopt table.2.2.ledger }
      have added : between.addCommonTable table.1 (table.text query.connection) =
          { between with fragments := fragments query.connection (tables ++ [table]) } := by
        rw [← fragments_concat, ← List.append_nil (moreCommonTables _ _ _)]
        exact Query.addCommonTable_eq (by simp) (by simp) (shape_fragments _ tables) cursor
          (by simpa using parts)
      have ran := table.call_turns query
      rw [added] at ran
      rcases ih { between with fragments := fragments query.connection (tables ++ [table]) } cursor
        (tables ++ [table]) rfl with ⟨ledger, went⟩
      refine ⟨ledger, ran.bind ?_⟩
      simpa using went

end CommonTable

/-! ### Any order -/

/-- What calls make of a query. -/
def Query.after (query : Query) (workspace : Workspace) (calls : List (Edit Unit)) : Query :=
  (((Edit.runAll calls).run query).run workspace).1.2

theorem Edit.Turns.after_eq {calls : List (Edit Unit)} {query changed : Query}
    (ran : (Edit.runAll calls).Turns query () changed) (workspace : Workspace) :
    query.after workspace calls = changed := by
  unfold Query.after
  rw [ran workspace]

/--
Calls for different parts of a query may be mixed in any way. On a new query with a source, two
mixtures of the same calls give the same SQL and the same parameters. The query is made of the
common tables in the order of their calls, the select list, the source, the joins and the clauses
behind them, where each part is what its calls add to a query without the others.

The nested queries in the calls may be older or younger than the query, but all of them are on
record, and it has no value on record yet.
-/
theorem Edit.runAll_interleaved {registry : Registry} (connection : Connection)
    (model : Option Model) (table : String) (workspace now : Workspace)
    (unnamed : registry workspace.nextNamespace = []) {calls : Part → List (Edit Unit)}
    (adds : ∀ part : Part, ∀ call ∈ calls part, part.Adds registry connection call)
    {mixed mixed' : List (Edit Unit)} (order : Interleaves calls mixed)
    (order' : Interleaves calls mixed') :
    let fresh : Query := { ((Query.new connection).run workspace).1 with model }
    let one := (fresh.source table none).after now mixed
    let other := (fresh.source table none).after now mixed'
    let own (part : Part) : List Fragment := (fresh.after now (calls part)).fragments
    one.sql = other.sql ∧ (∀ param, param ∈ one.params ↔ param ∈ other.params) ∧
      one.sql = renderFragments connection.grammar.columnSeparator
        (own .commonTables ++ own .selection ++
          [.withText "from" (connection.grammar.escapeIdentifier table)] ++ own .joins ++
          own .clauses) ∧
      (∀ part : Part, part.Shape (own part)) ∧
      ∀ tables : List CommonTable, calls .commonTables = tables.map CommonTable.call →
        own .commonTables = CommonTable.fragments connection tables := by
  intro fresh one other own
  have begins := Query.Assembles.start unnamed connection model table
  rcases begins.run rfl order adds with ⟨query, parts, ran, runs, stop⟩
  rcases begins.run rfl order' adds with ⟨query', parts', ran', runs', stop'⟩
  have one_eq : one = query := ran.after_eq now
  have other_eq : other = query' := ran'.after_eq now
  have parts_eq (part : Part) : fresh.after now (calls part) = parts part :=
    (runs part).after_eq now
  -- What the calls for a part make is the same whichever mixture they are taken from.
  have alike : parts' = parts := by
    funext part
    exact ((runs' part).after_eq now).symm.trans (parts_eq part)
  have own_eq : own = fun part => (parts part).fragments :=
    funext fun part => congrArg Query.fragments (parts_eq part)
  rw [one_eq, other_eq]
  refine ⟨?_, ?_, ?_, ?_, ?_⟩
  · rw [stop.sql_eq, stop'.sql_eq, alike]
  · intro param
    rw [stop.mem_params, stop'.mem_params, alike]
  · rw [own_eq]
    exact stop.sql_eq
  · rw [own_eq]
    exact stop.shape
  · intro tables listed
    rcases CommonTable.runAll_eq fresh rfl [] rfl tables with ⟨ledger, went⟩
    rw [← listed] at went
    exact congrArg Query.fragments (went.after_eq now)

/-- Calls for all parts in two mixtures, with a nested query that brings a parameter along. The
parameters are added in different orders. -/
theorem Edit.runAll_interleaved_mixed :
    let connection : Connection := .ofConfig {}
    let recent := ((Query.new connection).run {}).1.after {}
      [modify (·.source "logs" none), modify (·.selectAll),
        Edit.filter (.compare (.column "age") "<" (.scalar (.int 7)))]
    let registry : Registry := fun namespaceId => if namespaceId = 1 then [.int 7] else []
    let first : CommonTable := (false, "recent", recent)
    let second : CommonTable := (true, "all", recent)
    let select : Edit Unit := Edit.select true [.column "a.id"]
    let selectRaw : Edit Unit := modify (·.selectRaw "1")
    let columns : List (Connective × Predicate Query CustomExpr) :=
      [(.and, .pair (.column "a.id") (.column "b.id"))]
    let join : Edit Unit := do
      let _ ← Edit.join .left "b" none
        (Edit.runAll (columns.map fun item => Edit.condition .join item.1 item.2))
    let filter : Edit Unit := Edit.condition .filter .and (.pair (.column "n") (.scalar (.int 5)))
    let inner : Edit Unit := Edit.condition .filter .and (.pair (.column "m") (.scalar (.int 6)))
    let group : Edit Unit := Edit.conditionGroup .or (Edit.runAll [inner])
    let limit : Edit Unit := modify (·.limit 3)
    let calls : Part → List (Edit Unit)
      | .commonTables => [first.call, second.call]
      | .selection => [select, selectRaw]
      | .joins => [join]
      | .clauses => [filter, group, limit]
    let mixed := [select, filter, first.call, join, group, selectRaw, second.call, limit]
    let mixed' := [first.call, filter, group, limit, second.call, join, select, selectRaw]
    let fresh : Query :=
      { ((Query.new connection).run { nextNamespace := 2 }).1 with model := none }
    let one := (fresh.source "a" none).after { nextNamespace := 3 } mixed
    let other := (fresh.source "a" none).after { nextNamespace := 3 } mixed'
    registry 2 = [] ∧ (∀ part : Part, ∀ call ∈ calls part, part.Adds registry connection call) ∧
      Interleaves calls mixed ∧ Interleaves calls mixed' ∧
      one.sql = "with recursive \"recent\" as (select * from \"logs\" where \"age\" < :p1_0), " ++
        "\"all\" as (select * from \"logs\" where \"age\" < :p1_0) select distinct " ++
        "\"a\".\"id\", 1 from \"a\" left join \"b\" on \"a\".\"id\" = \"b\".\"id\" " ++
        "where \"n\" = :p2_0 or (\"m\" = :p2_1) limit 3" ∧
      one.sql = other.sql ∧ (∀ param, param ∈ one.params ↔ param ∈ other.params) ∧
      one.params.map (·.name) ≠ other.params.map (·.name) := by
  intro connection recent registry first second select selectRaw columns join filter inner group
    limit calls mixed mixed' fresh one other
  have follows : recent.ledger.params.Follows registry := by
    have entries : recent.ledger.params.entries = [⟨paramName 1 0, .int 7⟩] := rfl
    refine ⟨by simp [entries], ?_⟩
    intro param mem
    rw [entries, List.mem_singleton] at mem
    refine ⟨1, 0, ?_, ?_⟩
    · rw [mem]
    · rw [mem]
      rfl
  have bound (name : String) (value : Int64) : Edit.Filters registry
      (Edit.condition .filter .and (.pair (.column name) (.scalar (.int value)))) :=
    .condition (by decide) .and (List.forall_mem_singleton.2 trivial)
  have adds : ∀ part : Part, ∀ call ∈ calls part, part.Adds registry connection call := by
    intro part
    cases part with
    | commonTables =>
        exact List.forall_mem_cons.2 ⟨.table false "recent" follows,
          List.forall_mem_singleton.2 (.table true "all" follows)⟩
    | selection =>
        have silent : ∀ column ∈ [(.column "a.id" : Value)],
            PlainLeaves registry (connection.Writes False) column.resolvedLeaves :=
          List.forall_mem_singleton.2 (List.forall_mem_nil _)
        exact List.forall_mem_cons.2 ⟨.select true silent,
          List.forall_mem_singleton.2 (.selectRaw "1")⟩
    | joins =>
        have silent : ∀ item ∈ columns,
            PlainLeaves registry (connection.Writes False) item.2.leaves :=
          List.forall_mem_singleton.2 (List.forall_mem_nil _)
        exact List.forall_mem_singleton.2 (.join .left "b" none silent)
    | clauses =>
        have nested : Edit.Filters registry group :=
          .conditionGroup .or (List.forall_mem_singleton.2 (bound "m" 6))
        exact List.forall_mem_cons.2 ⟨.filters (bound "n" 5), List.forall_mem_cons.2
          ⟨.filters nested, List.forall_mem_singleton.2 (.limit 3)⟩⟩
  have order : Interleaves calls mixed :=
    .step .selection rfl <| .step .clauses rfl <| .step .commonTables rfl <| .step .joins rfl <|
      .step .clauses rfl <| .step .selection rfl <| .step .commonTables rfl <|
        .step .clauses rfl <| .done (by intro part; cases part <;> rfl)
  have order' : Interleaves calls mixed' :=
    .step .commonTables rfl <| .step .clauses rfl <| .step .clauses rfl <| .step .clauses rfl <|
      .step .commonTables rfl <| .step .joins rfl <| .step .selection rfl <|
        .step .selection rfl <| .done (by intro part; cases part <;> rfl)
  rcases Edit.runAll_interleaved connection none "a" { nextNamespace := 2 } { nextNamespace := 3 }
    rfl adds order order' with ⟨sql, params, -⟩
  exact ⟨rfl, adds, order, order', by decide +kernel, sql, params, by decide +kernel⟩

end SqlBuilder
