import SqlBuilder.Proofs.Twin.Run

/-!
# Making queries in both runs

New queries, queries that are made from others, and the names that workspaces give them. Whatever is
made is twin, has a namespace of its own and has named no value yet, so it can be edited, nested or
named.
-/

namespace SqlBuilder

open Script

namespace Query.Twin

variable {coupling : Coupling} {known : List Param} {query query' inner inner' : Query}

theorem plain_escape (twin : query.Twin coupling known query') (name : String) :
    Writing.Plain (query.escape name).toList := by
  obtain ⟨dialect, same⟩ := coupling.dialect twin.connection
  have dot : dialect.grammar.tableSeparator = "." := by cases dialect <;> rfl
  rw [Query.escape, same, Grammar.escapeIdentifier, dot, String.toList_ofList]
  exact Identifier.plain_escape dialect.scanned_quotes name.toList

theorem plain_escapePart (twin : query.Twin coupling known query') (name : String) :
    Writing.Plain (query.escapePart name).toList := by
  obtain ⟨dialect, same⟩ := coupling.dialect twin.connection
  rw [Query.escapePart, same, Grammar.escapePart, String.toList_ofList]
  exact Identifier.plain_escapePart dialect.scanned_quotes name.toList

theorem plain_escapeAs (twin : query.Twin coupling known query') (name : String)
    (label : Option String) : Writing.Plain (query.escapeAs name label).toList := by
  cases label with
  | none => exact twin.plain_escape name
  | some label =>
      have word : Writing.Plain " as ".toList := .codes (by decide)
      simp only [Query.escapeAs, String.toList_append]
      exact ((twin.plain_escape name).append word).append (twin.plain_escapePart label)

theorem source (twin : query.Twin coupling known query') (table : String) (label : Option String) :
    (query.source table label).Twin coupling known (query'.source table label) := by
  unfold Query.source
  rw [twin.escapeAs]
  exact twin.setText (Writing.verbatim_of_all (by decide))
    (.plain (twin.plain_escapeAs table label))
    (by decide)

theorem explain (twin : query.Twin coupling known query') :
    Query.Twin coupling known
      { query with
        fragments := .token "explain" :: query.fragments
        cursor := query.cursor.map (· + 1) }
      { query' with
        fragments := .token "explain" :: query'.fragments
        cursor := query'.cursor.map (· + 1) } :=
  { twin with
    fragments := .cons (.token (Writing.verbatim_of_all (by decide))) twin.fragments
    cursor := by simp [twin.cursor] }

theorem nextKeyword_word (query : Query) (clause : ConditionClause) (connective : Connective) :
    (query.nextKeyword clause connective).1.toList.all isPlainCode = true ∧
      isSelectKeyword (query.nextKeyword clause connective).1 = false := by
  have conditional (connective : Connective) : connective.keyword.toList.all isPlainCode = true ∧
      isSelectKeyword connective.keyword = false := by
    cases connective <;> decide
  unfold Query.nextKeyword
  dsimp only
  split
  · exact conditional _
  · cases clause <;> decide

/-- A condition takes the same keyword in both queries. -/
theorem addCondition (twin : query.Twin coupling known query') (clause : ConditionClause)
    (connective : Connective) {text text' : String} (written : coupling.Text known text text') :
    Query.Twin coupling known
      ((query.nextKeyword clause connective).2.addText (query.nextKeyword clause connective).1 text)
      ((query'.nextKeyword clause connective).2.addText (query'.nextKeyword clause connective).1
        text') := by
  obtain ⟨plain, notSelect⟩ := nextKeyword_word query clause connective
  rw [twin.nextKeyword_eq]
  exact (twin.nextKeyword clause connective).addText (Writing.verbatim_of_all plain) written
    (by simp [notSelect])

/-- A condition that compares two columns. -/
theorem addComparison (twin : query.Twin coupling known query') (lhs rhs : String) :
    Query.Twin coupling known
      ((query.nextKeyword .filter .and).2.addText (query.nextKeyword .filter .and).1
        (query.escape lhs ++ " " ++ "=" ++ " " ++ query.escape rhs))
      ((query'.nextKeyword .filter .and).2.addText (query'.nextKeyword .filter .and).1
        (query'.escape lhs ++ " " ++ "=" ++ " " ++ query'.escape rhs)) := by
  refine twin.addCondition .filter .and ?_
  rw [twin.escape, twin.escape]
  have equal : coupling.Verbatim "=" := Writing.verbatim_of_all (by decide)
  have first : coupling.Text known (query.escape lhs) (query.escape lhs) :=
    .plain (twin.plain_escape lhs)
  have left := first.joined " " (by decide) (by decide) (by decide) (.verbatim equal)
  exact left.joined " " (by decide) (by decide) (by decide) (.plain (twin.plain_escape rhs))

/-- What is counted is made of both queries alike. -/
theorem countedRows (twin : query.Twin coupling known query')
    (copied : inner.Twin coupling known inner') (keyword : String) :
    (∃ counted counted', query.countedRows keyword inner = .ok counted ∧
      query'.countedRows keyword inner' = .ok counted' ∧
      counted.Twin coupling known counted') ∨
    ∃ error, query.countedRows keyword inner = .error error ∧
      query'.countedRows keyword inner' = .error error := by
  have stripped := copied.withoutPaging
  unfold Query.countedRows
  rw [twin.isCompound, stripped.hasClause]
  split
  · refine stripped.withSelectList ?_
    split <;> exact Writing.verbatim_of_all (by decide)
  · exact .inl ⟨_, _, rfl, rfl, stripped⟩

end Query.Twin

/-- Twin queries that both runs made between two workspaces. -/
structure Coupling.Made (coupling : Coupling) (registry : Registry)
    (workspace workspace' : Workspace) (out out' : Query × Workspace) : Prop where
  made : Query.Made registry workspace out.2 out.1
  queries' : out'.2.queries = workspace'.queries
  aborted' : out'.2.aborted = workspace'.aborted
  counters : coupling.counters out.2.nextNamespace out'.2.nextNamespace
  twin : out.1.Twin coupling out.1.params out'.1
  ledgers : coupling.ledgers out.1.ledger out'.1.ledger

/-- Whether both runs made twin queries, or failed alike. -/
def Coupling.Copied (coupling : Coupling) (registry : Registry) (workspace workspace' : Workspace)
    (out out' : Except QueryError Query × Workspace) : Prop :=
  (∃ copy copy', out.1 = .ok copy ∧ out'.1 = .ok copy' ∧
    coupling.Made registry workspace workspace' (copy, out.2) (copy', out'.2)) ∨
  ∃ error, out.1 = .error error ∧ out'.1 = .error error ∧
    coupling.Workspaces registry out.2 out'.2

/-- Twin workspaces stay twin when namespaces are taken. -/
theorem Coupling.Workspaces.grown {coupling : Coupling} {registry : Registry}
    {workspace workspace' after after' : Workspace}
    (twins : coupling.Workspaces registry workspace workspace') (grown : workspace.Grown after)
    (queries' : after'.queries = workspace'.queries)
    (aborted' : after'.aborted = workspace'.aborted)
    (counters : coupling.counters after.nextNamespace after'.nextNamespace) :
    coupling.Workspaces registry after after' where
  queries := by
    rw [grown.queries, queries']
    exact twins.queries
  counters := counters
  below entry mem := by
    rw [grown.queries] at mem
    exact Nat.lt_of_lt_of_le (twins.below entry mem) grown.next
  distinct := by
    rw [grown.queries]
    exact twins.distinct
  unused namespaceId above := twins.unused namespaceId (Nat.le_trans grown.next above)
  aborted := aborted'.trans (twins.aborted.trans grown.aborted.symm)

theorem Workspace.Grown.progress {registry : Registry} {own : Option Nat}
    {workspace after : Workspace} (grown : workspace.Grown after) :
    Workspace.Progress registry registry own workspace after where
  extended := .refl registry
  elsewhere _ _ _ := rfl
  next := grown.next
  entries entry mem := by
    rw [grown.queries] at mem
    exact .inl mem

namespace Coupling.Made

variable {coupling : Coupling} {registry : Registry} {workspace workspace' : Workspace}
  {out out' : Query × Workspace}

theorem grown (made : coupling.Made registry workspace workspace' out out') :
    workspace.Grown out.2 :=
  Workspace.Sound.grown_of_made made.made

theorem workspaces (made : coupling.Made registry workspace workspace' out out')
    (twins : coupling.Workspaces registry workspace workspace') :
    coupling.Workspaces registry out.2 out'.2 :=
  twins.grown made.grown made.queries' made.aborted' made.counters

theorem nested (made : coupling.Made registry workspace workspace' out out') :
    coupling.Nested registry false out.1 out'.1 where
  twin := made.twin
  ledgers := made.ledgers
  follows := made.made.follows
  silent := by simp

theorem inHand (made : coupling.Made registry workspace workspace' out out')
    (twins : coupling.Workspaces registry workspace workspace') :
    coupling.InHand registry out.2.nextNamespace out.1 out'.1 :=
  { made.nested with
    owns := made.made.unused.trans (congrArg List.length (twins.unused _ made.made.above)).symm
    below := made.made.below }

/-- Twin queries that were made and then changed without recording anything. -/
theorem changed {changed changed' : Query}
    (made : coupling.Made registry workspace workspace' out out')
    (same : changed.ledger = out.1.ledger) (same' : changed'.ledger = out'.1.ledger)
    (twin : out.1.Twin coupling out.1.params out'.1 →
      changed.Twin coupling out.1.params changed') :
    coupling.Made registry workspace workspace' (changed, out.2) (changed', out'.2) where
  made := made.made.of_ledger_eq same
  queries' := made.queries'
  aborted' := made.aborted'
  counters := made.counters
  twin := by
    have params : changed.params = out.1.params :=
      congrArg (fun ledger => ledger.params.entries) same
    rw [params]
    exact twin made.twin
  ledgers := by
    rw [same, same']
    exact made.ledgers

theorem trans {before before' : Workspace}
    (made : coupling.Made registry workspace workspace' out out') (grown : before.Grown workspace)
    (queries' : workspace'.queries = before'.queries)
    (aborted' : workspace'.aborted = before'.aborted) :
    coupling.Made registry before before' out out' :=
  { made with
    made := made.made.trans grown
    queries' := made.queries'.trans queries'
    aborted' := made.aborted'.trans aborted' }

theorem new {connection connection' : Connection}
    (connections : coupling.connections connection connection')
    (twins : coupling.Workspaces registry workspace workspace') :
    coupling.Made registry workspace workspace' ((Query.new connection).run workspace)
      ((Query.new connection').run workspace') where
  made := .new workspace registry connection
  queries' := rfl
  aborted' := rfl
  counters := coupling.taken twins.counters
  twin := ⟨connections, .nil, rfl, rfl, rfl, rfl, rfl⟩
  ledgers := coupling.made twins.counters

/-- What a query of its own starts from, on the given connection or on one that asks for itself. -/
theorem make {home home' : Connection} (connections : coupling.connections home home')
    {origin : Origin} (asks : ∀ connection ∈ origin.connection,
      coupling.connections connection connection)
    (twins : coupling.Workspaces registry workspace workspace') :
    coupling.Made registry workspace workspace' ((origin.make home).run workspace)
      ((origin.make home').run workspace') := by
  obtain ⟨connection, model, table⟩ := origin
  have started : coupling.connections (connection.getD home) (connection.getD home') := by
    cases connection with
    | none => exact connections
    | some connection => exact asks connection rfl
  have made := new started twins
  cases model with
  | some model =>
      exact made.changed rfl rfl fun twin => { twin with model := rfl }
  | none =>
      cases table with
      | none => exact made
      | some table =>
          have ledger (query : Query) :
              ((query.selectRaw "*").source table none).ledger = query.ledger := by simp
          exact made.changed (ledger _) (ledger _) fun twin =>
            (twin.selectRaw (.verbatim (Writing.verbatim_of_all (by decide)))).source table none

theorem clone {query query' : Query} (nested : coupling.Nested registry false query query')
    (twins : coupling.Workspaces registry workspace workspace') :
    coupling.Made registry workspace workspace' (query.clone.run workspace)
      (query'.clone.run workspace') where
  made := .clone workspace nested.follows
  queries' := rfl
  aborted' := rfl
  counters := coupling.taken twins.counters
  twin := { nested.twin with }
  ledgers := coupling.forked nested.ledgers twins.counters

/-- The query of the related rows compares two columns and nothing else. -/
theorem relatedRows {query query' : Query} (nested : coupling.Nested registry false query query')
    (link : RelationLink) (twins : coupling.Workspaces registry workspace workspace') :
    coupling.Made registry workspace workspace' ((query.relatedRows link).run workspace)
      ((query'.relatedRows link).run workspace') := by
  rw [Query.run_relatedRows, Query.run_relatedRows]
  have ledger (query : Query) : ((query.selectRaw "1").source link.table none).ledger =
      query.ledger := by simp
  refine (new nested.twin.connection twins).changed
    ((Query.ledger_addText _ _ _).trans (ledger _))
    ((Query.ledger_addText _ _ _).trans (ledger _)) fun twin => ?_
  have one : coupling.Verbatim "1" := Writing.verbatim_of_all (by decide)
  have related := (twin.selectRaw (.verbatim one)).source link.table none
  exact related.addComparison link.related link.own

/-- New queries that count the rows of nested twin queries. -/
theorem countRowsOf {inner inner' : Query}
    (made : coupling.Made registry workspace workspace' out out')
    (nested : coupling.Nested registry false inner inner') :
    coupling.Made registry workspace workspace' (out.1.countRowsOf inner, out.2)
      (out'.1.countRowsOf inner', out'.2) where
  made := made.made.countRowsOf nested.follows
  queries' := made.queries'
  aborted' := made.aborted'
  counters := made.counters
  ledgers := by
    simp only [Query.ledger_countRowsOf]
    exact coupling.adopted made.ledgers nested.ledgers
  twin := by
    have adopted : (out.1.countRowsOf inner).params =
        (out.1.ledger.params.extend inner.ledger.params).entries :=
      congrArg (fun ledger => ledger.params.entries) (out.1.ledger_countRowsOf inner)
    have star : coupling.Verbatim "count(*)" := Writing.verbatim_of_all (by decide)
    have counting := (made.twin.mono (ParamList.subset_extend _ inner.ledger.params)).selectRaw
      (.verbatim star)
    have text : coupling.Text (out.1.ledger.params.extend inner.ledger.params).entries inner.sql
        inner'.sql := nested.sql.mono (made.made.follows.subset_extend_right nested.follows)
    have label := counting.plain_escapePart "__count"
    rw [adopted]
    unfold Query.countRowsOf
    dsimp only
    rw [counting.escapePart]
    have same : Query.Twin coupling (out.1.ledger.params.extend inner.ledger.params).entries
        { out.1.selectRaw "count(*)" with
          ledger := ((out.1.selectRaw "count(*)").ledger.embed inner).2 }
        { out'.1.selectRaw "count(*)" with
          ledger := ((out'.1.selectRaw "count(*)").ledger.embed inner').2 } := { counting with }
    exact same.addText (Writing.verbatim_of_all (by decide))
      ((text.after "(" (by decide)).joined ") as " (by decide) (by decide) (by decide)
        (.plain label))
      (by simp [isSelectKeyword])

/-- A count by way of a nested query fails in both runs or in none. -/
theorem totalCount {query query' : Query} (nested : coupling.Nested registry false query query')
    (twins : coupling.Workspaces registry workspace workspace') :
    coupling.Copied registry workspace workspace' (query.totalCountQuery.run workspace)
      (query'.totalCountQuery.run workspace') := by
  rw [Query.run_totalCountQuery, Query.run_totalCountQuery, nested.twin.selectKeyword]
  cases query.selectKeyword with
  | error error => exact .inr ⟨error, rfl, rfl, twins⟩
  | ok keyword =>
      have copied := clone nested twins
      dsimp only
      rcases nested.twin.countedRows copied.twin keyword with
        ⟨counted, counted', strip, strip', twin⟩ | ⟨error, strip, strip'⟩
      · rw [strip, strip']
        refine .inl ⟨_, _, rfl, rfl, ?_⟩
        have ledger := Query.ledger_countedRows strip
        have ledger' := Query.ledger_countedRows strip'
        have inner := (copied.changed ledger ledger' fun _ => twin).nested
        exact ((new nested.twin.connection (copied.workspaces twins)).countRowsOf inner).trans
          copied.grown copied.queries' copied.aborted'
      · rw [strip, strip']
        exact .inr ⟨error, rfl, rfl, copied.workspaces twins⟩

/-- A count in place fails in both runs or in none. -/
theorem resultCount {query query' : Query} (nested : coupling.Nested registry false query query')
    (twins : coupling.Workspaces registry workspace workspace') :
    coupling.Copied registry workspace workspace' (query.resultCountQuery.run workspace)
      (query'.resultCountQuery.run workspace') := by
  have inPlace (keyword : String) : query'.countsInPlace keyword = query.countsInPlace keyword := by
    simp [Query.countsInPlace, nested.twin.isCompound, nested.twin.hasClause]
  rw [Query.run_resultCountQuery, Query.run_resultCountQuery, nested.twin.selectKeyword]
  cases query.selectKeyword with
  | error error => exact .inr ⟨error, rfl, rfl, twins⟩
  | ok keyword =>
      dsimp only
      rw [inPlace]
      split
      · have copied := clone nested twins
        have star : coupling.Verbatim "count(*)" := Writing.verbatim_of_all (by decide)
        rcases copied.twin.withoutPaging.withSelectList star with
          ⟨counted, counted', strip, strip', twin⟩ | ⟨error, strip, strip'⟩
        · have ledger := (Query.ledger_replaceClause strip).trans (Query.ledger_withoutPaging _)
          have ledger' := (Query.ledger_replaceClause strip').trans (Query.ledger_withoutPaging _)
          exact .inl ⟨counted, counted', strip, strip',
            copied.changed ledger ledger' fun _ => twin⟩
        · exact .inr ⟨error, strip, strip', copied.workspaces twins⟩
      · exact totalCount nested twins

/-- Queries that are made from twin queries are twin. -/
theorem copy {query query' : Query} (nested : coupling.Nested registry false query query')
    (kind : CopyKind) (twins : coupling.Workspaces registry workspace workspace') :
    coupling.Copied registry workspace workspace' ((kind.make query).run workspace)
      ((kind.make query').run workspace') := by
  cases kind with
  | clone => exact .inl ⟨_, _, rfl, rfl, clone nested twins⟩
  | fresh => exact .inl ⟨_, _, rfl, rfl, new nested.twin.connection twins⟩
  | explain => exact .inl ⟨_, _, rfl, rfl, (clone nested twins).changed rfl rfl .explain⟩
  | resultCount => exact resultCount nested twins
  | totalCount => exact totalCount nested twins

end Coupling.Made

/-! ### Names in both workspaces -/

namespace Coupling.Workspaces

variable {coupling : Coupling} {registry : Registry} {workspace workspace' : Workspace}

/-- A name stands for twin queries, or for none in both runs. -/
theorem get? (twins : coupling.Workspaces registry workspace workspace') (name : String) :
    (workspace.get? name = none ∧ workspace'.get? name = none) ∨
      ∃ query query', workspace.get? name = some query ∧ workspace'.get? name = some query' ∧
        coupling.Nested registry false query query' := by
  unfold Workspace.get?
  have pairs := twins.queries
  revert pairs
  generalize workspace.queries = entries
  generalize workspace'.queries = entries'
  intro pairs
  induction pairs with
  | nil => exact .inl ⟨rfl, rfl⟩
  | @cons entry entry' rest rest' first _ ih =>
      obtain ⟨named, nested⟩ := first
      rw [List.find?_cons, List.find?_cons, named]
      cases entry.1 == name with
      | true => exact .inr ⟨entry.2, entry'.2, rfl, rfl, nested⟩
      | false => exact ih

theorem filter (twins : coupling.Workspaces registry workspace workspace') (name : String) :
    List.Forall₂ (fun entry entry' => entry'.1 = entry.1 ∧
      coupling.Nested registry false entry.2 entry'.2)
      (workspace.queries.filter (·.1 != name)) (workspace'.queries.filter (·.1 != name)) := by
  have pairs := twins.queries
  revert pairs
  generalize workspace.queries = entries
  generalize workspace'.queries = entries'
  intro pairs
  induction pairs with
  | nil => exact .nil
  | cons first _ ih =>
      rw [List.filter_cons, List.filter_cons, first.1]
      split
      · exact .cons first ih
      · exact ih

theorem erase (twins : coupling.Workspaces registry workspace workspace') (name : String) :
    coupling.Workspaces registry (workspace.erase name) (workspace'.erase name) where
  queries := twins.filter name
  counters := twins.counters
  below entry mem := twins.below entry (List.mem_filter.1 mem).1
  distinct := twins.distinct.filter _
  unused := twins.unused
  aborted := twins.aborted

/-- Queries that were made can be named. -/
theorem insert {out out' : Query × Workspace}
    (twins : coupling.Workspaces registry workspace workspace')
    (made : coupling.Made registry workspace workspace' out out') (name : String) :
    coupling.Workspaces registry (out.2.insert name out.1) (out'.2.insert name out'.1) := by
  have after := made.workspaces twins
  refine ⟨List.rel_append (after.filter name) (.cons ⟨rfl, made.nested⟩ .nil), after.counters, ?_,
    ?_, after.unused, after.aborted⟩
  · intro entry mem
    rcases Workspace.mem_insert mem with ⟨mem, -⟩ | rfl
    · exact after.below entry mem
    · exact made.made.below
  · refine List.pairwise_append.2 ⟨after.distinct.filter _, List.pairwise_singleton _ _, ?_⟩
    intro entry mem other single
    obtain rfl := List.mem_singleton.1 single
    have before : entry ∈ workspace.queries := by
      rw [← made.grown.queries]
      exact (List.mem_filter.1 mem).1
    exact Nat.ne_of_lt (Nat.lt_of_lt_of_le (twins.below entry before) made.made.above)

theorem progress_insert {out out' : Query × Workspace} {own : Option Nat}
    (twins : coupling.Workspaces registry workspace workspace')
    (made : coupling.Made registry workspace workspace' out out') (name : String) :
    Workspace.Progress registry registry own workspace (out.2.insert name out.1) where
  extended := .refl registry
  elsewhere _ _ _ := rfl
  next := made.grown.next
  entries entry mem := by
    rcases Workspace.mem_insert mem with ⟨mem, -⟩ | rfl
    · rw [made.grown.queries] at mem
      exact .inl mem
    · exact .inr ⟨made.made.above, made.made.unused, twins.unused _ made.made.above⟩

end Coupling.Workspaces

theorem run_take_of_some (home : Connection) {workspace : Workspace} {name : String} {query : Query}
    (found : workspace.get? name = some query) :
    (buildQuery home (.take name)).run workspace = (query, workspace.erase name) := by
  simp [buildQuery, found]
  rfl

theorem run_take_of_none (home : Connection) {workspace : Workspace} {name : String}
    (absent : workspace.get? name = none) :
    (buildQuery home (.take name)).run workspace = (Query.new home).run workspace := by
  simp [buildQuery, absent]

theorem run_clone_of_some (home : Connection) {workspace : Workspace} {name : String}
    {query : Query} (found : workspace.get? name = some query) :
    (buildQuery home (.clone name)).run workspace = query.clone.run workspace := by
  simp [buildQuery, found]

theorem run_clone_of_none (home : Connection) {workspace : Workspace} {name : String}
    (absent : workspace.get? name = none) :
    (buildQuery home (.clone name)).run workspace = (Query.new home).run workspace := by
  simp [buildQuery, absent]

theorem snd_run_nameCopy_of_ok {maker : Session (Except QueryError Query)} {workspace : Workspace}
    (name : String) {copy : Query} (made : (maker.run workspace).1 = .ok copy) :
    ((maker >>= nameCopy name).run workspace).2 = (maker.run workspace).2.insert name copy := by
  change ((nameCopy name (maker.run workspace).1).run (maker.run workspace).2).2 = _
  rw [made]
  rfl

theorem snd_run_nameCopy_of_error {maker : Session (Except QueryError Query)}
    {workspace : Workspace} (name : String) {error : QueryError}
    (failed : (maker.run workspace).1 = .error error) :
    ((maker >>= nameCopy name).run workspace).2 = (maker.run workspace).2 := by
  change ((nameCopy name (maker.run workspace).1).run (maker.run workspace).2).2 = _
  rw [failed]
  rfl

namespace Coupling

variable {coupling : Coupling} {registry : Registry} {workspace workspace' : Workspace}
  {calls calls' : List Call} {α β : Type}

/-- Making a query. -/
theorem Builds.make {maker maker' : Session Query}
    (made : coupling.Workspaces registry workspace workspace' →
      coupling.Made registry workspace workspace' (maker.run workspace) (maker'.run workspace')) :
    coupling.Builds registry workspace workspace' [] [] maker maker'
      fun later query query' => coupling.Nested later false query query' :=
  fun twins => ⟨registry, (made twins).grown.progress, (made twins).workspaces twins, .nil,
    (made twins).nested⟩

/-- Making a query and editing it. What it records is in a namespace that was not in use. -/
theorem Builds.nest {maker maker' : Session Query} {body : Edit α} {body' : Edit β}
    {post : World → α → β → Prop}
    (made : coupling.Workspaces registry workspace workspace' →
      coupling.Made registry workspace workspace' (maker.run workspace) (maker'.run workspace'))
    (inside : coupling.Edits registry (maker.run workspace).1 (maker'.run workspace').1
      (maker.run workspace).2 (maker'.run workspace').2 calls calls' body body' post) :
    coupling.Builds registry workspace workspace' calls calls'
      (do let query ← maker; body.run query) (do let query ← maker'; body'.run query)
      fun later out out' => coupling.Nested later false out.2 out'.2 := by
  intro twins
  have started := made twins
  obtain ⟨later, progress, -, -, hand, twins, called, -⟩ :=
    inside (started.inHand twins) (started.workspaces twins)
  refine ⟨later, ⟨progress.extended, ?_, ?_, ?_⟩, twins, called, hand.toNested⟩
  · intro namespaceId inUse _
    refine progress.elsewhere namespaceId (Nat.lt_of_lt_of_le inUse started.grown.next) ?_
    rintro ⟨⟩
    exact Nat.lt_irrefl _ (Nat.lt_of_lt_of_le inUse started.made.above)
  · exact Nat.le_trans started.grown.next progress.next
  · intro entry mem
    rcases progress.entries entry mem with mem | ⟨above, unused, empty⟩
    · rw [started.grown.queries] at mem
      exact .inl mem
    · exact .inr ⟨Nat.le_trans started.grown.next above, unused, empty⟩

/-- Taking a named query, which loses its name. -/
theorem Builds.take {home home' : Connection} (connections : coupling.connections home home')
    (name : String) :
    coupling.Builds registry workspace workspace' [] [] (buildQuery home (.take name))
      (buildQuery home' (.take name))
      fun later query query' => coupling.Nested later false query query' := by
  intro twins
  rcases twins.get? name with ⟨absent, absent'⟩ | ⟨query, query', found, found', nested⟩
  · have made := Made.new connections twins
    dsimp only
    rw [run_take_of_none home absent, run_take_of_none home' absent']
    exact ⟨registry, made.grown.progress, made.workspaces twins, .nil, made.nested⟩
  · dsimp only
    rw [run_take_of_some home found, run_take_of_some home' found']
    refine ⟨registry, ⟨.refl registry, fun _ _ _ => rfl, Nat.le_refl _, fun entry mem => ?_⟩,
      twins.erase name, .nil, nested⟩
    exact .inl (List.mem_filter.1 mem).1

/-- Copying a named query. -/
theorem Builds.cloneNamed {home home' : Connection}
    (connections : coupling.connections home home') (name : String) :
    coupling.Builds registry workspace workspace' [] [] (buildQuery home (.clone name))
      (buildQuery home' (.clone name))
      fun later query query' => coupling.Nested later false query query' := by
  refine .make fun twins => ?_
  rcases twins.get? name with ⟨absent, absent'⟩ | ⟨query, query', found, found', nested⟩
  · rw [run_clone_of_none home absent, run_clone_of_none home' absent']
    exact .new connections twins
  · rw [run_clone_of_some home found, run_clone_of_some home' found']
    exact .clone nested twins

/-- Naming a query that is made from another one. -/
theorem Builds.copy {query query' : Query} (nested : coupling.Nested registry false query query')
    (kind : CopyKind) (name : String) :
    coupling.Builds registry workspace workspace' [] [] (kind.make query >>= nameCopy name)
      (kind.make query' >>= nameCopy name) fun _ _ _ => True := by
  intro twins
  have grown := Workspace.Grown.copy kind query workspace
  rcases Made.copy nested kind twins with
    ⟨copy, copy', made, made', twin⟩ | ⟨error, failed, failed', after⟩
  · dsimp only
    rw [snd_run_nameCopy_of_ok name made, snd_run_nameCopy_of_ok name made']
    exact ⟨registry, twins.progress_insert twin name, twins.insert twin name, .nil, trivial⟩
  · dsimp only
    rw [snd_run_nameCopy_of_error name failed, snd_run_nameCopy_of_error name failed']
    exact ⟨registry, grown.progress, after, .nil, trivial⟩

end Coupling

end SqlBuilder
