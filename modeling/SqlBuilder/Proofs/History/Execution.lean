import SqlBuilder.Proofs.History.Annals
import SqlBuilder.Proofs.Text.Truncation

/-!
# Runs of queries with and without a fault

A query with a fault is refused by every way to run it, before anything is sent or logged, even
where another query is made from it to be sent in its place. Any other query sends at most one
statement, and for a page a second one, each that of a query without fault.

What is logged is said here without regard to how events are made: where statements are logged
there is one event for each that is sent, in order, with its text cut off at the limit, and
elsewhere there is none.
-/

namespace SqlBuilder

open Script

variable {executor : Executor} {query : Query} {workspace : Workspace} {config : Config}
  {fault : Fault}

/-! ### What is logged -/

/-- How a text stands in the log: as it is if there is no limit or it is within the limit, and else
as its longest start within the limit, with dots behind. -/
structure Config.Excerpt (config : Config) (sql logged : String) : Prop where
  whole : (∀ limit, config.logLimit = some limit → sql.utf8ByteSize ≤ limit) → logged = sql
  cut : ∀ limit, config.logLimit = some limit → limit < sql.utf8ByteSize →
    ∃ front, logged = front ++ "..." ∧ front.toList <+: sql.toList ∧
      front.utf8ByteSize ≤ limit ∧
      ∀ other : String, other.toList <+: sql.toList → other.utf8ByteSize ≤ limit →
        other.toList <+: front.toList

/-- Whether a log event is about a statement. -/
structure LogEvent.Announces (config : Config) (statement : Statement) (event : LogEvent) :
    Prop where
  level : event.level = config.logLevel
  kind : event.kind = statement.kind
  paramCount : event.paramCount = statement.params.length
  sql : config.Excerpt statement.sql event.sql

/-- Whether events are those that are logged when statements are sent. -/
structure Config.Logs (config : Config) (sent : List Statement) (events : List LogEvent) :
    Prop where
  announced : config.logsSql = true → List.Forall₂ (LogEvent.Announces config) sent events
  silent : config.logsSql = false → events = []

theorem Config.excerpt_loggedSql (config : Config) (sql : String) :
    config.Excerpt sql (config.loggedSql sql) where
  whole short := by
    unfold loggedSql
    split
    case h_1 => rfl
    case h_2 limit known => exact if_neg (Nat.not_lt.2 (short limit known))
  cut limit known long := by
    refine ⟨Text.Utf8.truncate limit sql, ?_, Text.Utf8.truncate_starts limit sql,
      Text.Utf8.utf8ByteSize_truncate_le limit sql, fun other starts within => ?_⟩
    · unfold loggedSql
      rw [known]
      exact if_pos long
    · exact Text.Utf8.starts_truncate starts (by rwa [String.ofList_toList])

theorem Config.logs_announce (config : Config) (statement : Statement) :
    config.Logs [statement] (config.announce statement) where
  announced logged := by
    unfold announce
    rw [if_pos logged]
    exact .cons ⟨rfl, rfl, rfl, config.excerpt_loggedSql statement.sql⟩ .nil
  silent unlogged := by
    unfold announce
    rw [unlogged]
    rfl

theorem Config.logs_nil (config : Config) : config.Logs [] [] where
  announced _ := .nil
  silent _ := rfl

theorem Config.Logs.append {sent more : List Statement} {events later : List LogEvent}
    (logs : config.Logs sent events) (logs' : config.Logs more later) :
    config.Logs (sent ++ more) (events ++ later) where
  announced logged := List.rel_append (logs.announced logged) (logs'.announced logged)
  silent unlogged := by rw [logs.silent unlogged, logs'.silent unlogged, List.append_nil]

/-- What a trace has more when statements were sent: the statements, and what is logged for them. -/
structure Trace.Gains (config : Config) (sent : List Statement) (before after : Trace) : Prop where
  statements : after.statements = before.statements ++ sent
  log : ∃ events, after.log = before.log ++ events ∧ config.Logs sent events

/-- The trace after a statement was logged and sent. -/
def Trace.send (trace : Trace) (config : Config) (statement : Statement) : Trace :=
  { statements := trace.statements ++ [statement], log := trace.log ++ config.announce statement }

theorem Trace.gains_send (trace : Trace) (config : Config) (statement : Statement) :
    Gains config [statement] trace (trace.send config statement) where
  statements := rfl
  log := ⟨config.announce statement, rfl, config.logs_announce statement⟩

theorem Trace.gains_nil (trace : Trace) (config : Config) : Gains config [] trace trace where
  statements := (List.append_nil _).symm
  log := ⟨[], (List.append_nil _).symm, config.logs_nil⟩

theorem Trace.Gains.trans {sent more : List Statement} {before between after : Trace}
    (first : Gains config sent before between) (second : Gains config more between after) :
    Gains config (sent ++ more) before after := by
  obtain ⟨events, logged, logs⟩ := first.log
  obtain ⟨later, logged', logs'⟩ := second.log
  refine ⟨?_, events ++ later, ?_, logs.append logs'⟩
  · rw [second.statements, first.statements, List.append_assoc]
  · rw [logged', logged, List.append_assoc]

/-! ### Executions -/

namespace Execution

variable {α β : Type}

/-- The result of an execution, with what was sent and logged, and the workspace. -/
abbrev outcome (action : Execution α) (trace : Trace) (workspace : Workspace) :
    (Except QueryError α × Trace) × Workspace :=
  (action.run.run trace).run workspace

theorem outcome_bind (action : Execution α) (next : α → Execution β) (trace : Trace)
    (workspace : Workspace) :
    (action >>= next).outcome trace workspace =
      let out := action.outcome trace workspace
      match out.1.1 with
      | .ok value => (next value).outcome out.1.2 out.2
      | .error error => ((.error error, out.1.2), out.2) := by
  change ((ExceptT.bindCont next ((action.run.run trace).run workspace).1.1).run
    ((action.run.run trace).run workspace).1.2).run ((action.run.run trace).run workspace).2 = _
  dsimp only
  cases ((action.run.run trace).run workspace).1.1 <;> rfl

/-- Whether an execution sends and logs nothing. -/
def Quiet (action : Execution α) : Prop :=
  ∀ trace workspace, (action.outcome trace workspace).1.2 = trace

/-- Whether an execution fails, and sends and logs nothing. -/
def Refuses (action : Execution α) (workspace : Workspace) : Prop :=
  ∀ trace, (∃ error, (action.outcome trace workspace).1.1 = .error error) ∧
    (action.outcome trace workspace).1.2 = trace

/-- Whether an execution logs and sends certain statements, in order. -/
def Sends (config : Config) (action : Execution α) (workspace : Workspace)
    (sent : List Statement) : Prop :=
  ∀ trace, Trace.Gains config sent trace (action.outcome trace workspace).1.2

theorem Quiet.pure (value : α) : Quiet (pure value : Execution α) := fun _ _ => rfl

theorem Quiet.throw (error : QueryError) : Quiet (throw error : Execution α) := fun _ _ => rfl

theorem outcome_ofExcept (result : Except QueryError α) (trace : Trace) (workspace : Workspace) :
    (ofExcept result).outcome trace workspace = ((result, trace), workspace) := by
  cases result <;> rfl

theorem outcome_send (config : Config) (statement : Statement) (answer : Except QueryError α)
    (trace : Trace) (workspace : Workspace) :
    (send config statement answer).outcome trace workspace =
      ((answer, trace.send config statement), workspace) :=
  outcome_ofExcept answer (trace.send config statement) workspace

theorem outcome_ofSession_bind (step : Session α) (next : α → Execution β) (trace : Trace)
    (workspace : Workspace) :
    (ofSession step >>= next).outcome trace workspace =
      (next (step.run workspace).1).outcome trace (step.run workspace).2 := rfl

/-- What fails goes no further. -/
theorem Refuses.bind {action : Execution α} (refuses : action.Refuses workspace)
    (next : α → Execution β) : (action >>= next).Refuses workspace := by
  intro trace
  obtain ⟨⟨error, failed⟩, same⟩ := refuses trace
  rw [outcome_bind]
  dsimp only
  rw [failed]
  exact ⟨⟨error, rfl⟩, same⟩

theorem Refuses.map {action : Execution α} (refuses : action.Refuses workspace) (build : α → β) :
    (build <$> action).Refuses workspace := by
  rw [← bind_pure_comp]
  exact refuses.bind _

theorem Refuses.ofSession_bind {step : Session α} {next : α → Execution β}
    (refuses : (next (step.run workspace).1).Refuses (step.run workspace).2) :
    (ofSession step >>= next).Refuses workspace :=
  refuses

/-- Reading an answer sends nothing. -/
theorem Sends.bind {action : Execution α} {next : α → Execution β} {sent : List Statement}
    (sends : action.Sends config workspace sent) (quiet : ∀ value, (next value).Quiet) :
    (action >>= next).Sends config workspace sent := by
  intro trace
  rw [outcome_bind]
  dsimp only
  split
  · rw [show ((next _).outcome _ _).1.2 = _ from quiet _ _ _]
    exact sends trace
  · exact sends trace

theorem Sends.map {action : Execution α} {sent : List Statement}
    (sends : action.Sends config workspace sent) (build : α → β) :
    (build <$> action).Sends config workspace sent := by
  rw [← bind_pure_comp]
  exact sends.bind fun _ => .pure _

end Execution

open Execution

namespace Query

variable {α : Type} {ask : Statement → Except QueryError α}

theorem build_eq (query : Query) :
    query.build = match query.ledger.fault with
      | some fault => .error fault.toError
      | none => .ok query.statement := by
  unfold build validate
  cases query.ledger.fault <;> rfl

theorem refuses_run (faulty : query.ledger.fault = some fault) :
    (query.run ask).Refuses workspace := by
  intro trace
  rw [run, build_eq, faulty]
  exact ⟨⟨_, rfl⟩, rfl⟩

/-- What a query without fault sends, and what comes back. -/
theorem outcome_run (clean : query.ledger.fault = none) (trace : Trace) :
    (query.run ask).outcome trace workspace =
      ((ask query.statement, trace.send query.connection.config query.statement),
        workspace) := by
  rw [run, build_eq, clean]
  exact outcome_send _ _ _ _ _

theorem sends_run (clean : query.ledger.fault = none) :
    (query.run ask).Sends query.connection.config workspace [query.statement] := by
  intro trace
  rw [outcome_run clean]
  exact trace.gains_send _ _

/-! ### Counts -/

section Count

variable {count : Session (Except QueryError Query)}

theorem refuses_fetchCount
    (faulty : ∀ copy, (count.run workspace).1 = .ok copy → copy.ledger.fault = some fault) :
    (fetchCount executor count).Refuses workspace := by
  refine .ofSession_bind ?_
  cases made : (count.run workspace).1 with
  | error error => exact fun _ => ⟨⟨error, rfl⟩, rfl⟩
  | ok copy => exact (refuses_run (faulty copy made)).bind _

/-- What a count without fault sends, and what comes back. -/
theorem outcome_fetchCount
    (clean : ∀ copy, (count.run workspace).1 = .ok copy →
      copy.ledger.fault = none ∧ copy.connection = query.connection) (trace : Trace) :
    (fetchCount executor count).outcome trace workspace =
      match (count.run workspace).1 with
      | .error error => ((.error error, trace), (count.run workspace).2)
      | .ok copy =>
        ((executor.scalar copy.statement >>= Scalar.toCount,
          trace.send query.connection.config copy.statement), (count.run workspace).2) := by
  rw [fetchCount, outcome_ofSession_bind]
  cases made : (count.run workspace).1 with
  | error error => rfl
  | ok copy =>
      obtain ⟨clear, same⟩ := clean copy made
      change (copy.run executor.scalar >>= fun answer =>
        Execution.ofExcept answer.toCount).outcome trace _ = _
      rw [outcome_bind, outcome_run clear, same]
      dsimp only
      cases executor.scalar copy.statement with
      | error error => rfl
      | ok answer => exact outcome_ofExcept _ _ _

end Count

/-! ### Queries that are sent in place of a query -/

/-- The query that asks whether a query has rows. -/
def probe (query fresh : Query) : Query :=
  { fresh with ledger := (fresh.ledger.embed query).2 }.selectRaw ("exists (" ++ query.sql ++ ")")

theorem fault_totalCountQuery {copy : Query}
    (counted : (query.totalCountQuery.run workspace).1 = .ok copy) :
    copy.ledger.fault = query.ledger.fault := by
  obtain ⟨own, inner, ledger⟩ := ledger_totalCountQuery counted
  rw [ledger]
  rfl

theorem fault_resultCountQuery {copy : Query}
    (counted : (query.resultCountQuery.run workspace).1 = .ok copy) :
    copy.ledger.fault = query.ledger.fault := by
  rcases ledger_resultCountQuery counted with ⟨own, ledger⟩ | ⟨own, inner, ledger⟩
  · rw [ledger]
  · rw [ledger]
    rfl

theorem connection_totalCountQuery {copy : Query}
    (counted : (query.totalCountQuery.run workspace).1 = .ok copy) :
    copy.connection = query.connection := by
  obtain ⟨keyword, inner, -, -, rfl, -⟩ := exists_of_totalCountQuery counted
  rw [countRowsOf, connection_addText]
  exact connection_selectRaw _ _

theorem connection_resultCountQuery {copy : Query}
    (counted : (query.resultCountQuery.run workspace).1 = .ok copy) :
    copy.connection = query.connection := by
  obtain ⟨keyword, -, ⟨-, replaced, -⟩ | ⟨-, same⟩⟩ := exists_of_resultCountQuery counted
  · exact (connection_replaceClause replaced).trans (connection_withoutPaging _)
  · rw [same] at counted
    exact connection_totalCountQuery counted

theorem outcome_hasRows (trace : Trace) :
    (query.hasRows executor).outcome trace workspace =
      ((do return (← (query.probe (query.fresh.run workspace).1).fetchScalar executor).isTruthy) :
        Execution Bool).outcome trace (query.fresh.run workspace).2 := rfl

/-- The query of one page. -/
def page (query : Query) (request : PageRequest) (workspace : Workspace) : Query :=
  (query.clone.run workspace).1.paginate request.clamp

theorem fault_page (query : Query) (request : PageRequest) (workspace : Workspace) :
    (query.page request workspace).ledger.fault = query.ledger.fault := by
  rw [page, paginate, offset, ledger_setText, limit, ledger_setText]
  rfl

theorem connection_page (request : PageRequest) :
    (query.page request workspace).connection = query.connection := by
  rw [page, paginate, offset, connection_setText, limit, connection_setText]
  rfl

end Query

namespace Script.FetchKind

/-- The query that is asked first. -/
def asked (query : Query) (workspace : Workspace) : FetchKind → Except QueryError Query
  | .all | .one | .scalar | .execute => .ok query
  | .hasRows => .ok (query.probe (query.fresh.run workspace).1)
  | .resultCount => (query.resultCountQuery.run workspace).1
  | .totalCount | .page _ => (query.totalCountQuery.run workspace).1

/-- The query that is asked next: only for a page, and only where the count was answered with a
number. -/
def next (executor : Executor) (query : Query) (workspace : Workspace) (count : Query) :
    FetchKind → List Query
  | .page request =>
    match executor.scalar count.statement >>= Scalar.toCount with
    | .error _ => []
    | .ok _ => [query.page request (query.totalCountQuery.run workspace).2]
  | _ => []

/-- The queries whose statements are sent, in order. There is none where a query cannot be
counted. -/
def queries (executor : Executor) (query : Query) (workspace : Workspace) (kind : FetchKind) :
    List Query :=
  match kind.asked query workspace with
  | .error _ => []
  | .ok first => first :: kind.next executor query workspace first

/-- The number of statements that are sent at most. -/
def limit : FetchKind → Nat
  | .page _ => 2
  | _ => 1

variable {kind : FetchKind} {asked : Query}

theorem length_queries : (kind.queries executor query workspace).length ≤ kind.limit := by
  unfold queries
  split
  case h_1 => exact Nat.zero_le _
  case h_2 =>
    cases kind with
    | page request =>
        unfold next
        dsimp only
        split <;> simp [limit]
    | _ => exact Nat.le_refl 1

theorem fault_asked (made : kind.asked query workspace = .ok asked) :
    asked.ledger.fault = query.ledger.fault := by
  cases kind with
  | all | one | scalar | execute =>
      cases made
      rfl
  | hasRows =>
      cases made
      rw [Query.probe, Query.ledger_selectRaw]
      rfl
  | resultCount => exact Query.fault_resultCountQuery made
  | totalCount | page _ => exact Query.fault_totalCountQuery made

theorem connection_asked (made : kind.asked query workspace = .ok asked) :
    asked.connection = query.connection := by
  cases kind with
  | all | one | scalar | execute =>
      cases made
      rfl
  | hasRows =>
      cases made
      rw [Query.probe, Query.connection_selectRaw]
      rfl
  | resultCount => exact Query.connection_resultCountQuery made
  | totalCount | page _ => exact Query.connection_totalCountQuery made

/-- The queries that are sent for a query have its fault. -/
theorem fault_queries : ∀ sent ∈ kind.queries executor query workspace,
    sent.ledger.fault = query.ledger.fault := by
  unfold queries
  split
  case h_1 => exact List.forall_mem_nil _
  case h_2 first made =>
    refine List.forall_mem_cons.2 ⟨fault_asked made, ?_⟩
    unfold next
    split
    case h_1 request =>
      split
      case h_1 => exact List.forall_mem_nil _
      case h_2 => exact List.forall_mem_singleton.2 (query.fault_page request _)
    case h_2 => exact List.forall_mem_nil _

/-- However a query with a fault is run, it is refused. -/
theorem refuses_run (faulty : query.ledger.fault = some fault) :
    (kind.run executor query).Refuses workspace := by
  cases kind with
  | all => exact (Query.refuses_run faulty).map _
  | one => exact ((Query.refuses_run faulty).bind _).map _
  | scalar => exact (Query.refuses_run faulty).map _
  | execute => exact (Query.refuses_run faulty).map _
  | hasRows =>
      have probed : FetchKind.hasRows.asked query workspace = .ok _ := rfl
      refine Refuses.map (fun trace => ?_) _
      rw [Query.outcome_hasRows]
      exact (Query.refuses_run ((fault_asked probed).trans faulty)).bind _ trace
  | resultCount =>
      exact (Query.refuses_fetchCount fun _ made =>
        (Query.fault_resultCountQuery made).trans faulty).map _
  | totalCount =>
      exact (Query.refuses_fetchCount fun _ made =>
        (Query.fault_totalCountQuery made).trans faulty).map _
  | page request =>
      refine .map (.bind ?_ _) _
      exact Query.refuses_fetchCount fun _ made => (Query.fault_totalCountQuery made).trans faulty

/-- A count sends the query that counts, if it can be made. -/
theorem sends_count {count : Session (Except QueryError Query)}
    (asks : kind.asked query workspace = (count.run workspace).1)
    (last : ∀ first, kind.next executor query workspace first = [])
    (clean : query.ledger.fault = none) :
    (Query.fetchCount executor count).Sends query.connection.config workspace
      ((kind.queries executor query workspace).map Query.statement) := by
  intro trace
  rw [Query.outcome_fetchCount fun _ made =>
    ⟨(fault_asked (asks.trans made)).trans clean, connection_asked (asks.trans made)⟩]
  unfold queries
  rw [asks]
  cases (count.run workspace).1 with
  | error error => exact trace.gains_nil _
  | ok first =>
      dsimp only
      rw [last]
      exact trace.gains_send _ _

/-- The page is fetched once the rows have been counted. -/
theorem sends_rows (clean : query.ledger.fault = none) (request : PageRequest)
    (build : List Row → Page) :
    Sends query.connection.config (do
        let copy ← ofSession query.clone
        return build (← (copy.paginate request.clamp).fetchAll executor) : Execution Page)
      workspace [(query.page request workspace).statement] := by
  intro trace
  have rows : Sends _ (Query.run executor.rows _) (query.clone.run workspace).2 _ :=
    Query.sends_run ((query.fault_page request workspace).trans clean)
  rw [Query.connection_page] at rows
  exact rows.bind (fun _ => .pure _) trace

/-- A query without fault is sent, or what is made from it to be sent in its place. -/
theorem sends_run (clean : query.ledger.fault = none) :
    (kind.run executor query).Sends query.connection.config workspace
      ((kind.queries executor query workspace).map Query.statement) := by
  cases kind with
  | all => exact (Query.sends_run clean).map _
  | one =>
      refine ((Query.sends_run clean).bind fun rows => ?_).map _
      cases rows with
      | nil => exact .throw _
      | cons row rest => exact .pure row
  | scalar => exact (Query.sends_run clean).map _
  | execute => exact (Query.sends_run clean).map _
  | hasRows =>
      have probed : FetchKind.hasRows.asked query workspace = .ok _ := rfl
      refine Sends.map (fun trace => ?_) _
      rw [Query.outcome_hasRows]
      have clear := (fault_asked probed).trans clean
      have sends : Sends _ (Query.run executor.scalar _) (query.fresh.run workspace).2 _ :=
        Query.sends_run clear
      rw [connection_asked probed] at sends
      exact sends.bind (fun _ => .pure _) trace
  | resultCount => exact (sends_count rfl (fun _ => rfl) clean).map _
  | totalCount => exact (sends_count rfl (fun _ => rfl) clean).map _
  | page request =>
      refine Sends.map (fun trace => ?_) _
      rw [Query.fetchPage, outcome_bind, Query.totalCount, Query.outcome_fetchCount fun _ made =>
        ⟨(Query.fault_totalCountQuery made).trans clean, Query.connection_totalCountQuery made⟩]
      unfold queries asked next
      dsimp only
      cases (query.totalCountQuery.run workspace).1 with
      | error error => exact trace.gains_nil _
      | ok count =>
          dsimp only
          have counted := trace.gains_send query.connection.config count.statement
          cases executor.scalar count.statement >>= Scalar.toCount with
          | error error => exact counted
          | ok total => exact counted.trans (sends_rows clean request _ _)

end Script.FetchKind

end SqlBuilder
