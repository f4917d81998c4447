import SqlBuilder.Proofs.History.Coverage
import SqlBuilder.Proofs.History.Execution
import SqlBuilder.Proofs.History.Script

/-!
# Programs whose faults block execution

A query of a program reports what went wrong first while it was built, in itself or in a query that
it took in, and is run only if nothing did. No later call takes this back.
-/

namespace SqlBuilder

open Script

variable {query : Query} {faults : List Fault}

/-- Whether a query reports the first of its faults, and is run only if there is none. -/
structure Query.Heeds (query : Query) (faults : List Fault) : Prop where
  validated : query.validate =
    match faults.head? with
    | some fault => .error fault.toError
    | none => .ok ()
  built : query.build =
    match faults.head? with
    | some fault => .error fault.toError
    | none => .ok query.statement
  /-- With a fault, every way to run it fails before anything is sent or logged. -/
  refused : faults ≠ [] → ∀ (kind : FetchKind) (executor : Executor) (workspace : Workspace),
    (kind.run executor query).Refuses workspace
  /-- Without one, the statements of certain queries are sent and logged, all of which build. -/
  sent : faults = [] → ∀ (kind : FetchKind) (executor : Executor) (workspace : Workspace),
    (kind.run executor query).Sends query.connection.config workspace
        ((kind.queries executor query workspace).map Query.statement) ∧
      (kind.queries executor query workspace).length ≤ kind.limit ∧
      ∀ asked ∈ kind.queries executor query workspace, asked.build = .ok asked.statement

theorem Query.Heeds.of_fault (reported : query.ledger.fault = faults.head?) :
    query.Heeds faults where
  validated := by
    rw [← reported]
    rfl
  built := by
    rw [← reported]
    exact query.build_eq
  refused faulty kind executor workspace := by
    rw [List.head?_eq_some_head faulty] at reported
    exact kind.refuses_run reported
  sent clean kind executor workspace := by
    rw [clean] at reported
    refine ⟨kind.sends_run reported, kind.length_queries, fun asked mem => ?_⟩
    rw [asked.build_eq, (kind.fault_queries asked mem).trans reported]
    rfl

namespace Script.Program

/--
Faults are reported, and block execution. In a program without user-defined expressions, each
builder call finds and leaves a query that heeds the faults of its history, which the call only adds
to, and the queries that have names in the end heed theirs.
-/
theorem heeds_history (program : Program)
    (plain : ∀ call ∈ program.calls, call.step.IsPlain) :
    program.annals.calls.Perm program.calls ∧
      (∀ chapter ∈ program.annals.chapters, chapter.before <+: chapter.after ∧
        chapter.call.query.Heeds (Event.faults chapter.before) ∧
        chapter.call.result.Heeds (Event.faults chapter.after)) ∧
      ∀ name query, program.run.2.get? name = some query →
        query.Heeds (Event.faults (program.annals.past name)) := by
  have fits := program.annals_fit plain
  refine ⟨program.calls_annals, fun chapter mem => ?_, fun name query found => ?_⟩
  · have told := fits.told chapter mem
    exact ⟨told.grows, .of_fault told.before.fault, .of_fault told.after.fault⟩
  · exact .of_fault (fits.named name query found).fault

/-- The fault of the query that is taken in comes first. The query `r` has no fault, so its count
and its page are sent and logged, with texts that are cut off behind 20 octets. -/
theorem heeds_history_nested :
    let program : Program :=
      { connection := .ofConfig { dialect := .sqlite, prepared := false, logLimit := some 20 }
        commands :=
          [.create "rows" { table := some "t" }, .on "rows" .lockForUpdate,
            .on "q" (.select false [.expr (.nested (.take "rows"))]),
            .on "q" (.condition .filter .and (.pair (.column "a") (.scalar (.text "\x00")))),
            .on "q" (.fetch (.page { page := 1, perPage := 10 }) {}),
            .create "r" { table := some "t" }] }
    let faults : List Fault :=
      [.unsupported "sqlite" .lockForUpdate,
        .quoteRefused "string literal cannot contain NUL character"]
    let log : List LogEvent :=
      [⟨.debug, .raw, 0, "select count(*) from..."⟩, ⟨.debug, .raw, 0, "select * from \"t\" li..."⟩]
    let pages := FetchKind.page { page := 1, perPage := 10 }
    (∀ call ∈ program.calls, call.step.IsPlain) ∧
      (∃ query, program.run.2.get? "q" = some query ∧ query.Heeds faults) ∧
      ∃ query, program.run.2.get? "r" = some query ∧ query.Heeds [] ∧
        ((pages.run (Responses.toExecutor {}) query).outcome {} program.run.2).1.2.log = log := by
  intro program faults log pages
  have plain : ∀ call ∈ program.calls, call.step.IsPlain := by decide +kernel
  obtain ⟨-, -, heeds⟩ := heeds_history program plain
  have past : Event.faults (program.annals.past "q") = faults := by decide +kernel
  have named : (program.run.2.get? "q").isSome := by decide +kernel
  obtain ⟨query, found⟩ := Option.isSome_iff_exists.1 named
  have clean : Event.faults (program.annals.past "r") = [] := by decide +kernel
  have logged : (program.run.2.get? "r").map (fun query =>
      ((pages.run (Responses.toExecutor {}) query).outcome {} program.run.2).1.2.log) =
        some log := by decide +kernel
  obtain ⟨other, found', logs⟩ := Option.map_eq_some_iff.1 logged
  exact ⟨plain, ⟨query, found, past ▸ heeds "q" query found⟩, other, found',
    clean ▸ heeds "r" other found', logs⟩

end Script.Program

end SqlBuilder
