import SqlBuilder.Proofs.History.Coverage
import SqlBuilder.Proofs.History.Script
import SqlBuilder.Proofs.Twin.Program
import SqlBuilder.Proofs.Twin.Same

/-!
# Placeholders of PostgreSQL programs

On PostgreSQL connections that bind values, no placeholder dangles and none is hijacked. A run is
twin to itself, so the text of every query is a sequence of lexemes, and numbering a statement finds
what was written for bound values and nothing else.

Which scalar a name was created for is said by the histories of the queries: they list the scalars
that are bound, without regard to names. A query with a namespace names the scalar that is bound
after `n` others by the namespace and `n`, and whatever has this name in a statement of the program
is this scalar.
-/

namespace SqlBuilder

open Script

/-- Whether a connection binds values for PostgreSQL. -/
def Connection.PreparedPostgres (connection : Connection) : Prop :=
  connection.grammar = .postgres ∧ connection.config.prepared = true

theorem Connection.PreparedPostgres.binds (connection : Connection)
    (prepared : connection.PreparedPostgres) : connection.Binds :=
  ⟨prepared.2, .postgres, prepared.1⟩

/-- Whether a program creates a parameter: its scalar is bound on some query, and its name is made
of the namespace of the query and the number of scalars bound before. -/
def Script.Program.Creates (program : Program) (param : Param) : Prop :=
  ∃ chapter ∈ program.annals.chapters, ∃ index,
    (Event.values chapter.after)[index]? = some param.value ∧
      param.name = paramName chapter.call.result.namespaceId index

/-- Whether the next value that is bound on a query gets the placeholder that it is named by: that
of the namespace and the number of values bound before. -/
def Query.NamesNext (query : Query) (history : List Event) : Prop :=
  ∀ value,
    let param : Param :=
      { name := paramName query.namespaceId (Event.values history).length, value }
    (query.ledger.bind query.connection value).1 = param.placeholder ∧
      param ∈ (query.ledger.bind query.connection value).2.params.entries

/-- What is known of a statement whose parameters were created: its text, its form with numbers, and
the names that stand outside quotes. -/
structure Statement.Resolved (creates : Param → Prop) (lexemes : List Lexeme) (order : List Param)
    (statement : Statement) : Prop where
  read : statement.ReadAs lexemes
  numbered : statement.Numbered lexemes order
  undollared : ∀ c, .code c ∈ lexemes → c ≠ '$'
  created : ∀ param ∈ statement.params, creates param
  references : ∀ name, .reference name ∈ Placeholder.scan none false statement.sql.toList →
    ∃ param ∈ statement.params, param.name.toList = name ∧ creates param

/-- A query builds if no fault is recorded. -/
theorem Query.build_eq_ok {query : Query} {statement : Statement} :
    query.build = .ok statement ↔ query.ledger.fault = none ∧ statement = query.statement := by
  unfold build validate
  cases query.ledger.fault with
  | some fault =>
      constructor
      · rintro ⟨⟩
      · rintro ⟨⟨⟩, -⟩
  | none =>
      constructor
      · intro built
        exact ⟨rfl, (Except.ok.inj built).symm⟩
      · rintro ⟨-, rfl⟩
        rfl

/-- The statement of a query that is twin to itself, if its parameters were created. -/
theorem Coupling.Nested.resolved {creates : Param → Prop} {allowed : Connection → Prop}
    {binds : ∀ connection, allowed connection → connection.Binds} {registry : Registry}
    {query : Query} (nested : (Coupling.same true allowed binds).Nested registry false query query)
    (all : ∀ param ∈ query.params, creates param) :
    ∃ lexemes order, query.statement.Resolved creates lexemes order := by
  obtain ⟨lexemes, read, codes, -⟩ := nested.readAs
  obtain ⟨order, numbered⟩ := read.numbered
  refine ⟨lexemes, order, read, numbered, fun c mem => ?_, all, fun name mem => ?_⟩
  · rintro rfl
    have code : (isCode '$' && (!true || '$' != '$')) = true := codes _ mem
    exact absurd code (by decide)
  · obtain ⟨param, known, named⟩ := nested.sql.exists_param nested.follows.distinct mem
    exact ⟨param, known, named, all param known⟩

/-- A history tells what the next value is named. -/
theorem Ledger.Settles.namesNext {known : Param → Prop} {query : Query} {history : List Event}
    (settles : query.ledger.Settles known history)
    (prepared : query.connection.config.prepared = true) : query.NamesNext history := by
  intro value
  dsimp only
  rw [← settles.nextIndex, Ledger.bind_of_prepared prepared]
  exact ⟨rfl, List.mem_append_right _ (List.mem_singleton_self _)⟩

/-- What a builder call is given within bounds is not user-defined. -/
theorem Script.Step.Within.isPlain {character : Char → Bool} {connections : Connection → Prop}
    {step : Step} (within : step.Within character connections) : step.IsPlain := by
  intro leaf mem
  have bounds := within.leaves leaf mem
  cases leaf with
  | custom _ => exact bounds.elim
  | verbatim _ | bound _ | literal _ | nested _ => rfl

namespace Script.Program

variable {program : Program} {registry : Registry} {param : Param}

/-- What a program creates is on record, if its queries are. -/
theorem Creates.recorded (creates : program.Creates param)
    (plain : ∀ call ∈ program.calls, call.step.IsPlain)
    (follows : ∀ call ∈ program.calls, call.result.ledger.params.Follows registry) :
    param.Recorded registry := by
  obtain ⟨chapter, mem, index, bound, named⟩ := creates
  have shows := ((program.annals_fit plain).told chapter mem).after
  have call_mem : chapter.call ∈ program.calls :=
    program.calls_annals.mem_iff.1 (List.mem_map_of_mem mem)
  have recorded := (follows _ call_mem).recorded _ (shows.named index param.value bound)
  rwa [← Query.namespaceId, ← named] at recorded

/-- What a builder call leaves under a name that its query has counted was created. -/
theorem Names.creates (names : program.Names param)
    (plain : ∀ call ∈ program.calls, call.step.IsPlain)
    (follows : ∀ call ∈ program.calls, call.result.ledger.params.Follows registry) :
    program.Creates param := by
  obtain ⟨call, call_mem, mem, index, less, named⟩ := names
  obtain ⟨chapter, chapter_mem, rfl⟩ :=
    List.mem_map.1 (program.calls_annals.mem_iff.2 call_mem)
  have shows := ((program.annals_fit plain).told chapter chapter_mem).after
  rw [shows.nextIndex] at less
  have bound := List.getElem?_eq_getElem less
  -- The name stands for one value, and the history says for which.
  have recorded := (follows _ call_mem).recorded _ (shows.named index _ bound)
  have own := (follows _ call_mem).recorded param mem
  refine ⟨chapter, chapter_mem, index, ?_, named⟩
  rw [bound, own.eq_of_name recorded named]

/--
The placeholders of a program on PostgreSQL connections that bind values. Its verbatim SQL has no
quotes, colons and dollar signs, but names and values are any. A value that is bound gets the
placeholder of a name that no other value is created under. Whenever a query builds, all of its
parameters were created, and outside quotes there are placeholders of these only. Numbering replaces
exactly these, and quoted text is kept.
-/
theorem placeholders_resolved (prepared : program.connection.PreparedPostgres)
    (within : program.Within (fun c => isCode c && c != '$') Connection.PreparedPostgres) :
    (∀ chapter ∈ program.annals.chapters, chapter.call.query.NamesNext chapter.before ∧
      chapter.call.result.NamesNext chapter.after) ∧
    (∀ param other, program.Creates param → program.Creates other → param.name = other.name →
      param = other) ∧
    ∀ query ∈ program.queries, ∀ statement, query.build = .ok statement →
      ∃ lexemes order, statement.Resolved program.Creates lexemes order := by
  let coupling := Coupling.same true Connection.PreparedPostgres Connection.PreparedPostgres.binds
  have bounds : program.Within coupling.isCode fun connection =>
      coupling.connections connection connection :=
    within.imp (fun _ code => code) fun _ allowed => ⟨rfl, allowed⟩
  have home : coupling.connections program.connection program.connection := ⟨rfl, prepared⟩
  obtain ⟨registry, twins⟩ :=
    Coupling.runProgram_twin home rfl bounds (fun _ _ _ _ => trivial) (.inl trivial)
  have nested := List.forall₂_same.1 twins
  have plain : ∀ call ∈ program.calls, call.step.IsPlain := fun call mem =>
    (within.calls call mem).isPlain
  have told := (program.annals_fit plain).told
  have query_mem {call : Call} (mem : call ∈ program.calls) : call.query ∈ program.queries :=
    List.mem_flatMap.2 ⟨call, mem, List.mem_cons_self⟩
  have result_mem {call : Call} (mem : call ∈ program.calls) : call.result ∈ program.queries :=
    List.mem_flatMap.2 ⟨call, mem, List.mem_cons_of_mem _ (List.mem_singleton_self _)⟩
  have follows : ∀ call ∈ program.calls, call.result.ledger.params.Follows registry :=
    fun call mem => (nested _ (result_mem mem)).follows
  refine ⟨fun chapter mem => ?_, fun param other creates creates' same => ?_,
    fun query mem statement built => ?_⟩
  · have call_mem : chapter.call ∈ program.calls :=
      program.calls_annals.mem_iff.1 (List.mem_map_of_mem mem)
    have before := (nested _ (query_mem call_mem)).twin.connection.2
    have after := (nested _ (result_mem call_mem)).twin.connection.2
    exact ⟨(told chapter mem).before.namesNext before.2, (told chapter mem).after.namesNext after.2⟩
  · exact (creates.recorded plain follows).eq_of_name (creates'.recorded plain follows) same
  · obtain ⟨-, rfl⟩ := Query.build_eq_ok.1 built
    refine (nested query mem).resolved fun param param_mem => ?_
    obtain ⟨call, call_mem, found⟩ := List.mem_flatMap.1 mem
    obtain ⟨chapter, chapter_mem, rfl⟩ :=
      List.mem_map.1 (program.calls_annals.mem_iff.2 call_mem)
    have names : program.Names param := by
      rcases List.mem_pair.1 found with rfl | rfl
      · exact (told chapter chapter_mem).before.known param param_mem
      · exact (told chapter chapter_mem).after.known param param_mem
    exact names.creates plain follows

/-- A table and a text look like placeholders. Two scalars are bound, and each name stands for the
one that it was created for. -/
theorem placeholders_resolved_lookalike :
    let program : Program :=
      { connection := .ofConfig {}
        commands :=
          [.on "q" (.selectRaw "count(*)"), .on "q" (.source "a:p1_0" none),
            .on "q" (.condition .filter .and (.pair (.column "b") (.scalar (.text "$1 :p1_0")))),
            .on "q" (.condition .filter .and (.pair (.column "c") (.scalar (.int 7))))] }
    program.connection.PreparedPostgres ∧
      program.Within (fun c => isCode c && c != '$') Connection.PreparedPostgres ∧
      ∃ query ∈ program.queries, ∃ statement, query.build = .ok statement ∧
        statement.sql = "select count(*) from \"a:p1_0\" where \"b\" = :p1_0 and \"c\" = :p1_1" ∧
        statement.params.map (fun param => (param.name, param.value.debug)) =
          [("p1_0", "Text(\"$1 :p1_0\")"), ("p1_1", "Int(7)")] ∧
        ∃ lexemes order, statement.Resolved program.Creates lexemes order := by
  intro program
  have prepared : program.connection.PreparedPostgres := ⟨rfl, rfl⟩
  have steps : program.calls.map (·.step) =
      [.selectRaw "count(*)", .source "a:p1_0" none,
        .condition .filter .and (.pair (.column "b") (.scalar (.text "$1 :p1_0"))),
        .condition .filter .and (.pair (.column "c") (.scalar (.int 7)))] := rfl
  have within : program.Within (fun c => isCode c && c != '$') Connection.PreparedPostgres := by
    refine ⟨by simp [program, Command.connection?], ?_⟩
    rw [← List.forall_mem_map (P := fun step : Step => step.Within _ _), steps]
    refine List.forall_mem_cons.2 ⟨⟨rfl, ?_⟩, List.forall_mem_cons.2
      ⟨⟨rfl, List.forall_mem_nil _⟩, List.forall_mem_cons.2 ⟨⟨rfl, ?_⟩,
        List.forall_mem_singleton.2 ⟨rfl, ?_⟩⟩⟩⟩
    · exact List.forall_mem_singleton.2 (List.all_eq_true.1 (by decide))
    · exact List.forall_mem_singleton.2 trivial
    · exact List.forall_mem_singleton.2 trivial
  obtain ⟨-, -, resolved⟩ := placeholders_resolved prepared within
  have built : Query.build (program.queries.get ⟨7, by decide +kernel⟩) = .ok _ :=
    Query.build_eq_ok.2 ⟨by decide +kernel, rfl⟩
  obtain ⟨lexemes, order, held⟩ := resolved _ (List.get_mem _ _) _ built
  exact ⟨prepared, within, _, List.get_mem _ _, _, built, by decide +kernel, by decide +kernel,
    lexemes, order, held⟩

end Script.Program

end SqlBuilder
