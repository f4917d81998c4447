import SqlBuilder.Proofs.Script.Numbered

/-!
# Programs with and without bound values

A program that runs on two connections, one that binds values and one that writes them inline, makes
the same queries but for their values. If a statement builds in both runs, the second one is the
first one with literals in place of placeholders.
-/

namespace SqlBuilder

open Script

namespace Statement

variable (statement : Statement) (connection : Connection)

/-- A part of the text with the literal of its value in place of a name. -/
def inlinePart : Placeholder.Part → Except QueryError (List Char)
  | .char c => .ok [c]
  | .reference name =>
    match statement.value? name with
    | some value => do return (← connection.quote value).toList
    | none => .ok (':' :: name)

/-- Parts of the text in a row with literals in place of names. -/
def inlineParts : List Placeholder.Part → Except QueryError (List Char)
  | [] => return []
  | part :: rest => do
    let text ← statement.inlinePart connection part
    return text ++ (← inlineParts rest)

/-- The text with the literals of values in place of the names that stand outside quotes. -/
def inlined : Except QueryError String := do
  return String.ofList
    (← statement.inlineParts connection (Placeholder.scan none false statement.sql.toList))

variable {statement connection}

theorem inlineParts_append {parts more : List Placeholder.Part} {text others : List Char}
    (inline : statement.inlineParts connection parts = .ok text)
    (inline' : statement.inlineParts connection more = .ok others) :
    statement.inlineParts connection (parts ++ more) = .ok (text ++ others) := by
  induction parts generalizing text with
  | nil =>
      cases inline
      exact inline'
  | cons part rest ih =>
      unfold inlineParts at inline
      cases first : statement.inlinePart connection part with
      | error error =>
          rw [first] at inline
          cases inline
      | ok head =>
          cases second : statement.inlineParts connection rest with
          | error error =>
              rw [first, second] at inline
              cases inline
          | ok tail =>
              rw [first, second] at inline
              cases inline
              rw [List.cons_append, inlineParts, first, ih second, List.append_assoc]
              rfl

theorem inlineParts_chars (chars : List Char) :
    statement.inlineParts connection (chars.map .char) = .ok chars := by
  induction chars with
  | nil => rfl
  | cons c rest ih =>
      rw [List.map_cons, inlineParts, ih]
      rfl

/-- Inlining writes the literals of placeholders and copies everything else. -/
theorem ReadAs.inlined {lexemes : List Lexeme} (read : statement.ReadAs lexemes)
    {literal : Param → String}
    (quoted : ∀ param ∈ statement.params, connection.quote param.value = .ok (literal param)) :
    statement.inlined connection = .ok (String.ofList
      (lexemes.flatMap (Lexeme.written fun param => (literal param).toList))) := by
  have each (lexeme : Lexeme) (mem : lexeme ∈ lexemes) :
      statement.inlineParts connection lexeme.parts =
        .ok (lexeme.written fun param => (literal param).toList) := by
    cases lexeme with
    | placeholder param =>
        have known := read.bound param mem
        have value := read.value? known
        simp only [Lexeme.parts, inlineParts, inlinePart, value, quoted param known]
        exact congrArg Except.ok (List.append_nil _)
    | code c => exact inlineParts_chars _
    | quoted mark body => exact inlineParts_chars _
    | assign => exact inlineParts_chars _
  have parts : statement.inlineParts connection (lexemes.flatMap Lexeme.parts) =
      .ok (lexemes.flatMap (Lexeme.written fun param => (literal param).toList)) := by
    clear read
    induction lexemes with
    | nil => rfl
    | cons lexeme rest ih =>
        exact inlineParts_append (each lexeme List.mem_cons_self)
          (ih fun lexeme mem => each lexeme (List.mem_cons_of_mem _ mem))
  unfold Statement.inlined
  rw [read.scan, parts]
  rfl

end Statement

/-- A program on the connection of a configuration. -/
def Script.Program.on (program : Program) (config : Config) : Program :=
  { program with connection := .ofConfig config }

/-- The literal of a value, with a stand-in if there is none. -/
def Connection.literalText (connection : Connection) (value : Scalar) : String :=
  match connection.quote value with
  | .ok text => text
  | .error _ => "null"

theorem Connection.distinctive_literalText (connection : Connection) (value : Scalar) :
    Distinctive (connection.literalText value).toList := by
  unfold literalText
  split
  · rename_i quoted
    exact distinctive_quote quoted
  · exact .cons (c := 'n') (by decide) _

/-- Whether a value is bound does not matter for its literal. -/
theorem Connection.quote_ofConfig (config : Config) (prepared : Bool) :
    (Connection.ofConfig { config with prepared }).quote = (Connection.ofConfig config).quote := by
  funext value
  cases value <;> rfl

/-- A literal is written, or its stand-in with a fault. -/
theorem Ledger.literalOr_null (connection : Connection) (value : Scalar) (ledger : Ledger) :
    (ledger.literalOr connection "null" value).1 = connection.literalText value ∧
      (connection.quote value = .ok (connection.literalText value) ∧
          (ledger.literalOr connection "null" value).2 = ledger ∨
        ∃ fault, (ledger.literalOr connection "null" value).2 = ledger.record fault) := by
  unfold literalOr Connection.literalText
  cases connection.quote value with
  | ok text => exact ⟨rfl, .inl ⟨rfl, rfl⟩⟩
  | error error => cases error <;> exact ⟨rfl, .inr ⟨_, rfl⟩⟩

theorem Ledger.fault_record_ne_none (fault : Fault) (ledger : Ledger) :
    (ledger.record fault).fault ≠ none := by
  unfold record
  cases ledger.fault <;> simp

/-- What connects the ledger of a query that binds values to that of one that writes them inline: as
long as there is no fault, every value that was bound has a literal. -/
structure Ledger.Inlines (config : Config) (ledger ledger' : Ledger) : Prop where
  unbound : ledger'.params.entries = []
  quotable : ledger'.fault = none → ∀ param ∈ ledger.params.entries,
    (Connection.ofConfig config).quote param.value =
      .ok ((Connection.ofConfig config).literalText param.value)

namespace Ledger.Inlines

variable {config : Config} {ledger ledger' other other' : Ledger}

theorem record (inlines : Inlines config ledger ledger') (fault : Fault) :
    Inlines config (ledger.record fault) (ledger'.record fault) :=
  ⟨inlines.unbound, fun none => absurd none (ledger'.fault_record_ne_none fault)⟩

/-- A value is bound in one run, and written inline in the other one or recorded as a fault. -/
theorem bind (inlines : Inlines config ledger ledger') (value : Scalar) :
    (ledger'.bind (.ofConfig { config with prepared := false }) value).1 =
        (Connection.ofConfig config).literalText value ∧
      Inlines config (ledger.bind (.ofConfig { config with prepared := true }) value).2
        (ledger'.bind (.ofConfig { config with prepared := false }) value).2 := by
  have same := Connection.quote_ofConfig config false
  have written : ledger'.bind (.ofConfig { config with prepared := false }) value =
      ledger'.literalOr (.ofConfig config) "null" value := by
    change ledger'.literalOr (.ofConfig { config with prepared := false }) "null" value = _
    unfold literalOr
    rw [same]
  rw [written]
  obtain ⟨text, left⟩ := ledger'.literalOr_null (.ofConfig config) value
  refine ⟨text, ?_⟩
  rcases left with ⟨quoted, kept⟩ | ⟨fault, recorded⟩
  · rw [kept]
    refine ⟨inlines.unbound, fun none param mem => ?_⟩
    rcases List.mem_append.1 mem with mem | mem
    · exact inlines.quotable none param mem
    · obtain rfl := List.mem_singleton.1 mem
      exact quoted
  · rw [recorded]
    exact ⟨inlines.unbound, fun none => absurd none (ledger'.fault_record_ne_none fault)⟩

theorem adopt (inlines : Inlines config ledger ledger') (inlines' : Inlines config other other') :
    Inlines config (ledger.adopt other) (ledger'.adopt other') := by
  refine ⟨?_, fun none param mem => ?_⟩
  · change (ledger'.params.extend other'.params).entries = []
    refine List.eq_nil_iff_forall_not_mem.2 fun param mem => ?_
    rcases ParamList.mem_of_mem_extend mem with mem | mem
    · rw [inlines.unbound] at mem
      cases mem
    · rw [inlines'.unbound] at mem
      cases mem
  · obtain ⟨none, none'⟩ := Option.or_eq_none_iff.1 none
    rcases ParamList.mem_of_mem_extend mem with mem | mem
    · exact inlines.quotable none param mem
    · exact inlines'.quotable none' param mem

end Ledger.Inlines

/-- Values that are bound in one run and written inline in the other one. -/
def Coupling.inline (config : Config) : Coupling where
  strict := false
  literal param := (Connection.ofConfig config).literalText param.value
  distinctive param := (Connection.ofConfig config).distinctive_literalText param.value
  connections connection connection' :=
    connection = .ofConfig { config with prepared := true } ∧
      connection' = .ofConfig { config with prepared := false }
  ledgers := Ledger.Inlines config
  counters _ _ := True
  values _ := True
  identical := False
  prepared twins := by rw [twins.1]; rfl
  grammar twins := by rw [twins.1, twins.2]; rfl
  dialect twins := ⟨config.dialect, by rw [twins.1]; rfl⟩
  quote twins := by
    rw [twins.1, twins.2]
    exact (Connection.quote_ofConfig config false).trans
      (Connection.quote_ofConfig config true).symm
  made _ := ⟨rfl, by simp⟩
  taken _ := trivial
  bound value _ twins inlines := by
    rw [twins.1, twins.2]
    exact inlines.bind value
  adopted inlines inlines' := inlines.adopt inlines'
  recorded fault inlines := inlines.record fault
  forked inlines _ := ⟨inlines.unbound, inlines.quotable⟩
  alike impossible := impossible.elim
  counting := .inr fun _ _ => trivial

/-- Of two twin texts, the second one is the first one with literals. -/
theorem Coupling.inlined_of_text {config : Config} {params : List Param} {sql sql' : String}
    (text : (Coupling.inline config).Text params sql sql') (distinct : (params.map (·.name)).Nodup)
    (quoted : ∀ param ∈ params, (Connection.ofConfig config).quote param.value =
      .ok ((Connection.ofConfig config).literalText param.value)) (kind : StatementKind) :
    Statement.inlined { sql, params, kind } (.ofConfig config) = .ok sql' := by
  obtain ⟨lexemes, read, -, written⟩ := text.readAs distinct kind
  rw [read.inlined quoted]
  refine congrArg Except.ok ?_
  rw [← String.toList_inj, String.toList_ofList]
  exact written.symm

/-- The statements of twin queries, if both build. -/
theorem Coupling.Nested.inlined {config : Config} {registry : Registry} {query query' : Query}
    (nested : (Coupling.inline config).Nested registry false query query') {statement : Statement}
    (built : query.build = .ok statement) {statement' : Statement}
    (built' : query'.build = .ok statement') :
    statement'.kind = .raw ∧ statement'.params = [] ∧
      statement.inlined (.ofConfig config) = .ok statement'.sql := by
  obtain ⟨-, rfl⟩ := Query.build_eq_ok.1 built
  obtain ⟨none, rfl⟩ := Query.build_eq_ok.1 built'
  have raw : query'.connection.config.prepared = false := by
    rw [nested.twin.connection.2]
    rfl
  refine ⟨?_, nested.ledgers.unbound, ?_⟩
  · simp [Query.statement, Query.kind, Query.isPrepared, raw]
  · exact Coupling.inlined_of_text nested.sql nested.follows.distinct
      (nested.ledgers.quotable none) query.kind

/--
The modes agree. A program without user-defined expressions and placed fragments runs on two
connections that differ in whether values are bound. Its verbatim SQL has no quotes and colons, and
what it adds to select lists binds nothing. Then both runs find and leave the same queries, and if
both build, the one that binds nothing has the text of the other one, with literals in place of the
names that stand outside quotes.
-/
theorem Script.Program.inlined_of_unprepared (config : Config) {program : Program}
    (within : (program.on { config with prepared := true }).Within isCode fun _ => False)
    (silent : ∀ call ∈ (program.on { config with prepared := true }).calls,
      ∀ leaf ∈ call.itemLeaves (.ofConfig { config with prepared := true }), bindsNothing leaf) :
    List.Forall₂ (fun query query' => ∀ statement statement', query.build = .ok statement →
        query'.build = .ok statement' →
        statement'.kind = .raw ∧ statement'.params = [] ∧
          statement.inlined (.ofConfig config) = .ok statement'.sql)
      (program.on { config with prepared := true }).queries
      (program.on { config with prepared := false }).queries := by
  have home : (Coupling.inline config).connections
      (program.on { config with prepared := true }).connection
      (.ofConfig { config with prepared := false }) := ⟨rfl, rfl⟩
  have bounds : (program.on { config with prepared := true }).Within (Coupling.inline config).isCode
      fun connection => (Coupling.inline config).connections connection connection :=
    within.imp (fun c code => by simp [Writing.isCode, code, Coupling.inline]) fun _ impossible =>
      impossible.elim
  obtain ⟨registry, twins⟩ := Coupling.runProgram_twin home trivial bounds
    (fun _ _ _ _ => trivial) (.inr silent)
  refine twins.imp fun query query' nested => ?_
  intro statement statement' built built'
  exact nested.inlined built built'

theorem Script.Program.inlined_of_unprepared_quoted :
    let program : Program :=
      { connection := .ofConfig {}
        commands :=
          [.on "q" (.select false [.column "id"]), .on "q" (.source "a" none),
            .on "q" (.condition .filter .and
              (.pair (.column "b:p1_0") (.scalar (.text "O'Brien :p1_0"))))] }
    let config : Config := { dialect := .mysql }
    (program.on { config with prepared := true }).Within isCode (fun _ => False) ∧
      (∀ call ∈ (program.on { config with prepared := true }).calls,
        ∀ leaf ∈ call.itemLeaves (.ofConfig { config with prepared := true }), bindsNothing leaf) ∧
      ∃ query ∈ (program.on { config with prepared := true }).queries,
        ∃ query' ∈ (program.on { config with prepared := false }).queries,
          ∃ statement statement', query.build = .ok statement ∧ query'.build = .ok statement' ∧
            statement.sql = "select `id` from `a` where `b:p1_0` = :p1_0" ∧
            statement'.sql = "select `id` from `a` where `b:p1_0` = 'O''Brien :p1_0'" ∧
            statement'.kind = .raw ∧ statement'.params = [] ∧
            statement.inlined (.ofConfig config) = .ok statement'.sql := by
  intro program config
  have steps : (program.on { config with prepared := true }).calls.map (·.step) =
      [.select false [.column "id"], .source "a" none,
        .condition .filter .and (.pair (.column "b:p1_0") (.scalar (.text "O'Brien :p1_0")))] := rfl
  have within : (program.on { config with prepared := true }).Within isCode fun _ => False := by
    refine ⟨by simp [program, Program.on, Command.connection?], ?_⟩
    rw [← List.forall_mem_map (P := fun step : Step => step.Within _ _), steps]
    refine List.forall_mem_cons.2 ⟨⟨rfl, List.forall_mem_nil _⟩, List.forall_mem_cons.2
      ⟨⟨rfl, List.forall_mem_nil _⟩, List.forall_mem_singleton.2 ⟨rfl, ?_⟩⟩⟩
    exact List.forall_mem_singleton.2 trivial
  have items : (program.on { config with prepared := true }).calls.map
      (fun call => call.itemLeaves (.ofConfig { config with prepared := true })) =
        List.replicate 3 [] := rfl
  have silent : ∀ call ∈ (program.on { config with prepared := true }).calls,
      ∀ leaf ∈ call.itemLeaves (.ofConfig { config with prepared := true }), bindsNothing leaf := by
    intro call mem leaf leaf_mem
    have empty : call.itemLeaves (.ofConfig { config with prepared := true }) = [] :=
      List.eq_of_mem_replicate (items ▸ List.mem_map_of_mem mem)
    rw [empty] at leaf_mem
    cases leaf_mem
  refine ⟨within, silent, ?_⟩
  have built : Query.build ((program.on { config with prepared := true }).queries.get
      ⟨5, by decide +kernel⟩) = .ok _ :=
    Query.build_eq_ok.2 ⟨by decide +kernel, rfl⟩
  have built' : Query.build ((program.on { config with prepared := false }).queries.get
      ⟨5, by decide +kernel⟩) = .ok _ :=
    Query.build_eq_ok.2 ⟨by decide +kernel, rfl⟩
  have agree := (List.forall₂_iff_get.1 (Program.inlined_of_unprepared config within silent)).2
    5 (by decide +kernel) (by decide +kernel) _ _ built built'
  exact ⟨_, List.get_mem _ _, _, List.get_mem _ _, _, _, built, built', by decide +kernel,
    by decide +kernel, agree⟩

end SqlBuilder
