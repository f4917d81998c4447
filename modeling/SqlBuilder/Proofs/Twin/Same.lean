import SqlBuilder.Proofs.Statement.Positional
import SqlBuilder.Proofs.Twin.Operand

/-!
# A run that is its own twin

What twinship says about a single run, on connections that bind values. The text of a query that is
twin to itself is a sequence of lexemes, and the names that stand outside quotes are those of
parameters that the query has.
-/

namespace SqlBuilder

/-- Whether a connection of one of the dialects binds values. -/
structure Connection.Binds (connection : Connection) : Prop where
  prepared : connection.config.prepared = true
  dialect : ∃ dialect : Dialect, connection.grammar = dialect.grammar

/-- One run in place of two, on connections that bind values. -/
def Coupling.same (strict : Bool) (allowed : Connection → Prop)
    (binds : ∀ connection, allowed connection → connection.Binds) : Coupling where
  strict := strict
  literal := Param.placeholder
  distinctive param := ⟨':', param.name.toList, by simp [Param.placeholder], by decide⟩
  connections connection connection' := connection' = connection ∧ allowed connection
  ledgers ledger ledger' := ledger' = ledger
  counters number number' := number' = number
  values _ := True
  identical := True
  prepared twins := (binds _ twins.2).prepared
  grammar twins := by rw [twins.1]
  dialect twins := (binds _ twins.2).dialect
  quote twins := by rw [twins.1]
  made same := by rw [same]
  taken same := by rw [same]
  bound value _ twins same := by
    obtain ⟨rfl, allowed⟩ := twins
    subst same
    refine ⟨?_, rfl⟩
    rw [Ledger.bind_of_prepared (binds _ allowed).prepared]
    rfl
  adopted same same' := by rw [same, same']
  recorded fault same := by rw [same]
  forked same same' := by rw [same, same']
  alike _ := ⟨fun _ _ twins => twins.1, fun _ _ same => same, fun _ _ same => same, fun _ => rfl⟩
  counting := .inl trivial

/-- A text is read as lexemes, and its twin is what they are written as. -/
theorem Writing.Text.readAs {writing : Writing} {sql sql' : String} {params : List Param}
    (text : writing.Text params sql sql') (distinct : (params.map (·.name)).Nodup)
    (kind : StatementKind) :
    ∃ lexemes : List Lexeme, Statement.ReadAs { sql, params, kind } lexemes ∧
      (∀ c, .code c ∈ lexemes → writing.isCode c = true) ∧ sql'.toList =
        lexemes.flatMap (Lexeme.written fun param => (writing.literal param).toList) := by
  obtain ⟨lexemes, legible, chained, written, written'⟩ := text
  have read : Statement.ReadAs { sql, params, kind } lexemes :=
    { text := written
      legible := fun lexeme mem => (legible lexeme mem).legible
      chained := chained
      bound := fun param mem => (legible _ mem).1
      distinct := distinct }
  exact ⟨lexemes, read, fun c mem => legible _ mem, written'⟩

/-- The names that stand outside quotes are those of known parameters. -/
theorem Writing.Text.exists_param {writing : Writing} {sql sql' : String} {params : List Param}
    (text : writing.Text params sql sql') (distinct : (params.map (·.name)).Nodup)
    {name : List Char} (mem : .reference name ∈ Placeholder.scan none false sql.toList) :
    ∃ param ∈ params, param.name.toList = name := by
  obtain ⟨lexemes, read, -, -⟩ := text.readAs distinct .prepared
  obtain ⟨param, lexeme_mem, named⟩ := read.mem_scan.1 mem
  exact ⟨param, read.bound param lexeme_mem, named⟩

/-- The text of a query is read as lexemes, and the text of its twin is what they are written as. -/
theorem Coupling.Nested.readAs {coupling : Coupling} {registry : Registry} {query query' : Query}
    (nested : coupling.Nested registry false query query') :
    ∃ lexemes : List Lexeme, query.statement.ReadAs lexemes ∧
      (∀ c, .code c ∈ lexemes → coupling.isCode c = true) ∧ query'.sql.toList =
        lexemes.flatMap (Lexeme.written fun param => (coupling.literal param).toList) :=
  nested.sql.readAs nested.follows.distinct query.kind

end SqlBuilder
