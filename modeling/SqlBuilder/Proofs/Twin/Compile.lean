import SqlBuilder.Proofs.Param.Workspace
import SqlBuilder.Proofs.Twin.Query

/-!
# Compiling in both runs

What it means that two compilations run alike: their ledgers stay coupled, the first one stays on
record, and their results are related. The rules are those of a relational program logic; a `World`
is what has been recorded and named so far, and related results stay related as it grows.

Compilations that are quiet leave the parameters alone, and their texts hold no placeholder.
-/

namespace SqlBuilder

/-- What has been recorded, and what the query at hand knows. -/
structure World where
  registry : Registry
  known : List Param

/-- Whether a later world has all that an earlier one has. -/
structure World.Grows (world later : World) : Prop where
  registry : world.registry.Extends later.registry
  known : world.known ⊆ later.known

/-- The parameters that texts may refer to. -/
def World.visible (quiet : Bool) (world : World) : List Param := if quiet then [] else world.known

namespace World.Grows

variable {world later latest : World}

theorem refl (world : World) : world.Grows world := ⟨.refl _, List.Subset.refl _⟩

theorem trans (first : world.Grows later) (second : later.Grows latest) : world.Grows latest :=
  ⟨first.registry.trans second.registry, List.Subset.trans first.known second.known⟩

theorem visible (grown : world.Grows later) (quiet : Bool) :
    world.visible quiet ⊆ later.visible quiet := by
  cases quiet with
  | true => exact List.Subset.refl _
  | false => exact grown.known

end World.Grows

/-! ### Texts that are written alike -/

namespace Writing

variable {writing : Writing} {known : List Param}

theorem Text.quoted (mark : Char) (quote : Placeholder.isQuote mark = true) (body : List Char)
    {text : String} (written : text.toList = (Lexeme.quoted mark body).text) :
    writing.Text known text text := by
  unfold Text
  rw [written]
  exact .single (.quoted mark body) quote

/-- A literal is quoted text: its backslashes may be doubled, and its quotes are. -/
theorem Text.stringLiteral (grammar : Grammar) (text : String) :
    writing.Text known ("'" ++ grammar.escapeString text ++ "'")
      ("'" ++ grammar.escapeString text ++ "'") := by
  let double (c : Char) : List Char :=
    if grammar.escapesBackslash ∧ c = '\\' then ['\\', '\\'] else [c]
  have escaped (c : Char) :
      grammar.escapeLiteralChar c = Identifier.double '\'' (double c) := by
    by_cases quote : c = '\''
    · subst quote
      simp [Grammar.escapeLiteralChar, Identifier.double, double]
    · by_cases backslash : grammar.escapesBackslash ∧ c = '\\'
      · simp [Grammar.escapeLiteralChar, Identifier.double, double, backslash]
      · simp [Grammar.escapeLiteralChar, Identifier.double, double, backslash, quote]
  refine .quoted '\'' (by decide) (text.toList.flatMap double) ?_
  have body : (grammar.escapeString text).toList =
      Identifier.double '\'' (text.toList.flatMap double) := by
    simp only [Grammar.escapeString, String.toList_ofList, Identifier.double, List.flatMap_assoc]
    exact List.flatMap_congr fun c _ => escaped c
  simp [Lexeme.text, body]

theorem Text.placeholder {name : String} {value : Scalar} (mem : ⟨name, value⟩ ∈ known)
    (named : (Lexeme.placeholder ⟨name, value⟩).Legible) :
    writing.Text known (":" ++ name) (writing.literal ⟨name, value⟩) := by
  simpa [Text] using Chars.placeholder mem named

theorem isPlainCode_of_isDigit {c : Char} (digit : c.isDigit = true) : isPlainCode c = true := by
  have other : c ≠ '$' := by
    rintro rfl
    exact absurd digit (by decide)
  simp [isPlainCode, isCode_of_isDigit digit, other]

theorem verbatim_repr (number : Nat) : writing.Verbatim (Nat.repr number) := by
  refine verbatim_of_all (List.all_eq_true.2 fun c mem => isPlainCode_of_isDigit ?_)
  rw [Nat.toList_repr] at mem
  exact Nat.isDigit_of_mem_toDigits (by decide) (by decide) mem

theorem verbatim_int (number : Int) : writing.Verbatim (toString number) := by
  cases number with
  | ofNat number => exact verbatim_repr number
  | negSucc number =>
      have minus : writing.Verbatim "-" := verbatim_of_all (by decide)
      exact minus.append (verbatim_repr (number + 1))

theorem verbatim_booleanLiteral (grammar : Grammar) (value : Bool) :
    writing.Verbatim (grammar.booleanLiteral value) := by
  unfold Grammar.booleanLiteral
  cases grammar.hasBooleans <;> cases value <;> exact verbatim_of_all (by decide)

end Writing

/-- The only literal of a text is that text between quotes. -/
theorem Connection.quote_text {connection : Connection} {text literal : String}
    (quoted : connection.quote (.text text) = .ok literal) :
    literal = "'" ++ connection.grammar.escapeString text ++ "'" := by
  unfold Connection.quote at quoted
  split at quoted
  · simp at quoted
  · simp only [Connection.literal, Connection.quoteText] at quoted
    split at quoted
    · simp at quoted
    · exact (Except.ok.inj quoted).symm

/-- Names that are handed out are names to the scanner. -/
theorem nextName_legible (params : ParamList) (value : Scalar) :
    (Lexeme.placeholder ⟨params.nextName, value⟩).Legible := by
  have digits (number : Nat) : ∀ c ∈ Nat.toDigits 10 number, Placeholder.isNameChar c = true := by
    intro c mem
    have digit := Nat.isDigit_of_mem_toDigits (by decide) (by decide) mem
    simp [Placeholder.isNameChar, Char.isAlphanum, digit]
  have marks : Placeholder.isNameChar 'p' = true ∧ Placeholder.isNameChar '_' = true := by decide
  refine ⟨?_, ?_⟩
  · simp [ParamList.nextName, toList_paramName]
  · simp only [ParamList.nextName, toList_paramName, List.all_eq_true, List.mem_cons,
      List.mem_append]
    rintro c (rfl | mem | rfl | mem)
    · exact marks.1
    · exact digits _ c mem
    · exact marks.2
    · exact digits _ c mem

namespace Coupling

variable {α β γ δ : Type}

/-- Whether two compilations run alike from every world that has grown from a given one. -/
def Compiles (coupling : Coupling) (quiet : Bool) (world : World) (action : Compile α)
    (action' : Compile β) (post : World → α → β → Prop) : Prop :=
  ∀ (registry : Registry) (ledger ledger' : Ledger) (workspace workspace' : Workspace),
    world.Grows ⟨registry, ledger.params.entries⟩ → ledger.params.Follows registry →
    ledger.params.Owns registry → coupling.ledgers ledger ledger' →
    let out := (action.run ledger).run workspace
    let out' := (action'.run ledger').run workspace'
    out.2 = workspace ∧ out'.2 = workspace' ∧ coupling.ledgers out.1.2 out'.1.2 ∧
      (quiet = true → out.1.2.params.entries = ledger.params.entries) ∧
      ∃ later, Ledger.Records registry later ledger out.1.2 ∧
        post ⟨later, out.1.2.params.entries⟩ out.1.1 out'.1.1

namespace Compiles

variable {coupling : Coupling} {quiet : Bool} {world : World}

theorem pure {value : α} {value' : β} {post : World → α → β → Prop}
    (holds : ∀ later, world.Grows later → post later value value') :
    coupling.Compiles quiet world (pure value) (pure value') post :=
  fun _ _ _ _ _ grown follows owns coupled =>
    ⟨rfl, rfl, coupled, fun _ => rfl, _, .of_params_eq follows owns rfl, holds _ grown⟩

theorem bind {action : Compile α} {action' : Compile β} {next : α → Compile γ}
    {next' : β → Compile δ} {mid : World → α → β → Prop} {post : World → γ → δ → Prop}
    (first : coupling.Compiles quiet world action action' mid)
    (second : ∀ later value value', world.Grows later → mid later value value' →
      coupling.Compiles quiet later (next value) (next' value') post) :
    coupling.Compiles quiet world (action >>= next) (action' >>= next') post := by
  intro registry ledger ledger' workspace workspace' grown follows owns coupled
  obtain ⟨same, same', coupled, still, later, records, held⟩ :=
    first registry ledger ledger' workspace workspace' grown follows owns coupled
  have between : World.Grows ⟨registry, ledger.params.entries⟩
      ⟨later, ((action.run ledger).run workspace).1.2.params.entries⟩ :=
    ⟨records.extended, records.kept⟩
  obtain ⟨same₂, same₂', coupled, still₂, latest, records₂, held⟩ :=
    second _ _ _ (grown.trans between) held _ _ _ ((action.run ledger).run workspace).2
      ((action'.run ledger').run workspace').2 (.refl _) records.follows records.owns coupled
  exact ⟨same₂.trans same, same₂'.trans same', coupled,
    fun isQuiet => (still₂ isQuiet).trans (still isQuiet), latest, records.trans records₂, held⟩

/-- A step that leaves the parameters alone. -/
theorem of_params_eq {change : Ledger → α × Ledger} {change' : Ledger → β × Ledger}
    {post : World → α → β → Prop}
    (still : ∀ ledger, (change ledger).2.params = ledger.params)
    (coupled : ∀ ledger ledger', coupling.ledgers ledger ledger' →
      coupling.ledgers (change ledger).2 (change' ledger').2)
    (holds : ∀ later ledger ledger', world.Grows later →
      post later (change ledger).1 (change' ledger').1) :
    coupling.Compiles quiet world (modifyGet change) (modifyGet change') post := by
  intro registry ledger ledger' workspace workspace' grown follows owns ledgers
  refine ⟨rfl, rfl, coupled ledger ledger' ledgers, fun _ => congrArg (·.entries) (still ledger),
    registry, .of_params_eq follows owns (still ledger), holds _ ledger ledger' ?_⟩
  have same : (change ledger).2.params.entries = ledger.params.entries :=
    congrArg (·.entries) (still ledger)
  change world.Grows ⟨registry, (change ledger).2.params.entries⟩
  rw [same]
  exact grown

/-- A literal is the same in both runs, as is the refusal to write it. -/
theorem quoteText {connection connection' : Connection}
    (twins : coupling.connections connection connection') (text : String) :
    coupling.Compiles quiet world (modifyGet (Ledger.quoteText connection text))
      (modifyGet (Ledger.quoteText connection' text))
      fun later text text' => coupling.Text (later.visible quiet) text text' := by
  refine of_params_eq (fun ledger => ?_) (fun ledger ledger' coupled => ?_)
    fun later ledger ledger' _ => ?_
  · unfold Ledger.quoteText Ledger.literalOr
    split <;> rfl
  · unfold Ledger.quoteText Ledger.literalOr
    rw [coupling.quote twins]
    split
    · exact coupled
    · exact coupling.recorded _ coupled
    · exact coupling.recorded _ coupled
  · unfold Ledger.quoteText Ledger.literalOr
    rw [coupling.quote twins]
    have standIn : coupling.Text (later.visible quiet) "''" "''" :=
      .quoted '\'' (by decide) [] (by decide)
    split
    · rename_i literal quoted
      rw [Connection.quote_text quoted]
      exact .stringLiteral connection.grammar text
    · exact standIn
    · exact standIn

/-- A bound value is a placeholder in the first run. -/
theorem bindScalar {connection connection' : Connection}
    (twins : coupling.connections connection connection') {value : Scalar}
    (allowed : coupling.values value) :
    coupling.Compiles false world (modifyGet (Ledger.bind connection value))
      (modifyGet (Ledger.bind connection' value))
      fun later text text' => coupling.Text later.known text text' := by
  intro registry ledger ledger' workspace workspace' grown follows owns ledgers
  obtain ⟨written, coupled⟩ := coupling.bound value allowed twins ledgers
  have bound := Ledger.bind_of_prepared (coupling.prepared twins) value ledger
  refine ⟨rfl, rfl, coupled, by simp, registry.push ledger.params.namespaceId value, ?_, ?_⟩
  · change Ledger.Records registry _ ledger (ledger.bind connection value).2
    rw [bound]
    exact .push follows owns value
  · change coupling.Text (ledger.bind connection value).2.params.entries
      (ledger.bind connection value).1 (ledger'.bind connection' value).1
    have known : ⟨ledger.params.nextName, value⟩ ∈ (ledger.params.push value).2.entries := by
      simp [ParamList.entries_push]
    rw [bound, written]
    dsimp only
    exact Writing.Text.placeholder known (nextName_legible ledger.params value)

theorem require {connection connection' : Connection}
    (twins : coupling.connections connection connection') (feature : Feature) :
    coupling.Compiles quiet world (modifyGet (Ledger.require connection feature))
      (modifyGet (Ledger.require connection' feature))
      fun _ supported supported' => supported' = supported := by
  refine of_params_eq (fun ledger => ?_) (fun ledger ledger' coupled => ?_)
    fun later ledger ledger' _ => ?_
  · unfold Ledger.require
    split <;> rfl
  · unfold Ledger.require
    rw [coupling.grammar twins]
    split
    · exact coupled
    · exact coupling.recorded _ coupled
  · unfold Ledger.require
    rw [coupling.grammar twins]
    split <;> rfl

end Compiles

end Coupling

end SqlBuilder
