import SqlBuilder.Proofs.Query.Lead
import SqlBuilder.Proofs.Query.Wording

/-!
# Blocks of conditions

Conditions and groups of them, nested to any depth, add one block where fragments go. Parentheses
are well nested in it, each opening has the keyword of the first condition inside, and each
condition is led in by what the query knows of its clause. Look-ups by keys are conditions of this
kind too.
-/

namespace SqlBuilder

/-- The queries that conditions and groups of conditions lead to, with the clauses of the
conditions. The query of an existence condition can be restricted in any way. -/
inductive Query.Asks : Query → List ConditionClause → Query → Prop
  | none (query : Query) : Asks query [] query
  | condition {query changed : Query} {clauses : List ConditionClause} (clause : ConditionClause)
      (connective : Connective) {predicate : Predicate Query CustomExpr} (workspace : Workspace) :
      predicate.IsPlain → Asks query clauses changed →
      Asks query (clauses ++ [clause])
        (((Edit.condition clause connective predicate).run changed).run workspace).1.2
  | membership {query changed : Query} {clauses : List ConditionClause} (negated : Bool)
      {lhs : Value} (values : List Value) (workspace : Workspace) :
      lhs.isVerbatim = false → Asks query clauses changed →
      Asks query (clauses ++ [.filter])
        (((Edit.filterIn negated lhs values).run changed).run workspace).1.2
  | related {α : Type} {query changed : Query} {clauses : List ConditionClause} (name : String)
      (body : Edit α) (workspace : Workspace) : Asks query clauses changed →
      Asks query (clauses ++ if (changed.relationLink name).isOk then [.filter] else [])
        (((Edit.filterHas name body).run changed).run workspace).1.2
  | group {α : Type} {query changed : Query} {clauses more : List ConditionClause}
      (connective : Connective) (body : Edit α) (workspace : Workspace) :
      Asks query clauses changed →
      Asks (changed.openGroup connective) more
        ((body.run (changed.openGroup connective)).run workspace).1.2 →
      Asks query (clauses ++ more)
        (((Edit.conditionGroup connective body).run changed).run workspace).1.2

/-- Whether a change adds a block of conditions of some clauses, each of which is led in. -/
structure Query.Leads (block : List Fragment) (query : Query) (clauses : List ConditionClause)
    (changed : Query) : Prop where
  splices : query.Splices block changed
  formed : Fragment.Formed block
  head : ∀ fragment ∈ block.head?, fragment.keyword ∈ Fragment.conditionKeywords
  led : ∀ index earlier,
    (∀ clause ∈ clauses, query.hasCondition clause = true ↔ clause.owner index ∈ earlier) →
    Led earlier (clauses.map (·.owner index)) (Fragment.words block)
  started : ∀ clause,
    changed.hasCondition clause = (query.hasCondition clause || clauses.contains clause)

/-- A fragment with a text is no parenthesis, unless its text or its keyword is one. -/
theorem Fragment.plain_withText {keyword text : String} (word : keyword ∉ ["", "(", ")"])
    (other : text ≠ "(") : (withText keyword text).Plain := by
  simp only [List.mem_cons, List.not_mem_nil, or_false, not_or] at word
  obtain ⟨some, notOpening, notClosing⟩ := word
  exact ⟨by simp [isParenthesis, opens, closes, withText, notOpening, notClosing, other], some⟩

namespace Query

theorem Splices.hasClause {block : List Fragment} {query changed : Query}
    (splices : Splices block query changed) (keyword : String) :
    changed.hasClause keyword =
      (query.hasClause keyword || block.any (·.keyword == keyword)) := by
  unfold Query.hasClause
  conv_rhs => rw [← List.take_append_drop query.insertionPoint query.fragments]
  rw [splices.fragments, List.any_append, List.any_append, List.any_append, Bool.or_assoc,
    Bool.or_comm (block.any _)]

theorem nextKeyword_mem_conditionKeywords (query : Query) (clause : ConditionClause)
    (connective : Connective) :
    (query.nextKeyword clause connective).1 ∈ Fragment.conditionKeywords := by
  unfold nextKeyword
  dsimp only
  split
  · exact Connective.keyword_mem_conditionKeywords _
  · exact clause.keyword_mem_conditionKeywords

namespace Leads

variable {query changed last inside : Query} {block block' : List Fragment}
  {clauses more : List ConditionClause}

theorem nil (query : Query) : Leads [] query [] query where
  splices := .of_eq rfl rfl
  formed := .nil
  head := by simp
  led _ earlier _ := .nil earlier
  started := by simp

theorem trans (first : Leads block query clauses changed)
    (second : Leads block' changed more last) :
    Leads (block ++ block') query (clauses ++ more) last where
  splices := first.splices.trans second.splices
  formed := first.formed.append second.formed
  head := by
    cases block with
    | nil => exact second.head
    | cons fragment rest => exact first.head
  led index earlier known := by
    rw [List.forall_mem_append] at known
    rw [List.map_append, Fragment.words_append]
    refine (first.led index earlier known.1).append (second.led index _ fun clause mem => ?_)
    rw [first.started, Bool.or_eq_true, known.2 clause mem, List.contains_iff_mem, List.mem_append,
      List.mem_map_of_injective (ConditionClause.owner_injective index), or_comm]
  started clause := by
    rw [second.started, first.started, List.contains_append, Bool.or_assoc]

/-- A condition is one fragment under its keyword. -/
theorem of_hookFree {predicate : Predicate Query CustomExpr} (hookFree : predicate.HookFree)
    (other : Compile.Yields (predicate.compile query.connection) (· ≠ "("))
    (clause : ConditionClause) (connective : Connective) (workspace : Workspace) :
    ∃ fragment, Leads [fragment] query [clause]
      (((Edit.condition clause connective predicate).run query).run workspace).1.2 := by
  rw [Edit.run_condition hookFree]
  dsimp only
  have text_ne := other query.ledger workspace
  generalize (((predicate.compile query.connection).run query.ledger).run workspace).1.1 = text
    at text_ne ⊢
  generalize (((predicate.compile query.connection).run query.ledger).run workspace).1.2 = ledger
  let ready : Query := { (query.nextKeyword clause connective).2 with ledger }
  have word := query.nextKeyword_mem_conditionKeywords clause connective
  have splices : query.Splices [.withText (query.nextKeyword clause connective).1 text]
      (ready.addText (query.nextKeyword clause connective).1 text) := by
    have words : ∀ word ∈ Fragment.conditionKeywords, isSelectKeyword word = false := by decide
    have same : query.Splices [] ready := .of_eq rfl rfl
    exact same.trans (.addText ready (words _ word) text)
  refine ⟨_, splices, .of_plain (Fragment.plain_withText ?_ text_ne), ?_, ?_, ?_⟩
  · have mark := Fragment.notMem_of_mem_conditionKeywords word
    simp only [List.mem_cons, not_or] at mark ⊢
    exact ⟨mark.1, mark.2.1, mark.2.2.1, List.not_mem_nil⟩
  · simpa [Fragment.withText] using word
  · intro index earlier known
    have known := List.forall_mem_singleton.1 known
    have words : Fragment.words [.withText (query.nextKeyword clause connective).1 text] =
        [(query.nextKeyword clause connective).1] := Fragment.words_cons_of_mem word
    rw [words]
    unfold nextKeyword
    dsimp only
    cases started : query.hasCondition clause with
    | false =>
        rw [started] at known
        have led := Led.first (fun mem => Bool.false_ne_true (known.2 mem)) (.nil _)
        rwa [ConditionClause.keyword_owner] at led
    | true => exact .next _ (known.1 started) (.nil _)
  · intro other
    by_cases rows : other = .join
    case pos =>
      subst rows
      have kept := (Rearranges.add ready
        (.withText (query.nextKeyword clause connective).1 text)).onDefined
      refine kept.trans ?_
      cases clause <;> rfl
    case neg =>
      rw [hasCondition_eq rows, hasCondition_eq rows, splices.hasClause, List.any_cons,
        List.any_nil, Bool.or_false]
      by_cases same : other = clause
      case pos =>
        subst same
        unfold nextKeyword
        rw [hasCondition_eq rows]
        cases query.hasClause other.keyword <;> simp [Fragment.withText]
      case neg =>
        have apart : (query.nextKeyword clause connective).1 ≠ other.keyword := by
          have words := query.nextKeyword_mem clause connective
          intro equal
          rw [equal] at words
          cases other <;> cases clause <;> simp_all [ConditionClause.keyword]
        simp [Fragment.withText, apart, same]

/-- A condition without user-defined expressions is one fragment, which no group starts with. -/
theorem condition (clause : ConditionClause) (connective : Connective)
    {predicate : Predicate Query CustomExpr} (plain : predicate.IsPlain) (query : Query)
    (workspace : Workspace) : ∃ fragment, Leads [fragment] query [clause]
      (((Edit.condition clause connective predicate).run query).run workspace).1.2 :=
  of_hookFree plain.hookFree (Predicate.compile_yields _ plain) clause connective workspace

/-- Parentheses around a block do not change how its conditions are led in. -/
theorem group (connective : Connective)
    (filled : Leads block (query.openGroup connective) clauses inside) :
    Leads (Fragment.group true block) query clauses
      (query.closeConditionGroup inside connective) := by
  have opened : query.Splices [.token "("] (query.openGroup connective) := by
    have same : query.Splices [] { query with
        pending := if connective = Connective.or then some Connective.or else query.pending } :=
      .of_eq rfl rfl
    exact same.trans (.insert _ _)
  have start (clause : ConditionClause) :
      (query.openGroup connective).hasCondition clause = query.hasCondition clause := by
    by_cases rows : clause = .join
    · subst rows
      rfl
    · rw [hasCondition_eq rows, hasCondition_eq rows, opened.hasClause]
      have mark : ∀ word ∈ Fragment.conditionKeywords, ("(" == word) = false := by decide
      simp [Fragment.token, mark _ clause.keyword_mem_conditionKeywords]
  have closed := filled.splices.closeConditionGroup
  refine ⟨closed, filled.formed.group filled.head, Fragment.keyword_mem_of_group filled.head,
    fun index earlier known => ?_, fun clause => ?_⟩
  · rw [Fragment.words_group filled.head]
    exact filled.led index earlier fun clause mem => by rw [start, known clause mem]
  · rw [← start, ← filled.started]
    by_cases rows : clause = .join
    · subst rows
      exact (Rearranges.closeGroup inside true _ _).onDefined
    · have opening := start clause
      rw [hasCondition_eq rows, hasCondition_eq rows] at opening
      rw [hasCondition_eq rows, hasCondition_eq rows, closed.hasClause, filled.splices.hasClause,
        opening, Fragment.any_keyword_group clause.keyword_mem_conditionKeywords filled.head]

end Leads

/-- Conditions and groups of them add one block, in which each condition is led in. -/
theorem Asks.exists_leads {query changed : Query} {clauses : List ConditionClause}
    (asks : query.Asks clauses changed) : ∃ block, Leads block query clauses changed := by
  induction asks with
  | none query => exact ⟨[], .nil query⟩
  | condition clause connective workspace plain _ ih =>
      obtain ⟨block, leads⟩ := ih
      obtain ⟨fragment, last⟩ := Leads.condition clause connective plain _ workspace
      exact ⟨_, leads.trans last⟩
  | @membership query changed clauses negated lhs values workspace plain _ ih =>
      obtain ⟨block, leads⟩ := ih
      obtain ⟨fragment, last⟩ := Leads.of_hookFree
        (Predicate.membership_hookFree negated plain values)
        (Predicate.membership_yields changed.connection negated plain values)
        .filter .and workspace
      rw [Edit.filterIn_eq]
      exact ⟨_, leads.trans last⟩
  | @related α query changed clauses name body workspace _ ih =>
      obtain ⟨block, leads⟩ := ih
      rw [Edit.run_filterHas]
      cases changed.relationLink name with
      | error error => exact ⟨_, leads.trans (.nil changed)⟩
      | ok link =>
          let related := (changed.relatedRows link).run workspace
          let inside := (body.run related.1).run related.2
          obtain ⟨fragment, last⟩ := Leads.condition .filter .and
            (Predicate.hasRows_isPlain inside.1.2) changed inside.2
          exact ⟨_, leads.trans last⟩
  | @group α query changed clauses more connective body workspace _ _ ih filled =>
      obtain ⟨block, leads⟩ := ih
      obtain ⟨block', inside⟩ := filled
      rw [Edit.run_conditionGroup]
      exact ⟨_, leads.trans (inside.group connective)⟩

/-! ### Look-ups by keys -/

namespace Asks

variable {query changed : Query} {clauses : List ConditionClause}

/-- The conditions of a key are conditions on the rows. -/
theorem keyConditions (asks : query.Asks clauses changed) (keys : List String)
    {values : List Value} (plain : ∀ value ∈ values, value.isVerbatim = false)
    (workspace : Workspace) : ∃ count, query.Asks (clauses ++ List.replicate count .filter)
      (((Edit.keyConditions keys values).run changed).run workspace).1.2 := by
  induction keys generalizing clauses changed values workspace with
  | nil =>
      refine ⟨0, ?_⟩
      rw [List.replicate_zero, List.append_nil]
      exact asks
  | cons key keys ih =>
      cases values with
      | nil =>
          refine ⟨0, ?_⟩
          rw [List.replicate_zero, List.append_nil]
          exact asks
      | cons value values =>
          rw [List.forall_mem_cons] at plain
          have pair : (Predicate.pair (.column key) value :
              Predicate Query CustomExpr).IsPlain := by
            intro operand mem
            rcases List.mem_pair.1 mem with rfl | rfl
            · rfl
            · exact plain.1
          obtain ⟨count, last⟩ := ih (asks.condition .filter .and workspace pair) plain.2 _
          rw [List.append_assoc, List.singleton_append, ← List.replicate_succ] at last
          exact ⟨count + 1, last⟩

theorem furtherKeys (asks : query.Asks clauses changed) (columns : List String)
    {rows : List (List Value)} (plain : ∀ row ∈ rows, ∀ value ∈ row, value.isVerbatim = false)
    (workspace : Workspace) : ∃ count, query.Asks (clauses ++ List.replicate count .filter)
      (((Edit.furtherKeys columns rows).run changed).run workspace).1.2 := by
  induction rows generalizing clauses changed workspace with
  | nil =>
      refine ⟨0, ?_⟩
      rw [List.replicate_zero, List.append_nil]
      exact asks
  | cons row rest ih =>
      rw [List.forall_mem_cons] at plain
      obtain ⟨own, filled⟩ := (Asks.none _).keyConditions columns plain.1 workspace
      obtain ⟨count, last⟩ := ih (asks.group .or _ workspace filled) plain.2 _
      rw [List.nil_append, List.append_assoc, List.replicate_append_replicate] at last
      exact ⟨own + count, last⟩

theorem keyGroup (asks : query.Asks clauses changed) (columns : List String)
    {rows : List (List Value)} (plain : ∀ row ∈ rows, ∀ value ∈ row, value.isVerbatim = false)
    (workspace : Workspace) : ∃ count, query.Asks (clauses ++ List.replicate count .filter)
      (((Edit.keyGroup columns rows).run changed).run workspace).1.2 := by
  cases rows with
  | nil =>
      refine ⟨0, ?_⟩
      rw [List.replicate_zero, List.append_nil]
      exact asks
  | cons row rest =>
      rw [List.forall_mem_cons] at plain
      obtain ⟨own, filled⟩ := (Asks.none _).keyConditions columns plain.1 workspace
      obtain ⟨count, last⟩ := (asks.group .and _ workspace filled).furtherKeys columns plain.2 _
      rw [List.nil_append, List.append_assoc, List.replicate_append_replicate] at last
      exact ⟨own + count, last⟩

/-- A look-up by key asks for conditions on the rows, or fails and leaves the query alone. -/
theorem filterByKey (asks : query.Asks clauses changed) {values : List Value}
    (plain : ∀ value ∈ values, value.isVerbatim = false) (workspace : Workspace) :
    ∃ count, query.Asks (clauses ++ List.replicate count .filter)
      (((Edit.filterByKey values).run changed).run workspace).1.2 := by
  have idle : ∃ count, query.Asks (clauses ++ List.replicate count .filter) changed :=
    ⟨0, by rwa [List.replicate_zero, List.append_nil]⟩
  unfold Edit.filterByKey
  simp only [StateT.run_bind, StateT.run_get, pure_bind]
  cases changed.keyColumns "where_primary_key" with
  | error error => exact idle
  | ok columns =>
      dsimp only
      cases KeyArityError.check columns.length values.length with
      | error error => exact idle
      | ok _ => exact asks.keyConditions columns plain workspace

/-- So does a look-up by several keys. -/
theorem filterByKeys (asks : query.Asks clauses changed) {rows : List (List Value)}
    (plain : ∀ row ∈ rows, ∀ value ∈ row, value.isVerbatim = false) (workspace : Workspace) :
    ∃ count, query.Asks (clauses ++ List.replicate count .filter)
      (((Edit.filterByKeys rows).run changed).run workspace).1.2 := by
  have idle : ∃ count, query.Asks (clauses ++ List.replicate count .filter) changed :=
    ⟨0, by rwa [List.replicate_zero, List.append_nil]⟩
  have listed (column : String) (values : List Value) :
      ∃ count, query.Asks (clauses ++ List.replicate count .filter)
        (((Edit.filterIn false (.column column) values).run changed).run workspace).1.2 :=
    ⟨1, asks.membership false values workspace rfl⟩
  have grouped (columns : List String) :
      ∃ count, query.Asks (clauses ++ List.replicate count .filter)
        (((Edit.conditionGroup .and (Edit.keyGroup columns rows)).run changed).run
          workspace).1.2 := by
    obtain ⟨count, filled⟩ := (Asks.none _).keyGroup columns plain workspace
    exact ⟨count, asks.group .and _ workspace filled⟩
  unfold Edit.filterByKeys
  simp only [StateT.run_bind, StateT.run_get, pure_bind]
  cases changed.keyColumns "where_primary_key_in" with
  | error error => exact idle
  | ok columns =>
      dsimp only
      cases KeyArityError.checkRows columns.length (rows.map List.length) with
      | error error => exact idle
      | ok _ =>
          dsimp only
          split
          · exact listed "" []
          · exact listed _ _
          · exact grouped _

end Asks

end Query

end SqlBuilder
