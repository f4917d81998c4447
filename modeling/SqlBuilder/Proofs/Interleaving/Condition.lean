import SqlBuilder.Proofs.Interleaving.Ledger
import SqlBuilder.Proofs.Interleaving.Part

/-!
# Conditions behind other fragments

Conditions and groups of them on a query that has further fragments in front, and on one that has
not. Both runs add the same fragments at the end, since the keyword of a condition depends on the
clauses of conditions only, and a group is put in parentheses where it was opened.

What is added starts with the keyword of a condition. If there was no clause of conditions before,
it starts one: the keyword of a nested first condition is pulled out of one group after the other.
-/

namespace SqlBuilder

namespace Edit

variable {α β : Type}

/-- Whether an edit turns a query into another one, in every workspace, which it leaves alone. -/
def Turns (edit : Edit α) (query : Query) (value : α) (changed : Query) : Prop :=
  ∀ workspace, (edit.run query).run workspace = ((value, changed), workspace)

namespace Turns

theorem pure (value : α) (query : Query) : Turns (pure value) query value query :=
  fun _ => rfl

theorem bind {edit : Edit α} {next : α → Edit β} {query between changed : Query} {value : α}
    {result : β} (first : edit.Turns query value between)
    (second : (next value).Turns between result changed) :
    (edit >>= next).Turns query result changed := by
  intro workspace
  have step : ((edit >>= next).run query).run workspace =
      ((next ((edit.run query).run workspace).1.1).run ((edit.run query).run workspace).1.2).run
        ((edit.run query).run workspace).2 := rfl
  rw [step, first workspace]
  exact second workspace

theorem compiling {action : Connection → Compile α} {query : Query} {value : α} {ledger : Ledger}
    (ran : (action query.connection).run query.ledger = Pure.pure (value, ledger)) :
    (Edit.compiling action).Turns query value { query with ledger } := by
  intro workspace
  have step : ((Edit.compiling action).run query).run workspace =
      let out := ((action query.connection).run query.ledger).run workspace
      ((out.1.1, { query with ledger := out.1.2 }), out.2) := rfl
  rw [step, ran]
  rfl

theorem condition {predicate : Predicate Query CustomExpr} (hookFree : predicate.HookFree)
    (clause : ConditionClause) (connective : Connective) {query : Query} {text : String}
    {ledger : Ledger}
    (ran : (predicate.compile query.connection).run query.ledger = Pure.pure (text, ledger)) :
    (Edit.condition clause connective predicate).Turns query ()
      ({ (query.nextKeyword clause connective).2 with ledger }.addText
        (query.nextKeyword clause connective).1 text) := by
  intro workspace
  rw [run_condition hookFree, ran]
  rfl

theorem conditionGroup {body : Edit α} (connective : Connective) {query inside : Query} {value : α}
    (ran : body.Turns (query.openGroup connective) value inside) :
    (Edit.conditionGroup connective body).Turns query value
      (query.closeConditionGroup inside connective) := by
  intro workspace
  rw [run_conditionGroup, ran workspace]

end Turns

end Edit

theorem PlainLeaves.hookFree {registry : Registry} {naming : Prop}
    {predicate : Predicate Query CustomExpr}
    (plain : PlainLeaves registry naming predicate.leaves) : predicate.HookFree :=
  Predicate.hookFree_of_leaves fun custom mem => plain (.custom custom) mem

/-! ### The keyword of a condition -/

namespace Query

variable {query inside : Query} {clause : ConditionClause}

/-- The first condition starts its clause. -/
theorem nextKeyword_starts (rows : clause ≠ .join) (connective : Connective)
    (free : ∀ fragment ∈ query.fragments, fragment.keyword ∉ ["where", "having"]) :
    (query.nextKeyword clause connective).1 ∈ ["where", "having"] := by
  have known := ConditionClause.keyword_mem rows
  have without : query.hasCondition clause = false := by
    rw [hasCondition_eq rows]
    exact List.any_eq_false.2 fun fragment mem same =>
      free fragment mem (beq_iff_eq.1 same ▸ known)
  unfold nextKeyword
  rw [without]
  exact known

/-- A condition on rows or on groups of rows goes to the end. -/
theorem addText_nextKeyword (rows : clause ≠ .join) (cursor : query.cursor = none)
    (connective : Connective) (ledger : Ledger) (text : String) :
    { (query.nextKeyword clause connective).2 with ledger }.addText
        (query.nextKeyword clause connective).1 text =
      { query with
        ledger, pending := none
        fragments := query.fragments ++ [.withText (query.nextKeyword clause connective).1 text]
        currentClause := query.clauseAfter (query.nextKeyword clause connective).1 } := by
  have plain : ∀ word ∈ ["where", "having", "and", "or"], isSelectKeyword word = false := by decide
  have word := plain _ (nextKeyword_rows_mem rows query connective)
  have joins : (clause == .join) = false := beq_false_of_ne rows
  rw [addText_of_cursor_eq_none (by exact cursor) word]
  simp [nextKeyword, clauseAfter, joins]

/-- Conditions that were added at the end. -/
structure Gains (query changed : Query) (added : List Fragment) : Prop where
  fragments : changed.fragments = query.fragments ++ added
  keywords : ∀ fragment ∈ added, fragment.keyword ∈ Part.clauses.furtherKeywords
  head : ∀ fragment ∈ added.head?, fragment.keyword ∈ ["where", "having", "and", "or"]
  starts : (∀ fragment ∈ query.fragments, fragment.keyword ∉ ["where", "having"]) →
    ∀ fragment ∈ added.head?, fragment.keyword ∈ ["where", "having"]
  onDefined : changed.onDefined = query.onDefined
  pending : query.pending = none → changed.pending = none
  connection : changed.connection = query.connection

namespace Gains

variable {changed last : Query} {added more : List Fragment}

theorem refl (query : Query) : query.Gains query [] :=
  ⟨by simp, by simp, by simp, by simp, rfl, id, rfl⟩

theorem trans (gains : query.Gains changed added) (next : changed.Gains last more) :
    query.Gains last (added ++ more) where
  fragments := by rw [next.fragments, gains.fragments, List.append_assoc]
  keywords := List.forall_mem_append.2 ⟨gains.keywords, next.keywords⟩
  head := by
    cases added with
    | nil => exact next.head
    | cons first rest => exact gains.head
  starts free := by
    cases added with
    | nil =>
        refine next.starts ?_
        rw [gains.fragments, List.append_nil]
        exact free
    | cons first rest => exact gains.starts free
  onDefined := next.onDefined.trans gains.onDefined
  pending none := next.pending (gains.pending none)
  connection := next.connection.trans gains.connection

theorem condition {clause : ConditionClause} (rows : clause ≠ .join) (connective : Connective)
    (cursor : query.cursor = none) (ledger : Ledger) (text : String) :
    query.Gains
      ({ (query.nextKeyword clause connective).2 with ledger }.addText
        (query.nextKeyword clause connective).1 text)
      [.withText (query.nextKeyword clause connective).1 text] := by
  have word := nextKeyword_rows_mem rows query connective
  have vocabulary : ∀ word ∈ ["where", "having", "and", "or"],
      word ∈ Part.clauses.furtherKeywords := by decide
  rw [addText_nextKeyword rows cursor]
  refine ⟨rfl, ?_, ?_, ?_, rfl, fun _ => rfl, rfl⟩
  · exact List.forall_mem_singleton.2 (vocabulary _ word)
  · rintro fragment ⟨⟩
    exact word
  · rintro free fragment ⟨⟩
    exact nextKeyword_starts rows connective free

/-- A group of conditions. -/
theorem group {connective : Connective} (gains : (query.openGroup connective).Gains inside added)
    (cursor : query.cursor = none) (stays : inside.cursor = none) :
    query.Gains (query.closeConditionGroup inside connective) (grouped added) := by
  have opened := openGroup_eq cursor connective
  have begun : (query.openGroup connective).fragments = query.fragments ++ [.token "("] := by
    rw [opened]
  have fragments := gains.fragments
  rw [begun] at fragments
  have onDefined : inside.onDefined = query.onDefined := by
    rw [gains.onDefined, opened]
  have connection : inside.connection = query.connection := by
    rw [gains.connection, opened]
  rw [closeConditionGroup_eq cursor stays gains.head fragments]
  cases added with
  | nil =>
      exact ⟨rfl, by simp [grouped], by simp [grouped], by simp [grouped], onDefined, id,
        connection⟩
  | cons first rest =>
      rcases List.forall_mem_cons.1 gains.keywords with ⟨word, words⟩
      refine ⟨rfl, ?_, ?_, ?_, onDefined, fun _ => rfl, connection⟩
      · refine List.forall_mem_cons.2 ⟨word, List.forall_mem_cons.2 ⟨?_, ?_⟩⟩
        · simp [Part.furtherKeywords]
        · refine List.forall_mem_append.2 ⟨words, ?_⟩
          simp [Part.furtherKeywords, Fragment.token]
      · rintro fragment ⟨⟩
        exact gains.head first rfl
      · rintro free fragment ⟨⟩
        refine gains.starts ?_ first rfl
        rw [begun]
        refine List.forall_mem_append.2 ⟨free, ?_⟩
        simp [Fragment.token]

end Gains

end Query

/-! ### Both runs -/

/-- Whether one query is another with further fragments in front and further parameters. -/
structure Query.Tracks (registry : Registry) (others : Param → Prop) (front : List Fragment)
    (query own : Query) : Prop where
  connection : query.connection = own.connection
  cursor : query.cursor = none
  ownCursor : own.cursor = none
  pending : query.pending = own.pending
  onDefined : query.onDefined = own.onDefined
  fragments : query.fragments = front ++ own.fragments
  params : query.ledger.params.Covers registry True others own.ledger.params

namespace Query.Tracks

variable {registry : Registry} {others : Param → Prop} {front : List Fragment}
  {query own inside inside' : Query} {clause : ConditionClause}

/-- The keyword of a condition does not depend on what stands in front. -/
theorem nextKeyword_eq (tracks : query.Tracks registry others front own) (rows : clause ≠ .join)
    (foreign : ∀ fragment ∈ front, fragment.keyword ∉ Part.clauses.anchors)
    (connective : Connective) :
    (query.nextKeyword clause connective).1 = (own.nextKeyword clause connective).1 := by
  have clauses : ∀ word ∈ ["where", "having"], word ∈ Part.clauses.anchors := by decide
  have anchor := clauses _ (ConditionClause.keyword_mem rows)
  have absent : front.any (·.keyword == clause.keyword) = false :=
    List.any_eq_false.2 fun fragment mem =>
      Bool.eq_false_iff.1 (Part.Places.beq_false_of_front foreign anchor fragment mem)
  have same : query.hasCondition clause = own.hasCondition clause := by
    rw [hasCondition_eq rows, hasCondition_eq rows]
    unfold hasClause
    rw [tracks.fragments, List.any_append, absent, Bool.false_or]
  unfold nextKeyword
  rw [same, tracks.pending]

theorem condition (tracks : query.Tracks registry others front own) (rows : clause ≠ .join)
    (foreign : ∀ fragment ∈ front, fragment.keyword ∉ Part.clauses.anchors)
    (connective : Connective) {ledger ledger' : Ledger}
    (covers : ledger.params.Covers registry True others ledger'.params) (text : String) :
    ({ (query.nextKeyword clause connective).2 with ledger }.addText
        (query.nextKeyword clause connective).1 text).Tracks registry others front
      ({ (own.nextKeyword clause connective).2 with ledger := ledger' }.addText
        (own.nextKeyword clause connective).1 text) := by
  rw [addText_nextKeyword rows tracks.cursor, addText_nextKeyword rows tracks.ownCursor,
    tracks.nextKeyword_eq rows foreign]
  refine ⟨tracks.connection, tracks.cursor, tracks.ownCursor, rfl, tracks.onDefined, ?_, covers⟩
  simp [tracks.fragments]

theorem openGroup (tracks : query.Tracks registry others front own) (connective : Connective) :
    (query.openGroup connective).Tracks registry others front (own.openGroup connective) := by
  rw [openGroup_eq tracks.cursor, openGroup_eq tracks.ownCursor]
  refine ⟨tracks.connection, tracks.cursor, tracks.ownCursor, ?_, tracks.onDefined, ?_,
    tracks.params⟩
  · dsimp only
    rw [tracks.pending]
  · simp [tracks.fragments]

theorem closeConditionGroup {connective : Connective} {added : List Fragment}
    (tracks : query.Tracks registry others front own)
    (stop : inside.Tracks registry others front inside')
    (gains : (own.openGroup connective).Gains inside' added) :
    (query.closeConditionGroup inside connective).Tracks registry others front
      (own.closeConditionGroup inside' connective) := by
  have fragments' : inside'.fragments = own.fragments ++ [.token "("] ++ added := by
    rw [gains.fragments, openGroup_eq tracks.ownCursor]
  have fragments : inside.fragments = query.fragments ++ [.token "("] ++ added := by
    rw [stop.fragments, fragments', tracks.fragments]
    simp
  rw [closeConditionGroup_eq tracks.cursor stop.cursor gains.head fragments,
    closeConditionGroup_eq tracks.ownCursor stop.ownCursor gains.head fragments']
  refine ⟨stop.connection, stop.cursor, stop.ownCursor, ?_, stop.onDefined, ?_, stop.params⟩
  · dsimp only
    rw [tracks.pending]
  · simp [tracks.fragments]

end Query.Tracks

variable {registry : Registry}

/-- Whether a call adds the same conditions with and without fragments in front. -/
def Edit.Tracked (registry : Registry) (call : Edit Unit) : Prop :=
  ∀ (others : Param → Prop) (front : List Fragment) (query own : Query),
    (∀ fragment ∈ front, fragment.keyword ∉ Part.clauses.anchors) →
    query.Tracks registry others front own →
    ∃ query' own' added, call.Turns query () query' ∧ call.Turns own () own' ∧
      query'.Tracks registry others front own' ∧ own.Gains own' added ∧
      query.ledger.params.Passes True query'.ledger.params

namespace Edit.Tracked

theorem runAll {calls : List (Edit Unit)} (each : ∀ call ∈ calls, call.Tracked registry) :
    (Edit.runAll calls).Tracked registry := by
  induction calls with
  | nil =>
      intro others front query own foreign tracks
      exact ⟨query, own, [], .pure () query, .pure () own, tracks, .refl own, .refl True _⟩
  | cons call rest ih =>
      intro others front query own foreign tracks
      rcases each call List.mem_cons_self others front query own foreign tracks with
        ⟨query', own', added, ran, ran', between, gains, passed⟩
      have later : ∀ call ∈ rest, call.Tracked registry :=
        fun call mem => each call (List.mem_cons_of_mem _ mem)
      rcases ih later others front query' own' foreign between with
        ⟨last, last', more, went, went', tracks', gains', passed'⟩
      exact ⟨last, last', added ++ more, ran.bind went, ran'.bind went', tracks',
        gains.trans gains', passed.trans passed'⟩

theorem condition {clause : ConditionClause} (rows : clause ≠ .join) (connective : Connective)
    {predicate : Predicate Query CustomExpr} (plain : PlainLeaves registry True predicate.leaves) :
    (Edit.condition clause connective predicate).Tracked registry := by
  intro others front query own foreign tracks
  rcases Predicate.compile_agrees own.connection predicate (plain.writes own.connection) others
    query.ledger own.ledger tracks.params with ⟨text, ledger, ledger', ran, ran', covers, passed⟩
  have added : ({ (query.nextKeyword clause connective).2 with ledger }.addText
      (query.nextKeyword clause connective).1 text).ledger = ledger := by
    rw [Query.addText_nextKeyword rows tracks.cursor]
  rw [← added] at passed
  exact ⟨_, _, _, .condition plain.hookFree clause connective (tracks.connection ▸ ran),
    .condition plain.hookFree clause connective ran',
    tracks.condition rows foreign connective covers text,
    .condition rows connective tracks.ownCursor ledger' text, passed⟩

/-- A group of what adds conditions adds conditions. -/
theorem group (connective : Connective) {body : Edit Unit} (tracked : body.Tracked registry) :
    (Edit.conditionGroup connective body).Tracked registry := by
  intro others front query own foreign tracks
  rcases tracked others front _ _ foreign (tracks.openGroup connective) with
    ⟨inside, inside', added, ran, ran', stop, gains, passed⟩
  have opened : (query.openGroup connective).ledger = query.ledger := by
    rw [Query.openGroup_eq tracks.cursor]
  have closed : (query.closeConditionGroup inside connective).ledger = inside.ledger :=
    inside.ledger_closeGroup true _ _
  rw [opened, ← closed] at passed
  exact ⟨_, _, _, .conditionGroup connective ran, .conditionGroup connective ran',
    tracks.closeConditionGroup stop gains, gains.group tracks.ownCursor stop.ownCursor, passed⟩

end Edit.Tracked

end SqlBuilder
