import SqlBuilder.Proofs.Query.Asking
import SqlBuilder.Proofs.Query.JoinTree
import SqlBuilder.Proofs.Script.Outline

/-!
# Removals from assembled queries

Selections, joins with conditions of their own, conditions and groups of them, grouping, order and
limits lead to queries in which parentheses are well nested and every condition is led in.

What a removal leaves is well nested unless the fragment that it takes is a parenthesis, which the
first condition of a clause is where the clause starts with a group. It is led in unless the clause
has further conditions. So removing a clause of several conditions leaves a connective behind, and
removing one that starts with a group leaves a parenthesis that nothing opens.
-/

namespace SqlBuilder

/-- The queries that selections, joins, conditions, grouping, order and limits lead to, with the
number of joins and with what the conditions belong to, in the order in which they stand. -/
inductive Query.Assembled : Query → Nat → List Owner → Prop
  | made (home : Connection) (origin : Script.Origin) (workspace : Workspace) :
      Assembled ((origin.make home).run workspace).1 0 []
  | select {query : Query} {joins : Nat} {owners : List Owner} (distinct : Bool)
      (columns : List Value) (workspace : Workspace) : Assembled query joins owners →
      Assembled (((Edit.select distinct columns).run query).run workspace).1.2 joins owners
  | selectAs {query : Query} {joins : Nat} {owners : List Owner} (column : Value) (label : String)
      (workspace : Workspace) : Assembled query joins owners →
      Assembled (((Edit.selectAs column label).run query).run workspace).1.2 joins owners
  | selectAll {query : Query} {joins : Nat} {owners : List Owner} : Assembled query joins owners →
      Assembled query.selectAll joins owners
  | source {query : Query} {joins : Nat} {owners : List Owner} (table : String)
      (label : Option String) : Assembled query joins owners →
      Assembled (query.source table label) joins owners
  | sourceQuery {query : Query} {joins : Nat} {owners : List Owner} (nested : Query)
      (label : String) (workspace : Workspace) : Assembled query joins owners →
      Assembled (((Edit.sourceQuery nested label).run query).run workspace).1.2 joins owners
  /-- The conditions of a join stand where the join does, in front of those of clauses behind it. -/
  | join {α : Type} {query : Query} {joins : Nat} {owners : List Owner}
      {clauses : List ConditionClause} (kind : JoinKind) (table : String) (label : Option String)
      (body : Edit α) (workspace : Workspace) : Assembled query joins owners →
      query.isJoined (query.escapeAs table label) = false →
      (query.openJoin kind (query.escapeAs table label)).Asks clauses
        ((body.run (query.openJoin kind (query.escapeAs table label))).run workspace).1.2 →
      (∀ clause ∈ clauses, clause = .join) →
      Assembled (((Edit.join kind table label body).run query).run workspace).1.2 (joins + 1)
        (let place := (Fragment.words (query.fragments.take query.joinPlace)).length
        owners.take place ++ (clauses.map (·.owner joins) ++ owners.drop place))
  | joinAgain {α : Type} {query : Query} {joins : Nat} {owners : List Owner} (kind : JoinKind)
      (table : String) (label : Option String) (body : Edit α) (workspace : Workspace) :
      Assembled query joins owners → query.isJoined (query.escapeAs table label) = true →
      Assembled (((Edit.join kind table label body).run query).run workspace).1.2 joins owners
  | conditions {query changed : Query} {joins : Nat} {owners : List Owner}
      {clauses : List ConditionClause} : Assembled query joins owners →
      query.Asks clauses changed → ConditionClause.join ∉ clauses →
      Assembled changed joins (owners ++ clauses.map (·.owner joins))
  | addTerms {query : Query} {joins : Nat} {owners : List Owner} (clause : ListClause)
      {columns : List Value} (workspace : Workspace) :
      (∀ column ∈ columns, column.isVerbatim = false) → Assembled query joins owners →
      Assembled (((Edit.addTerms clause columns).run query).run workspace).1.2 joins owners
  | addOrder {query : Query} {joins : Nat} {owners : List Owner} (column : Value) (descends : Bool)
      (workspace : Workspace) : Assembled query joins owners →
      Assembled (((Edit.addOrder column descends).run query).run workspace).1.2 joins owners
  | limit {query : Query} {joins : Nat} {owners : List Owner} (count : Nat) :
      Assembled query joins owners → Assembled (query.limit count) joins owners
  | offset {query : Query} {joins : Nat} {owners : List Owner} (count : Nat) :
      Assembled query joins owners → Assembled (query.offset count) joins owners

/-- Whether a query outside callbacks is formed, with its conditions led in. -/
structure Query.Stands (query : Query) (joins : Nat) (owners : List Owner) : Prop where
  rest : query.cursor = none
  formed : Fragment.Formed query.fragments
  led : Led [] owners (Fragment.words query.fragments)
  numbered : ∀ index, Owner.join index ∈ owners → index < joins

/-- Parentheses have keywords of conditions or none at all. -/
theorem Fragment.Formed.plain {fragments : List Fragment} (formed : Formed fragments)
    {fragment : Fragment} (mem : fragment ∈ fragments)
    (word : fragment.keyword ∉ "" :: ")" :: conditionKeywords) : fragment.Plain := by
  simp only [List.mem_cons, not_or] at word
  obtain ⟨some, notClosing, other⟩ := word
  have opens : fragment.opens = false := Bool.eq_false_iff.2 fun opens =>
    (List.mem_cons.1 (formed.openings fragment mem opens)).elim some other
  exact ⟨by simp [isParenthesis, closes, opens, notClosing], some⟩

namespace Query

namespace Stands

variable {query changed inside : Query} {joins : Nat} {owners : List Owner}

theorem of_eq (stands : query.Stands joins owners) (fragments : changed.fragments = query.fragments)
    (cursor : changed.cursor = none) : changed.Stands joins owners where
  rest := cursor
  formed := fragments ▸ stands.formed
  led := fragments ▸ stands.led
  numbered := stands.numbered

/-- A fragment that is no condition comes where no fragment goes on with the one in front. -/
theorem insertIdx (stands : query.Stands joins owners) {front behind : List Fragment}
    (shape : query.fragments = front ++ behind)
    (apart : ∀ fragment ∈ behind.head?, fragment.keyword ≠ "") {fragment : Fragment}
    (plain : fragment.Plain) (word : fragment.keyword ∉ Fragment.conditionKeywords)
    (rest : changed.cursor = none) (fragments : changed.fragments = front ++ fragment :: behind) :
    changed.Stands joins owners where
  rest := rest
  formed := by
    have formed := stands.formed
    rw [shape] at formed
    rw [fragments]
    exact formed.insert (.of_plain plain) apart
  led := by
    have led := stands.led
    rw [shape, Fragment.words_append] at led
    rwa [fragments, Fragment.words_append, Fragment.words_cons_of_notMem word]
  numbered := stands.numbered

theorem insert (stands : query.Stands joins owners) {fragment : Fragment} (plain : fragment.Plain)
    (word : fragment.keyword ∉ Fragment.conditionKeywords) :
    (query.insert fragment).Stands joins owners := by
  have fragments := (Splices.insert query fragment).fragments_of_rest stands.rest
  exact stands.insertIdx (List.append_nil _).symm (by simp) plain word
    ((Splices.insert query fragment).rest stands.rest) fragments

/-- A fragment that is no condition changes into another. -/
theorem modify (stands : query.Stands joins owners) {test : Fragment → Bool} {place : Nat}
    {change : Fragment → Fragment} (found : query.fragments.findIdx? test = some place)
    (old : ∀ fragment, test fragment = true →
      fragment.keyword ∉ "" :: ")" :: Fragment.conditionKeywords)
    (new : ∀ fragment, test fragment = true → fragment.Plain → (change fragment).Plain ∧
      (change fragment).keyword ∉ Fragment.conditionKeywords)
    (rest : changed.cursor = none)
    (fragments : changed.fragments = query.fragments.modify place change) :
    changed.Stands joins owners := by
  obtain ⟨front, fragment, behind, shape, rfl, holds⟩ := exists_append_of_findIdx? found
  have word := old fragment holds
  have plain := stands.formed.plain (by simp [shape]) word
  obtain ⟨plain', word'⟩ := new fragment holds plain
  have other : fragment.keyword ∉ Fragment.conditionKeywords := fun mem =>
    word (List.mem_cons_of_mem _ (List.mem_cons_of_mem _ mem))
  rw [shape, modify_append_length] at fragments
  refine ⟨rest, ?_, ?_, stands.numbered⟩
  · have formed := stands.formed
    rw [shape] at formed
    rw [fragments]
    exact formed.replace plain plain'
  · have led := stands.led
    rw [shape, Fragment.words_append, Fragment.words_cons_of_notMem other] at led
    rwa [fragments, Fragment.words_append, Fragment.words_cons_of_notMem word']

/-- A select list is no parenthesis, whatever its items are. -/
theorem addItems (stands : query.Stands joins owners) {keyword : String}
    (select : isSelectKeyword keyword = true) (items : List String) :
    (query.add { keyword, payload := some (.items items) }).Stands joins owners := by
  have list {fragment : Fragment} (holds : isSelectKeyword fragment.keyword = true) :
      fragment.keyword ∉ "" :: ")" :: Fragment.conditionKeywords ∧ fragment.keyword ≠ "(" := by
    have words : ∀ word ∈ ["select", "select distinct"],
        word ∉ "" :: ")" :: Fragment.conditionKeywords ∧ word ≠ "(" := by decide
    exact words _ (by simpa [isSelectKeyword] using holds)
  have fresh {fragment : Fragment} (holds : isSelectKeyword fragment.keyword = true)
      (payload : fragment.payload ≠ some (.text "(")) :
      fragment.Plain ∧ fragment.keyword ∉ Fragment.conditionKeywords := by
    obtain ⟨word, opening⟩ := list holds
    simp only [List.mem_cons, not_or] at word
    refine ⟨⟨?_, word.1⟩, word.2.2⟩
    simp [Fragment.isParenthesis, Fragment.opens, Fragment.closes, word.2.1, opening, payload]
  have own : Fragment.Plain { keyword, payload := some (.items items) } ∧
      keyword ∉ Fragment.conditionKeywords := fresh select (by simp)
  unfold Query.add
  rw [if_pos select]
  split
  case h_1 place _ found =>
    refine stands.modify found (fun _ holds => (list holds).1) (fun fragment holds plain => ?_)
      stands.rest rfl
    refine fresh ?_ ?_
    · unfold mergeSelect
      dsimp only
      split
      · exact holds
      · exact select
    · have calm := plain.opens
      simp only [Fragment.opens, Bool.or_eq_false_iff, beq_eq_false_iff_ne] at calm
      unfold mergeSelect
      dsimp only
      split
      · exact calm.2
      · simp
  case h_2 place _ found =>
    obtain ⟨front, other, behind, shape, rfl, holds⟩ := exists_append_of_findIdx? found
    refine stands.insertIdx shape ?_ own.1 own.2 ?_ ?_
    · simp [beq_iff_eq.1 holds]
    · simp [stands.rest]
    · dsimp only
      rw [shape, insertIdx_append_length]
  case h_3 => exact stands.insert own.1 own.2

theorem addText (stands : query.Stands joins owners) {keyword text : String}
    (other : isSelectKeyword keyword = false)
    (word : keyword ∉ "" :: "(" :: ")" :: Fragment.conditionKeywords) (text_ne : text ≠ "(") :
    (query.addText keyword text).Stands joins owners := by
  simp only [List.mem_cons, not_or] at word
  rw [addText_eq_insert _ other]
  refine stands.insert (Fragment.plain_withText ?_ text_ne) word.2.2.2
  simp [word.1, word.2.1, word.2.2.1]

/-- A clause that there is once is none of conditions. -/
theorem setText (stands : query.Stands joins owners) {keyword text : String}
    (other : isSelectKeyword keyword = false)
    (word : keyword ∉ "" :: "(" :: ")" :: Fragment.conditionKeywords) (text_ne : text ≠ "(") :
    (query.setText keyword text).Stands joins owners := by
  unfold Query.setText
  split
  case h_2 => exact stands.addText other word text_ne
  case h_1 place found =>
    simp only [List.mem_cons, not_or] at word
    refine stands.modify found (fun fragment holds => ?_) (fun fragment holds _ => ⟨?_, ?_⟩)
      stands.rest rfl
    · simp only [beq_iff_eq.1 holds, List.mem_cons, not_or]
      exact ⟨word.1, word.2.2⟩
    · have same := beq_iff_eq.1 holds
      refine ⟨?_, by simpa [same] using word.1⟩
      simp [Fragment.isParenthesis, Fragment.opens, Fragment.closes, same, word.2.1, word.2.2.1,
        text_ne]
    · rw [beq_iff_eq.1 holds]
      exact word.2.2.2

theorem selectRaw (stands : query.Stands joins owners) (sql : String) :
    (query.selectRaw sql).Stands joins owners := by
  unfold Query.selectRaw
  exact stands.addItems rfl [sql]

theorem source (stands : query.Stands joins owners) (table : String) (label : Option String) :
    (query.source table label).Stands joins owners := by
  unfold Query.source
  exact stands.setText rfl (by decide) (escapeAs_ne_opening query table label)

/-- A term is no condition, under its keyword and under a comma. -/
theorem addTerm (stands : query.Stands joins owners) (clause : ListClause) {term : String}
    (term_ne : term ≠ "(") : (query.addTerm clause.keyword term).Stands joins owners := by
  unfold Query.addTerm
  split
  · exact stands.addText rfl (by decide) term_ne
  · cases clause <;> exact stands.addText rfl (by decide) term_ne

/-- Conditions on rows and groups of rows come at the end. -/
theorem conditions (stands : query.Stands joins owners) {clauses : List ConditionClause}
    (asks : query.Asks clauses changed) (rows : ConditionClause.join ∉ clauses) :
    changed.Stands joins (owners ++ clauses.map (·.owner joins)) := by
  obtain ⟨block, leads⟩ := asks.exists_leads
  have fragments := leads.splices.fragments_of_rest stands.rest
  refine ⟨leads.splices.rest stands.rest, ?_, ?_, fun index mem => ?_⟩
  · rw [fragments]
    exact stands.formed.append leads.formed
  · rw [fragments, Fragment.words_append]
    refine stands.led.append (leads.led joins _ fun clause mem => ?_)
    have apart : clause ≠ .join := by
      rintro rfl
      exact rows mem
    rw [List.append_nil, hasCondition_eq apart,
      hasClause_iff_mem_words clause.keyword_mem_conditionKeywords]
    have known := stands.led.keyword_mem_iff fun other same =>
      ConditionClause.eq_owner_of_keyword apart (same.trans (clause.keyword_owner joins)) joins
    rw [clause.keyword_owner] at known
    simpa using known
  · rcases List.mem_append.1 mem with early | late
    · exact stands.numbered index early
    · obtain ⟨clause, inside, own⟩ := List.mem_map.1 late
      cases clause with
      | filter => cases own
      | groupFilter => cases own
      | join => exact absurd inside rows

/-- The conditions of a join come behind those in front of its place. -/
theorem join (stands : query.Stands joins owners) (kind : JoinKind) {target : String}
    (target_ne : target ≠ "(") {clauses : List ConditionClause}
    (asks : (query.openJoin kind target).Asks clauses inside)
    (own : ∀ clause ∈ clauses, clause = .join) :
    (inside.closeJoin query).Stands (joins + 1)
      (let place := (Fragment.words (query.fragments.take query.joinPlace)).length
      owners.take place ++ (clauses.map (·.owner joins) ++ owners.drop place)) := by
  obtain ⟨block, leads⟩ := asks.exists_leads
  let front := query.fragments.take query.joinPlace
  let behind := query.fragments.drop query.joinPlace
  let mark := Fragment.withText kind.keyword target
  have whole : query.fragments = front ++ behind := (List.take_append_drop _ _).symm
  have word : kind.keyword ∉ ["", "(", ")"] ∧ kind.keyword ∉ Fragment.conditionKeywords := by
    cases kind <;> decide
  have fragments : inside.fragments = front ++ ([mark] ++ block ++ behind) :=
    leads.splices.fragments_openJoin stands.rest
  -- No condition belongs to this join yet, so the first one in it begins with `on`.
  have fresh : Owner.join joins ∉ owners := fun mem =>
    Nat.lt_irrefl _ (stands.numbered joins mem)
  have all_join : ∀ owner ∈ clauses.map (·.owner joins), owner = .join joins := by
    intro owner mem
    obtain ⟨clause, inside_mem, rfl⟩ := List.mem_map.1 mem
    rw [own clause inside_mem]
    rfl
  have led := stands.led
  rw [whole, Fragment.words_append] at led
  obtain ⟨first, second, rfl, length, early, late⟩ := led.split
  have place : (Fragment.words (query.fragments.take query.joinPlace)).length = first.length :=
    length.symm
  dsimp only
  rw [place, List.take_left, List.drop_left]
  rw [List.mem_append, not_or] at fresh
  refine ⟨by simp [closeJoin, stands.rest], ?_, ?_, fun index mem => ?_⟩
  · have formed := stands.formed
    have mark_formed := Fragment.Formed.of_plain (Fragment.plain_withText word.1 target_ne)
    rw [whole] at formed
    change Fragment.Formed inside.fragments
    rw [fragments]
    refine formed.insert (mark_formed.append leads.formed) fun fragment mem empty => ?_
    have later := query.joinsAt_joinPlace.behind fragment mem
    rw [empty] at later
    exact absurd later (by decide)
  · have block_led : Led (first ++ []) (clauses.map (·.owner joins)) (Fragment.words block) := by
      refine leads.led joins _ fun clause mem => ?_
      rw [own clause mem, List.append_nil]
      exact iff_of_false Bool.false_ne_true fresh.1
    have words : Fragment.words inside.fragments =
        Fragment.words front ++ (Fragment.words block ++ Fragment.words behind) := by
      rw [fragments, Fragment.words_append, List.append_assoc, List.singleton_append,
        Fragment.words_cons_of_notMem word.2, Fragment.words_append]
    change Led [] _ (Fragment.words inside.fragments)
    rw [words]
    refine early.append (block_led.append (late.congr fun owner mem => ?_))
    have apart : owner ∉ clauses.map (·.owner joins) := fun again =>
      fresh.2 (all_join owner again ▸ mem)
    rw [List.mem_append (s := clauses.map _), or_iff_right apart]
  · rw [List.mem_append, List.mem_append] at mem
    rcases mem with early | new | late
    · exact Nat.lt_succ_of_lt (stands.numbered index (List.mem_append_left _ early))
    · cases all_join _ new
      exact Nat.lt_succ_self _
    · exact Nat.lt_succ_of_lt (stands.numbered index (List.mem_append_right _ late))

theorem made (home : Connection) (origin : Script.Origin) (workspace : Workspace) :
    ((origin.make home).run workspace).1.Stands 0 [] := by
  have new (connection : Connection) :
      ((Query.new connection).run workspace).1.Stands 0 [] :=
    ⟨rfl, .nil, .nil [], nofun⟩
  obtain ⟨connection, model, table⟩ := origin
  cases model with
  | some model => exact ⟨rfl, .nil, .nil [], nofun⟩
  | none =>
      cases table with
      | none => exact new _
      | some table =>
          exact ((new (connection.getD home)).selectRaw "*").source table none

end Stands

/-- Terms are compiled and added one by one. -/
theorem Stands.addTerms {query : Query} {joins : Nat} {owners : List Owner}
    (stands : query.Stands joins owners) (clause : ListClause) {columns : List Value}
    (plain : ∀ column ∈ columns, column.isVerbatim = false) (workspace : Workspace) :
    (((Edit.addTerms clause columns).run query).run workspace).1.2.Stands joins owners := by
  induction columns generalizing query workspace with
  | nil => exact stands
  | cons column rest ih =>
      rw [List.forall_mem_cons] at plain
      let out := ((column.resolve query.connection).run query.ledger).run workspace
      have compiled : Stands { query with ledger := out.1.2 } joins owners :=
        stands.of_eq rfl stands.rest
      have term_ne := Operand.resolve_yields query.connection plain.1 query.ledger workspace
      exact ih (compiled.addTerm clause term_ne) plain.2 out.2

/-- What leads to a query keeps it formed, with its conditions led in. -/
theorem Assembled.stands {query : Query} {joins : Nat} {owners : List Owner}
    (assembled : query.Assembled joins owners) : query.Stands joins owners := by
  have digits (count : Nat) : Nat.repr count ≠ "(" := by
    refine ne_opening_of_distinctive ?_
    rw [Nat.toList_repr]
    exact .toDigits count
  induction assembled with
  | made home origin workspace => exact .made home origin workspace
  | @select query joins owners distinct columns workspace _ ih =>
      obtain ⟨ledger, ran⟩ := Script.run_resolveAll columns query workspace
      let out := ((Edit.resolveAll columns).run query).run workspace
      have compiled : out.1.2.Stands joins owners := ran ▸ ih.of_eq rfl ih.rest
      have select : isSelectKeyword (if distinct then "select distinct" else "select") = true := by
        cases distinct <;> decide
      exact compiled.addItems select (if out.1.1.isEmpty then ["*"] else out.1.1)
  | @selectAs query joins owners column label workspace _ ih =>
      let out := ((column.resolve query.connection).run query.ledger).run workspace
      have compiled : Stands { query with ledger := out.1.2 } joins owners := ih.of_eq rfl ih.rest
      exact compiled.selectRaw _
  | selectAll _ ih => exact ih.selectRaw "*"
  | source table label _ ih => exact ih.source table label
  | @sourceQuery query joins owners nested label workspace _ ih =>
      let ready : Query := { query with ledger := (query.ledger.embed nested).2 }
      have compiled : ready.Stands joins owners := ih.of_eq rfl ih.rest
      have text_ne : callText "" nested.sql ++ " as " ++ ready.escapePart label ≠ "(" :=
        ne_opening (c := ' ') (by simp) (by decide)
      exact compiled.setText (rfl : isSelectKeyword "from" = false) (by decide) text_ne
  | @join α query joins owners clauses kind table label body workspace _ new asks own ih =>
      rw [Edit.run_join]
      dsimp only
      rw [new, if_neg Bool.false_ne_true]
      exact ih.join kind (escapeAs_ne_opening query table label) asks own
  | @joinAgain α query joins owners kind table label body workspace _ joined ih =>
      rw [Edit.run_join]
      dsimp only
      rw [joined, if_pos rfl]
      exact ih
  | conditions _ asks rows ih => exact ih.conditions asks rows
  | addTerms clause workspace plain _ ih => exact ih.addTerms clause plain workspace
  | @addOrder query joins owners column descends workspace _ ih =>
      let out := ((column.resolve query.connection).run query.ledger).run workspace
      have compiled : Stands { query with ledger := out.1.2 } joins owners := ih.of_eq rfl ih.rest
      have term_ne : out.1.1 ++ (if descends then " desc" else " asc") ≠ "(" :=
        ne_opening (c := ' ') (by cases descends <;> simp) (by decide)
      exact compiled.addTerm .orderBy term_ne
  | limit count _ ih =>
      unfold Query.limit
      exact ih.setText rfl (by decide) (digits count)
  | offset count _ ih =>
      unfold Query.offset
      exact ih.setText rfl (by decide) (digits count)

/-! ### Removals -/

/-- What a removal leaves is well nested unless the fragment that it takes is a parenthesis. -/
theorem Stands.wellNested_removeClause {query : Query} {joins : Nat} {owners : List Owner}
    (stands : query.Stands joins owners) (keyword : String) :
    Fragment.WellNested (query.removeClause keyword).fragments ↔
      ∀ fragment ∈ query.fragments.find? (·.keyword == keyword),
        fragment.isParenthesis = false := by
  cases found : query.fragments.find? (·.keyword == keyword) with
  | none =>
      have absent : query.clauseIndex? keyword = none :=
        List.findIdx?_eq_none_iff.2 fun fragment mem => by
          simpa using List.find?_eq_none.1 found fragment mem
      rw [removeClause_eq_self absent]
      exact iff_of_true stands.formed.nested (by simp)
  | some fragment =>
      obtain ⟨holds, front, behind, shape, absent⟩ := List.find?_eq_some_iff_append.1 found
      obtain rfl : fragment.keyword = keyword := beq_iff_eq.1 holds
      have formed := stands.formed
      rw [shape] at formed
      rw [Gathers.fragments_removeClause shape fun other mem => by simpa using absent other mem,
        formed.removal_iff]
      simp

/--
A removal takes one word. It leaves parentheses well nested if the first fragment with the keyword
is none, and only then; and it leaves every condition led in unless it takes the first of several
conditions, and only then.
-/
theorem removeClause_leaves {query : Query} {joins : Nat} {owners : List Owner}
    (assembled : query.Assembled joins owners) (keyword : String) :
    let rest := query.removeClause keyword
    let words := Fragment.words query.fragments
    let place := words.idxOf keyword
    (Fragment.WellNested query.fragments ∧ Led [] owners words) ∧
      Fragment.words rest.fragments = words.eraseIdx place ∧
      (Fragment.WellNested rest.fragments ↔
        ∀ fragment ∈ query.fragments.find? (·.keyword == keyword),
          fragment.isParenthesis = false) ∧
      (Led [] (owners.eraseIdx place) (Fragment.words rest.fragments) ↔
        ∀ owner ∈ owners[place]?, owner.keyword = keyword → owners.count owner = 1) := by
  intro rest words place
  have stands := assembled.stands
  have erased : Fragment.words rest.fragments = words.eraseIdx place := by
    rw [words_removeClause, List.erase_eq_eraseIdx_of_idxOf rfl]
  refine ⟨⟨stands.formed.nested, stands.led⟩, erased, stands.wellNested_removeClause keyword, ?_⟩
  rw [erased, stands.led.eraseIdx_iff place]
  refine forall_congr' fun owner => forall_congr' fun mem => imp_congr_left ?_
  obtain ⟨reach, -⟩ := List.getElem?_eq_some_iff.1 mem
  have inside : place < words.length := stands.led.length ▸ reach
  rw [List.getElem?_eq_getElem inside, List.getElem_idxOf inside, Option.some.injEq, eq_comm]

/-- The only condition of a clause, which is in no group, is removed with nothing left behind. -/
theorem removeClause_leaves_single :
    let table := ((Query.table (.ofConfig {}) "t").run {}).1
    let query := (((Edit.condition .filter .and
      (.pair (.column "a") (.scalar (.int 1)))).run table).run {}).1.2
    let rest := query.removeClause "where"
    query.Assembled 0 [.filter] ∧ Fragment.WellNested rest.fragments ∧
      Led [] [] (Fragment.words rest.fragments) ∧ rest.sql = "select * from \"t\"" := by
  intro table query rest
  have plain : (Predicate.pair (.column "a") (.scalar (.int 1)) :
      Predicate Query CustomExpr).IsPlain := by
    simp [Predicate.IsPlain, Predicate.operands, Operand.isVerbatim]
  have made : table.Assembled 0 [] := .made (.ofConfig {}) { table := some "t" } {}
  have assembled : query.Assembled 0 [.filter] :=
    .conditions made (.condition .filter .and {} plain (.none table)) (by decide)
  have shape : query.fragments = [{ keyword := "select", payload := some (.items ["*"]) },
      .withText "from" "\"t\"", .withText "where" "\"a\" = :p1_0"] := by decide +kernel
  obtain ⟨-, -, nested, led⟩ := removeClause_leaves assembled "where"
  refine ⟨assembled, nested.2 ?_, ?_, by decide +kernel⟩
  · rw [shape]
    decide
  · rw [shape] at led
    exact led.2 (by decide)

/-- A group of two conditions loses its opening and the first of them; the connective and the end of
the group stay. -/
theorem removeClause_leaves_group :
    let table := ((Query.table (.ofConfig {}) "t").run {}).1
    let body : Edit Unit := do
      Edit.filter (.pair (.column "a") (.scalar (.int 1)))
      Edit.filter (.pair (.column "b") (.scalar (.int 2)))
    let query := (((Edit.conditionGroup .and body).run table).run {}).1.2
    let rest := query.removeClause "where"
    query.Assembled 0 [.filter, .filter] ∧ ¬Fragment.WellNested rest.fragments ∧
      ¬Led [] [.filter] (Fragment.words rest.fragments) ∧
      query.sql = "select * from \"t\" where (\"a\" = :p1_0 and \"b\" = :p1_1)" ∧
      rest.sql = "select * from \"t\" and \"b\" = :p1_1)" := by
  intro table body query rest
  have plain (column : String) (value : Scalar) : (Predicate.pair (.column column)
      (.scalar value) : Predicate Query CustomExpr).IsPlain := by
    simp [Predicate.IsPlain, Predicate.operands, Operand.isVerbatim]
  have made : table.Assembled 0 [] := .made (.ofConfig {}) { table := some "t" } {}
  have filled : (table.openGroup .and).Asks ([.filter] ++ [.filter])
      ((body.run (table.openGroup .and)).run {}).1.2 :=
    .condition .filter .and _ (plain "b" (.int 2))
      (.condition .filter .and {} (plain "a" (.int 1)) (.none _))
  have assembled : query.Assembled 0 [.filter, .filter] :=
    .conditions made (.group .and body {} (.none table) filled) (by decide)
  have left : rest.fragments = [{ keyword := "select", payload := some (.items ["*"]) },
      .withText "from" "\"t\"", .withText "and" "\"b\" = :p1_1", .token ")"] := by
    decide +kernel
  refine ⟨assembled, ?_, ?_, by decide +kernel, by decide +kernel⟩
  · rw [left]
    decide
  · have words : Fragment.words rest.fragments = [Connective.and.keyword] := by
      rw [left]
      decide
    rw [words]
    intro led
    generalize word : Connective.and.keyword = text at led
    cases led with
    | first _ _ => exact absurd word (by decide)
    | next _ present _ => exact absurd present List.not_mem_nil

end Query

end SqlBuilder
