import Mathlib.Data.List.TakeWhile
import SqlBuilder.Proofs.Nesting.Compile
import SqlBuilder.Proofs.Nesting.Fragment
import SqlBuilder.Proofs.Query.ConditionTree
import SqlBuilder.Query.Mutation

/-!
# Queries with balanced fragments

What keeps the fragments of a query balanced. Outside callbacks a query is sealed: its fragments are
balanced, and new ones go to the end. A clause that is changed, replaced or removed is no
parenthesis, so its fragments belong to no group, and whatever takes their place is balanced.

Inside a callback the parenthesis of a group is still open, so the fragments are not balanced. What
counts there is what has been added since: conditions and groups of them, in one block at the place
where fragments are added. Such a block is balanced by itself, and a parenthesis around it closes.
-/

namespace SqlBuilder

variable {dialect : Dialect}

/-! ### Places of clauses -/

/-- The keywords of parentheses, with those that they take over from conditions. -/
def groupKeywords : List String := ")" :: "(" :: "" :: Fragment.conditionKeywords

theorem exists_append_of_findIdx? {fragments : List Fragment} {test : Fragment → Bool} {place : Nat}
    (found : fragments.findIdx? test = some place) :
    ∃ before fragment after, fragments = before ++ fragment :: after ∧ before.length = place ∧
      test fragment = true := by
  rcases List.findIdx?_eq_some_iff_getElem.1 found with ⟨inside, holds, -⟩
  refine ⟨fragments.take place, fragments[place], fragments.drop (place + 1), ?_, ?_, holds⟩
  · rw [List.getElem_cons_drop, List.take_append_drop]
  · simp only [List.length_take]
    omega

theorem modify_append_length {α : Type} (before after : List α) (item : α) (change : α → α) :
    (before ++ item :: after).modify before.length change = before ++ change item :: after :=
  modify_append_length_add before (item :: after) 0 change

theorem insertIdx_append_length {α : Type} (before after : List α) (item : α) :
    (before ++ after).insertIdx before.length item = before ++ item :: after := by
  induction before with
  | nil => simp
  | cons first rest ih => simpa using ih

theorem drop_length_takeWhile {α : Type} (test : α → Bool) (items : List α) :
    items.drop (items.takeWhile test).length = items.dropWhile test := by
  have parts := List.takeWhile_append_dropWhile (p := test) (l := items)
  calc items.drop (items.takeWhile test).length
      = (items.takeWhile test ++ items.dropWhile test).drop (items.takeWhile test).length := by
        rw [parts]
    _ = items.dropWhile test := List.drop_left

theorem eraseIdx_append_length {α : Type} (before after : List α) (item : α) :
    (before ++ item :: after).eraseIdx before.length = before ++ after := by
  simp [List.eraseIdx_append_of_length_le]

namespace Balanced

variable {before run after fragments : List Fragment} {fragment : Fragment}

/-- Clauses are no parentheses. -/
theorem closed_of_mem (balanced : Balanced dialect fragments) (mem : fragment ∈ fragments)
    (clause : fragment.keyword ∉ groupKeywords) : fragment.Closed dialect := by
  rcases balanced.levels.cases_of_mem mem with closed | opens | rfl
  · exact closed
  · exact absurd (List.mem_cons_of_mem _ opens.keyword_mem) clause
  · exact absurd List.mem_cons_self clause

/-- What goes on with a clause belongs to no group. -/
theorem closed_of_continues (balanced : Balanced dialect (before ++ fragment :: (run ++ after)))
    (closed : fragment.Closed dialect) (continues : ∀ next ∈ run, next.isContinuation = true) :
    ∀ next ∈ run, next.Closed dialect := by
  induction run generalizing before fragment with
  | nil => simp
  | cons next rest ih =>
      simp only [List.mem_cons, forall_eq_or_imp] at continues ⊢
      have notInner : next ≠ .inner := by
        have head := balanced.head?_ne_inner closed.not_opens
        simpa using head
      have word : next.keyword = "" ∨ next.keyword = "," := by
        simpa [Fragment.isContinuation] using continues.1
      have closed' : next.Closed dialect := by
        have present : next ∈ before ++ fragment :: (next :: rest ++ after) := by simp
        rcases balanced.levels.cases_of_mem present with closed | opens | rfl
        · exact closed
        · cases opens with
          | token => exact absurd word (by decide)
          | under mem =>
              rcases word with empty | comma
              · exact absurd (congrArg (Fragment.withText · "(") empty) notInner
              · simp only [Fragment.withText] at comma
                rw [comma] at mem
                exact absurd mem (by decide)
        · exact absurd word (by decide)
      have moved : Balanced dialect ((before ++ [fragment]) ++ next :: (rest ++ after)) := by
        simpa using balanced
      exact ⟨closed', ih moved closed' continues.2⟩

/-- Behind a row of fragments that belong to no group there is no opening without a keyword. -/
theorem ends_of_row (balanced : Balanced dialect (before ++ fragment :: (run ++ after)))
    (row : ∀ next ∈ fragment :: run, next.Closed dialect) : after.head? ≠ some .inner := by
  induction run generalizing before fragment with
  | nil => exact balanced.head?_ne_inner (row fragment List.mem_cons_self).not_opens
  | cons next rest ih =>
      have moved : Balanced dialect ((before ++ [fragment]) ++ next :: (rest ++ after)) := by
        simpa using balanced
      exact ih moved fun other mem => row other (List.mem_cons_of_mem _ mem)

/-- A clause is replaced. -/
theorem replace (balanced : Balanced dialect (before ++ fragment :: after))
    (closed : fragment.Closed dialect) {replacement : Fragment}
    (replaced : replacement.Closed dialect) :
    Balanced dialect (before ++ replacement :: after) := by
  have one : Balanced dialect (before ++ ([fragment] ++ after)) := balanced
  have each : ∀ other ∈ [fragment], other.Closed dialect := by
    intro other mem
    rw [List.mem_singleton.1 mem]
    exact closed
  exact one.splice each (.singleton replaced) (balanced.head?_ne_inner closed.not_opens)

/-- A clause is changed in its place. -/
theorem modify {test : Fragment → Bool} {place : Nat} (change : Fragment → Fragment)
    (balanced : Balanced dialect fragments) (found : fragments.findIdx? test = some place)
    (clause : ∀ fragment, test fragment = true → fragment.keyword ∉ groupKeywords)
    (changed : ∀ fragment : Fragment, test fragment = true → fragment.Closed dialect →
      (change fragment).Closed dialect) :
    Balanced dialect (fragments.modify place change) := by
  rcases exists_append_of_findIdx? found with ⟨before, fragment, after, rfl, rfl, holds⟩
  have closed := balanced.closed_of_mem (by simp) (clause fragment holds)
  rw [modify_append_length]
  exact balanced.replace closed (changed fragment holds closed)

/-- A fragment goes in front of a clause. -/
theorem insertIdx {test : Fragment → Bool} {place : Nat} (balanced : Balanced dialect fragments)
    (found : fragments.findIdx? test = some place)
    (clause : ∀ fragment, test fragment = true → fragment.keyword ≠ "")
    (closed : fragment.Closed dialect) :
    Balanced dialect (fragments.insertIdx place fragment) := by
  rcases exists_append_of_findIdx? found with ⟨before, next, after, rfl, rfl, holds⟩
  rw [insertIdx_append_length]
  refine balanced.insert (.singleton closed) ?_
  rintro ⟨⟩
  exact clause _ holds rfl

/-- A clause is removed with what goes on with it. -/
theorem remove {behind : List Fragment}
    (balanced : Balanced dialect (before ++ fragment :: behind))
    (closed : fragment.Closed dialect) :
    Balanced dialect (before ++ behind.dropWhile (·.isContinuation)) := by
  have parts := List.takeWhile_append_dropWhile (p := (·.isContinuation)) (l := behind)
  have row : Balanced dialect (before ++ (fragment :: behind.takeWhile (·.isContinuation) ++
      behind.dropWhile (·.isContinuation))) := by
    rwa [List.cons_append, parts]
  have others := row.closed_of_continues closed fun _ mem => List.mem_takeWhile_imp mem
  have ends : (behind.dropWhile (·.isContinuation)).head? ≠ some .inner := by
    intro same
    have stops := List.head?_dropWhile_not (·.isContinuation) behind
    rw [same] at stops
    exact absurd stops (by decide)
  exact row.splice (by simpa using ⟨closed, others⟩) .nil ends

/-- A row of fragments gets longer. Its first fragment may be marked. -/
theorem extendRow {behind : List Fragment} {test : Fragment → Bool} {marked added : Fragment}
    (balanced : Balanced dialect (before ++ fragment :: behind))
    (closed : fragment.Closed dialect) (closed' : marked.Closed dialect)
    (listed : ∀ next, test next = true → next.isContinuation = true)
    (more : added.Closed dialect) :
    Balanced dialect ((before ++ marked :: behind).insertIdx
      (before.length + 1 + (behind.takeWhile test).length) added) := by
  have parts := List.takeWhile_append_dropWhile (p := test) (l := behind)
  have continues : ∀ next ∈ behind.takeWhile test, next.isContinuation = true := by
    intro next mem
    exact listed next (List.mem_takeWhile_imp mem)
  generalize behind.takeWhile test = run at parts continues ⊢
  generalize behind.dropWhile test = after at parts
  rw [← parts] at balanced ⊢
  have others := balanced.closed_of_continues closed continues
  have row : ∀ next ∈ fragment :: run, next.Closed dialect := by simpa using ⟨closed, others⟩
  have longer : ∀ next ∈ marked :: (run ++ [added]), next.Closed dialect := by
    simp only [List.mem_cons, List.mem_append, List.not_mem_nil, or_false]
    rintro next (rfl | mem | rfl)
    · exact closed'
    · exact others next mem
    · exact more
  have place : before.length + 1 + run.length = (before ++ marked :: run).length := by
    simp only [List.length_append, List.length_cons]
    omega
  have placed : (before ++ marked :: (run ++ after)).insertIdx (before.length + 1 + run.length)
      added = before ++ (marked :: (run ++ [added]) ++ after) := by
    have front : before ++ marked :: (run ++ after) = (before ++ marked :: run) ++ after := by simp
    rw [front, place, insertIdx_append_length]
    simp
  rw [placed]
  have whole : Balanced dialect (before ++ (fragment :: run ++ after)) := balanced
  exact whole.splice row (.of_closed longer) (balanced.ends_of_row row)

end Balanced

theorem isSelectKeyword_clause {keyword : String} (select : isSelectKeyword keyword = true) :
    keyword ∉ groupKeywords := by
  simp only [isSelectKeyword, Bool.or_eq_true, beq_iff_eq] at select
  rcases select with rfl | rfl
  · decide
  · decide

namespace Query

/-- Whether the fragments of a query are balanced and new ones go to the end. -/
structure Sealed (dialect : Dialect) (query : Query) : Prop where
  speaks : query.connection.Speaks dialect
  balanced : Balanced dialect query.fragments
  cursor : query.cursor = none

variable {query other changed : Query}

/-! ### Texts of a query -/

theorem closed_columnSeparator (speaks : query.connection.Speaks dialect) :
    dialect.Closed query.columnSeparator := by
  unfold columnSeparator
  rw [speaks]
  exact dialect.closed_columnSeparator

theorem closed_escape (speaks : query.connection.Speaks dialect) (name : String) :
    dialect.Closed (query.escape name) := by
  unfold escape
  rw [speaks]
  exact dialect.closed_escapeIdentifier name

theorem closed_escapePart (speaks : query.connection.Speaks dialect) (name : String) :
    dialect.Closed (query.escapePart name) := by
  unfold escapePart
  rw [speaks]
  exact dialect.closed_escapePart name

theorem closed_escapeAs (speaks : query.connection.Speaks dialect) (name : String)
    (label : Option String) : dialect.Closed (query.escapeAs name label) := by
  cases label with
  | none => exact closed_escape speaks name
  | some label =>
      have word : dialect.Closed " as " := .of_all (by decide)
      exact ((closed_escape speaks name).append word).append (closed_escapePart speaks label)

theorem closed_nameList (speaks : query.connection.Speaks dialect) (names : List String) :
    dialect.Closed (query.nameList names) := by
  refine .intercalate (closed_columnSeparator speaks) ?_
  intro text mem
  rcases List.mem_map.1 mem with ⟨name, -, rfl⟩
  exact closed_escape speaks name

namespace Sealed

variable (closed : query.Sealed dialect)

include closed

theorem sql : dialect.Closed query.sql :=
  closed.balanced.render (closed_columnSeparator closed.speaks)

/-- Nothing but the fragments and the cursor matters. -/
theorem congr (connection : changed.connection = query.connection)
    (fragments : changed.fragments = query.fragments) (cursor : changed.cursor = query.cursor) :
    changed.Sealed dialect where
  speaks := by
    rw [Connection.Speaks, connection]
    exact closed.speaks
  balanced := by
    rw [fragments]
    exact closed.balanced
  cursor := by
    rw [cursor]
    exact closed.cursor

theorem insert {fragment : Fragment} (added : fragment.Closed dialect) :
    (query.insert fragment).Sealed dialect := by
  rw [insert_of_cursor_eq_none closed.cursor]
  exact ⟨closed.speaks, closed.balanced.append (.singleton added), closed.cursor⟩

theorem insertToken {keyword : String} (word : dialect.Closed keyword) :
    (query.insertToken keyword).Sealed dialect :=
  closed.insert (.token word)

omit closed in
theorem closed_mergeItems {present incoming : List String}
    (each : ∀ item ∈ present, dialect.Closed item) (more : ∀ item ∈ incoming, dialect.Closed item) :
    ∀ item ∈ mergeItems present incoming, dialect.Closed item := by
  intro item mem
  rcases Twin.mem_mergeItems mem with mem | mem
  · exact each item mem
  · exact more item mem

omit closed in
theorem closed_mergeSelect {keyword : String} {payload : Option Payload} {fragment : Fragment}
    (word : dialect.Closed keyword)
    (items : ∀ given ∈ payload, ∀ item ∈ given.toItems, dialect.Closed item)
    (present : fragment.Closed dialect) :
    (mergeSelect keyword payload fragment).Closed dialect := by
  have listed {payload : Option Payload}
      (items : ∀ given ∈ payload, ∀ item ∈ given.toItems, dialect.Closed item) :
      ∀ item ∈ (payload.map (·.toItems)).getD [], dialect.Closed item := by
    cases payload with
    | none => simp
    | some payload => simpa using items payload rfl
  refine ⟨.ite present.keyword word, ?_, present.separator⟩
  intro payload' mem
  unfold mergeSelect at mem
  dsimp only at mem
  split at mem
  · exact present.items payload' mem
  · cases mem
    exact closed_mergeItems (listed present.items) (listed items)

theorem add {fragment : Fragment} (added : fragment.Closed dialect) :
    (query.add fragment).Sealed dialect := by
  unfold Query.add
  split
  · split
    · rename_i place _ found
      have changed := closed.balanced.modify _ found
        (fun _ select => isSelectKeyword_clause select)
        (fun _ _ present => closed_mergeSelect added.keyword added.items present)
      exact ⟨closed.speaks, changed, closed.cursor⟩
    · rename_i place _ found
      have clause : ∀ next : Fragment, (next.keyword == "from") = true → next.keyword ≠ "" := by
        intro next same
        rw [beq_iff_eq.1 same]
        decide
      have inserted := closed.balanced.insertIdx found clause added
      exact ⟨closed.speaks, inserted, by simp [closed.cursor]⟩
    · exact closed.insert added
  · exact closed.insert added

theorem addText {keyword text : String} (word : dialect.Closed keyword)
    (body : dialect.Closed text) :
    (query.addText keyword text).Sealed dialect :=
  closed.add (.withText word body)

theorem addTerm {keyword term : String} (word : dialect.Closed keyword)
    (body : dialect.Closed term) : (query.addTerm keyword term).Sealed dialect :=
  closed.addText (.ite (.of_all (by decide)) word) body

theorem setText {keyword text : String} (clause : keyword ∉ groupKeywords)
    (word : dialect.Closed keyword) (body : dialect.Closed text) :
    (query.setText keyword text).Sealed dialect := by
  unfold Query.setText
  split
  · rename_i place found
    have changed := closed.balanced.modify (fun fragment : Fragment =>
        { fragment with payload := some (.text text) }) found
      (fun fragment same => by rwa [beq_iff_eq.1 same])
      (fun fragment _ present => by
        refine ⟨present.keyword, ?_, present.separator⟩
        rintro _ ⟨⟩ item mem
        rw [List.mem_singleton.1 mem]
        exact body)
    exact ⟨closed.speaks, changed, closed.cursor⟩
  · exact closed.addText word body

theorem limit (count : Nat) : (query.limit count).Sealed dialect :=
  closed.setText (by decide) (.of_all (by decide)) (.natural count)

theorem offset (count : Nat) : (query.offset count).Sealed dialect :=
  closed.setText (by decide) (.of_all (by decide)) (.natural count)

theorem paginate (request : PageRequest) : (query.paginate request).Sealed dialect :=
  (closed.limit _).offset _

theorem source (table : String) (label : Option String) :
    (query.source table label).Sealed dialect :=
  closed.setText (by decide) (.of_all (by decide)) (closed_escapeAs closed.speaks table label)

theorem selectRaw {sql : String} (body : dialect.Closed sql) :
    (query.selectRaw sql).Sealed dialect := by
  refine closed.add (.withItems (.of_all (by decide)) ?_)
  intro item mem
  rw [List.mem_singleton.1 mem]
  exact body

/-- A clause is removed with what goes on with it. -/
theorem removeClause {keyword : String} (clause : keyword ∉ groupKeywords) :
    (query.removeClause keyword).Sealed dialect := by
  unfold Query.removeClause
  split
  · exact closed
  · rename_i place found
    refine ⟨closed.speaks, ?_, by simp [closed.cursor]⟩
    rcases exists_append_of_findIdx? found with ⟨before, fragment, behind, shape, rfl, holds⟩
    have balanced := closed.balanced
    rw [shape] at balanced
    have own : fragment.Closed dialect := by
      apply balanced.closed_of_mem (by simp)
      rwa [beq_iff_eq.1 holds]
    have removed := balanced.remove own
    have left (count : Nat) :
        query.fragments.drop (before.length + (1 + count)) = behind.drop count := by
      rw [shape, ← List.drop_drop, List.drop_left, Nat.add_comm, List.drop_succ_cons]
    have behind_eq : query.fragments.drop (before.length + 1) = behind := left 0
    have front : query.fragments.take before.length = before := by
      rw [shape, List.take_left]
    simp only [left, behind_eq, front, drop_length_takeWhile]
    exact removed

theorem withoutPaging : query.withoutPaging.Sealed dialect :=
  ((closed.removeClause (by decide)).removeClause (by decide)).removeClause (by decide)

theorem withSelectList {item : String} (body : dialect.Closed item)
    (replaced : query.withSelectList item = .ok changed) : changed.Sealed dialect := by
  unfold Query.withSelectList Query.replaceClause at replaced
  split at replaced
  · cases replaced
  · rename_i place found
    cases replaced
    have modified := closed.balanced.modify (fun fragment : Fragment =>
        { keyword := fragment.keyword, payload := some (.items [item]) }) found
      (fun fragment same => by
        rw [beq_iff_eq.1 same]
        decide)
      (fun fragment _ present => by
        refine .withItems present.keyword ?_
        intro other mem
        rw [List.mem_singleton.1 mem]
        exact body)
    exact ⟨closed.speaks, modified, closed.cursor⟩

/-- The new common table goes in front, or behind a row of fragments that belong to no group. -/
theorem addCommonTable (isRecursive : Bool) {text : String} (body : dialect.Closed text) :
    (query.addCommonTable isRecursive text).Sealed dialect := by
  have word : dialect.Closed (if isRecursive then "with recursive" else "with") :=
    .ite (.of_all (by decide)) (.of_all (by decide))
  have comma : dialect.Closed "," := .of_all (by decide)
  unfold Query.addCommonTable
  dsimp only
  split
  · rename_i place found
    refine ⟨closed.speaks, ?_, by simp [insertAt, shiftCursor, closed.cursor]⟩
    rcases exists_append_of_findIdx? found with ⟨before, fragment, behind, shape, rfl, holds⟩
    have balanced := closed.balanced
    rw [shape] at balanced
    have own : fragment.Closed dialect := by
      apply balanced.closed_of_mem (by simp)
      simp only [Bool.or_eq_true, beq_iff_eq] at holds
      rcases holds with same | same
      · rw [same]
        decide
      · rw [same]
        decide
    have behind_eq : query.fragments.drop (before.length + 1) = behind := by
      rw [shape, ← List.drop_drop, List.drop_left]
      rfl
    have listed : ∀ next : Fragment, (next.keyword == ",") = true → next.isContinuation = true := by
      intro next same
      simp [Fragment.isContinuation, beq_iff_eq.1 same]
    simp only [insertAt, shiftCursor, behind_eq]
    cases isRecursive with
    | false =>
        have extended := balanced.extendRow own own listed (.withText comma body)
        simp only [Bool.false_eq_true, if_false, shape]
        exact extended
    | true =>
        have marked : Fragment.Closed dialect { fragment with keyword := "with recursive" } :=
          ⟨word, own.items, own.separator⟩
        have extended := balanced.extendRow own marked listed (.withText comma body)
        simp only [if_true, shape, modify_append_length]
        exact extended
  · refine ⟨closed.speaks, ?_, by simp [insertAt, shiftCursor, closed.cursor]⟩
    have whole : Balanced dialect ([] ++ query.fragments) := closed.balanced
    exact whole.insert (.singleton (.withText word body)) closed.balanced.starts

theorem foldl_insert {fragments : List Fragment} (block : Balanced dialect fragments) :
    (fragments.foldl Query.insert query).Sealed dialect := by
  have joined : ∀ (fragments : List Fragment) (query : Query), query.cursor = none →
      (fragments.foldl Query.insert query).fragments = query.fragments ++ fragments ∧
        (fragments.foldl Query.insert query).cursor = none ∧
        (fragments.foldl Query.insert query).connection = query.connection := by
    intro fragments
    induction fragments with
    | nil => intro query cursor; exact ⟨by simp, cursor, rfl⟩
    | cons fragment rest ih =>
        intro query cursor
        rw [List.foldl_cons, insert_of_cursor_eq_none cursor]
        have others := ih { query with
          fragments := query.fragments ++ [fragment]
          currentClause := query.clauseAfter fragment.keyword } cursor
        simpa using others
  rcases joined fragments query closed.cursor with ⟨fragments, cursor, connection⟩
  refine ⟨?_, ?_, cursor⟩
  · rw [Connection.Speaks, connection]
    exact closed.speaks
  · rw [fragments]
    exact closed.balanced.append block

theorem merge (other_closed : other.Sealed dialect) : (query.merge other).Sealed dialect :=
  (closed.foldl_insert other_closed.balanced).congr rfl rfl rfl

theorem union (keepsDuplicates : Bool) (other_closed : other.Sealed dialect) :
    (query.union keepsDuplicates other).Sealed dialect :=
  (closed.insertToken (.ite (.of_all (by decide)) (.of_all (by decide)))).merge other_closed

end Sealed

end Query

end SqlBuilder
