import SqlBuilder.Proofs.Query.Condition
import SqlBuilder.Proofs.Script.Reachable

/-!
# Trees of conditions

What a sequence of conditions and groups of conditions, nested to any depth, is meant to add to a
query. The tree of the compiled texts determines the fragments by itself: groups without a condition
vanish, and the keyword of the first item inside a parenthesis stands in front of that parenthesis.

Running the calls gives the same fragments by other means: a pending connective that groups hand
down, a look at the clauses that are there, and a keyword that is pulled out of one group after the
other. The proof follows the tree; what carries it is `Query.firstKeyword`, the keyword that the
state of the query forces onto the next condition.
-/

namespace SqlBuilder

/-- Conditions on the rows as they are asked for. -/
inductive ConditionTree where
  | condition (connective : Connective) (predicate : Predicate Query CustomExpr)
  /-- Membership in a list of values, or its opposite. -/
  | membership (negated : Bool) (lhs : Value) (values : List Value)
  | group (connective : Connective) (items : List ConditionTree)

/-- Conditions on the rows with their texts. -/
inductive TextTree where
  | leaf (connective : Connective) (text : String)
  | group (connective : Connective) (items : List TextTree)

namespace TextTree

mutual

/-- Whether there is a condition at any depth. -/
def survives : TextTree → Bool
  | .leaf _ _ => true
  | .group _ items => anySurvives items

/-- Whether one of the items has a condition at any depth. -/
def anySurvives : List TextTree → Bool
  | [] => false
  | item :: rest => item.survives || anySurvives rest

end

mutual

/-- The connective of an item: its own, or that of the first condition of a plain group. -/
def connective : TextTree → Connective
  | .leaf connective _ => connective
  | .group .or _ => .or
  | .group .and items => firstConnective items

/-- The connective of the first item that has a condition. -/
def firstConnective : List TextTree → Connective
  | [] => .and
  | item :: rest => if item.survives then item.connective else firstConnective rest

end

mutual

/-- The fragments of an item under a keyword. -/
def fragments (keyword : String) : TextTree → List Fragment
  | .leaf _ text => [.withText keyword text]
  | .group _ items => .withText keyword "(" :: (fragmentsAll (some "") items ++ [.token ")"])

/-- The fragments of the items that have a condition; `first` is the keyword of the first of them,
which has its own connective if there is none. -/
def fragmentsAll (first : Option String) : List TextTree → List Fragment
  | [] => []
  | item :: rest =>
    if item.survives then
      item.fragments (first.getD item.connective.keyword) ++ fragmentsAll none rest
    else fragmentsAll first rest

end

theorem fragmentsAll_eq_nil {first : Option String} {items : List TextTree}
    (none : anySurvives items = false) : fragmentsAll first items = [] := by
  induction items with
  | nil => rfl
  | cons item rest ih =>
      simp only [anySurvives, Bool.or_eq_false_iff] at none
      simp [fragmentsAll, none.1, ih none.2]

/-- Only the first fragment depends on the keyword of the first item. -/
theorem exists_fragmentsAll_eq_cons {items : List TextTree} (some : anySurvives items = true) :
    ∃ (first : Fragment) (rest : List Fragment), ∀ keyword : Option String,
      fragmentsAll keyword items =
        { first with keyword := keyword.getD (firstConnective items).keyword } :: rest := by
  induction items with
  | nil => simp [anySurvives] at some
  | cons item rest ih =>
      cases survives : item.survives with
      | true =>
          cases item with
          | leaf connective text =>
              exact ⟨.withText "" text, fragmentsAll none rest, fun keyword => by
                simp [fragmentsAll, firstConnective, survives, fragments, Fragment.withText]⟩
          | group connective items =>
              exact ⟨.withText "" "(", fragmentsAll (Option.some "") items ++
                [.token ")"] ++ fragmentsAll none rest, fun keyword => by
                simp [fragmentsAll, firstConnective, survives, fragments, Fragment.withText]⟩
      | false =>
          have some : anySurvives rest = true := by
            simpa [anySurvives, survives] using some
          simpa [fragmentsAll, firstConnective, survives] using ih some

end TextTree

/-- The predicate of a membership in a list. No value is in the empty list. -/
def Predicate.membership {Nested Custom : Type} (negated : Bool) (lhs : Operand Nested Custom)
    (values : List (Operand Nested Custom)) : Predicate Nested Custom :=
  if values.isEmpty then .raw (if negated then "1 = 1" else "1 = 0")
  else .inList negated lhs values

namespace ConditionTree

mutual

/-- Makes the calls that ask for the conditions of an item. -/
def run : ConditionTree → Edit Unit
  | .condition connective predicate => Edit.condition .filter connective predicate
  | .membership negated lhs values => Edit.filterIn negated lhs values
  | .group connective items => Edit.conditionGroup connective (runAll items)

/-- Makes the calls for the items in order. -/
def runAll : List ConditionTree → Edit Unit
  | [] => return
  | item :: rest => do
    item.run
    runAll rest

end

mutual

/-- Compiles the predicates of an item from left to right. -/
def compile (connection : Connection) : ConditionTree → Compile TextTree
  | .condition connective predicate =>
    return .leaf connective (← predicate.compile connection)
  | .membership negated lhs values =>
    return .leaf .and (← (Predicate.membership negated lhs values).compile connection)
  | .group connective items => return .group connective (← compileAll connection items)

/-- Compiles the predicates of items from left to right. -/
def compileAll (connection : Connection) : List ConditionTree → Compile (List TextTree)
  | [] => return []
  | item :: rest => do
    let tree ← item.compile connection
    return tree :: (← compileAll connection rest)

end

mutual

/-- The predicates of an item in order. -/
def predicates : ConditionTree → List (Predicate Query CustomExpr)
  | .condition _ predicate => [predicate]
  | .membership negated lhs values => [.membership negated lhs values]
  | .group _ items => predicatesAll items

/-- The predicates of items in order. -/
def predicatesAll : List ConditionTree → List (Predicate Query CustomExpr)
  | [] => []
  | item :: rest => item.predicates ++ predicatesAll rest

end

end ConditionTree

/-- A place behind a list is a place of what follows the list. -/
theorem modify_append_length_add {α : Type} (before after : List α) (i : Nat) (change : α → α) :
    (before ++ after).modify (before.length + i) change = before ++ after.modify i change := by
  induction before with
  | nil => simp
  | cons first rest ih =>
      simpa [Nat.add_right_comm _ 1 i] using ih

theorem ConditionClause.keyword_mem {clause : ConditionClause} (rows : clause ≠ .join) :
    clause.keyword ∈ ["where", "having"] := by
  cases clause with
  | join => exact absurd rfl rows
  | filter => exact List.mem_cons_self
  | groupFilter => exact List.mem_cons_of_mem _ List.mem_cons_self

namespace Query

variable (query : Query)

/-- The keyword that the state of the query forces onto the next condition on the rows. -/
def firstKeyword : Option String :=
  if query.hasClause "where" then query.pending.map Connective.keyword else some "where"

variable {query}

/-- Without a cursor fragments are added at the end. -/
theorem insert_of_cursor_eq_none (cursor : query.cursor = none) (fragment : Fragment) :
    query.insert fragment =
      { query with
        fragments := query.fragments ++ [fragment]
        currentClause := query.clauseAfter fragment.keyword } := by
  simp [insert, insertionPoint, cursor]

theorem addText_of_cursor_eq_none (cursor : query.cursor = none) {keyword : String}
    (notSelect : isSelectKeyword keyword = false) (text : String) :
    query.addText keyword text =
      { query with
        fragments := query.fragments ++ [.withText keyword text]
        currentClause := query.clauseAfter keyword } := by
  simp [addText, add, notSelect, insert_of_cursor_eq_none cursor, Fragment.withText]

/-- The query with the fragments of a forest of conditions behind its own. -/
def withConditions (query : Query) (texts : List TextTree) (ledger : Ledger)
    (currentClause : Option String) : Query :=
  { query with
    ledger
    fragments := query.fragments ++ TextTree.fragmentsAll query.firstKeyword texts
    pending := if TextTree.anySurvives texts then none else query.pending
    currentClause }

theorem openGroup_eq (cursor : query.cursor = none) (connective : Connective) :
    query.openGroup connective =
      { query with
        fragments := query.fragments ++ [.token "("]
        pending := if connective = Connective.or then some Connective.or else query.pending } := by
  unfold openGroup insertToken
  rw [insert_of_cursor_eq_none (by exact cursor)]
  rfl

/-- An opening parenthesis behind which nothing was added is removed. -/
theorem closeGroup_of_empty (cursor : query.cursor = none) {base : List Fragment}
    (fragments : query.fragments = base ++ [.token "("]) :
    query.closeGroup true base.length (base.length + 1) = { query with fragments := base } := by
  simp [closeGroup, fragments, dropOpening, cursor, List.eraseIdx_append_of_length_le]

/-- The keyword of the first fragment inside moves in front of the opening parenthesis. -/
theorem closeGroup_of_cons (cursor : query.cursor = none) {base rest : List Fragment}
    {first : Fragment} (pulled : first.keyword ∉ ["", "(", ")", ","])
    (fragments : query.fragments = base ++ .token "(" :: first :: rest) :
    query.closeGroup true base.length (base.length + 1) =
      { query with
        fragments := base ++ .withText first.keyword "(" :: { first with keyword := "" } ::
          (rest ++ [.token ")"]) } := by
  have grown : query.fragments.length ≠ base.length + 1 := by simp [fragments]
  have pull : query.pullKeyword base.length =
      { query with
        fragments := base ++
          .withText first.keyword "(" :: { first with keyword := "" } :: rest } := by
    have behind : query.fragments[base.length + 1]? = some first := by
      simp [fragments]
    have kept : ["", "(", ")", ","].contains first.keyword = false := by
      simpa using pulled
    unfold pullKeyword
    rw [behind]
    dsimp only
    rw [kept, if_neg Bool.false_ne_true, fragments, modify_append_length_add]
    exact congrArg (fun fragments => { query with fragments })
      (modify_append_length_add base _ 0 _)
  rw [closeGroup, if_neg grown, if_pos rfl, pull, insertToken,
    insert_of_cursor_eq_none (by exact cursor)]
  have short : ¬1 < ")".utf8ByteSize := by decide
  simp [clauseAfter, Fragment.token, short]

/-- Behind a condition the next one has its own connective. -/
theorem firstKeyword_withConditions (texts : List TextTree) (ledger : Ledger)
    (clause : Option String) :
    (query.withConditions texts ledger clause).firstKeyword =
      if TextTree.anySurvives texts then none else query.firstKeyword := by
  cases survives : TextTree.anySurvives texts with
  | false =>
      simp [firstKeyword, withConditions, hasClause, survives,
        TextTree.fragmentsAll_eq_nil survives]
  | true =>
      obtain ⟨first, rest, added⟩ := TextTree.exists_fragmentsAll_eq_cons survives
      have filtered : (query.withConditions texts ledger clause).hasClause "where" = true := by
        cases before : query.hasClause "where" with
        | true =>
            simp only [hasClause] at before
            simp [hasClause, withConditions, before]
        | false =>
            have forced : query.firstKeyword = some "where" := by simp [firstKeyword, before]
            simp [hasClause, withConditions, forced, added]
      rw [firstKeyword, filtered]
      simp [withConditions, survives]

/-- Two forests in a row are one forest. -/
theorem withConditions_cons (tree : TextTree) (rest : List TextTree) (ledger ledger' : Ledger)
    (clause clause' : Option String) :
    (query.withConditions [tree] ledger clause).withConditions rest ledger' clause' =
      query.withConditions (tree :: rest) ledger' clause' := by
  have first := query.firstKeyword_withConditions [tree] ledger clause
  unfold withConditions at first ⊢
  rw [first]
  cases survives : tree.survives <;>
    simp [TextTree.anySurvives, TextTree.fragmentsAll, survives]

theorem firstKeyword_getD (connective : Connective) :
    query.firstKeyword.getD connective.keyword = (query.nextKeyword .filter connective).1 := by
  unfold firstKeyword nextKeyword
  cases h : query.hasClause "where" <;> cases p : query.pending <;>
    simp [hasCondition, ConditionClause.keyword, h]

/-- A condition starts with the keyword of its clause or with a connective. -/
theorem nextKeyword_mem (clause : ConditionClause) (connective : Connective) :
    (query.nextKeyword clause connective).1 ∈ [clause.keyword, "and", "or"] := by
  unfold nextKeyword
  cases query.hasCondition clause with
  | false => exact List.mem_cons_self
  | true => cases query.pending.getD connective <;> simp [Connective.keyword]

theorem hasCondition_eq {clause : ConditionClause} (rows : clause ≠ .join) (query : Query) :
    query.hasCondition clause = query.hasClause clause.keyword := by
  cases clause with
  | join => exact absurd rfl rows
  | filter => rfl
  | groupFilter => rfl

/-- The keyword of a condition on rows or on groups of rows. -/
theorem nextKeyword_rows_mem {clause : ConditionClause} (rows : clause ≠ .join) (query : Query)
    (connective : Connective) :
    (query.nextKeyword clause connective).1 ∈ ["where", "having", "and", "or"] := by
  have clauses : ∀ word ∈ ["where", "having"], word ∈ ["where", "having", "and", "or"] := by
    decide
  rcases List.mem_cons.1 (query.nextKeyword_mem clause connective) with start | next
  · rw [start]
    exact clauses _ (ConditionClause.keyword_mem rows)
  · exact List.mem_append_right ["where", "having"] next

/-- What a group adds, given the conditions inside: nothing is left of an empty group, and otherwise
the keyword of the first condition stands in front of the parenthesis. -/
def grouped : List Fragment → List Fragment
  | [] => []
  | first :: rest =>
    .withText first.keyword "(" :: { first with keyword := "" } :: (rest ++ [.token ")"])

/-- A group puts parentheses around the conditions that its callback added. -/
theorem closeConditionGroup_eq {inside : Query} {added : List Fragment}
    (cursor : query.cursor = none) (stays : inside.cursor = none)
    (head : ∀ fragment ∈ added.head?, fragment.keyword ∈ ["where", "having", "and", "or"])
    (fragments : inside.fragments = query.fragments ++ [.token "("] ++ added)
    (connective : Connective) :
    query.closeConditionGroup inside connective =
      { inside with
        fragments := query.fragments ++ grouped added
        pending := if added.isEmpty then query.pending else none } := by
  have opening : query.insertionPoint = query.fragments.length := by
    simp [insertionPoint, cursor]
  have count : (query.openGroup connective).fragments.length = query.fragments.length + 1 := by
    simp [openGroup_eq cursor]
  unfold closeConditionGroup
  rw [opening, count]
  cases added with
  | nil =>
      rw [List.append_nil] at fragments
      rw [closeGroup_of_empty stays fragments]
      simp [grouped]
  | cons first rest =>
      have pulled : ∀ word ∈ ["where", "having", "and", "or"], word ∉ ["", "(", ")", ","] := by
        decide
      rw [List.append_assoc] at fragments
      rw [closeGroup_of_cons stays (pulled first.keyword (head first rfl)) fragments]
      simp [grouped]

/-- Inside a group the first condition gets the keyword that the group would have had. -/
theorem firstKeyword_openGroup (cursor : query.cursor = none)
    (pending : query.pending ≠ some Connective.and) (connective : Connective)
    (items : List TextTree) :
    (query.openGroup connective).firstKeyword.getD (TextTree.firstConnective items).keyword =
      query.firstKeyword.getD (TextTree.group connective items).connective.keyword := by
  have same : (query.openGroup connective).hasClause "where" = query.hasClause "where" := by
    simp [openGroup_eq cursor, hasClause, Fragment.token]
  unfold firstKeyword
  rw [same, openGroup_eq cursor]
  cases query.hasClause "where" with
  | false => rfl
  | true =>
      cases connective with
      | and => rfl
      | or =>
          rcases h : query.pending with _ | _ | _
          · rfl
          · exact absurd h pending
          · rfl

end Query

namespace Edit

variable {predicate : Predicate Query CustomExpr}

theorem filterIn_eq (negated : Bool) (lhs : Value) (values : List Value) :
    filterIn negated lhs values = filter (.membership negated lhs values) := by
  unfold filterIn Predicate.membership
  split <;> rfl

/-- A condition on the rows without hooks, added at the end. -/
theorem run_filter_of_cursor_eq_none (hookFree : predicate.HookFree) (connective : Connective)
    {query : Query} (cursor : query.cursor = none) (workspace : Workspace) :
    ∃ clause, ((condition .filter connective predicate).run query).run workspace =
      let out := ((predicate.compile query.connection).run query.ledger).run workspace
      (((), { query with
        ledger := out.1.2
        fragments := query.fragments ++
          [.withText (query.firstKeyword.getD connective.keyword) out.1.1]
        pending := none
        currentClause := clause }), out.2) := by
  have plain : isSelectKeyword (query.nextKeyword .filter connective).1 = false := by
    unfold Query.nextKeyword
    cases query.hasCondition .filter <;> cases query.pending.getD connective <;> rfl
  rw [run_condition hookFree, Query.firstKeyword_getD]
  refine ⟨query.clauseAfter (query.nextKeyword .filter connective).1, ?_⟩
  dsimp only
  rw [Query.addText_of_cursor_eq_none (by exact cursor) plain]
  have notJoin : (ConditionClause.filter == .join) = false := rfl
  simp [Query.nextKeyword, Query.clauseAfter, notJoin]

end Edit

namespace ConditionTree

/-- A group of conditions, given what the calls inside it do. -/
theorem run_group {query : Query} (cursor : query.cursor = none)
    (pending : query.pending ≠ some Connective.and) {connective : Connective} {body : Edit Unit}
    {workspace workspace' : Workspace} {texts : List TextTree} {ledger : Ledger}
    {clause : Option String}
    (inside : (body.run (query.openGroup connective)).run workspace =
      (((), (query.openGroup connective).withConditions texts ledger clause), workspace')) :
    ((Edit.conditionGroup connective body).run query).run workspace =
      (((), query.withConditions [.group connective texts] ledger clause), workspace') := by
  have opened := Query.openGroup_eq cursor connective
  let added := TextTree.fragmentsAll (query.openGroup connective).firstKeyword texts
  have stays : ((query.openGroup connective).withConditions texts ledger clause).cursor = none := by
    simp [opened, Query.withConditions, cursor]
  have fragments : ((query.openGroup connective).withConditions texts ledger clause).fragments =
      query.fragments ++ [.token "("] ++ added := by
    simp [added, opened, Query.withConditions]
  rw [Edit.run_conditionGroup, inside]
  dsimp only
  cases survives : TextTree.anySurvives texts with
  | false =>
      have empty : added = [] := TextTree.fragmentsAll_eq_nil survives
      rw [Query.closeConditionGroup_eq cursor stays (by simp [empty]) fragments, empty]
      simp [opened, Query.withConditions, Query.grouped, TextTree.fragmentsAll,
        TextTree.survives, TextTree.anySurvives, survives]
  | true =>
      obtain ⟨first, rest, shape⟩ := TextTree.exists_fragmentsAll_eq_cons survives
      have forced := Query.firstKeyword_openGroup cursor pending connective texts
      have some : added = { first with
          keyword := query.firstKeyword.getD
            (TextTree.group connective texts).connective.keyword } :: rest := by
        rw [← forced]
        exact shape _
      have head : ∀ fragment ∈ added.head?,
          fragment.keyword ∈ ["where", "having", "and", "or"] := by
        rw [some]
        rintro fragment ⟨⟩
        dsimp only
        rw [Query.firstKeyword_getD]
        exact Query.nextKeyword_rows_mem (by decide : ConditionClause.filter ≠ .join) query _
      rw [Query.closeConditionGroup_eq cursor stays head fragments, some]
      simp [opened, Query.withConditions, Query.grouped, TextTree.fragmentsAll,
        TextTree.survives, TextTree.anySurvives, TextTree.fragments, survives, shape]

/-- A condition of its own. -/
theorem run_leaf {predicate : Predicate Query CustomExpr} (hookFree : predicate.HookFree)
    (connective : Connective) {query : Query} (cursor : query.cursor = none)
    (workspace : Workspace) :
    ∃ clause, ((Edit.condition .filter connective predicate).run query).run workspace =
      let out := ((predicate.compile query.connection).run query.ledger).run workspace
      (((), query.withConditions [.leaf connective out.1.1] out.1.2 clause), out.2) := by
  obtain ⟨clause, ran⟩ := Edit.run_filter_of_cursor_eq_none hookFree connective cursor workspace
  refine ⟨clause, ran.trans ?_⟩
  simp [Query.withConditions, TextTree.fragmentsAll, TextTree.survives, TextTree.connective,
    TextTree.fragments, TextTree.anySurvives]

mutual

/-- Running an item adds the fragments of its tree of texts. -/
theorem run_eq (item : ConditionTree)
    (hookFree : ∀ predicate ∈ item.predicates, predicate.HookFree) {query : Query}
    (cursor : query.cursor = none) (pending : query.pending ≠ some Connective.and)
    (workspace : Workspace) :
    ∃ clause, (item.run.run query).run workspace =
      let out := ((item.compile query.connection).run query.ledger).run workspace
      (((), query.withConditions [out.1.1] out.1.2 clause), out.2) := by
  match item with
  | .condition connective predicate =>
      have free : predicate.HookFree := hookFree predicate (by simp [predicates])
      exact run_leaf free connective cursor workspace
  | .membership negated lhs values =>
      have free : (Predicate.membership negated lhs values).HookFree :=
        hookFree _ (by simp [predicates])
      have same : run (.membership negated lhs values) =
          Edit.condition .filter .and (.membership negated lhs values) := by
        simp only [run, Edit.filterIn_eq, Edit.filter]
      rw [same]
      exact run_leaf free .and cursor workspace
  | .group connective items =>
      have stays : (query.openGroup connective).cursor = none := by
        simp [Query.openGroup_eq cursor, cursor]
      -- Opening by `and` leaves what is pending, and opening by `or` makes `or` pending.
      have kept : (query.openGroup connective).pending ≠ some Connective.and := by
        cases connective with
        | and => simpa [Query.openGroup_eq cursor] using pending
        | or => simp [Query.openGroup_eq cursor]
      obtain ⟨clause, inside⟩ := runAll_eq items hookFree stays kept workspace
      exact ⟨clause, run_group cursor pending inside⟩

/-- Running a forest adds the fragments of its trees of texts. -/
theorem runAll_eq (items : List ConditionTree)
    (hookFree : ∀ predicate ∈ predicatesAll items, predicate.HookFree) {query : Query}
    (cursor : query.cursor = none) (pending : query.pending ≠ some Connective.and)
    (workspace : Workspace) :
    ∃ clause, ((runAll items).run query).run workspace =
      let out := ((compileAll query.connection items).run query.ledger).run workspace
      (((), query.withConditions out.1.1 out.1.2 clause), out.2) := by
  match items with
  | [] =>
      refine ⟨query.currentClause, ?_⟩
      change (((), query), workspace) =
        (((), query.withConditions [] query.ledger query.currentClause), workspace)
      simp [Query.withConditions, TextTree.fragmentsAll, TextTree.anySurvives]
  | item :: rest =>
      simp only [predicatesAll, List.mem_append, or_imp, forall_and] at hookFree
      obtain ⟨between, first⟩ := run_eq item hookFree.1 cursor pending workspace
      generalize out_eq : ((item.compile query.connection).run query.ledger).run workspace = out
        at first
      have stays : (query.withConditions [out.1.1] out.1.2 between).cursor = none := cursor
      have kept :
          (query.withConditions [out.1.1] out.1.2 between).pending ≠ some Connective.and := by
        unfold Query.withConditions
        dsimp only
        split
        · simp
        · exact pending
      obtain ⟨clause, second⟩ := runAll_eq rest hookFree.2 stays kept out.2
      refine ⟨clause, ?_⟩
      have step : ((runAll (item :: rest)).run query).run workspace =
          ((runAll rest).run ((item.run.run query).run workspace).1.2).run
            ((item.run.run query).run workspace).2 := rfl
      have compiled :
          ((compileAll query.connection (item :: rest)).run query.ledger).run workspace =
          let rest := ((compileAll query.connection rest).run out.1.2).run out.2
          ((out.1.1 :: rest.1.1, rest.1.2), rest.2) := by
        rw [← out_eq]
        rfl
      rw [step, first, compiled]
      dsimp only
      rw [second]
      simp only [Query.withConditions_cons]
      rfl

end

/--
Conditions render the intended tree: behind the fragments that were there stand those of the tree of
texts, whose first item starts the clause if there was none. No connective stays pending, and
nothing but the parameters and the current clause changes besides.
-/
theorem runAll_of_reachable {query : Query} (reachable : query.Reachable)
    (items : List ConditionTree)
    (hookFree : ∀ predicate ∈ predicatesAll items, predicate.HookFree) (workspace : Workspace) :
    query.pending = none ∧ ∃ clause, ((runAll items).run query).run workspace =
      let out := ((compileAll query.connection items).run query.ledger).run workspace
      (((), { query with
        ledger := out.1.2
        fragments := query.fragments ++
          TextTree.fragmentsAll (if query.hasClause "where" then none else some "where") out.1.1
        currentClause := clause }), out.2) := by
  have rest := reachable.atRest
  obtain ⟨clause, ran⟩ := runAll_eq items hookFree rest.cursor (by simp [rest.pending]) workspace
  refine ⟨rest.pending, clause, ran.trans ?_⟩
  simp [Query.withConditions, Query.firstKeyword, rest.pending]

/-- Empty groups vanish, and the keyword of a nested first condition moves to the outermost
parenthesis. -/
theorem runAll_of_reachable_nested :
    let query : Query := ((Query.new (.ofConfig {})).run {}).1
    let items : List ConditionTree :=
      [.group .or [.group .and []],
        .group .and [.group .or [.condition .and (.raw "a"), .condition .or (.raw "b")],
          .condition .and (.raw "c")],
        .group .or [.condition .and (.raw "d")]]
    query.Reachable ∧ (∀ predicate ∈ predicatesAll items, predicate.HookFree) ∧
      (((runAll items).run query).run {}).1.2.fragments =
        [.withText "where" "(", .withText "" "(", .withText "" "a", .withText "or" "b",
          .token ")", .withText "and" "c", .token ")", .withText "or" "(", .withText "" "d",
          .token ")"] := by
  intro query items
  have reachable : query.Reachable := .made (.ofConfig {}) {} {}
  have hookFree : ∀ predicate ∈ predicatesAll items, predicate.HookFree := by
    simp [items, predicatesAll, predicates, Predicate.HookFree, Predicate.raw, Predicate.customs,
      Predicate.operands, Operand.custom?]
  obtain ⟨-, clause, ran⟩ := runAll_of_reachable reachable items hookFree {}
  refine ⟨reachable, hookFree, ?_⟩
  rw [ran]
  rfl

end ConditionTree

end SqlBuilder
