import SqlBuilder.Proofs.Interleaving.Call
import SqlBuilder.Proofs.Query.Outline
import SqlBuilder.Proofs.Script.Reachable

/-!
# Trees of joins

What a join is meant to add to a query when its callback adds conditions and joins further tables,
nested to any depth. All of it goes to one place, in front of the clauses that stand behind the
joins, in the order of the calls. What is joined already is left out with all that is inside it. A
condition starts with `on` unless another condition of its join stands right in front of it.

Running the calls gives the same fragments by other means: each join looks for its place anew, and
moves the cursor of the join around it by what it added.
-/

namespace SqlBuilder

/-- What the callback of a join asks for. -/
inductive JoinTree where
  | condition (connective : Connective) (predicate : Predicate Query CustomExpr)
  | join (kind : JoinKind) (table : String) (label : Option String) (items : List JoinTree)

/-- Joins and their conditions with their texts. -/
inductive JoinText where
  | condition (connective : Connective) (text : String)
  | join (kind : JoinKind) (target : String) (items : List JoinText)

namespace JoinText

/-- Whether an item is a condition, which the next condition goes on with. -/
def isCondition : JoinText → Bool
  | .condition _ _ => true
  | .join _ _ _ => false

/-- The keyword of a condition; `started` tells whether another stands right in front of it. -/
def conditionKeyword (started : Bool) (connective : Connective) : String :=
  if started then connective.keyword else "on"

mutual

/-- The fragments of an item; `started` tells whether a condition stands right in front of it. -/
def fragments (started : Bool) : JoinText → List Fragment
  | .condition connective text => [.withText (conditionKeyword started connective) text]
  | .join kind target items => .withText kind.keyword target :: fragmentsAll false items

/-- The fragments of items in order. -/
def fragmentsAll (started : Bool) : List JoinText → List Fragment
  | [] => []
  | item :: rest => item.fragments started ++ fragmentsAll item.isCondition rest

end

mutual

/-- The targets that an item joins. -/
def targets : JoinText → List String
  | .condition _ _ => []
  | .join _ target items => target :: targetsAll items

/-- The targets that items join. -/
def targetsAll : List JoinText → List String
  | [] => []
  | item :: rest => item.targets ++ targetsAll rest

end

/-- Whether a condition stands at the end of items. -/
def endsStarted (started : Bool) : List JoinText → Bool
  | [] => started
  | item :: rest => endsStarted item.isCondition rest

variable {items more : List JoinText} {started : Bool}

theorem fragmentsAll_append : fragmentsAll started (items ++ more) =
    fragmentsAll started items ++ fragmentsAll (endsStarted started items) more := by
  induction items generalizing started with
  | nil => rfl
  | cons item rest ih =>
      simp only [List.cons_append, fragmentsAll, endsStarted, ih, List.append_assoc]

theorem endsStarted_append :
    endsStarted started (items ++ more) = endsStarted (endsStarted started items) more := by
  induction items generalizing started with
  | nil => rfl
  | cons item rest ih => exact ih

end JoinText

/-- Whether a fragment joins a target. -/
def Fragment.joins (target : String) (fragment : Fragment) : Bool :=
  "join".toList.isSuffixOf fragment.keyword.toList && fragment.payload == some (.text target)

/-- Targets that are joined, and more of them. -/
def withTargets (joined : String → Bool) (targets : List String) (target : String) : Bool :=
  joined target || targets.contains target

namespace JoinTree

mutual

/-- Makes the calls that ask for an item. -/
def run : JoinTree → Edit Unit
  | .condition connective predicate => Edit.condition .join connective predicate
  | .join kind table label items => do
    let _ ← Edit.join kind table label (runAll items)

/-- Makes the calls for the items in order. -/
def runAll : List JoinTree → Edit Unit
  | [] => return
  | item :: rest => do
    item.run
    runAll rest

end

mutual

/-- Compiles the predicates of an item from left to right; a target that is joined already is left
out. -/
def compile (query : Query) (joined : String → Bool) : JoinTree → Compile (List JoinText)
  | .condition connective predicate =>
    return [.condition connective (← predicate.compile query.connection)]
  | .join kind table label items =>
    let target := query.escapeAs table label
    if joined target then return []
    else return [.join kind target (← compileAll query (withTargets joined [target]) items)]

/-- Compiles items from left to right, each given what those before it have joined. -/
def compileAll (query : Query) (joined : String → Bool) :
    List JoinTree → Compile (List JoinText)
  | [] => return []
  | item :: rest => do
    let texts ← item.compile query joined
    let more ← compileAll query (withTargets joined (JoinText.targetsAll texts)) rest
    return texts ++ more

end

mutual

/-- The predicates of an item in order. -/
def predicates : JoinTree → List (Predicate Query CustomExpr)
  | .condition _ predicate => [predicate]
  | .join _ _ _ items => predicatesAll items

/-- The predicates of items in order. -/
def predicatesAll : List JoinTree → List (Predicate Query CustomExpr)
  | [] => []
  | item :: rest => item.predicates ++ predicatesAll rest

end

end JoinTree

/-! ### Targets and places -/

namespace JoinText

/-- The keywords of joins and their conditions. -/
def keywords : List String :=
  ["on", "and", "or", "inner join", "left join", "right join", "full outer join", "cross join"]

theorem conditionKeyword_mem (started : Bool) (connective : Connective) :
    conditionKeyword started connective ∈ ["on", "and", "or"] := by
  cases started <;> cases connective <;> decide

mutual

theorem keyword_mem (item : JoinText) (started : Bool) :
    ∀ fragment ∈ item.fragments started, fragment.keyword ∈ keywords := by
  match item with
  | .condition connective text =>
      have words : ∀ word ∈ ["on", "and", "or"], word ∈ keywords := by decide
      exact List.forall_mem_singleton.2 (words _ (conditionKeyword_mem started connective))
  | .join kind target items =>
      have word : kind.keyword ∈ keywords := by cases kind <;> decide
      exact List.forall_mem_cons.2 ⟨word, keyword_mem_all items false⟩

theorem keyword_mem_all (items : List JoinText) (started : Bool) :
    ∀ fragment ∈ fragmentsAll started items, fragment.keyword ∈ keywords := by
  match items with
  | [] => exact List.forall_mem_nil _
  | item :: rest =>
      exact List.forall_mem_append.2 ⟨keyword_mem item started, keyword_mem_all rest _⟩

end

mutual

/-- Conditions join nothing, and a join joins its target. -/
theorem any_joins (item : JoinText) (started : Bool) (target : String) :
    (item.fragments started).any (·.joins target) = item.targets.contains target := by
  match item with
  | .condition connective text =>
      have other : ∀ word ∈ ["on", "and", "or"], "join".toList.isSuffixOf word.toList = false := by
        decide
      have apart := other _ (conditionKeyword_mem started connective)
      rw [fragments, targets, List.any_cons, Fragment.joins, Fragment.withText, apart]
      rfl
  | .join kind own items =>
      have ends : "join".toList.isSuffixOf kind.keyword.toList = true := by
        cases kind <;> decide
      have first : (Fragment.withText kind.keyword own).joins target = (target == own) := by
        rw [Fragment.joins, Fragment.withText, ends, Bool.true_and, Bool.eq_iff_iff, beq_iff_eq,
          beq_iff_eq, Option.some.injEq, Payload.text.injEq, eq_comm]
      rw [fragments, targets, List.any_cons, List.contains_cons, first, any_joins_all items]

theorem any_joins_all (items : List JoinText) (started : Bool) (target : String) :
    (fragmentsAll started items).any (·.joins target) = (targetsAll items).contains target := by
  match items with
  | [] => rfl
  | item :: rest =>
      rw [fragmentsAll, targetsAll, List.any_append, List.contains_append, any_joins item,
        any_joins_all rest]

end

end JoinText

namespace Query

variable {query changed : Query} {moving : Bool} {head tail : List Fragment}

/-- Where joins are added: between two halves at the cursor, in front of the first clause that has
to stand behind them, or at the end if there is none. -/
structure JoinsAt (query : Query) (moving : Bool) (head tail : List Fragment) : Prop extends
    query.Splits moving head tail where
  before : ∀ fragment ∈ head, clausesAfterJoins.contains fragment.keyword = false
  behind : ∀ fragment ∈ tail.head?, clausesAfterJoins.contains fragment.keyword = true
  moves : moving = true → tail ≠ []

/-- The gap in which a query takes joins: no clause that has to stand behind them is in front of it,
and one of those clauses comes next, unless nothing does. -/
structure JoinGap (query : Query) (head tail : List Fragment) : Prop where
  fragments : query.fragments = head ++ tail
  front : ∀ fragment ∈ head, fragment.keyword ∉
    ["where", "group by", "having", "order by", "limit", "offset", "union", "union all",
      "for update"]
  next : ∀ fragment ∈ tail.head?, fragment.keyword ∈
    ["where", "group by", "having", "order by", "limit", "offset", "union", "union all",
      "for update"]

/-- There is one gap only. -/
theorem JoinGap.eq_halves (gap : query.JoinGap head tail) :
    head = query.fragments.takeWhile (!clausesAfterJoins.contains ·.keyword) ∧
      tail = query.fragments.dropWhile (!clausesAfterJoins.contains ·.keyword) := by
  have front : ∀ fragment ∈ head, (!clausesAfterJoins.contains fragment.keyword) = true :=
    fun fragment mem => by simpa [clausesAfterJoins] using gap.front fragment mem
  rw [gap.fragments, List.takeWhile_append_of_pos front, List.dropWhile_append_of_pos front]
  cases tail with
  | nil => simp
  | cons clause rest =>
      have next : clausesAfterJoins.contains clause.keyword = true :=
        List.contains_iff_mem.2 (gap.next clause rfl)
      rw [List.takeWhile_cons, List.dropWhile_cons, next]
      simp

/-- The query with joins and conditions in their place. -/
def withJoins (query : Query) (head tail : List Fragment) (texts : List JoinText)
    (ledger : Ledger) (clause : Option String) : Query :=
  let added := JoinText.fragmentsAll query.onDefined texts
  { query with
    ledger
    fragments := head ++ added ++ tail
    cursor := query.cursor.map (· + added.length)
    onDefined := JoinText.endsStarted query.onDefined texts
    currentClause := clause }

/-- The place where a query has its joins. -/
def joinPlace (query : Query) : Nat := query.joinPoint?.getD query.fragments.length

/-- A join looks for the first clause that has to stand behind it. -/
theorem joinsAt_joinPlace (query : Query) :
    JoinsAt { query with cursor := query.joinPoint? } query.joinPoint?.isSome
      (query.fragments.take query.joinPlace) (query.fragments.drop query.joinPlace) := by
  unfold joinPlace
  cases found : query.joinPoint? with
  | none =>
      have apart := List.findIdx?_eq_none_iff.1 found
      refine ⟨⟨?_, rfl, fun _ => ?_⟩, ?_, ?_, nofun⟩
      · simp
      · simp
      · simpa using apart
      · simp
  | some place =>
      obtain ⟨inside, holds, apart⟩ := List.findIdx?_eq_some_iff_getElem.1 found
      refine ⟨⟨(List.take_append_drop _ _).symm, ?_, nofun⟩, ?_, ?_, fun _ => ?_⟩
      · simp [Nat.le_of_lt inside]
      · intro fragment mem
        obtain ⟨before, less, rfl⟩ := List.mem_take_iff_getElem.1 mem
        exact Bool.eq_false_iff.2 (apart before (by simp at less; omega))
      · intro fragment mem
        rw [Option.getD_some, List.head?_drop, List.getElem?_eq_getElem inside] at mem
        exact Option.some.inj mem ▸ holds
      · simpa using inside

namespace JoinsAt

variable (place : query.JoinsAt moving head tail)

include place

theorem joinPoint? : query.joinPoint? = if moving then some head.length else none := by
  unfold Query.joinPoint?
  rw [place.fragments]
  cases moving with
  | false =>
      rw [place.atEnd rfl, List.append_nil]
      exact List.findIdx?_eq_none_iff.2 place.before
  | true =>
      cases tail with
      | nil => exact absurd rfl (place.moves rfl)
      | cons clause rest =>
          rw [List.findIdx?_append, List.findIdx?_eq_none_iff.2 place.before,
            List.findIdx?_cons, place.behind clause rfl]
          simp

theorem joinGap : query.JoinGap head tail where
  fragments := place.fragments
  front fragment mem := by simpa [clausesAfterJoins] using place.before fragment mem
  next fragment mem := by simpa [clausesAfterJoins] using place.behind fragment mem

/-- Something has to stand behind the joins just if there is a second half. -/
theorem moving_eq : moving = !tail.isEmpty := by
  cases moving with
  | false => simp [place.atEnd rfl]
  | true => simpa using place.moves rfl

/-- A fragment is put in between the halves. -/
theorem insert_eq (fragment : Fragment) :
    query.insert fragment =
      { query with
        fragments := head ++ [fragment] ++ tail
        cursor := query.cursor.map (· + 1)
        currentClause := query.clauseAfter fragment.keyword } := by
  have moved : query.cursor.map query.advance = query.cursor.map (· + 1) := by
    rw [place.cursor]
    unfold advance
    cases moving with
    | false => rfl
    | true => simp [place.fragments]
  have fragments : query.fragments.insertIdx query.insertionPoint fragment =
      head ++ [fragment] ++ tail := (place.toSplits.insert fragment).fragments
  unfold insert
  rw [fragments, moved]

/-- The halves are apart wherever joins and conditions have been added. -/
theorem extend {added : List Fragment}
    (words : ∀ fragment ∈ added, fragment.keyword ∈ JoinText.keywords)
    (fragments : changed.fragments = head ++ added ++ tail)
    (cursor : changed.cursor = query.cursor.map (· + added.length)) :
    changed.JoinsAt moving (head ++ added) tail where
  fragments := fragments
  cursor := by
    rw [cursor, place.cursor, List.length_append]
    cases moving <;> rfl
  atEnd := place.atEnd
  before := by
    have apart : ∀ word ∈ JoinText.keywords, clausesAfterJoins.contains word = false := by decide
    exact List.forall_mem_append.2 ⟨place.before, fun fragment mem => apart _ (words fragment mem)⟩
  behind := place.behind
  moves := place.moves

theorem withJoins (texts : List JoinText) (ledger : Ledger) (clause : Option String) :
    (query.withJoins head tail texts ledger clause).JoinsAt moving
      (head ++ JoinText.fragmentsAll query.onDefined texts) tail :=
  place.extend (JoinText.keyword_mem_all texts _) rfl rfl

theorem isJoined_withJoins (texts : List JoinText) (ledger : Ledger) (clause : Option String) :
    (query.withJoins head tail texts ledger clause).isJoined =
      withTargets query.isJoined (JoinText.targetsAll texts) := by
  funext target
  change (head ++ JoinText.fragmentsAll query.onDefined texts ++ tail).any (·.joins target) =
    (query.fragments.any (·.joins target) || (JoinText.targetsAll texts).contains target)
  rw [place.fragments, List.any_append, List.any_append, List.any_append,
    JoinText.any_joins_all, Bool.or_right_comm]

theorem withJoins_nil : query.withJoins head tail [] query.ledger query.currentClause = query := by
  have fragments := place.fragments
  unfold Query.withJoins
  cases query
  simp_all [JoinText.fragmentsAll, JoinText.endsStarted]

omit place in
theorem withJoins_append (texts more : List JoinText) (ledger ledger' : Ledger)
    (clause clause' : Option String) :
    (query.withJoins head tail texts ledger clause).withJoins
        (head ++ JoinText.fragmentsAll query.onDefined texts) tail more ledger' clause' =
      query.withJoins head tail (texts ++ more) ledger' clause' := by
  unfold Query.withJoins
  simp [JoinText.fragmentsAll_append, JoinText.endsStarted_append, Function.comp_def,
    Nat.add_assoc]

/-- A join is put in its place, with no condition yet. -/
theorem openJoin_eq (kind : JoinKind) (target : String) :
    query.openJoin kind target =
      { query with
        fragments := head ++ [.withText kind.keyword target] ++ tail
        cursor := query.cursor.map (· + 1)
        onDefined := false
        currentClause := query.clauseAfter kind.keyword } := by
  have same : query.joinPoint?.or query.cursor = query.cursor := by
    rw [place.joinPoint?, place.cursor]
    cases moving <;> rfl
  unfold openJoin
  rw [same]
  exact congrArg (fun changed => { changed with onDefined := false }) (place.insert_eq _)

theorem openJoin (kind : JoinKind) (target : String) :
    (query.openJoin kind target).JoinsAt moving (head ++ [.withText kind.keyword target]) tail := by
  have word : kind.keyword ∈ JoinText.keywords := by cases kind <;> decide
  have opened := place.openJoin_eq kind target
  exact place.extend (List.forall_mem_singleton.2 word) (by rw [opened]) (by rw [opened]; rfl)

theorem isJoined_openJoin (kind : JoinKind) (target : String) :
    (query.openJoin kind target).isJoined = withTargets query.isJoined [target] := by
  have opened := place.isJoined_withJoins [.join kind target []] query.ledger none
  rw [place.openJoin_eq]
  exact opened

/-- A join ends where it was asked for, behind all that was added to it. -/
theorem closeJoin_eq (kind : JoinKind) (target : String) (texts : List JoinText) (ledger : Ledger)
    (clause : Option String) :
    ((query.openJoin kind target).withJoins (head ++ [.withText kind.keyword target]) tail texts
        ledger clause).closeJoin query =
      query.withJoins head tail [.join kind target texts] ledger
        (if moving then query.currentClause else clause) := by
  have before : query.fragments.length = head.length + tail.length := by
    rw [place.fragments, List.length_append]
  rw [place.openJoin_eq]
  unfold closeJoin Query.withJoins
  rw [place.joinPoint?, place.cursor]
  cases moving with
  | false =>
      simp [JoinText.fragmentsAll, JoinText.fragments, JoinText.endsStarted, JoinText.isCondition]
  | true =>
      simp only [JoinText.fragmentsAll, JoinText.fragments, JoinText.endsStarted,
        JoinText.isCondition, List.append_assoc, List.cons_append, List.nil_append,
        List.append_nil, List.length_append, List.length_cons, Option.isSome_some, Option.map_some,
        Option.some.injEq, ↓reduceIte, Std.le_refl, mk.injEq, and_self, and_true, true_and]
      omega

/-- A join and what is added to it are more than there was. -/
theorem lostFragments_withJoins (kind : JoinKind) (target : String) (texts : List JoinText)
    (ledger : Ledger) (clause : Option String) :
    ((query.openJoin kind target).withJoins (head ++ [.withText kind.keyword target]) tail texts
        ledger clause).lostFragments query = false := by
  refine lostFragments_eq_false ?_
  rw [place.fragments]
  simp only [Query.withJoins, List.length_append]
  omega

end JoinsAt

end Query

/-! ### Runs -/

namespace JoinTree

/-- A condition of a join that is being built. -/
theorem run_condition {query : Query} {moving : Bool} {head tail : List Fragment}
    (place : query.JoinsAt moving head tail) (pending : query.pending = none)
    {predicate : Predicate Query CustomExpr} (hookFree : predicate.HookFree)
    (connective : Connective) (workspace : Workspace) :
    ∃ clause, ((Edit.condition .join connective predicate).run query).run workspace =
      let out := ((predicate.compile query.connection).run query.ledger).run workspace
      (((), query.withJoins head tail [.condition connective out.1.1] out.1.2 clause),
        out.2) := by
  have word : (query.nextKeyword .join connective).1 =
      JoinText.conditionKeyword query.onDefined connective := by
    simp [Query.nextKeyword, Query.hasCondition, pending, ConditionClause.keyword,
      JoinText.conditionKeyword]
  have defined : (query.nextKeyword .join connective).2 = { query with onDefined := true } := by
    simp [Query.nextKeyword, ← pending]
  refine ⟨query.clauseAfter (JoinText.conditionKeyword query.onDefined connective), ?_⟩
  have plain : isSelectKeyword (JoinText.conditionKeyword query.onDefined connective) = false := by
    have words : ∀ word ∈ ["on", "and", "or"], isSelectKeyword word = false := by decide
    exact words _ (JoinText.conditionKeyword_mem _ _)
  rw [Edit.run_condition hookFree, word, defined]
  dsimp only
  have defining (ledger : Ledger) :
      Query.JoinsAt { query with onDefined := true, ledger } moving head tail :=
    ⟨⟨place.fragments, place.cursor, place.atEnd⟩, place.before, place.behind, place.moves⟩
  rw [Query.addText_eq_insert _ plain, (defining _).insert_eq]
  rfl

mutual

/-- Running an item adds the fragments of its texts. -/
theorem run_eq (item : JoinTree) (hookFree : ∀ predicate ∈ item.predicates, predicate.HookFree)
    {home query : Query} (connected : query.connection = home.connection) {moving : Bool}
    {head tail : List Fragment} (place : query.JoinsAt moving head tail)
    (pending : query.pending = none) (workspace : Workspace) :
    ∃ clause, (item.run.run query).run workspace =
      let out := ((item.compile home query.isJoined).run query.ledger).run workspace
      (((), query.withJoins head tail out.1.1 out.1.2 clause), out.2) := by
  match item with
  | .condition connective predicate =>
      have free : predicate.HookFree := hookFree predicate (by simp [predicates])
      obtain ⟨clause, ran⟩ := run_condition place pending free connective workspace
      rw [connected] at ran
      exact ⟨clause, ran⟩
  | .join kind table label items =>
      have same : query.escapeAs table label = home.escapeAs table label := by
        unfold Query.escapeAs Query.escape Query.escapePart
        rw [connected]
      have step : ((run (.join kind table label items)).run query).run workspace =
          let out := ((Edit.join kind table label (runAll items)).run query).run workspace
          (((), out.1.2), out.2) := rfl
      rw [step, Edit.run_join, same, compile]
      dsimp only
      cases known : query.isJoined (home.escapeAs table label) with
      | true =>
          -- The target is joined already, so neither the join nor its conditions are added.
          refine ⟨query.currentClause, ?_⟩
          change (((), query), workspace) =
            (((), query.withJoins head tail [] query.ledger query.currentClause), workspace)
          rw [place.withJoins_nil]
      | false =>
          have inside_connected :
              (query.openJoin kind (home.escapeAs table label)).connection = home.connection :=
            connected
          obtain ⟨clause, inside⟩ := runAll_eq items hookFree inside_connected
            (place.openJoin kind _) pending workspace
          rw [place.isJoined_openJoin] at inside
          refine ⟨if moving then query.currentClause else clause, ?_⟩
          rw [if_neg Bool.false_ne_true, if_neg Bool.false_ne_true, inside]
          dsimp only
          rw [place.closeJoin_eq, place.lostFragments_withJoins, Workspace.abortIf_false]
          rfl

/-- Running items adds the fragments of their texts. -/
theorem runAll_eq (items : List JoinTree)
    (hookFree : ∀ predicate ∈ predicatesAll items, predicate.HookFree)
    {home query : Query} (connected : query.connection = home.connection) {moving : Bool}
    {head tail : List Fragment} (place : query.JoinsAt moving head tail)
    (pending : query.pending = none) (workspace : Workspace) :
    ∃ clause, ((runAll items).run query).run workspace =
      let out := ((compileAll home query.isJoined items).run query.ledger).run workspace
      (((), query.withJoins head tail out.1.1 out.1.2 clause), out.2) := by
  match items with
  | [] =>
      refine ⟨query.currentClause, ?_⟩
      change (((), query), workspace) =
        (((), query.withJoins head tail [] query.ledger query.currentClause), workspace)
      rw [place.withJoins_nil]
  | item :: rest =>
      simp only [predicatesAll, List.mem_append, or_imp, forall_and] at hookFree
      obtain ⟨between, first⟩ := run_eq item hookFree.1 connected place pending workspace
      generalize out_eq : ((item.compile home query.isJoined).run query.ledger).run workspace = out
        at first
      have between_connected :
          (query.withJoins head tail out.1.1 out.1.2 between).connection = home.connection :=
        connected
      obtain ⟨clause, second⟩ := runAll_eq rest hookFree.2 between_connected
        (place.withJoins out.1.1 out.1.2 between) pending out.2
      refine ⟨clause, ?_⟩
      have step : ((runAll (item :: rest)).run query).run workspace =
          ((runAll rest).run ((item.run.run query).run workspace).1.2).run
            ((item.run.run query).run workspace).2 := rfl
      have compiled :
          ((compileAll home query.isJoined (item :: rest)).run query.ledger).run workspace =
          let joined := withTargets query.isJoined (JoinText.targetsAll out.1.1)
          let more := ((compileAll home joined rest).run out.1.2).run out.2
          ((out.1.1 ++ more.1.1, more.1.2), more.2) := by
        rw [← out_eq]
        rfl
      rw [step, first, compiled]
      dsimp only
      rw [second, place.isJoined_withJoins]
      simp only [Query.JoinsAt.withJoins_append]
      rfl

end

/--
A join goes in front of the clauses that stand behind the joins, with all that its callback adds,
and nothing else changes but the parameters; where the target is joined already it changes nothing,
and its callback is not run. Afterwards no cursor is set and the next condition starts anew.
-/
theorem join_of_reachable {query : Query} (reachable : query.Reachable) (kind : JoinKind)
    (table : String) (label : Option String) (items : List JoinTree)
    (hookFree : ∀ predicate ∈ predicatesAll items, predicate.HookFree) (workspace : Workspace) :
    let target := query.escapeAs table label
    if query.isJoined target then
      ∀ {α : Type} (body : Edit α),
        ((Edit.join kind table label body).run query).run workspace = ((none, query), workspace)
    else
      let out := ((compileAll query (withTargets query.isJoined [target]) items).run
        query.ledger).run workspace
      ∃ head tail clause, query.JoinGap head tail ∧
        ((Edit.join kind table label (runAll items)).run query).run workspace =
          ((some (), { query with
            ledger := out.1.2
            fragments := head ++
              .withText kind.keyword target :: JoinText.fragmentsAll false out.1.1 ++ tail
            cursor := none
            onDefined := false
            currentClause := if tail.isEmpty then clause else query.currentClause }),
            out.2) := by
  intro target
  cases known : query.isJoined target with
  | true =>
      rw [if_pos rfl]
      intro α body
      rw [Edit.run_join]
      exact if_pos known
  | false =>
      rw [if_neg Bool.false_ne_true]
      intro out
      let placed : Query := { query with cursor := query.joinPoint? }
      have joins : placed.JoinsAt _ _ _ := query.joinsAt_joinPlace
      have rest := reachable.atRest
      have opened : query.openJoin kind target = placed.openJoin kind target := by
        have here : query.joinPoint?.or query.cursor = query.joinPoint?.or query.joinPoint? := by
          rw [rest.cursor]
          cases query.joinPoint? <;> rfl
        unfold Query.openJoin
        rw [here]
        rfl
      have connected : (placed.openJoin kind target).connection = query.connection := rfl
      obtain ⟨clause, inside⟩ := runAll_eq items hookFree connected
        (joins.openJoin kind target) rest.pending workspace
      have joined : (placed.openJoin kind target).isJoined =
          withTargets query.isJoined [target] := joins.isJoined_openJoin kind target
      rw [joined] at inside
      have kept := joins.lostFragments_withJoins kind target out.1.1 out.1.2 clause
      have gap := joins.joinGap
      have moves := joins.moving_eq
      refine ⟨query.fragments.take query.joinPlace, query.fragments.drop query.joinPlace, clause,
        ⟨gap.fragments, gap.front, gap.next⟩, ?_⟩
      rw [Edit.run_join]
      dsimp only
      rw [if_neg (by rw [known]; exact Bool.false_ne_true), opened, inside]
      refine Prod.ext (congrArg (Prod.mk _) ?_) (congrArg (Workspace.abortIf · out.2) kept)
      dsimp only
      unfold Query.closeJoin Query.withJoins
      rw [joins.openJoin_eq]
      simp only [rest.cursor, moves, List.append_assoc, List.cons_append, List.nil_append]
      cases (query.fragments.drop query.joinPlace).isEmpty <;> rfl

/-- What is nested goes to the same place, and what is joined already is left out there too. -/
theorem join_of_reachable_nested :
    let home : Connection := .ofConfig {}
    let query : Query := (((Script.call home (.limit 5)).run
      ((Script.Origin.make home { table := some "a" }).run {}).1).run {}).1.2
    let items : List JoinTree :=
      [.condition .and (.raw "x"), .condition .or (.raw "y"),
        .join .left "c" none [.condition .or (.raw "z"), .join .cross "b" none []],
        .condition .and (.raw "w")]
    query.Reachable ∧ (∀ predicate ∈ predicatesAll items, predicate.HookFree) ∧
      (((Edit.join .inner "b" none (runAll items)).run query).run {}).1.2.fragments =
        [{ keyword := "select", payload := some (.items ["*"]) }, .withText "from" "\"a\"",
          .withText "inner join" "\"b\"", .withText "on" "x", .withText "or" "y",
          .withText "left join" "\"c\"", .withText "on" "z", .withText "on" "w",
          .withText "limit" "5"] := by
  intro home query items
  have reachable : query.Reachable :=
    .call home (.limit 5) {} (.made home { table := some "a" } {})
  have hookFree : ∀ predicate ∈ predicatesAll items, predicate.HookFree := by
    simp [items, predicatesAll, predicates, Predicate.HookFree, Predicate.raw, Predicate.customs,
      Predicate.operands, Operand.custom?]
  have joined := join_of_reachable reachable .inner "b" none items hookFree {}
  dsimp only at joined
  rw [if_neg (by decide +kernel)] at joined
  obtain ⟨head, tail, clause, gap, ran⟩ := joined
  obtain ⟨rfl, rfl⟩ := gap.eq_halves
  refine ⟨reachable, hookFree, ?_⟩
  rw [ran]
  dsimp only
  decide +kernel

end JoinTree

end SqlBuilder
