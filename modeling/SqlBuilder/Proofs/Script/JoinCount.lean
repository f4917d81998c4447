import SqlBuilder.Proofs.Query.Enclosure
import SqlBuilder.Proofs.Query.JoinTree

/-!
# How much a join adds

A join tells how many fragments its callback added by comparing the numbers of fragments before and
afterwards, and moves the cursor of the join around it by the difference. No builder call leaves a
query with fewer fragments, removals apart, so the difference is there to take for every callback
that removes nothing. A callback that removes more than the join adds leaves no such number, and the
run ends there.
-/

namespace SqlBuilder

namespace Query

/-- Whether a query has at least as many fragments as another. -/
def KeepsCount (query changed : Query) : Prop :=
  query.fragments.length ≤ changed.fragments.length

namespace KeepsCount

variable {query inside : Query}

theorem insertIdx (place : Nat) (fragment : Fragment) (fragments : List Fragment) :
    fragments.length ≤ (fragments.insertIdx place fragment).length := by
  rw [List.length_insertIdx]
  split <;> omega

theorem insert (query : Query) (fragment : Fragment) :
    query.KeepsCount (query.insert fragment) := by
  rw [KeepsCount, length_insert]
  exact Nat.le_succ _

theorem add (query : Query) (fragment : Fragment) : query.KeepsCount (query.add fragment) := by
  unfold Query.add
  split
  · split
    · exact Nat.le_of_eq (List.length_modify _ _ _).symm
    · exact insertIdx _ _ _
    · exact insert query fragment
  · exact insert query fragment

theorem addCommonTable (query : Query) (isRecursive : Bool) (text : String) :
    query.KeepsCount (query.addCommonTable isRecursive text) := by
  unfold Query.addCommonTable
  dsimp only
  split
  · refine Nat.le_trans (Nat.le_of_eq ?_) (insertIdx _ _ _)
    dsimp only
    split
    · exact (List.length_modify _ _ _).symm
    · rfl
  · exact insertIdx _ _ _

/-- A group that is empty loses its opening, and no more. -/
theorem closeGroup (pull : Bool) (opening : Nat)
    (grown : query.fragments.length + 1 ≤ inside.fragments.length) :
    query.KeepsCount (inside.closeGroup pull opening (query.fragments.length + 1)) := by
  unfold Query.closeGroup KeepsCount
  split
  case isTrue =>
    rw [Query.dropOpening, List.length_eraseIdx]
    split <;> omega
  case isFalse =>
    have pulled :
        (if pull then inside.pullKeyword opening else inside).fragments.length =
          inside.fragments.length := by
      cases pull with
      | false => rfl
      | true => exact inside.length_pullKeyword opening
    rw [insertToken, length_insert, pulled]
    omega

/-- No primitive change but a removal leaves fewer fragments. -/
theorem additive : Query.Additive KeepsCount where
  refl _ := Nat.le_refl _
  trans := Nat.le_trans
  ledger _ _ := Nat.le_refl _
  model _ _ := Nat.le_refl _
  add := add
  insert := insert
  alter _ _ _ := Nat.le_of_eq (List.length_modify _ _ _).symm
  addCommonTable := addCommonTable
  nextKeyword _ _ _ := Nat.le_refl _
  group pull {query inside} keeps := by
    rw [KeepsCount, insertToken, length_insert] at keeps
    rw [insertToken, length_insert]
    exact closeGroup pull query.insertionPoint keeps
  conditionGroup connective {query inside} keeps := by
    rw [KeepsCount, openGroup, insertToken, length_insert] at keeps
    unfold Query.closeConditionGroup
    rw [openGroup, insertToken, length_insert]
    exact closeGroup true query.insertionPoint keeps
  join kind target {query inside} keeps :=
    Nat.le_trans (insert { query with cursor := query.joinPoint?.or query.cursor } _) keeps

end KeepsCount

end Query

/-! ### Callbacks of joins -/

namespace Script

/--
A callback that removes nothing, at whatever depth, leaves a join with more fragments than there
were before it, in every state that the query may be in. So the number of fragments that were added
is there for the join to move a cursor by, and the join does not abort the run.
-/
theorem join_grows (home : Connection) (query : Query) (kind : JoinKind) (table : String)
    (label : Option String) {steps : List Step} (spared : removalsAll steps = [])
    (workspace : Workspace) :
    let target := query.escapeAs table label
    let inside := ((runSteps home steps).run (query.openJoin kind target)).run workspace
    let joined := ((Edit.join kind table label (runSteps home steps)).run query).run workspace
    query.fragments.length < inside.1.2.fragments.length ∧
      (query.isJoined target = false →
        joined.2.aborted = inside.2.aborted ∧
        ∀ cursor place, query.cursor = some cursor → query.joinPoint? = some place →
          place ≤ cursor → joined.1.2.cursor =
            some (cursor + (inside.1.2.fragments.length - query.fragments.length))) := by
  intro target inside joined
  have opened : (query.openJoin kind target).fragments.length = query.fragments.length + 1 :=
    Query.length_insert { query with cursor := query.joinPoint?.or query.cursor } _
  have removes : KeepsRemovals Query.KeepsCount (removalsAll steps) := by
    rw [spared]
    exact List.forall_mem_nil _
  have kept : (query.openJoin kind target).fragments.length ≤ inside.1.2.fragments.length :=
    runSteps_keeps_of_removals Query.KeepsCount.additive home steps removes _ workspace
  rw [opened] at kept
  refine ⟨kept, fun free => ?_⟩
  have ran : joined = ((some inside.1.1, inside.1.2.closeJoin query), inside.2) := by
    change ((Edit.join kind table label (runSteps home steps)).run query).run workspace = _
    rw [Edit.run_join]
    dsimp only
    rw [if_neg (Bool.eq_false_iff.1 free),
      Query.lostFragments_eq_false (Nat.le_of_succ_le kept), Workspace.abortIf_false]
  refine ⟨by rw [ran], fun cursor place known found reached => ?_⟩
  rw [ran]
  simp [Query.closeJoin, known, found, reached]

/-- A group that stays empty adds nothing, and a join within the callback adds to the join. -/
theorem join_grows_nested :
    let home : Connection := .ofConfig {}
    let query : Query := ((Query.table home "a").run {}).1
    let steps : List Step := [.conditionGroup .or [], .join .left "c" none (some [.limit 1])]
    let joined := ((Edit.join .inner "b" none (runSteps home steps)).run query).run {}
    removalsAll steps = [] ∧ query.isJoined (query.escapeAs "b" none) = false ∧
      joined.2.aborted = false ∧ query.fragments.length < joined.1.2.fragments.length := by
  intro home query steps joined
  have spared : removalsAll steps = [] := rfl
  have free : query.isJoined (query.escapeAs "b" none) = false := by decide +kernel
  obtain ⟨grows, fine⟩ := join_grows home query .inner "b" none spared {}
  have kept : joined.1.2.fragments = (((runSteps home steps).run
      (query.openJoin .inner (query.escapeAs "b" none))).run {}).1.2.fragments := by decide +kernel
  refine ⟨spared, free, (fine free).1.trans (by decide +kernel), ?_⟩
  rw [kept]
  exact grows

/--
A callback that removes two clauses leaves fewer fragments than there were before its join. No
number of fragments was added, and the program comes to nothing.
-/
theorem join_shrinks :
    let home : Connection := .ofConfig {}
    let removals : List Step := [.removeClause "where", .removeClause "limit"]
    let nested : Step := .join .inner "c" none (some removals)
    let onKey : Step := .condition .join .and (.pair (.column "b.id") (.column "a.id"))
    let first : List Step := [.selectRaw "*", .source "a" none,
      .condition .filter .and (.pair (.column "x") (.scalar (.int 1))), .limit 1]
    let query : Query := (((runSteps home first).run ((Query.new home).run {}).1).run {}).1.2
    let outer := query.openJoin .inner "\"b\""
    let inside := (((runSteps home removals).run (outer.openJoin .inner "\"c\"")).run {}).1.2
    let program : Program := {
      connection := home
      commands := (first ++ [Step.join .inner "b" none (some [nested, onKey])]).map
        (Command.on firstName) }
    inside.fragments.length < outer.fragments.length ∧ program.outcome = none := by
  decide +kernel

end Script

end SqlBuilder
