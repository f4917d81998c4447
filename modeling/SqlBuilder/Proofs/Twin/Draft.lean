import SqlBuilder.Proofs.Twin.Condition

/-!
# Drafts in both runs

What both runs build from a draft: the two projections of one tree, whose leaves allow it to be
compiled. The leaves of the tree are in proportion to those of the draft, so verbatim SQL that is
within bounds stays so.
-/

namespace SqlBuilder

open Script

theorem Predicate.leaves_project (pick : Query × Query → Query) (predicate : TwinPredicate) :
    (predicate.project pick).leaves = predicate.leaves.map (Leaf.project pick) := by
  cases predicate with
  | single operand => exact Operand.resolvedLeaves_project pick operand
  | compare lhs comparator rhs =>
      simp [Predicate.project, Predicate.leaves, Operand.resolvedLeaves_project, Leaf.project]
  | pair lhs rhs =>
      by_cases null : rhs = .scalar .null
      · subst null
        simp [Predicate.project, Operand.project, Predicate.leaves, Operand.resolvedLeaves_project,
          Leaf.project]
      · have other : rhs.project pick ≠ .scalar .null := by
          intro same
          cases rhs with
          | scalar value =>
              have null' : value = .null := Operand.scalar.inj same
              exact null (congrArg Operand.scalar null')
          | custom own => exact own.elim
          | column name => cases same
          | raw sql => cases same
          | backing value => cases same
          | expr expr => cases same
          | query twins => cases same
        rw [Predicate.project, Predicate.leaves, Predicate.leaves, Operand.resolvedLeaves_project,
          Operand.resolvedLeaves_project, List.map_append]
        · exact null
        · exact other

theorem predicateOf?_project (pick : Query × Query → Query) (lhs : Option TwinOperand)
    (comparator : Option String) (rhs : Option TwinOperand) :
    predicateOf? (lhs.map (Operand.project pick)) comparator (rhs.map (Operand.project pick)) =
      (predicateOf? lhs comparator rhs).map (Predicate.project pick) := by
  cases lhs <;> cases comparator <;> cases rhs <;> rfl

namespace Coupling

variable (coupling : Coupling)

/-- Things that are the projections of one tree. -/
def TreeTwin {Tree Built : Type} (project : (Query × Query → Query) → Tree → Built)
    (leaves : Tree → List (Leaf (Query × Query) Empty)) (registry : Registry)
    (built built' : Built) : Prop :=
  ∃ tree, built = project Prod.fst tree ∧ built' = project Prod.snd tree ∧
    coupling.AdmitsAll registry false (leaves tree)

/-- Operands that are one tree in both runs. -/
abbrev ValueTwin := coupling.TreeTwin Operand.project Operand.leaves

/-- Lists of operands that are one tree each. -/
abbrev ValuesTwin := coupling.TreeTwin Operand.projectAll Operand.leavesAll

/-- Rows of operands that are one tree each. -/
abbrev RowsTwin := coupling.TreeTwin
  (fun pick (rows : List (List TwinOperand)) => rows.map (Operand.projectAll pick))
  fun rows => Operand.leavesAll rows.flatten

/-- Terms of an order that are one tree each. -/
abbrev OrderTwin := coupling.TreeTwin Operand.projectOrder Operand.leavesOrder

/-- Operands that are absent in both runs, or one tree. -/
abbrev OptionTwin := coupling.TreeTwin
  (fun pick (tree : Option TwinOperand) => tree.map (Operand.project pick))
  fun tree => (tree.map Operand.leaves).getD []

/-- Expressions that are one tree in both runs. -/
abbrev ExprTwin := coupling.TreeTwin Expr.project Expr.leaves

/-- Predicates that are one tree in both runs. -/
abbrev PredicateTwin := coupling.TreeTwin Predicate.project Predicate.leaves

/-- Builder calls that run alike. The items that they add to a select list bind nothing, unless both
runs are the same. -/
structure Clean (home : Connection) (call : Call) : Prop extends
    call.step.Within coupling.isCode fun connection =>
      coupling.connections connection connection where
  given : ∀ value, call.step.Gives value → coupling.values value
  silent : coupling.identical ∨ ∀ leaf ∈ call.itemLeaves home, bindsNothing leaf

/-- Leaves from which both runs build trees. -/
abbrev CleanLeaves (leaves : List (Leaf QueryDraft CustomDraft)) : Prop :=
  ∀ leaf ∈ leaves, Within coupling.isCode coupling.values
    (fun connection => coupling.connections connection connection) leaf

variable {coupling}

theorem Clean.cleanLeaves {home : Connection} {call : Call} (clean : coupling.Clean home call) :
    coupling.CleanLeaves call.step.leaves :=
  fun leaf mem => (clean.leaves leaf mem).giving fun value same =>
    clean.given value ⟨leaf, mem, same⟩

theorem CleanLeaves.left {leaves more : List (Leaf QueryDraft CustomDraft)}
    (clean : coupling.CleanLeaves (leaves ++ more)) : coupling.CleanLeaves leaves :=
  fun leaf mem => clean leaf (List.mem_append_left _ mem)

theorem CleanLeaves.right {leaves more : List (Leaf QueryDraft CustomDraft)}
    (clean : coupling.CleanLeaves (leaves ++ more)) : coupling.CleanLeaves more :=
  fun leaf mem => clean leaf (List.mem_append_right _ mem)

theorem CleanLeaves.tail {leaf : Leaf QueryDraft CustomDraft}
    {leaves : List (Leaf QueryDraft CustomDraft)} (clean : coupling.CleanLeaves (leaf :: leaves)) :
    coupling.CleanLeaves leaves :=
  fun other mem => clean other (List.mem_cons_of_mem _ mem)

/-- A value that may be bound may be a literal. -/
theorem CleanLeaves.of_resolved {draft : Draft}
    (clean : coupling.CleanLeaves draft.resolvedLeaves) :
    coupling.CleanLeaves draft.leaves := by
  cases draft with
  | scalar value =>
      have allowed : coupling.values value := clean (.bound value) (List.mem_singleton_self _)
      intro leaf mem
      rw [Operand.leaves] at mem
      rcases value.leaves_eq with same | same <;> rw [same] at mem <;>
        obtain rfl := List.mem_singleton.1 mem <;> exact allowed
  | column name => exact clean
  | raw sql => exact clean
  | backing value => exact clean
  | expr expr => exact clean
  | query draft => exact clean
  | custom draft => exact clean

theorem CleanLeaves.all_of_resolved {drafts : List Draft}
    (clean : coupling.CleanLeaves (drafts.flatMap Operand.resolvedLeaves)) :
    coupling.CleanLeaves (Operand.leavesAll drafts) := by
  rw [Operand.leavesAll_eq_flatMap]
  intro leaf mem
  obtain ⟨draft, draft_mem, leaf_mem⟩ := List.mem_flatMap.1 mem
  exact CleanLeaves.of_resolved (fun leaf mem => clean leaf
    (List.mem_flatMap.2 ⟨draft, draft_mem, mem⟩)) leaf leaf_mem

theorem CleanLeaves.option {draft : Option Draft}
    (clean : coupling.CleanLeaves (draft.toList.flatMap Operand.resolvedLeaves)) :
    ∀ present ∈ draft, coupling.CleanLeaves present.leaves := by
  rintro present rfl
  rw [Option.toList_some, List.flatMap_singleton] at clean
  exact CleanLeaves.of_resolved clean

/-- Equality with null binds nothing on its right side. -/
theorem CleanLeaves.of_pair {lhs rhs : Draft}
    (clean : coupling.CleanLeaves (Predicate.pair lhs rhs).leaves) :
    coupling.CleanLeaves lhs.leaves ∧ coupling.CleanLeaves rhs.leaves := by
  by_cases null : rhs = .scalar .null
  · subst null
    exact ⟨CleanLeaves.of_resolved clean.left, clean.right⟩
  · have leaves : (Predicate.pair lhs rhs).leaves = lhs.resolvedLeaves ++ rhs.resolvedLeaves := by
      rw [Predicate.leaves]
      exact null
    rw [leaves] at clean
    exact ⟨.of_resolved clean.left, .of_resolved clean.right⟩

theorem AdmitsAll.nested {registry : Registry} {quiet : Bool} {query query' : Query}
    (twins : coupling.Nested registry quiet query query') :
    coupling.AdmitsAll registry quiet [.nested (query, query')] := by
  intro leaf mem
  obtain rfl := List.mem_singleton.1 mem
  exact twins

theorem AdmitsAll.cons_verbatim {registry : Registry} {quiet : Bool} {text : String}
    {leaves : List (Leaf (Query × Query) Empty)} (verbatim : coupling.Verbatim text)
    (admits : coupling.AdmitsAll registry quiet leaves) :
    coupling.AdmitsAll registry quiet (.verbatim text :: leaves) := by
  intro leaf mem
  rcases List.mem_cons.1 mem with rfl | mem
  · exact verbatim
  · exact admits leaf mem

theorem AdmitsAll.all_resolved {registry : Registry} {operands : List TwinOperand}
    (admits : coupling.AdmitsAll registry false (Operand.leavesAll operands)) :
    coupling.AdmitsAll registry false (operands.flatMap Operand.resolvedLeaves) := by
  induction operands with
  | nil => simp [AdmitsAll]
  | cons operand rest ih => exact admits.left.resolved.append (ih admits.right)

theorem AdmitsAll.predicateOf {registry : Registry} {lhs rhs : Option TwinOperand}
    {comparator : Option String} {predicate : TwinPredicate}
    (made : predicateOf? lhs comparator rhs = some predicate)
    (verbatim : ∀ text ∈ comparator, coupling.Verbatim text)
    (admits : coupling.AdmitsAll registry false ((lhs.map Operand.leaves).getD []))
    (admits' : coupling.AdmitsAll registry false ((rhs.map Operand.leaves).getD [])) :
    coupling.AdmitsAll registry false predicate.leaves := by
  cases lhs with
  | none => cases made
  | some lhs =>
      cases comparator with
      | none =>
          cases rhs with
          | none =>
              cases made
              exact admits.resolved
          | some rhs =>
              cases made
              exact admits.pair admits'
      | some comparator =>
          cases rhs with
          | none => cases made
          | some rhs =>
              cases made
              exact admits.compare (verbatim comparator rfl) admits'

/-- A tree binds nothing if its first projection does not. -/
theorem AdmitsAll.quiet {registry : Registry} {leaves : List (Leaf (Query × Query) Empty)}
    (admits : coupling.AdmitsAll registry false leaves)
    (silent : ∀ leaf ∈ leaves.map (Leaf.project Prod.fst), bindsNothing leaf) :
    coupling.AdmitsAll registry true leaves := by
  intro leaf mem
  have admitted := admits leaf mem
  have nothing := silent _ (List.mem_map_of_mem mem)
  cases leaf with
  | verbatim text => exact admitted
  | bound value => exact nothing.elim
  | literal value => exact admitted
  | nested twins =>
      have nested : coupling.Nested registry false twins.1 twins.2 := admitted
      exact { nested with silent := fun _ => nothing }
  | custom own => exact own.elim

theorem AdmitsAll.resolved_quiet {registry : Registry} {operand : TwinOperand}
    (admits : coupling.AdmitsAll registry false operand.leaves)
    (silent : ∀ leaf ∈ (operand.project Prod.fst).resolvedLeaves, bindsNothing leaf) :
    coupling.AdmitsAll registry true operand.resolvedLeaves := by
  rw [Operand.resolvedLeaves_project] at silent
  exact admits.resolved.quiet silent

theorem AdmitsAll.all_quiet {registry : Registry} {operands : List TwinOperand}
    (admits : coupling.AdmitsAll registry false (Operand.leavesAll operands))
    (silent : ∀ leaf ∈ (Operand.projectAll Prod.fst operands).flatMap Operand.resolvedLeaves,
      bindsNothing leaf) :
    coupling.AdmitsAll registry true (operands.flatMap Operand.resolvedLeaves) := by
  have leaves : (Operand.projectAll Prod.fst operands).flatMap Operand.resolvedLeaves =
      (operands.flatMap Operand.resolvedLeaves).map (Leaf.project Prod.fst) := by
    rw [Operand.projectAll_eq_map, List.flatMap_map, List.map_flatMap]
    exact List.flatMap_congr fun operand _ => Operand.resolvedLeaves_project Prod.fst operand
  rw [leaves] at silent
  exact admits.all_resolved.quiet silent

section Trees

variable {registry : Registry} {workspace workspace' : Workspace}
  {calls calls' more more' : List Call} {Tree Built First FirstBuilt Second SecondBuilt : Type}
  {project : (Query × Query → Query) → Tree → Built}
  {leaves : Tree → List (Leaf (Query × Query) Empty)}
  {projectFirst : (Query × Query → Query) → First → FirstBuilt}
  {leavesFirst : First → List (Leaf (Query × Query) Empty)}
  {projectSecond : (Query × Query → Query) → Second → SecondBuilt}
  {leavesSecond : Second → List (Leaf (Query × Query) Empty)}

/-- A tree that both runs build from one other tree. -/
theorem Builds.tree {action action' : Session FirstBuilt} (build build' : FirstBuilt → Built)
    (combine : First → Tree)
    (projects : ∀ first, build (projectFirst Prod.fst first) = project Prod.fst (combine first))
    (projects' : ∀ first, build' (projectFirst Prod.snd first) = project Prod.snd (combine first))
    (first : coupling.Builds registry workspace workspace' calls calls' action action'
      (coupling.TreeTwin projectFirst leavesFirst))
    (admits : ∀ {later first}, coupling.AdmitsAll later false (leavesFirst first) →
      coupling.AdmitsAll later false (leaves (combine first))) :
    coupling.Builds registry workspace workspace' calls calls' (do return build (← action))
      (do return build' (← action')) (coupling.TreeTwin project leaves) := by
  refine .map first fun later built built' _ ⟨tree, same, same', allowed⟩ => ?_
  rw [same, same']
  exact ⟨combine tree, projects tree, projects' tree, admits allowed⟩

/-- A tree that both runs build from two other trees. -/
theorem Builds.trees {action action' : Session FirstBuilt} {next next' : Session SecondBuilt}
    (build build' : FirstBuilt → SecondBuilt → Built) (combine : First → Second → Tree)
    (projects : ∀ first second,
      build (projectFirst Prod.fst first) (projectSecond Prod.fst second) =
        project Prod.fst (combine first second))
    (projects' : ∀ first second,
      build' (projectFirst Prod.snd first) (projectSecond Prod.snd second) =
        project Prod.snd (combine first second))
    (first : coupling.Builds registry workspace workspace' calls calls' action action'
      (coupling.TreeTwin projectFirst leavesFirst))
    (second : ∀ later, registry.Extends later →
      coupling.Builds later (action.run workspace).2 (action'.run workspace').2 more more'
        next next' (coupling.TreeTwin projectSecond leavesSecond))
    (admits : ∀ {later first second}, coupling.AdmitsAll later false (leavesFirst first) →
      coupling.AdmitsAll later false (leavesSecond second) →
      coupling.AdmitsAll later false (leaves (combine first second))) :
    coupling.Builds registry workspace workspace' (calls ++ more) (calls' ++ more')
      (do let value ← action; return build value (← next))
      (do let value ← action'; return build' value (← next'))
      (coupling.TreeTwin project leaves) := by
  refine .bind first fun later _ ⟨tree, same, same', allowed⟩ => ?_
  refine .map (second later ‹_›) fun latest built built' grown ⟨other, more, more', allowed'⟩ => ?_
  rw [same, same', more, more']
  exact ⟨combine tree other, projects tree other, projects' tree other,
    admits (allowed.mono grown) allowed'⟩

end Trees

end Coupling

end SqlBuilder
