import SqlBuilder.Proofs.Expr.Equation
import SqlBuilder.Proofs.Expr.Leaf

/-!
# What compiling has from its steps

An operand is compiled in steps. Each leaf that is more than text is one, and so is a literal and
the question whether the dialect has a construct. What holds of these steps, and of steps in a row
if it holds of each of them, holds of compiling a tree. The induction on the tree is made here, once
for every such property.
-/

namespace SqlBuilder

namespace Compile

variable {holds : ∀ {α : Type}, Compile α → Prop} {connection : Connection}

/-- A property that steps in a row have from the steps, and that the steps have which are no
leaves. -/
structure Inherits (holds : ∀ {α : Type}, Compile α → Prop) (connection : Connection) : Prop where
  pure : ∀ {α : Type} (value : α), holds (pure value)
  bind : ∀ {α β : Type} {action : Compile α} {next : α → Compile β}, holds action →
    (∀ value, holds (next value)) → holds (action >>= next)
  quoteText : ∀ text, holds (modifyGet (Ledger.quoteText connection text))
  require : ∀ feature, holds (modifyGet (Ledger.require connection feature))

/-- Whether the step of a leaf has a property. What is only text is no step. -/
def LeafHolds (holds : ∀ {α : Type}, Compile α → Prop) (connection : Connection) :
    Leaf Query CustomExpr → Prop
  | .verbatim _ | .literal _ => True
  | .bound value => holds (modifyGet (Ledger.bind connection value))
  | .nested nested => holds (modifyGet (Ledger.embed nested))
  | .custom custom => holds (custom.render connection)

/-- Whether the steps of all leaves have a property. -/
abbrev LeavesHold (holds : ∀ {α : Type}, Compile α → Prop) (connection : Connection)
    (leaves : List (Leaf Query CustomExpr)) : Prop :=
  ∀ leaf ∈ leaves, LeafHolds holds connection leaf

namespace LeavesHold

variable {leaf : Leaf Query CustomExpr} {leaves more : List (Leaf Query CustomExpr)}

theorem left (hold : LeavesHold holds connection (leaves ++ more)) :
    LeavesHold holds connection leaves :=
  fun leaf mem => hold leaf (List.mem_append_left _ mem)

theorem right (hold : LeavesHold holds connection (leaves ++ more)) :
    LeavesHold holds connection more :=
  fun leaf mem => hold leaf (List.mem_append_right _ mem)

theorem head (hold : LeavesHold holds connection (leaf :: leaves)) :
    LeafHolds holds connection leaf :=
  hold leaf List.mem_cons_self

theorem tail (hold : LeavesHold holds connection (leaf :: leaves)) :
    LeavesHold holds connection leaves :=
  fun other mem => hold other (List.mem_cons_of_mem _ mem)

end LeavesHold

namespace Inherits

variable {α β γ : Type} (inherits : Inherits holds connection)

include inherits

theorem map {action : Compile α} (first : holds action) (change : α → β) :
    holds (do return change (← action)) :=
  inherits.bind first fun value => inherits.pure (change value)

/-- Two parts in a row. -/
theorem two {action : Compile α} {next : Compile β} {build : α → β → γ} (first : holds action)
    (second : holds next) :
    holds (do let value ← action; let other ← next; return build value other) :=
  inherits.bind first fun _ => inherits.map second _

theorem backing (value : Backing) : holds (value.compile connection) := by
  cases value with
  | text literal => exact inherits.quoteText literal
  | int number => exact inherits.pure _

theorem separatorText (separator : Option String) : holds (separatorText connection separator) := by
  cases separator with
  | none => exact inherits.pure _
  | some text => exact inherits.map (inherits.quoteText text) _

theorem scalar (value : Scalar) (hold : LeavesHold holds connection value.leaves) :
    holds (Operand.compile connection (.scalar value)) := by
  cases value with
  | text content => exact inherits.quoteText content
  | bool truth => exact inherits.pure _
  | null => exact inherits.pure _
  | _ => exact hold.head

end Inherits

end Compile

/-! ### Trees -/

section Trees

open Compile (Inherits LeavesHold)

variable {holds : ∀ {α : Type}, Compile α → Prop} {connection : Connection}
  (inherits : Inherits holds connection)

include inherits

mutual

theorem Operand.compile_inherits (operand : Value)
    (hold : LeavesHold holds connection operand.leaves) : holds (operand.compile connection) := by
  match operand with
  | .column name => exact inherits.pure _
  | .raw sql => exact inherits.pure _
  | .scalar value => exact inherits.scalar value hold
  | .backing value => exact inherits.backing value
  | .expr expr => exact Expr.compile_inherits expr hold
  | .query nested => exact inherits.map hold.head _
  | .custom custom => exact hold.head

theorem Operand.compileAll_inherits (operands : List Value)
    (hold : LeavesHold holds connection (Operand.leavesAll operands)) :
    holds (Operand.compileAll connection operands) := by
  match operands with
  | [] => exact inherits.pure _
  | operand :: rest =>
      have first := Operand.compile_inherits operand hold.left
      have others := Operand.compileAll_inherits rest hold.right
      exact inherits.two first others

theorem Operand.compileOrder_inherits (terms : List (Value × Bool))
    (hold : LeavesHold holds connection (Operand.leavesOrder terms)) :
    holds (Operand.compileOrder connection terms) := by
  match terms with
  | [] => exact inherits.pure _
  | (operand, descends) :: rest =>
      have first := Operand.compile_inherits operand hold.left
      have others := Operand.compileOrder_inherits rest hold.right
      exact inherits.two first others

theorem Expr.compile_inherits (expr : Expr Query CustomExpr)
    (hold : LeavesHold holds connection expr.leaves) : holds (expr.compile connection) := by
  match expr with
  | .between lower upper =>
      exact inherits.two (Operand.compile_inherits lower hold.left)
        (Operand.compile_inherits upper hold.right)
  | .inList [] => exact inherits.pure _
  | .inList (first :: rest) =>
      -- One nested query is the list itself and no item of it.
      by_cases single : ∃ nested, first :: rest = [.query nested]
      · rcases single with ⟨nested, same⟩
        rw [same] at hold ⊢
        have embedded : holds (modifyGet (Ledger.embed nested)) := hold.left.head
        exact inherits.map embedded _
      · have all := Operand.compileAll_inherits (first :: rest) hold
        rw [Expr.compile_inList connection first rest fun nested same => single ⟨nested, same⟩]
        exact inherits.map all _
  | .isNull => exact inherits.pure _
  | .exists nested => exact inherits.map hold.head _
  | .not inner =>
      by_cases same : inner = .isNull
      · rw [same]
        exact inherits.pure _
      · have negated := Expr.compile_inherits inner hold
        rw [Expr.compile_not connection inner same]
        exact inherits.map negated _
  | .call name arguments => exact inherits.map (Operand.compileAll_inherits arguments hold.tail) _
  | .aggregate name arguments distinct =>
      exact inherits.map (Operand.compileAll_inherits arguments hold.tail) _
  | .groupConcat value distinct order separator limit offset =>
      have parts : LeavesHold holds connection (value.leaves ++ Operand.leavesOrder order) := hold
      refine inherits.bind (inherits.require .groupConcat) fun supported => ?_
      split
      · refine inherits.bind (Operand.compile_inherits value parts.left) fun _ => ?_
        refine inherits.bind (Operand.compileOrder_inherits order parts.right) fun _ => ?_
        exact inherits.map (inherits.separatorText separator) _
      · exact inherits.pure _
  | .ifElse condition yes no =>
      have others : LeavesHold holds connection (yes.leaves ++ no.leaves) := hold.right
      refine inherits.bind (Operand.compile_inherits condition hold.left) fun _ => ?_
      refine inherits.bind (Operand.compile_inherits yes others.left) fun _ => ?_
      refine inherits.bind (Operand.compile_inherits no others.right) fun _ => ?_
      split <;> exact inherits.pure _
  | .ifNull value fallback =>
      exact inherits.two (Operand.compile_inherits value hold.left)
        (Operand.compile_inherits fallback hold.right)
  | .nullIf value other =>
      exact inherits.two (Operand.compile_inherits value hold.left)
        (Operand.compile_inherits other hold.right)
  | .matchAgainst fields search booleanMode queryExpansion =>
      have parts : LeavesHold holds connection (Operand.leavesAll fields ++ search.leaves) := hold
      refine inherits.bind (inherits.require .matchAgainst) fun supported => ?_
      split
      · exact inherits.two (Operand.compileAll_inherits fields parts.left)
          (Operand.compile_inherits search parts.right)
      · exact inherits.pure _
  | .operation lhs operator rhs =>
      have parts : LeavesHold holds connection (lhs.leaves ++ rhs.leaves) := hold.tail
      exact inherits.two (Operand.compile_inherits lhs parts.left)
        (Operand.compile_inherits rhs parts.right)
  | .nested nested => exact inherits.map hold.head _
  | .assign name nested =>
      have embedded : holds (modifyGet (Ledger.embed nested)) := hold.tail.head
      exact inherits.bind (inherits.require .variables) fun _ => inherits.map embedded _
  | .cast value type => exact inherits.map (Operand.compile_inherits value hold.tail) _

end

theorem Operand.resolve_inherits (operand : Value)
    (hold : LeavesHold holds connection operand.resolvedLeaves) :
    holds (operand.resolve connection) := by
  cases operand with
  | scalar value => exact hold.head
  | column name => exact Operand.compile_inherits inherits (.column name) hold
  | raw sql => exact Operand.compile_inherits inherits (.raw sql) hold
  | backing value => exact Operand.compile_inherits inherits (.backing value) hold
  | expr expr => exact Operand.compile_inherits inherits (.expr expr) hold
  | query nested => exact Operand.compile_inherits inherits (.query nested) hold
  | custom custom => exact Operand.compile_inherits inherits (.custom custom) hold

theorem Predicate.compile_inherits (predicate : Predicate Query CustomExpr)
    (hold : LeavesHold holds connection predicate.leaves) :
    holds (predicate.compile connection) := by
  cases predicate with
  | single operand => exact Operand.resolve_inherits inherits operand hold
  | compare lhs comparator rhs =>
      have parts : LeavesHold holds connection (lhs.resolvedLeaves ++ rhs.resolvedLeaves) :=
        hold.tail
      exact inherits.two (Operand.resolve_inherits inherits lhs parts.left)
        (Operand.resolve_inherits inherits rhs parts.right)
  | pair lhs rhs =>
      by_cases null : rhs = .scalar .null
      · -- Nothing is compiled on the right of a test for null.
        rw [null] at hold ⊢
        have left : LeavesHold holds connection lhs.resolvedLeaves :=
          fun leaf mem => hold leaf (List.mem_append_left _ mem)
        exact inherits.bind (Operand.resolve_inherits inherits lhs left) fun _ => inherits.pure _
      · have parts : LeavesHold holds connection (lhs.resolvedLeaves ++ rhs.resolvedLeaves) := by
          rwa [Predicate.leaves] at hold
          exact null
        have right := Operand.resolve_inherits inherits rhs parts.right
        refine inherits.bind (Operand.resolve_inherits inherits lhs parts.left) fun _ => ?_
        split
        · exact inherits.map right _
        · split
          · exact inherits.pure _
          · exact inherits.map right _

end Trees

end SqlBuilder
