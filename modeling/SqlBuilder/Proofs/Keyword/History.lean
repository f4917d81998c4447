import Mathlib.Data.List.Forall2
import SqlBuilder.Proofs.Query.Splice

/-!
# Histories of conditions

Which conditions were asked for, in which order, which of them by hooks of others, and which queries
were united with the query in between. A history tells nothing of fragments: `History.write` says
which conditions find their clause absent when they are called, and so start it, and where the
conditions come to stand between the hooks around them.

Keywords are read off the fragments in branches: a union closes a branch, and the last branch of a
query that is united goes on with what is called afterwards.
-/

namespace SqlBuilder

/-- A list in branches: those that are closed, and the one that goes on. -/
structure Branches (α : Type) where
  closed : List (List α) := []
  current : List α := []
  deriving DecidableEq

namespace Branches

variable {α : Type}

/-- The branches in order. -/
def all (branches : Branches α) : List (List α) := branches.closed ++ [branches.current]

/-- What the branches hold. -/
def items (branches : Branches α) : List α := branches.all.flatten

/-- One more item in the last branch. -/
def add (branches : Branches α) (item : α) : Branches α :=
  { branches with current := branches.current ++ [item] }

/-- The branches of another list behind one's own. -/
def unite (branches other : Branches α) : Branches α :=
  { closed := branches.closed ++ branches.current :: other.closed, current := other.current }

@[simp] theorem items_empty : items ({} : Branches α) = [] := rfl

@[simp] theorem items_add (branches : Branches α) (item : α) :
    (branches.add item).items = branches.items ++ [item] := by
  simp [items, all, add]

@[simp] theorem items_unite (branches other : Branches α) :
    (branches.unite other).items = branches.items ++ other.items := by
  simp [items, all, unite]

theorem all_unite (branches other : Branches α) :
    (branches.unite other).all = branches.all ++ other.all := by
  simp [all, unite]

theorem unite_unite (branches other last : Branches α) :
    (branches.unite other).unite last = branches.unite (other.unite last) := by
  simp [unite]

end Branches

/-! ### Keywords in branches -/

/-- The keywords that close a branch. -/
def unionKeywords : List String := ["union", "union all"]

/-- The keywords of conditions outside of joins, and the connectives. -/
def predicateKeywords : List String := ["where", "having", "and", "or"]

/-- Reads a fragment: a union closes a branch, a predicate goes to the last one. -/
def Fragment.read (branches : Branches String) (fragment : Fragment) : Branches String :=
  if unionKeywords.contains fragment.keyword then branches.unite {}
  else if predicateKeywords.contains fragment.keyword then branches.add fragment.keyword
  else branches

/-- The keywords of the predicates, cut at the unions. -/
def Query.branches (query : Query) : Branches String := query.fragments.foldl Fragment.read {}

namespace Fragment

variable {fragment : Fragment} {fragments block : List Fragment}

theorem read_congr {other : Fragment} (same : other.keyword = fragment.keyword)
    (branches : Branches String) : other.read branches = fragment.read branches := by
  rw [read, read, same]

/-- Other keywords do not matter. -/
theorem read_eq_self (other : fragment.keyword ∉ unionKeywords ++ predicateKeywords)
    (branches : Branches String) : fragment.read branches = branches := by
  simp only [List.mem_append, not_or] at other
  rw [read, if_neg (by simpa using other.1), if_neg (by simpa using other.2)]

theorem read_unite (branches other : Branches String) (fragment : Fragment) :
    fragment.read (branches.unite other) = branches.unite (fragment.read other) := by
  unfold read
  split
  · exact Branches.unite_unite branches other {}
  · split <;> rfl

/-- What is read behind a union is read from the start. -/
theorem foldl_read_unite (branches other : Branches String) (fragments : List Fragment) :
    fragments.foldl read (branches.unite other) = branches.unite (fragments.foldl read other) := by
  induction fragments generalizing other with
  | nil => rfl
  | cons fragment rest ih => rw [List.foldl_cons, read_unite, ih, List.foldl_cons]

/-- Parentheses do not matter: the keyword that is pulled out stands for the one that is gone. -/
theorem foldl_read_group (pull : Bool) (branches : Branches String) (block : List Fragment) :
    (group pull block).foldl read branches = block.foldl read branches := by
  have empty : "" ∉ unionKeywords ++ predicateKeywords := by decide
  have opening : "(" ∉ unionKeywords ++ predicateKeywords := by decide
  have closing : ")" ∉ unionKeywords ++ predicateKeywords := by decide
  cases block with
  | nil => rfl
  | cons first rest =>
      rw [group, List.foldl_append, List.foldl_cons, List.foldl_nil, read_eq_self closing, enclose]
      split
      · have blank (branches : Branches String) :
            ({ first with keyword := "" } : Fragment).read branches = branches :=
          read_eq_self empty branches
        rw [List.foldl_cons, List.foldl_cons, List.foldl_cons, blank]
        exact congrArg (rest.foldl read) (read_congr rfl branches)
      · rw [List.foldl_cons, read_eq_self opening]

/-- The keywords of the predicates, without regard to unions. -/
theorem items_foldl_read (branches : Branches String) (fragments : List Fragment) :
    (fragments.foldl read branches).items =
      branches.items ++ (fragments.map (·.keyword)).filter predicateKeywords.contains := by
  induction fragments generalizing branches with
  | nil => simp
  | cons fragment rest ih =>
      rw [List.foldl_cons, ih, List.map_cons, List.filter_cons]
      unfold read
      split
      case isTrue union =>
        have other : predicateKeywords.contains fragment.keyword = false := by
          have words : ∀ keyword ∈ unionKeywords, predicateKeywords.contains keyword = false := by
            decide
          exact words _ (List.contains_iff_mem.1 union)
        rw [other, if_neg Bool.false_ne_true, Branches.items_unite, Branches.items_empty,
          List.append_nil]
      case isFalse =>
        split <;> simp

end Fragment

/-! ### Histories -/

/-- Conditions and unions in the order in which they were called. -/
inductive History where
  | done
  /-- A condition, with what the hooks of its operands asked for before and after it was added. -/
  | condition (clause : ConditionClause) (before after rest : History)
  /-- A union with a query that has a history of its own. -/
  | union (other rest : History)

/-- A condition as it comes to stand in a query. -/
structure Mark where
  clause : ConditionClause
  /-- Whether the condition starts its clause. -/
  opens : Bool
  deriving DecidableEq

namespace History

/-- One history behind another. -/
def append : History → History → History
  | .done, last => last
  | .condition clause before after rest, last => .condition clause before after (rest.append last)
  | .union other rest, last => .union other (rest.append last)

/--
What a history adds to the conditions of a query. A condition starts its clause if no condition does
so when it is called; it comes to stand between the conditions of its hooks.
-/
def write : History → Branches Mark → Branches Mark
  | .done, marks => marks
  | .condition clause before after rest, marks =>
    let own : Mark := { clause, opens := !marks.items.contains { clause, opens := true } }
    rest.write (after.write ((before.write marks).add own))
  | .union other rest, marks => rest.write (marks.unite (other.write {}))

theorem write_append (first second : History) (marks : Branches Mark) :
    (first.append second).write marks = second.write (first.write marks) := by
  induction first generalizing marks with
  | done => rfl
  | condition clause before after rest _ _ ih => exact ih _
  | union other rest _ ih => exact ih _

end History

/-! ### Marks and keywords -/

/-- Whether a keyword is that of a condition which starts its clause, or which does not. -/
def Mark.Reads (mark : Mark) (keyword : String) : Prop :=
  if mark.opens then keyword = mark.clause.keyword else keyword ∈ ["and", "or"]

/-- Whether keywords are those of conditions, branch by branch. -/
structure Branches.Reads (marks : Branches Mark) (words : Branches String) : Prop where
  closed : List.Forall₂ (List.Forall₂ Mark.Reads) marks.closed words.closed
  current : List.Forall₂ Mark.Reads marks.current words.current

namespace Branches.Reads

variable {marks others : Branches Mark} {words more : Branches String}

theorem empty : Reads {} {} := ⟨.nil, .nil⟩

theorem add (reads : marks.Reads words) {mark : Mark} {keyword : String}
    (own : mark.Reads keyword) : (marks.add mark).Reads (words.add keyword) :=
  ⟨reads.closed, List.rel_append reads.current (.cons own .nil)⟩

theorem unite (reads : marks.Reads words) (behind : others.Reads more) :
    (marks.unite others).Reads (words.unite more) :=
  ⟨List.rel_append reads.closed (.cons reads.current behind.closed), behind.current⟩

theorem all (reads : marks.Reads words) :
    List.Forall₂ (List.Forall₂ Mark.Reads) marks.all words.all :=
  List.rel_append reads.closed (.cons reads.current .nil)

theorem items (reads : marks.Reads words) : List.Forall₂ Mark.Reads marks.items words.items :=
  List.rel_flatten reads.all

end Branches.Reads

namespace Mark

/-- A condition that starts its clause is told by the keyword. -/
theorem Reads.keyword_eq_iff {mark : Mark} {keyword : String} (reads : mark.Reads keyword)
    (clause : ConditionClause) :
    keyword = clause.keyword ↔ mark = { clause, opens := true } := by
  obtain ⟨own, opens⟩ := mark
  cases opens with
  | true =>
      have same : keyword = own.keyword := reads
      subst same
      cases own <;> cases clause <;> decide
  | false =>
      have word : keyword ∈ ["and", "or"] := reads
      have words : ∀ keyword ∈ ["and", "or"], keyword ≠ clause.keyword := by
        cases clause <;> decide
      simp [words keyword word]

theorem mem_iff_of_reads {marks : List Mark} {words : List String}
    (reads : List.Forall₂ Reads marks words) (clause : ConditionClause) :
    clause.keyword ∈ words ↔ ⟨clause, true⟩ ∈ marks := by
  induction reads with
  | nil => simp
  | cons own _ ih =>
      rw [List.mem_cons, List.mem_cons, ih, eq_comm, own.keyword_eq_iff clause]
      exact or_congr_left eq_comm

theorem count_eq_of_reads {marks : List Mark} {words : List String}
    (reads : List.Forall₂ Reads marks words) (clause : ConditionClause) :
    words.count clause.keyword = marks.count ⟨clause, true⟩ := by
  induction reads with
  | nil => rfl
  | cons own _ ih =>
      rw [List.count_cons, List.count_cons, ih]
      simp only [beq_iff_eq, own.keyword_eq_iff clause]

end Mark

end SqlBuilder
