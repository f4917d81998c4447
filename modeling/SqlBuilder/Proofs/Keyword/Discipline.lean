import SqlBuilder.Proofs.Keyword.Script

/-!
# Keywords in the branches of a union

In each branch of a union the first condition of a clause should carry the keyword of the clause,
and all others a connective. Whether a clause is there already is decided by all fragments of the
query, though, those of the united queries included. So a branch gets its keywords right as long as
no clause is begun anew behind a union that has it in a branch before.
-/

namespace SqlBuilder

/-- Whether the conditions of a branch, given by their clauses, have the keywords they should. -/
structure Disciplined (levels : List ConditionClause) (keywords : List String) : Prop where
  /-- The first condition of a clause carries its keyword. -/
  first : ∀ front clause back, levels = front ++ clause :: back → clause ∉ front →
    keywords[front.length]? = some clause.keyword
  /-- No clause is begun twice. -/
  once : ∀ clause : ConditionClause, keywords.count clause.keyword ≤ 1
  /-- A connective stands behind a keyword of the branch. -/
  behind : ∀ front keyword back, keywords = front ++ keyword :: back → keyword ∈ ["and", "or"] →
    ∃ opening ∈ front, opening ∈ ["where", "having"]

/-- Whether a keyword can be that of a condition of a clause. -/
def ConditionClause.Carries (clause : ConditionClause) (keyword : String) : Prop :=
  keyword ∈ [clause.keyword, "and", "or"]

namespace History

/-- Whether no hook asked for anything. -/
def isPlain : History → Bool
  | .done => true
  | .condition _ .done .done rest => rest.isPlain
  | .condition _ _ _ _ => false
  | .union other rest => other.isPlain && rest.isPlain

/-- The clauses of the conditions, cut at the unions. -/
def levels : History → Branches ConditionClause → Branches ConditionClause
  | .done, sofar => sofar
  | .condition clause before after rest, sofar =>
    rest.levels (after.levels ((before.levels sofar).add clause))
  | .union other rest, sofar => rest.levels (sofar.unite (other.levels {}))

/--
Whether each condition comes in time: its clause is nowhere in the query yet, or it is in the last
branch already. The queries that are united are judged by themselves.
-/
def isTimely : History → Branches ConditionClause → Bool
  | .done, _ => true
  | .condition clause _ _ rest, sofar =>
    (!sofar.items.contains clause || sofar.current.contains clause) &&
      rest.isTimely (sofar.add clause)
  | .union other rest, sofar =>
    other.isTimely {} && rest.isTimely (sofar.unite (other.levels {}))

end History

/-! ### Marks of a branch -/

/-- What stands in a list has a counterpart at the same place of a related list. -/
theorem exists_of_forall₂ {α β : Type} {related : α → β → Prop} {front back : List α} {item : α}
    {others : List β} (all : List.Forall₂ related (front ++ item :: back) others) :
    ∃ before other behind, others = before ++ other :: behind ∧
      List.Forall₂ related front before ∧ related item other := by
  induction front generalizing others with
  | nil =>
      obtain ⟨other, behind, own, -, rfl⟩ := List.forall₂_cons_left_iff.1 all
      exact ⟨[], other, behind, rfl, .nil, own⟩
  | cons first rest ih =>
      obtain ⟨next, more, own, rest_all, rfl⟩ := List.forall₂_cons_left_iff.1 all
      obtain ⟨before, other, behind, rfl, front_all, last⟩ := ih rest_all
      exact ⟨next :: before, other, behind, rfl, .cons own front_all, last⟩

/-- The counterpart of an item stands at the same place. -/
theorem getElem?_of_forall₂ {α β : Type} {related : α → β → Prop} {front : List α}
    {before behind : List β} {other : β} (all : List.Forall₂ related front before) :
    (before ++ other :: behind)[front.length]? = some other := by
  rw [all.length_eq, List.getElem?_append_right (Nat.le_refl _), Nat.sub_self]
  rfl

/-- What is said of each item and those in front of it, when one more item comes. -/
theorem forall_split_concat {α : Type} {holds : List α → α → Prop} {items : List α} {last : α} :
    (∀ front item back, items ++ [last] = front ++ item :: back → holds front item) ↔
      (∀ front item back, items = front ++ item :: back → holds front item) ∧ holds items last := by
  constructor
  · intro all
    refine ⟨fun front item back shape => ?_, all items last [] rfl⟩
    exact all front item (back ++ [last]) (by rw [shape]; simp)
  · rintro ⟨before, own⟩ front item back shape
    rcases List.eq_nil_or_concat back with rfl | ⟨more, final, rfl⟩
    · obtain ⟨rfl, same⟩ := List.append_inj' shape rfl
      cases same
      exact own
    · rw [List.concat_eq_append, ← List.cons_append, ← List.append_assoc] at shape
      obtain ⟨rfl, -⟩ := List.append_inj' shape rfl
      exact before front item more rfl

namespace Mark

/-- Whether the first condition of each clause starts it, and no other does. -/
def Ordered (marks : List Mark) : Prop :=
  ∀ front mark back, marks = front ++ mark :: back →
    (mark.opens = true ↔ mark.clause ∉ front.map (·.clause))

variable {marks : List Mark} {words : List String}

theorem ordered_nil : Ordered [] := fun front _ _ shape => by
  cases front <;> cases shape

theorem ordered_concat (mark : Mark) :
    Ordered (marks ++ [mark]) ↔
      Ordered marks ∧ (mark.opens = true ↔ mark.clause ∉ marks.map (·.clause)) :=
  forall_split_concat

/-- A clause that is there was started. -/
theorem Ordered.mem_opens (ordered : Ordered marks) {clause : ConditionClause}
    (mem : clause ∈ marks.map (·.clause)) : ⟨clause, true⟩ ∈ marks := by
  induction marks using List.reverseRecOn with
  | nil => cases mem
  | append_singleton marks mark ih =>
      obtain ⟨before, last⟩ := (ordered_concat mark).1 ordered
      by_cases known : clause ∈ marks.map (·.clause)
      · exact List.mem_append_left _ (ih before known)
      · have same : mark.clause = clause := by
          simpa [known, eq_comm] using mem
        subst same
        have opens := last.2 known
        exact List.mem_append_right _ (by rw [← opens]; exact List.mem_singleton_self _)

theorem Ordered.count_le_one (ordered : Ordered marks) (clause : ConditionClause) :
    marks.count ⟨clause, true⟩ ≤ 1 := by
  induction marks using List.reverseRecOn with
  | nil => exact Nat.zero_le _
  | append_singleton marks mark ih =>
      obtain ⟨before, last⟩ := (ordered_concat mark).1 ordered
      rw [List.count_append, List.count_singleton]
      split
      case isFalse => exact ih before
      case isTrue same =>
        obtain rfl := beq_iff_eq.1 same
        have absent : Mark.mk clause true ∉ marks := fun mem =>
          last.1 rfl (List.mem_map_of_mem mem)
        rw [List.count_eq_zero.2 absent]

theorem Ordered.left {back : List Mark} (ordered : Ordered (marks ++ back)) : Ordered marks :=
  fun front mark behind shape => ordered front mark (behind ++ back) (by rw [shape]; simp)

theorem Reads.opens_iff {mark : Mark} {keyword : String} (reads : mark.Reads keyword) :
    mark.opens = true ↔ keyword = mark.clause.keyword := by
  rw [reads.keyword_eq_iff mark.clause]
  obtain ⟨clause, opens⟩ := mark
  simp

theorem Reads.closed_of_connective {mark : Mark} {keyword : String} (reads : mark.Reads keyword)
    (connective : keyword ∈ ["and", "or"]) : mark.opens = false := by
  have words : ∀ keyword ∈ ["and", "or"], keyword ≠ mark.clause.keyword := by
    cases mark.clause <;> decide
  rw [Bool.eq_false_iff, Ne, reads.opens_iff]
  exact words keyword connective

/-- A first condition starts its clause if it carries the keyword, and none else does. -/
theorem ordered_of_disciplined (reads : List.Forall₂ Reads marks words)
    (disciplined : Disciplined (marks.map (·.clause)) words) : Ordered marks := by
  rintro front mark back rfl
  obtain ⟨before, keyword, behind, rfl, front_reads, own⟩ := exists_of_forall₂ reads
  rw [own.opens_iff]
  constructor
  · intro same mem
    obtain ⟨earlier, later, shape, absent⟩ := List.eq_append_cons_of_mem mem
    have starts := disciplined.first earlier mark.clause
      (later ++ mark.clause :: back.map (·.clause)) (by simp [shape]) absent
    have inside : earlier.length < before.length := by
      have lengths := congrArg List.length shape
      rw [List.length_map, front_reads.length_eq, List.length_append, List.length_cons] at lengths
      omega
    -- The keyword would occur at the place of the earlier condition and once more.
    rw [List.getElem?_append_left inside] at starts
    have once := disciplined.once mark.clause
    rw [List.count_append, same, List.count_cons_self] at once
    have positive := List.count_pos_iff.2 (List.mem_of_getElem? starts)
    omega
  · intro absent
    have starts := disciplined.first (front.map (·.clause)) mark.clause (back.map (·.clause))
      (by simp) absent
    rw [List.length_map, getElem?_of_forall₂ front_reads] at starts
    exact Option.some.inj starts

/-- A connective belongs to a condition whose clause was started before. -/
theorem Ordered.exists_opening (ordered : Ordered marks) (reads : List.Forall₂ Reads marks words)
    {front back : List String} {keyword : String} (shape : words = front ++ keyword :: back)
    (connective : keyword ∈ ["and", "or"]) :
    ∃ clause : ConditionClause, clause.keyword ∈ front := by
  subst shape
  obtain ⟨before, mark, behind, rfl, front_reads, own⟩ := exists_of_forall₂ reads.flip
  have closed : mark.opens = false := Reads.closed_of_connective own connective
  have mem : mark.clause ∈ before.map (·.clause) := by
    by_contra absent
    rw [(ordered before mark behind rfl).2 absent] at closed
    cases closed
  exact ⟨_, (mem_iff_of_reads front_reads.flip mark.clause).2 (ordered.left.mem_opens mem)⟩

theorem Ordered.disciplined (ordered : Ordered marks) (reads : List.Forall₂ Reads marks words)
    (known : ∀ keyword ∈ words, keyword ∈ predicateKeywords) :
    Disciplined (marks.map (·.clause)) words where
  first front clause back shape absent := by
    obtain ⟨before, others, rfl, rfl, rest⟩ := List.map_eq_append_iff.1 shape
    obtain ⟨mark, behind, rfl, rfl, rfl⟩ := List.map_eq_cons_iff.1 rest
    obtain ⟨words', keyword, _, rfl, front_reads, own⟩ := exists_of_forall₂ reads
    have opens := own.opens_iff.1 ((ordered before mark behind rfl).2 absent)
    rw [List.length_map, getElem?_of_forall₂ front_reads, opens]
  once clause := by
    rw [count_eq_of_reads reads]
    exact ordered.count_le_one clause
  behind front keyword back shape connective := by
    obtain ⟨clause, started⟩ := ordered.exists_opening reads shape connective
    have word : clause.keyword ∈ predicateKeywords :=
      known _ (shape ▸ List.mem_append_left _ started)
    refine ⟨_, started, ?_⟩
    revert word
    cases clause <;> decide

/-- Conditions have the keywords that they should if each clause is started by its first one. -/
theorem disciplined_iff_ordered (reads : List.Forall₂ Reads marks words)
    (known : ∀ keyword ∈ words, keyword ∈ predicateKeywords) :
    Disciplined (marks.map (·.clause)) words ↔ Ordered marks :=
  ⟨ordered_of_disciplined reads, fun ordered => ordered.disciplined reads known⟩

/-- Branches have the keywords that they should if each has its clauses started by its own. -/
theorem disciplined_iff_forall_ordered {marks : List (List Mark)} {words : List (List String)}
    (reads : List.Forall₂ (List.Forall₂ Reads) marks words)
    (known : ∀ branch ∈ words, ∀ keyword ∈ branch, keyword ∈ predicateKeywords) :
    List.Forall₂ (fun branch keywords => Disciplined (branch.map (·.clause)) keywords) marks words ↔
      ∀ branch ∈ marks, Ordered branch := by
  induction reads with
  | nil => simp
  | cons own _ ih =>
      obtain ⟨first, others⟩ := List.forall_mem_cons.1 known
      rw [List.forall₂_cons, List.forall_mem_cons, disciplined_iff_ordered own first, ih others]

theorem Reads.carries {mark : Mark} {keyword : String} (reads : mark.Reads keyword) :
    mark.clause.Carries keyword := by
  obtain ⟨clause, opens⟩ := mark
  cases opens with
  | true => exact reads ▸ List.mem_cons_self
  | false => exact List.mem_cons_of_mem _ reads

end Mark

/-- Only keywords of predicates are read. -/
theorem Query.mem_predicateKeywords (query : Query) {keyword : String}
    (mem : keyword ∈ query.branches.items) : keyword ∈ predicateKeywords := by
  rw [items_branches, List.mem_filter] at mem
  exact List.contains_iff_mem.1 mem.2

/-! ### Histories that keep the keywords in order -/

namespace Branches

/-- The clauses of marks. -/
def levels (marks : Branches Mark) : Branches ConditionClause :=
  { closed := marks.closed.map (·.map (·.clause)), current := marks.current.map (·.clause) }

variable (marks others : Branches Mark)

theorem levels_add (mark : Mark) : (marks.add mark).levels = marks.levels.add mark.clause := by
  simp [levels, add]

theorem levels_unite : (marks.unite others).levels = marks.levels.unite others.levels := by
  simp [levels, unite]

theorem all_levels : marks.levels.all = marks.all.map (·.map (·.clause)) := by
  simp [levels, all]

theorem items_levels : marks.levels.items = marks.items.map (·.clause) := by
  rw [items, all_levels, items, List.map_flatten]

/-- Whether each branch has its clauses started by their first conditions. -/
def Ordered (marks : Branches Mark) : Prop := ∀ branch ∈ marks.all, Mark.Ordered branch

theorem ordered_empty : Ordered {} := by
  simpa [Ordered, all] using Mark.ordered_nil

theorem ordered_unite : Ordered (marks.unite others) ↔ Ordered marks ∧ Ordered others := by
  rw [Ordered, all_unite, List.forall_mem_append]
  rfl

variable {marks}

/-- A clause that is in the query was started in it. -/
theorem Ordered.mem_opens (ordered : Ordered marks) {clause : ConditionClause}
    (mem : clause ∈ marks.levels.items) : ⟨clause, true⟩ ∈ marks.items := by
  rw [items_levels, items, List.map_flatten] at mem
  obtain ⟨_, branch_mem, inside⟩ := List.mem_flatten.1 mem
  obtain ⟨branch, known, rfl⟩ := List.mem_map.1 branch_mem
  exact List.mem_flatten.2 ⟨branch, known, (ordered branch known).mem_opens inside⟩

/-- A condition is in order if its clause is nowhere yet or in its branch. -/
theorem ordered_add (clause : ConditionClause) :
    Ordered (marks.add ⟨clause, !marks.items.contains ⟨clause, true⟩⟩) ↔
      Ordered marks ∧
        (!marks.levels.items.contains clause || marks.levels.current.contains clause) = true := by
  have split (mark : Mark) : Ordered (marks.add mark) ↔
      Ordered marks ∧ (mark.opens = true ↔ mark.clause ∉ marks.current.map (·.clause)) := by
    simp only [Ordered, all, add, List.forall_mem_append, List.forall_mem_singleton,
      Mark.ordered_concat, and_assoc]
  rw [split]
  refine and_congr_right fun ordered => ?_
  have known : ⟨clause, true⟩ ∈ marks.items ↔ clause ∈ marks.levels.items :=
    ⟨fun mem => items_levels marks ▸ List.mem_map_of_mem mem, ordered.mem_opens⟩
  have within : clause ∈ marks.levels.current → clause ∈ marks.levels.items := fun mem =>
    List.mem_flatten.2 ⟨_, List.mem_append_right _ (List.mem_singleton_self _), mem⟩
  simp only [Bool.not_eq_true', Bool.or_eq_true, List.contains_eq_mem, decide_eq_false_iff_not,
    decide_eq_true_iff, known]
  change (_ ↔ clause ∉ marks.levels.current) ↔ _
  tauto

end Branches

namespace History

/-- What a history writes is at the levels that it tells. -/
theorem levels_write (history : History) (marks : Branches Mark) :
    (history.write marks).levels = history.levels marks.levels := by
  induction history generalizing marks with
  | done => rfl
  | condition clause before after rest before_ih after_ih rest_ih =>
      rw [write, levels, rest_ih, after_ih, Branches.levels_add, before_ih]
  | union other rest other_ih rest_ih =>
      rw [write, levels, rest_ih, Branches.levels_unite, other_ih]
      rfl

/-- A history without hooks keeps the keywords in order if each condition comes in time. -/
theorem ordered_write_iff {history : History} (plain : history.isPlain = true)
    (marks : Branches Mark) :
    (history.write marks).Ordered ↔ marks.Ordered ∧ history.isTimely marks.levels = true := by
  induction history generalizing marks with
  | done => simp [write, isTimely]
  | condition clause before after rest _ _ ih =>
      obtain ⟨rfl, rfl, plain⟩ : before = .done ∧ after = .done ∧ rest.isPlain = true := by
        cases before <;> cases after <;> simp_all [isPlain]
      rw [write, write, write, ih plain, Branches.ordered_add, isTimely, Branches.levels_add,
        Bool.and_eq_true, and_assoc]
  | union other rest other_ih rest_ih =>
      rw [isPlain, Bool.and_eq_true] at plain
      have empty : ({} : Branches Mark).levels = {} := rfl
      have started := other_ih plain.1 {}
      rw [empty, and_iff_right Branches.ordered_empty] at started
      rw [write, rest_ih plain.2, Branches.ordered_unite, started, isTimely,
        Branches.levels_unite, levels_write, empty, Bool.and_eq_true, and_assoc]

end History

/-! ### Queries -/

namespace Edit.Narrates

variable {α : Type} {action : Edit α} {query : Query} {workspace : Workspace} {history : History}

/--
Without hooks, each condition carries the keyword of its clause or a connective, and each branch of
the query has its keywords as it should if and only if every condition comes in time.
-/
theorem disciplined_iff (tells : Narrates false action query workspace history)
    (rest : query.cursor = none) (start : query.branches = {}) (plain : history.isPlain = true) :
    let changed := ((action.run query).run workspace).1.2
    List.Forall₂ (List.Forall₂ ConditionClause.Carries) (history.levels {}).all
        changed.branches.all ∧
      (List.Forall₂ Disciplined (history.levels {}).all changed.branches.all ↔
        history.isTimely {} = true) := by
  intro changed
  have reads : (history.write {}).Reads changed.branches :=
    (tells.written rest).reads {} (start ▸ .empty)
  have levels : (history.levels {}).all = (history.write {}).all.map (·.map (·.clause)) := by
    rw [← Branches.all_levels, History.levels_write]
    rfl
  have ordered := History.ordered_write_iff plain {}
  rw [and_iff_right Branches.ordered_empty] at ordered
  rw [levels, List.forall₂_map_left_iff, List.forall₂_map_left_iff]
  refine ⟨reads.all.imp fun marks words own => ?_, ?_⟩
  · rw [List.forall₂_map_left_iff]
    exact own.imp fun mark keyword same => Mark.Reads.carries same
  · exact (Mark.disciplined_iff_forall_ordered reads.all fun branch mem keyword inside =>
      changed.mem_predicateKeywords (List.mem_flatten.2 ⟨branch, mem, inside⟩)).trans ordered

end Edit.Narrates

namespace Script

/--
Scripts without hooks, from a query without predicates on: each branch has its keywords as it should
if and only if every condition comes in time, that is, if its clause is nowhere in the query yet or
is in the last branch already.
-/
theorem runSteps_disciplined_iff (home : Connection) {steps : List Step} {query : Query}
    {history : History} (told : Step.tellAll false query.model steps = some history)
    (rest : query.cursor = none) (start : query.branches = {}) (plain : history.isPlain = true)
    (workspace : Workspace) :
    let changed := (((runSteps home steps).run query).run workspace).1.2
    List.Forall₂ (List.Forall₂ ConditionClause.Carries) (history.levels {}).all
        changed.branches.all ∧
      (List.Forall₂ Disciplined (history.levels {}).all changed.branches.all ↔
        history.isTimely {} = true) :=
  (runSteps_recounts home steps told query workspace rfl).disciplined_iff rest start plain

/-- A united query with conditions of its own; what is asked for afterwards goes on with them. -/
theorem runSteps_disciplined_iff_united :
    let home : Connection := .ofConfig {}
    let query : Query := ((Origin.make home {}).run {}).1
    let equal (column : String) (value : Int64) : Step :=
      .condition .filter .and (.pair (.column column) (.scalar (.int value)))
    let united : List Step :=
      [.selectRaw "*", .source "b" none, .conditionGroup .or [equal "x" 2, equal "y" 3]]
    let steps : List Step := [.selectRaw "*", .source "a" none, equal "x" 1,
      .union false (.recipe none none none united), equal "z" 4]
    let history : History := .condition .filter .done .done (.union
      (.condition .filter .done .done (.condition .filter .done .done .done))
      (.condition .filter .done .done .done))
    let changed := (((runSteps home steps).run query).run {}).1.2
    Step.tellAll false query.model steps = some history ∧ query.cursor = none ∧
      query.branches = {} ∧ history.isPlain = true ∧
      changed.branches.all = [["where"], ["where", "and", "and"]] ∧
      List.Forall₂ Disciplined [[.filter], [.filter, .filter, .filter]] changed.branches.all := by
  intro home query equal united steps history changed
  have told : Step.tellAll false query.model steps = some history := rfl
  have ⟨_, disciplined⟩ := runSteps_disciplined_iff home told rfl rfl rfl {}
  exact ⟨told, rfl, rfl, rfl, by decide +kernel, disciplined.2 rfl⟩

/-- A condition behind a united query without any goes on with one in front of the union. -/
theorem runSteps_not_disciplined :
    let home : Connection := .ofConfig {}
    let query : Query := ((Origin.make home {}).run {}).1
    let equal (column : String) (value : Int64) : Step :=
      .condition .filter .and (.pair (.column column) (.scalar (.int value)))
    let united : List Step := [.selectRaw "*", .source "b" none]
    let steps : List Step := [.selectRaw "*", .source "a" none, equal "x" 1,
      .union false (.recipe none none none united), equal "y" 2]
    let changed := (((runSteps home steps).run query).run {}).1.2
    changed.branches.all = [["where"], ["and"]] ∧
      ¬List.Forall₂ Disciplined [[.filter], [.filter]] changed.branches.all := by
  intro home query equal united steps changed
  have branches : changed.branches.all = [["where"], ["and"]] := by decide +kernel
  refine ⟨branches, fun disciplined => ?_⟩
  rw [branches] at disciplined
  obtain ⟨-, behind⟩ := List.forall₂_cons.1 disciplined
  have last := (List.forall₂_cons.1 behind).1
  have first := last.first [] .filter [] rfl List.not_mem_nil
  exact absurd first (by decide)

end Script

end SqlBuilder
