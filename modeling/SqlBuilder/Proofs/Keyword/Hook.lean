import SqlBuilder.Proofs.Keyword.Discipline

/-!
# Keywords and hooks

Hooks ask for conditions on the query that their own condition is added to, and may nest to any
depth. A connective is only chosen where a clause was begun before, so it always stands behind a
`where` or `having`. But a condition that is about to begin its clause has chosen the keyword when
its hooks run, and a hook that asks for a condition of that clause begins the clause as well.
-/

namespace SqlBuilder

namespace History

/-- Whether no query was united. -/
def isSingle : History → Bool
  | .done => true
  | .condition _ before after rest => before.isSingle && after.isSingle && rest.isSingle
  | .union _ _ => false

/-- Whether a condition of a clause was asked for, be it by a hook. -/
def asks (clause : ConditionClause) : History → Bool
  | .done => false
  | .condition own before after rest =>
    own = clause || before.asks clause || after.asks clause || rest.asks clause
  | .union _ rest => rest.asks clause

/-- Whether the first condition of a clause, in call order, has no other among its hooks before. -/
def isSteady (clause : ConditionClause) : History → Bool
  | .done => true
  | .condition own before after rest =>
    if own = clause then !before.asks clause
    else if before.asks clause then before.isSteady clause
    else if after.asks clause then after.isSteady clause
    else rest.isSteady clause
  | .union _ rest => rest.isSteady clause

end History

/-! ### Connectives -/

/-- Whether a clause was begun in front of each condition that begins none. -/
def Mark.Begun (marks : List Mark) : Prop :=
  ∀ front mark back, marks = front ++ mark :: back → mark.opens = false →
    ∃ clause, ⟨clause, true⟩ ∈ front

namespace Mark

variable {marks others : List Mark}

theorem begun_nil : Begun [] := fun front _ _ shape => by cases front <;> cases shape

theorem Begun.append (begun : Begun marks) (behind : Begun others) : Begun (marks ++ others) := by
  intro front mark back shape closed
  rcases List.append_eq_append_iff.1 shape with ⟨more, rfl, rfl⟩ | ⟨more, rfl, rest⟩
  · obtain ⟨clause, mem⟩ := behind more mark back rfl closed
    exact ⟨clause, List.mem_append_right _ mem⟩
  · cases more with
    | nil =>
        obtain ⟨clause, mem⟩ := behind [] mark back rest.symm closed
        cases mem
    | cons first others =>
        obtain ⟨rfl, -⟩ := List.cons_eq_cons.1 rest
        exact begun front mark others rfl closed

theorem Begun.concat (begun : Begun marks) {mark : Mark}
    (own : mark.opens = false → ∃ clause, ⟨clause, true⟩ ∈ marks) : Begun (marks ++ [mark]) :=
  forall_split_concat.2 ⟨begun, own⟩

end Mark

namespace History

variable {clause : ConditionClause}

/-- What is written stays. -/
theorem mem_write {mark : Mark} (history : History) {marks : Branches Mark}
    (mem : mark ∈ marks.items) : mark ∈ (history.write marks).items := by
  induction history generalizing marks with
  | done => exact mem
  | condition own before after rest before_ih after_ih rest_ih =>
      refine rest_ih (after_ih ?_)
      rw [Branches.items_add]
      exact List.mem_append_left _ (before_ih mem)
  | union other rest _ rest_ih =>
      refine rest_ih ?_
      rw [Branches.items_unite]
      exact List.mem_append_left _ mem

/-- A connective is chosen where its clause was begun before. -/
theorem begun_write (history : History) {marks : Branches Mark} (begun : Mark.Begun marks.items) :
    Mark.Begun (history.write marks).items := by
  induction history generalizing marks with
  | done => exact begun
  | condition own before after rest before_ih after_ih rest_ih =>
      refine rest_ih (after_ih ?_)
      rw [Branches.items_add]
      refine (before_ih begun).concat fun closed => ⟨own, mem_write before ?_⟩
      exact List.contains_iff_mem.1 (by simpa using closed)
  | union other rest other_ih rest_ih =>
      refine rest_ih ?_
      rw [Branches.items_unite]
      exact begun.append (other_ih Mark.begun_nil)

/-! ### Beginnings of a clause -/

/-- How often a clause was begun. -/
def beginnings (clause : ConditionClause) (marks : Branches Mark) : Nat :=
  marks.items.count ⟨clause, true⟩

theorem beginnings_add (clause : ConditionClause) (marks : Branches Mark) (mark : Mark) :
    beginnings clause (marks.add mark) =
      beginnings clause marks + if mark = ⟨clause, true⟩ then 1 else 0 := by
  simp [beginnings, List.count_singleton]

theorem beginnings_add_of_ne {own : ConditionClause} (other : own ≠ clause) (opens : Bool)
    (marks : Branches Mark) :
    beginnings clause (marks.add ⟨own, opens⟩) = beginnings clause marks := by
  rw [beginnings_add, if_neg fun same => other (Mark.mk.inj same).1, Nat.add_zero]

theorem beginnings_pos {marks : Branches Mark} :
    0 < beginnings clause marks ↔ ⟨clause, true⟩ ∈ marks.items := List.count_pos_iff

/-- A clause that was begun is not begun again. -/
theorem beginnings_of_begun {history : History} (single : history.isSingle = true)
    {marks : Branches Mark} (begun : 0 < beginnings clause marks) :
    beginnings clause (history.write marks) = beginnings clause marks := by
  induction history generalizing marks with
  | done => rfl
  | condition own before after rest before_ih after_ih rest_ih =>
      simp only [isSingle, Bool.and_eq_true] at single
      have first := before_ih single.1.1 begun
      have own_mark : Mark.mk own (!marks.items.contains ⟨own, true⟩) ≠ ⟨clause, true⟩ := by
        intro same
        obtain ⟨rfl, opens⟩ := Mark.mk.inj same
        have absent : ⟨own, true⟩ ∉ marks.items := by simpa using opens
        exact absent (beginnings_pos.1 begun)
      have added := beginnings_add clause (before.write marks)
        ⟨own, !marks.items.contains ⟨own, true⟩⟩
      rw [if_neg own_mark, first, Nat.add_zero] at added
      have second := after_ih single.1.2 (added ▸ begun)
      rw [write, rest_ih single.2 (by rw [second, added]; exact begun), second, added]
  | union other rest => cases single

/-- Without a condition of the clause it is not begun. -/
theorem beginnings_of_not_asks {history : History} (single : history.isSingle = true)
    (silent : history.asks clause = false) (marks : Branches Mark) :
    beginnings clause (history.write marks) = beginnings clause marks := by
  induction history generalizing marks with
  | done => rfl
  | condition own before after rest before_ih after_ih rest_ih =>
      simp only [isSingle, Bool.and_eq_true] at single
      simp only [asks, Bool.or_eq_false_iff, decide_eq_false_iff_not] at silent
      rw [write, rest_ih single.2 silent.2, after_ih single.1.2 silent.1.2,
        beginnings_add_of_ne silent.1.1.1, before_ih single.1.1 silent.1.1.2]
  | union other rest => cases single

/-- A clause stays begun. -/
theorem beginnings_pos_write (history : History) {marks : Branches Mark}
    (begun : 0 < beginnings clause marks) : 0 < beginnings clause (history.write marks) :=
  beginnings_pos.2 (mem_write history (beginnings_pos.1 begun))

/-- Behind a condition of the clause it is begun. -/
theorem beginnings_pos_enter (clause : ConditionClause) (before : History) (marks : Branches Mark) :
    0 < beginnings clause ((before.write marks).add
      ⟨clause, !marks.items.contains ⟨clause, true⟩⟩) := by
  rw [beginnings_add]
  cases known : marks.items.contains ⟨clause, true⟩ with
  | true =>
      have begun := beginnings_pos.2 (List.contains_iff_mem.1 known)
      exact Nat.add_pos_left (beginnings_pos_write before begun) _
  | false => exact Nat.add_pos_right _ (by simp)

/-- Who asks for a condition of a clause finds it begun afterwards. -/
theorem beginnings_pos_of_asks {history : History} (single : history.isSingle = true)
    (asked : history.asks clause = true) (marks : Branches Mark) :
    0 < beginnings clause (history.write marks) := by
  induction history generalizing marks with
  | done => cases asked
  | condition own before after rest before_ih after_ih rest_ih =>
      simp only [isSingle, Bool.and_eq_true] at single
      simp only [asks, Bool.or_eq_true, decide_eq_true_iff] at asked
      rcases asked with ((rfl | asked) | asked) | asked
      · exact beginnings_pos_write rest (beginnings_pos_write after (beginnings_pos_enter own _ _))
      · refine beginnings_pos_write rest (beginnings_pos_write after ?_)
        rw [beginnings_add]
        exact Nat.add_pos_left (before_ih single.1.1 asked marks) _
      · exact beginnings_pos_write rest (after_ih single.1.2 asked _)
      · exact rest_ih single.2 asked _
  | union other rest => cases single

/--
A clause is begun once unless the first condition that asks for it has hooks that ask for it before.
-/
theorem beginnings_le_one_iff {history : History} (single : history.isSingle = true)
    {marks : Branches Mark} (absent : beginnings clause marks = 0) :
    beginnings clause (history.write marks) ≤ 1 ↔ history.isSteady clause = true := by
  induction history generalizing marks with
  | done => simp [write, absent, isSteady]
  | condition own before after rest before_ih after_ih rest_ih =>
      simp only [isSingle, Bool.and_eq_true] at single
      obtain ⟨⟨before_single, after_single⟩, rest_single⟩ := single
      -- Once the clause is begun, what comes behind does not count.
      have settled {entered : Branches Mark} (begun : 0 < beginnings clause entered) :
          beginnings clause (rest.write (after.write entered)) = beginnings clause entered := by
        rw [beginnings_of_begun rest_single (beginnings_pos_write after begun),
          beginnings_of_begun after_single begun]
      rw [write, isSteady]
      by_cases same : own = clause
      case pos =>
        subst same
        have opens : marks.items.contains ⟨own, true⟩ = false := by
          simpa [beginnings, List.count_eq_zero] using absent
        have entered : beginnings own ((before.write marks).add ⟨own, true⟩) =
            beginnings own (before.write marks) + 1 := by rw [beginnings_add, if_pos rfl]
        rw [opens, Bool.not_false, settled (entered ▸ Nat.succ_pos _), entered, if_pos rfl]
        cases asked : before.asks own with
        | true =>
            have begun := beginnings_pos_of_asks before_single asked marks
            simp
            omega
        | false =>
            rw [beginnings_of_not_asks before_single asked, absent]
            simp
      case neg =>
        have entered := beginnings_add_of_ne same (!marks.items.contains ⟨own, true⟩)
          (before.write marks)
        rw [if_neg same]
        cases asked : before.asks clause with
        | true =>
            have begun := beginnings_pos_of_asks before_single asked marks
            rw [settled (entered ▸ begun), entered, if_pos rfl]
            exact before_ih before_single absent
        | false =>
            rw [beginnings_of_not_asks before_single asked, absent] at entered
            rw [if_neg Bool.false_ne_true]
            cases asked' : after.asks clause with
            | true =>
                rw [beginnings_of_begun rest_single
                  (beginnings_pos_of_asks after_single asked' _), if_pos rfl]
                exact after_ih after_single entered
            | false =>
                rw [if_neg Bool.false_ne_true]
                refine rest_ih rest_single ?_
                rw [beginnings_of_not_asks after_single asked', entered]
  | union other rest => cases single

end History

/-! ### Queries -/

namespace Edit.Narrates

variable {α : Type} {action : Edit α} {query : Query} {workspace : Workspace} {history : History}

/--
Whatever hooks ask for, each connective stands behind a `where` or `having`. A clause is begun once
if and only if the first condition that asks for it has no hooks that ask for it before.
-/
theorem steady_iff (tells : Narrates false action query workspace history)
    (rest : query.cursor = none) (start : query.branches = {}) (single : history.isSingle = true) :
    let changed := ((action.run query).run workspace).1.2
    (∀ front fragment back, changed.fragments = front ++ fragment :: back →
      fragment.keyword ∈ ["and", "or"] → ∃ other ∈ front, other.keyword ∈ ["where", "having"]) ∧
    ∀ clause ∈ [ConditionClause.filter, .groupFilter],
      changed.fragments.countP (·.keyword == clause.keyword) ≤ 1 ↔
        history.isSteady clause = true := by
  intro changed
  have reads : (history.write {}).Reads changed.branches :=
    (tells.written rest).reads {} (start ▸ .empty)
  have words := reads.items
  rw [changed.items_branches] at words
  constructor
  · intro front fragment back shape connective
    have known : predicateKeywords.contains fragment.keyword = true := by
      have words : ∀ keyword ∈ ["and", "or"], predicateKeywords.contains keyword = true := by decide
      exact words _ connective
    rw [shape, List.map_append, List.map_cons, List.filter_append, List.filter_cons_of_pos known]
      at words
    obtain ⟨before, mark, behind, items, front_reads, own⟩ := exists_of_forall₂ words.flip
    have closed : mark.opens = false := Mark.Reads.closed_of_connective own connective
    -- In a history each mark that goes on with a clause stands behind one that opens it.
    have begun : Mark.Begun (history.write {}).items := History.begun_write history Mark.begun_nil
    obtain ⟨clause, mem⟩ := begun before mark behind items closed
    have started := (Mark.mem_iff_of_reads front_reads.flip clause).2 mem
    obtain ⟨present, word⟩ := List.mem_filter.1 started
    obtain ⟨other, inside, same⟩ := List.mem_map.1 present
    refine ⟨other, inside, same ▸ ?_⟩
    revert word
    cases clause <;> decide
  · intro clause mem
    have word : predicateKeywords.contains clause.keyword = true := by
      simp only [List.mem_cons, List.not_mem_nil, or_false] at mem
      rcases mem with rfl | rfl <;> decide
    have count : changed.fragments.countP (·.keyword == clause.keyword) =
        History.beginnings clause (history.write {}) := by
      rw [History.beginnings, ← Mark.count_eq_of_reads words, List.count_filter word, List.count,
        List.countP_map]
      rfl
    rw [count]
    exact History.beginnings_le_one_iff single rfl

end Edit.Narrates

namespace Script

/--
Scripts without unions, whose hooks are scripts too, from a query without predicates on: each
connective stands behind a `where` or `having`, and a clause is begun once if and only if the first
condition that asks for it has no hooks that ask for it before.
-/
theorem runSteps_steady_iff (home : Connection) {steps : List Step} {query : Query}
    {history : History} (told : Step.tellAll false query.model steps = some history)
    (rest : query.cursor = none) (start : query.branches = {}) (single : history.isSingle = true)
    (workspace : Workspace) :
    let changed := (((runSteps home steps).run query).run workspace).1.2
    (∀ front fragment back, changed.fragments = front ++ fragment :: back →
      fragment.keyword ∈ ["and", "or"] → ∃ other ∈ front, other.keyword ∈ ["where", "having"]) ∧
    ∀ clause ∈ [ConditionClause.filter, .groupFilter],
      changed.fragments.countP (·.keyword == clause.keyword) ≤ 1 ↔
        history.isSteady clause = true :=
  (runSteps_recounts home steps told query workspace rfl).steady_iff rest start single

/-- Hooks that ask for the other clause before, and for conditions of both clauses behind. -/
theorem runSteps_steady_iff_hooked :
    let home : Connection := .ofConfig {}
    let query : Query := ((Origin.make home {}).run {}).1
    let ask (clause : ConditionClause) (sql : String) : Step :=
      .condition clause .and (.single (.raw sql))
    let inner : Draft := .custom (.mk [.text "c"] false [] [ask .filter "d"])
    let outer : Draft := .custom (.mk [.text "b"] false [ask .groupFilter "a"]
      [.condition .groupFilter .or (.single inner)])
    let steps : List Step := [.source "t" none, .condition .filter .and (.single outer)]
    let history : History := .condition .filter
      (.condition .groupFilter .done .done .done)
      (.condition .groupFilter .done (.condition .filter .done .done .done) .done) .done
    let changed := (((runSteps home steps).run query).run {}).1.2
    Step.tellAll false query.model steps = some history ∧ query.cursor = none ∧
      query.branches = {} ∧ history.isSingle = true ∧
      changed.branches.items = ["having", "where", "or", "and"] ∧
      changed.fragments.countP (·.keyword == "where") ≤ 1 ∧
      changed.fragments.countP (·.keyword == "having") ≤ 1 := by
  intro home query ask inner outer steps history changed
  have told : Step.tellAll false query.model steps = some history := rfl
  have ⟨_, steady⟩ := runSteps_steady_iff home told rfl rfl rfl {}
  have filters := (steady .filter (by decide)).2 rfl
  have groupFilters := (steady .groupFilter (by decide)).2 rfl
  exact ⟨told, rfl, rfl, rfl, by decide +kernel, filters, groupFilters⟩

/-- A hook that asks for a condition in front of its own begins the clause a second time. -/
theorem runSteps_not_steady :
    let home : Connection := .ofConfig {}
    let query : Query := ((Origin.make home {}).run {}).1
    let ask : Step := .condition .filter .and (.pair (.column "x") (.scalar (.int 1)))
    let hooked : Draft := .custom (.mk [.text "c"] false [ask] [])
    let steps : List Step :=
      [.selectRaw "*", .source "a" none, .condition .filter .and (.single hooked)]
    let changed := (((runSteps home steps).run query).run {}).1.2
    changed.fragments.map (·.keyword) = ["select", "from", "where", "where"] ∧
      ¬changed.fragments.countP (·.keyword == "where") ≤ 1 := by
  decide +kernel

end Script

end SqlBuilder
