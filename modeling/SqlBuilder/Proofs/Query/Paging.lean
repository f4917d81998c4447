import SqlBuilder.Proofs.Query.Listing

/-!
# Order and pages at the end of a query

What orders rows and cuts a page out of them is added behind all that a query has. These fragments
do not stay in the order of the calls: a term that is added to the order behind a limit stands there
as a comma, a clause of its own to the eye. So no removal undoes one call; a comma goes with
whatever clause it stands behind. But the fragments form a tail in which each clause stands at most
once, and when all three clauses are removed nothing of the tail is left.
-/

namespace SqlBuilder

/-- The clauses that order rows and cut a page out of them, as they are removed. -/
def pagingClauses : List String := ["limit", "order by", "offset"]

namespace Fragment

/-- Whether fragments are clauses out of a list and commas behind them, no clause twice. -/
structure Tail (clauses : List String) (fragments : List Fragment) : Prop where
  among : ∀ fragment ∈ fragments, fragment.keyword ∈ "," :: clauses
  starts : ∀ first ∈ fragments.head?, first.keyword ≠ ","
  once : fragments.Pairwise fun before after => before.keyword = after.keyword →
    before.keyword = ","

namespace Tail

variable {clauses : List String} {clause : String} {front behind tail : List Fragment}
  {fragment changed : Fragment}

theorem nil (clauses : List String) : Tail clauses [] :=
  ⟨List.forall_mem_nil _, by simp, .nil⟩

/-- There is nothing to put a comma behind. -/
theorem eq_nil (ends : Tail [] tail) : tail = [] := by
  cases tail with
  | nil => rfl
  | cons first rest =>
      have comma := ends.among first List.mem_cons_self
      exact absurd (List.mem_singleton.1 comma) (ends.starts first rfl)

/-- A comma may stand behind any clause, a clause where it does not stand yet. -/
theorem concat (ends : Tail clauses tail) (known : fragment.keyword ∈ "," :: clauses)
    (behind : fragment.keyword = "," → tail ≠ [])
    (absent : fragment.keyword ≠ "," → ∀ other ∈ tail, other.keyword ≠ fragment.keyword) :
    Tail clauses (tail ++ [fragment]) where
  among := by
    rw [List.forall_mem_append, List.forall_mem_singleton]
    exact ⟨ends.among, known⟩
  starts := by
    intro first mem
    cases tail with
    | nil =>
        obtain rfl : fragment = first := by simpa using mem
        exact fun comma => behind comma rfl
    | cons other rest => exact ends.starts first mem
  once := by
    refine List.pairwise_append.2 ⟨ends.once, List.pairwise_singleton _ _, ?_⟩
    intro other mem last isLast same
    obtain rfl := List.mem_singleton.1 isLast
    by_contra word
    exact absent (same ▸ word) other mem same

/-- The texts of the clauses do not matter. -/
theorem replace (ends : Tail clauses (front ++ fragment :: behind))
    (same : changed.keyword = fragment.keyword) : Tail clauses (front ++ changed :: behind) where
  among := by
    have among := ends.among
    rw [List.forall_mem_append, List.forall_mem_cons] at among ⊢
    exact ⟨among.1, same ▸ among.2.1, among.2.2⟩
  starts := by
    intro first mem
    cases front with
    | nil =>
        obtain rfl : changed = first := by simpa using mem
        exact same ▸ ends.starts fragment rfl
    | cons other rest => exact ends.starts first mem
  once := by
    have once := ends.once
    rw [List.pairwise_append, List.pairwise_cons] at once ⊢
    obtain ⟨first, second, between⟩ := once
    refine ⟨first, ⟨fun other mem => same ▸ second.1 other mem, second.2⟩, fun before mem => ?_⟩
    rw [List.forall_mem_cons]
    exact ⟨same ▸ between before mem fragment List.mem_cons_self,
      fun after later => between before mem after (List.mem_cons_of_mem _ later)⟩

/-- A clause that is not there was none of the list. -/
theorem of_absent (ends : Tail (clause :: clauses) tail)
    (absent : ∀ fragment ∈ tail, fragment.keyword ≠ clause) : Tail clauses tail where
  among fragment mem := by
    rcases List.mem_cons.1 (ends.among fragment mem) with comma | known
    · exact comma ▸ List.mem_cons_self
    · exact List.mem_cons_of_mem _ (List.mem_of_ne_of_mem (absent fragment mem) known)
  starts := ends.starts
  once := ends.once

/-- A clause is gone once it is removed with what stands behind it up to the next clause. -/
theorem remove (ends : Tail (fragment.keyword :: clauses) (front ++ fragment :: behind))
    (word : fragment.keyword ≠ ",") :
    Tail clauses (front ++ behind.dropWhile (·.isContinuation)) := by
  have kept : (front ++ behind.dropWhile (·.isContinuation)).Sublist
      (front ++ fragment :: behind) :=
    (List.Sublist.refl front).append ((List.dropWhile_sublist _).trans (List.sublist_cons_self _ _))
  have once := ends.once
  rw [List.pairwise_append, List.pairwise_cons] at once
  obtain ⟨-, ⟨later, -⟩, earlier⟩ := once
  refine of_absent ⟨fun other mem => ends.among other (kept.subset mem), ?_, ends.once.sublist kept⟩
    fun other mem same => ?_
  · intro first mem
    cases front with
    | cons other rest => exact ends.starts first mem
    | nil =>
        have apart := List.head?_dropWhile_not (·.isContinuation) behind
        rw [show (behind.dropWhile (·.isContinuation)).head? = some first from mem] at apart
        rintro comma
        simp [isContinuation, comma] at apart
  · rcases List.mem_append.1 mem with before | after
    · exact word (same ▸ earlier other before fragment List.mem_cons_self same)
    · exact word (later other ((List.dropWhile_sublist _).subset after) same.symm)

end Tail

end Fragment

namespace Query

open Fragment

variable {base query : Query} {keyword text : String} {tail : List Fragment}

/-- Whether nothing orders rows or cuts a page out of them yet. -/
def IsUnpaged (query : Query) : Prop :=
  ∀ fragment ∈ query.fragments, fragment.keyword ∉ pagingClauses

/-- Whether a query has what another has, with a tail out of a list of clauses behind it. -/
structure Ends (clauses : List String) (base query : Query) : Prop where
  connection : query.connection = base.connection
  rest : query.cursor = none
  fragments : ∃ tail, query.fragments = base.fragments ++ tail ∧ Tail clauses tail

/-- A clause of the tail stands in the tail. -/
theorem exists_tail_split {place : Nat} (shape : query.fragments = base.fragments ++ tail)
    (absent : ∀ fragment ∈ base.fragments, fragment.keyword ≠ keyword)
    (found : query.clauseIndex? keyword = some place) :
    ∃ front fragment behind, tail = front ++ fragment :: behind ∧ fragment.keyword = keyword ∧
      (base.fragments ++ front).length = place ∧
      ∀ other ∈ base.fragments ++ front, other.keyword ≠ keyword := by
  obtain ⟨front, fragment, behind, split, place, own, before⟩ :=
    Gathers.exists_append_of_clauseIndex? found
  rw [shape, List.append_eq_append_iff] at split
  rcases split with ⟨more, rfl, rfl⟩ | ⟨more, base_eq, split⟩
  · exact ⟨more, fragment, behind, rfl, own, place, before⟩
  · cases more with
    | nil =>
        rw [List.append_nil] at base_eq
        rw [← base_eq] at place before
        exact ⟨[], fragment, behind, split.symm, own, by rwa [List.append_nil],
          by rwa [List.append_nil]⟩
    | cons other more =>
        obtain ⟨rfl, -⟩ := List.cons_eq_cons.1 split
        exact absurd own (absent fragment (by simp [base_eq]))

namespace Ends

variable {clauses : List String}

theorem refl (rest : query.cursor = none) (clauses : List String) : Ends clauses query query :=
  ⟨rfl, rest, [], (List.append_nil _).symm, .nil clauses⟩

theorem ledger (ends : Ends clauses base query) (ledger : Ledger) :
    Ends clauses base { query with ledger } :=
  ⟨ends.connection, ends.rest, ends.fragments⟩

theorem clone (ends : Ends clauses base query) (workspace : Workspace) :
    Ends clauses base (query.clone.run workspace).1 :=
  ⟨ends.connection, ends.rest, ends.fragments⟩

/-! ### What is added -/

/-- A fragment goes to the end. -/
theorem insert (ends : Ends clauses base query) {fragment : Fragment}
    (known : fragment.keyword ∈ "," :: clauses)
    (behind : fragment.keyword = "," → ∃ other ∈ query.fragments,
      other ∉ base.fragments)
    (absent : fragment.keyword ≠ "," → ∀ other ∈ query.fragments,
      other.keyword ≠ fragment.keyword) :
    Ends clauses base (query.insert fragment) := by
  obtain ⟨tail, shape, isTail⟩ := ends.fragments
  refine ⟨ends.connection, by simp [Query.insert, ends.rest], tail ++ [fragment], ?_, ?_⟩
  · rw [(Splices.insert query fragment).fragments_of_rest ends.rest, shape, List.append_assoc]
  · refine isTail.concat known (fun comma none => ?_) fun word other mem => ?_
    · obtain ⟨other, mem, new⟩ := behind comma
      rw [shape, none, List.append_nil] at mem
      exact new mem
    · exact absent word other (by rw [shape]; exact List.mem_append_right _ mem)

/-- A clause is set where it stands, and goes to the end if it stands nowhere. -/
theorem setText (ends : Ends pagingClauses base query) (unpaged : base.IsUnpaged)
    (clause : keyword ∈ pagingClauses) (text : String) :
    Ends pagingClauses base (query.setText keyword text) := by
  have words : keyword ≠ "," ∧ isSelectKeyword keyword = false := by
    revert keyword
    decide
  unfold Query.setText
  cases found : query.clauseIndex? keyword with
  | none =>
      rw [addText_eq_insert query words.2]
      exact ends.insert (List.mem_cons_of_mem _ clause) (fun comma => absurd comma words.1)
        fun _ other mem => by
          simpa [Fragment.withText] using List.findIdx?_eq_none_iff.1 found other mem
  | some place =>
      obtain ⟨tail, shape, isTail⟩ := ends.fragments
      obtain ⟨front, fragment, behind, rfl, own, rfl, -⟩ := exists_tail_split shape
        (fun fragment mem same => unpaged fragment mem (same ▸ clause)) found
      let changed := { fragment with payload := some (.text text) }
      have same : changed.keyword = fragment.keyword := rfl
      refine ⟨ends.connection, ends.rest, _, ?_, isTail.replace same⟩
      dsimp only
      rw [shape, ← List.append_assoc, modify_append_length, List.append_assoc]

/-- The first term of the order goes to the end with the keyword, the others with a comma. -/
theorem addTerm (ends : Ends pagingClauses base query) (unpaged : base.IsUnpaged) (term : String) :
    Ends pagingClauses base (query.addTerm "order by" term) := by
  unfold Query.addTerm
  cases ordered : query.hasClause "order by" with
  | true =>
      rw [if_pos rfl, addText_eq_insert query rfl]
      obtain ⟨other, mem, own⟩ := List.any_eq_true.1 ordered
      refine ends.insert List.mem_cons_self (fun _ => ⟨other, mem, fun old => ?_⟩)
        fun word => absurd rfl word
      exact unpaged other old (by simp [beq_iff_eq.1 own, pagingClauses])
  | false =>
      rw [if_neg Bool.false_ne_true, addText_eq_insert query rfl]
      have word : "order by" ≠ "," := by decide
      refine ends.insert (List.mem_cons_of_mem _ (by decide : "order by" ∈ pagingClauses))
        (fun comma => absurd comma word) fun _ other mem => ?_
      simpa [withText] using List.any_eq_false.1 ordered other mem

theorem paginate (ends : Ends pagingClauses base query) (unpaged : base.IsUnpaged)
    (request : PageRequest) : Ends pagingClauses base (query.paginate request) :=
  (ends.setText unpaged (by decide) _).setText unpaged (by decide) _

theorem addTerms (ends : Ends pagingClauses base query) (unpaged : base.IsUnpaged)
    (columns : List Value) (workspace : Workspace) :
    Ends pagingClauses base (((Edit.addTerms .orderBy columns).run query).run workspace).1.2 := by
  induction columns generalizing query workspace with
  | nil => exact ends
  | cons column rest ih =>
      have resolved := ends.ledger (((Edit.resolve column).run query).run workspace).1.2.ledger
      exact ih (resolved.addTerm unpaged (((Edit.resolve column).run query).run workspace).1.1) _

/-! ### What is left when the clauses are removed -/

/-- A removal takes nothing from the fragments in front, and leaves a tail without the clause. -/
theorem removeClause {clause : String} (ends : Ends (clause :: clauses) base query)
    (word : clause ≠ ",") (absent : ∀ fragment ∈ base.fragments, fragment.keyword ≠ clause) :
    Ends clauses base (query.removeClause clause) := by
  refine ⟨(query.connection_removeClause clause).trans ends.connection,
    (KeepsRest.removeClause query clause).cursor ends.rest, ?_⟩
  obtain ⟨tail, shape, isTail⟩ := ends.fragments
  cases found : query.clauseIndex? clause with
  | none =>
      rw [removeClause_eq_self found]
      refine ⟨tail, shape, isTail.of_absent fun fragment mem => ?_⟩
      have there : fragment ∈ query.fragments := shape ▸ List.mem_append_right _ mem
      simpa using List.findIdx?_eq_none_iff.1 found fragment there
  | some place =>
      obtain ⟨front, fragment, behind, rfl, rfl, -, before⟩ := exists_tail_split shape absent found
      rw [← List.append_assoc] at shape
      rw [Gathers.fragments_removeClause shape before]
      exact ⟨_, List.append_assoc _ _ _, isTail.remove word⟩

/-- Without the three clauses there is what there was before they were added. -/
theorem fragments_withoutPaging (ends : Ends pagingClauses base query) (unpaged : base.IsUnpaged) :
    query.withoutPaging.fragments = base.fragments := by
  have absent {clause : String} (paging : clause ∈ pagingClauses) :
      ∀ fragment ∈ base.fragments, fragment.keyword ≠ clause :=
    fun fragment mem same => unpaged fragment mem (same ▸ paging)
  have unlimited := ends.removeClause (by decide) (absent (by decide))
  have unordered := unlimited.removeClause (by decide) (absent (by decide))
  have uncut := unordered.removeClause (by decide) (absent (by decide))
  obtain ⟨tail, shape, isTail⟩ := uncut.fragments
  rw [isTail.eq_nil, List.append_nil] at shape
  exact shape

/-! ### What a tail does not matter to -/

/-- Whether there is another fragment, a clause of the tail apart, does not depend on the tail. -/
theorem hasClause (ends : Ends pagingClauses base query)
    (other : keyword ∉ "," :: pagingClauses) :
    query.hasClause keyword = base.hasClause keyword := by
  obtain ⟨tail, shape, isTail⟩ := ends.fragments
  have none : tail.any (·.keyword == keyword) = false := by
    simp only [List.any_eq_false, beq_iff_eq]
    exact fun fragment mem same => other (same ▸ isTail.among fragment mem)
  rw [Query.hasClause, Query.hasClause, shape, List.any_append, none, Bool.or_false]

/-- The tail holds no select list. -/
theorem filter_isSelect (ends : Ends pagingClauses base query) :
    query.fragments.filter (isSelectKeyword ·.keyword) =
      base.fragments.filter (isSelectKeyword ·.keyword) := by
  obtain ⟨tail, shape, isTail⟩ := ends.fragments
  have none : tail.filter (isSelectKeyword ·.keyword) = [] := by
    refine List.filter_eq_nil_iff.2 fun fragment mem => ?_
    have known := isTail.among fragment mem
    revert known
    generalize fragment.keyword = keyword
    revert keyword
    decide
  rw [shape, List.filter_append, none, List.append_nil]

theorem selectKeyword (ends : Ends pagingClauses base query) :
    query.selectKeyword = base.selectKeyword := by
  rw [Query.selectKeyword, Query.selectKeyword, ← List.head?_filter, ← List.head?_filter,
    ends.filter_isSelect]

theorem isCompound (ends : Ends pagingClauses base query) : query.isCompound = base.isCompound := by
  rw [Query.isCompound, Query.isCompound, ends.hasClause (by decide), ends.hasClause (by decide),
    ends.filter_isSelect]

end Ends

end Query

end SqlBuilder
