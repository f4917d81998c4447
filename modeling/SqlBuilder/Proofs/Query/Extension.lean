import SqlBuilder.Proofs.Query.Callback
import SqlBuilder.Proofs.Query.Enclosure
import SqlBuilder.Proofs.Query.Outline

/-!
# Conditions that are put at the end

Outside joins conditions go to the end of a query, and so do groups of them. What they add are
fragments of conditions and parentheses, and among these a clause starts only where it is absent:
the first condition in a group starts its clause, and its keyword moves to the opening parenthesis.
So conditions and groups leave alone whatever the calls before them asked for.
-/

namespace SqlBuilder

namespace Fragment

theorem countP_enclose {keyword : String} (word : keyword ∉ ["", "("]) (pull : Bool)
    (behind : List Fragment) :
    (enclose pull behind).countP (·.keyword == keyword) =
      behind.countP (·.keyword == keyword) := by
  have empty : ("" == keyword) = false := by
    refine beq_eq_false_iff_ne.2 ?_
    rintro rfl
    exact word (by decide)
  have opening : ("(" == keyword) = false := by
    refine beq_eq_false_iff_ne.2 ?_
    rintro rfl
    exact word (by decide)
  cases behind with
  | nil => simp [enclose, token, opening]
  | cons first rest =>
      rw [enclose]
      split <;> simp [List.countP_cons, token, withText, opening, empty]

theorem keyword_mem_enclose {behind : List Fragment}
    (words : ∀ fragment ∈ behind, fragment.keyword ∈ groupKeywords) (pull : Bool) :
    ∀ fragment ∈ enclose pull behind, fragment.keyword ∈ groupKeywords := by
  cases behind with
  | nil => simp [enclose, token, groupKeywords]
  | cons first rest =>
      simp only [List.mem_cons, forall_eq_or_imp] at words
      rw [enclose]
      split
      · simp only [List.mem_cons, forall_eq_or_imp]
        exact ⟨words.1, by decide, words.2⟩
      · simp only [List.mem_cons, forall_eq_or_imp]
        exact ⟨by decide, words⟩

end Fragment

namespace Query

/-- Whether a query without cursor is extended by conditions and groups of them only. -/
structure Extends (query changed : Query) : Prop where
  rest : query.cursor = none → changed.cursor = none
  block : query.cursor = none → ∃ block, changed.fragments = query.fragments ++ block ∧
    ∀ fragment ∈ block, fragment.keyword ∈ groupKeywords
  once : query.cursor = none → ∀ keyword ∈ ["where", "having"],
    query.fragments.countP (·.keyword == keyword) ≤ 1 →
    changed.fragments.countP (·.keyword == keyword) ≤ 1

variable {query changed last inside : Query}

namespace Extends

theorem of_eq (fragments : changed.fragments = query.fragments)
    (cursor : changed.cursor = query.cursor) : query.Extends changed where
  rest := by
    rw [cursor]
    exact id
  block _ := ⟨[], by rw [fragments, List.append_nil], by simp⟩
  once _ keyword _ := by
    rw [fragments]
    exact id

theorem refl (query : Query) : query.Extends query := of_eq rfl rfl

theorem trans (first : query.Extends changed) (second : changed.Extends last) :
    query.Extends last where
  rest none := second.rest (first.rest none)
  block none := by
    obtain ⟨block, fragments, words⟩ := first.block none
    obtain ⟨more, fragments', words'⟩ := second.block (first.rest none)
    refine ⟨block ++ more, by rw [fragments', fragments, List.append_assoc], ?_⟩
    exact List.forall_mem_append.2 ⟨words, words'⟩
  once none keyword mem single :=
    second.once (first.rest none) keyword mem (first.once none keyword mem single)

/-- A condition starts its clause only where the clause is absent. -/
theorem insert {fragment : Fragment} (word : fragment.keyword ∈ groupKeywords)
    (absent : fragment.keyword ∈ ["where", "having"] → query.hasClause fragment.keyword = false) :
    query.Extends (query.insert fragment) where
  rest none := by simp [Query.insert, none]
  block none := by
    rw [insert_of_cursor_eq_none none]
    exact ⟨[fragment], rfl, by simpa using word⟩
  once none keyword mem single := by
    rw [insert_of_cursor_eq_none none]
    dsimp only
    rw [List.countP_append, List.countP_singleton]
    split
    case isFalse => exact single
    case isTrue same =>
      have same := beq_iff_eq.1 same
      have clause := absent (same ▸ mem)
      rw [same] at clause
      have nowhere : query.fragments.countP (·.keyword == keyword) = 0 := by
        refine List.countP_eq_zero.2 fun other present => ?_
        exact List.any_eq_false.1 clause other present
      omega

/-- A group that was closed, with its block behind the fragments that were there before. -/
theorem closed_eq (pull : Bool) (none : query.cursor = none)
    (extension : (query.insertToken "(").Extends inside) :
    ∃ block, (∀ fragment ∈ block, fragment.keyword ∈ groupKeywords) ∧
      inside.fragments = query.fragments ++ .token "(" :: block ∧
      (inside.closeGroup pull query.insertionPoint
        (query.insertToken "(").fragments.length).fragments =
        if block = [] then query.fragments
        else query.fragments ++ (Fragment.enclose pull block ++ [.token ")"]) := by
  have opened : (query.insertToken "(").fragments = query.fragments ++ [.token "("] := by
    rw [insertToken, insert_of_cursor_eq_none none]
  have moving : (query.insertToken "(").cursor = Option.none := by
    simp [insertToken, Query.insert, none]
  obtain ⟨block, fragments, words⟩ := extension.block moving
  have rest := extension.rest moving
  have place : query.insertionPoint = query.fragments.length := by simp [insertionPoint, none]
  rw [opened, List.append_assoc, List.singleton_append] at fragments
  refine ⟨block, words, fragments, ?_⟩
  rw [opened, place]
  unfold closeGroup
  have found : inside.fragments[query.fragments.length]? = some (.token "(") := by
    simp [fragments]
  cases block with
  | nil =>
      rw [if_pos (by simp [fragments]), if_pos rfl, dropOpening]
      dsimp only
      rw [fragments, eraseIdx_append_length, List.append_nil]
  | cons first more =>
      have pulled : (inside.pullKeyword query.fragments.length).fragments =
          query.fragments ++ Fragment.enclose true (first :: more) := by
        rw [fragments_pullKeyword found, fragments, List.take_left, ← List.drop_drop,
          List.drop_left, List.drop_one, List.tail_cons]
      have rest' : (inside.pullKeyword query.fragments.length).cursor = Option.none :=
        (inside.cursor_pullKeyword _).trans rest
      rw [if_neg (by simp [fragments]), if_neg (List.cons_ne_nil _ _)]
      cases pull with
      | true =>
          rw [if_pos rfl, insertToken, insert_of_cursor_eq_none rest']
          dsimp only
          rw [pulled, List.append_assoc]
      | false =>
          rw [if_neg Bool.false_ne_true, insertToken, insert_of_cursor_eq_none rest]
          dsimp only
          rw [fragments, Fragment.enclose_false, List.append_assoc]

theorem group (pull : Bool) (extension : (query.insertToken "(").Extends inside) :
    query.Extends (inside.closeGroup pull query.insertionPoint
      (query.insertToken "(").fragments.length) := by
  have opens : query.Extends (query.insertToken "(") :=
    insert (by decide) fun mem => absurd mem (by decide)
  have around := opens.trans extension
  refine ⟨fun none => ?_, fun none => ?_, fun none keyword mem single => ?_⟩
  · exact (KeepsRest.closeGroup inside pull _ _).cursor (around.rest none)
  · obtain ⟨block, words, -, closed⟩ := closed_eq pull none extension
    split at closed
    · exact ⟨[], by rw [closed, List.append_nil], by simp⟩
    · refine ⟨_, closed, List.forall_mem_append.2 ⟨Fragment.keyword_mem_enclose words pull, ?_⟩⟩
      simp [Fragment.token, groupKeywords]
  · obtain ⟨block, -, inside_eq, closed⟩ := closed_eq pull none extension
    have counted := around.once none keyword mem single
    split at closed
    · rwa [closed]
    · have word : keyword ∉ ["", "("] ∧ keyword ≠ ")" := by
        simp only [List.mem_cons, List.not_mem_nil, or_false] at mem
        rcases mem with rfl | rfl <;> decide
      rw [inside_eq, List.countP_append] at counted
      have opening := Fragment.countP_enclose word.1 false block
      rw [Fragment.enclose_false] at opening
      have closing : [Fragment.token ")"].countP (·.keyword == keyword) = 0 := by
        simpa [Fragment.token] using word.2.symm
      rw [closed, List.countP_append, List.countP_append, Fragment.countP_enclose word.1, closing]
      omega

theorem conditionGroup (connective : Connective)
    (extension : (query.openGroup connective).Extends inside) :
    query.Extends (query.closeConditionGroup inside connective) := by
  let waiting : Query :=
    { query with
      pending := if connective = Connective.or then some Connective.or else query.pending }
  have start : query.Extends waiting := of_eq rfl rfl
  have around : waiting.Extends (inside.closeGroup true waiting.insertionPoint
      (waiting.insertToken "(").fragments.length) := group true extension
  exact (start.trans around).trans (of_eq rfl rfl)

/-- The clauses that conditions can start are those of the rows and of the groups. -/
theorem clause_of_word {fragment : Fragment} (word : fragment.keyword ∈ groupKeywords)
    (single : fragment.isSingle = true) :
    fragment.clause = fragment.keyword ∧ fragment.keyword ∈ ["where", "having"] := by
  have other : isSelectKeyword fragment.keyword = false := by
    simp only [groupKeywords, Fragment.conditionKeywords, List.mem_cons, List.not_mem_nil,
      or_false] at word
    rcases word with same | same | same | same | same | same | same | same <;> rw [same] <;> rfl
  have clause := Fragment.clause_of_keyword rfl other
  refine ⟨clause, ?_⟩
  rw [Fragment.isSingle, clause] at single
  simp only [groupKeywords, Fragment.conditionKeywords, List.mem_cons, List.not_mem_nil,
    or_false] at word
  rcases word with same | same | same | same | same | same | same | same <;>
    rw [same] at single ⊢ <;> revert single <;> decide

/-- A clause is there once if its keyword is. -/
theorem count_clause {fragments : List Fragment} {keyword : String}
    (mem : keyword ∈ ["where", "having"]) :
    ((fragments.filter (·.isSingle)).map (·.clause)).count keyword =
      fragments.countP (·.keyword == keyword) := by
  have other : isSelectKeyword keyword = false ∧ keyword ∈ singleClauses ∧ "select" ≠ keyword := by
    simp only [List.mem_cons, List.not_mem_nil, or_false] at mem
    rcases mem with rfl | rfl <;> decide
  rw [List.count, List.countP_map, List.countP_filter]
  refine List.countP_congr fun fragment _ => ?_
  simp only [Function.comp_apply, Bool.and_eq_true, beq_iff_eq]
  constructor
  · rintro ⟨same, -⟩
    unfold Fragment.clause at same
    split at same
    · exact absurd same other.2.2
    · exact same
  · intro same
    have clause := Fragment.clause_of_keyword same other.1
    refine ⟨clause, ?_⟩
    rw [Fragment.isSingle, clause]
    exact List.contains_iff_mem.2 other.2.1

/-- Conditions and groups leave alone what was asked for. -/
theorem describes {outline : Outline} (extension : query.Extends changed)
    (rest : query.cursor = none) (describes : outline.Describes query.clauses) :
    outline.Describes changed.clauses := by
  obtain ⟨block, fragments, words⟩ := extension.block rest
  have clauses : changed.clauses = query.clauses ++ block.filter (·.isSingle) := by
    rw [Query.clauses, fragments, List.filter_append]
    rfl
  have added : ∀ fragment ∈ block.filter (·.isSingle),
      fragment.clause ∈ ["where", "having"] := by
    intro fragment mem
    obtain ⟨present, single⟩ := List.mem_filter.1 mem
    obtain ⟨clause, word⟩ := clause_of_word (words fragment present) single
    rwa [clause]
  refine ⟨?_, ?_, ?_⟩
  · rw [List.nodup_iff_count_le_one]
    intro keyword
    by_cases mem : keyword ∈ ["where", "having"]
    · have before := List.nodup_iff_count_le_one.1 describes.single keyword
      rw [Query.clauses, count_clause mem] at before ⊢
      exact extension.once rest keyword mem before
    · have none : ((block.filter (·.isSingle)).map (·.clause)).count keyword = 0 := by
        refine List.count_eq_zero.2 fun present => mem ?_
        obtain ⟨fragment, known, same⟩ := List.mem_map.1 present
        rw [← same]
        exact added fragment known
      rw [clauses, List.map_append, List.count_append, none, Nat.add_zero]
      exact List.nodup_iff_count_le_one.1 describes.single keyword
  · rw [clauses, List.map_append]
    refine List.pairwise_append.2 ⟨describes.ordered, ?_, ?_⟩
    · refine List.pairwise_map.2 (List.pairwise_iff_forall_sublist.2 fun {_ after} sublist => ?_)
      rintro ⟨-, select⟩
      have mem := added after (sublist.subset (by simp))
      rw [select] at mem
      exact absurd mem (by decide)
    · rintro _ - after present ⟨-, select⟩
      obtain ⟨fragment, known, rfl⟩ := List.mem_map.1 present
      have mem := added fragment known
      rw [select] at mem
      exact absurd mem (by decide)
  · intro clause mem
    have none : (block.filter (·.isSingle)).filter (·.clause == clause) = [] := by
      refine Outline.Describes.filter_eq_nil fun fragment known same => ?_
      have word := added fragment known
      rw [same] at word
      simp only [heldClauses, List.mem_cons, List.not_mem_nil, or_false] at mem
      rcases mem with rfl | rfl | rfl | rfl <;> exact absurd word (by decide)
    rw [clauses, List.filter_append, none, List.append_nil]
    exact describes.held clause mem

end Extends

end Query

namespace Edit

variable {α : Type}

/-! ### Calls that extend a query -/

theorem extends_condition (clause : ConditionClause) (connective : Connective)
    {predicate : Predicate Query CustomExpr} (hookFree : predicate.HookFree) :
    Keeps Query.Extends (condition clause connective predicate) := by
  intro query workspace
  rw [run_condition hookFree]
  have mem := query.nextKeyword_mem clause connective
  have words : ∀ keyword ∈ [clause.keyword, "and", "or"],
      keyword ∈ groupKeywords ∧ isSelectKeyword keyword = false := by
    cases clause <;> decide
  have word := words _ mem
  dsimp only
  rw [Query.addText_eq_insert _ word.2]
  have taken : query.Extends { (query.nextKeyword clause connective).2 with
      ledger := ((predicate.compile query.connection).run query.ledger).run workspace |>.1.2 } :=
    .of_eq rfl rfl
  refine taken.trans (.insert word.1 fun starts => ?_)
  change query.hasClause (query.nextKeyword clause connective).1 = false
  change (query.nextKeyword clause connective).1 ∈ ["where", "having"] at starts
  unfold Query.nextKeyword at starts ⊢
  dsimp only at starts ⊢
  cases known : query.hasCondition clause with
  | true =>
      rw [known, if_pos rfl] at starts
      generalize query.pending.getD connective = word at starts
      cases word <;> exact absurd starts (by decide)
  | false =>
      rw [known, if_neg Bool.false_ne_true] at starts
      rw [if_neg Bool.false_ne_true]
      cases clause with
      | filter | groupFilter => exact known
      | join => exact absurd starts (by decide)

/-- Callbacks that add conditions extend the query. -/
theorem AddsConditions.extends {action : Edit α} (adds : AddsConditions action) :
    Keeps Query.Extends action := by
  induction adds with
  | pure value => exact fun query _ => .refl query
  | bind _ _ first second =>
      exact fun query workspace => (first query workspace).trans (second _ _ _ _)
  | look => exact fun query _ => .refl query
  | session action => exact fun query _ => .refl query
  | condition clause connective free => exact extends_condition clause connective free
  | parenthesis pull _ ih =>
      exact fun query workspace => .group pull (ih (query.insertToken "(") workspace)
  | conditionGroup connective _ ih =>
      intro query workspace
      rw [run_conditionGroup]
      exact .conditionGroup connective (ih (query.openGroup connective) workspace)

end Edit

end SqlBuilder
