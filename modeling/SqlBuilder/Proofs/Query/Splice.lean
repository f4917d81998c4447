import SqlBuilder.Proofs.Nesting.Query
import SqlBuilder.Proofs.Query.Enclosure

/-!
# Blocks of fragments

Fragments that are added one after another at the same place form a block there, and what stands
around the place is left alone. A group makes one block of the block that its callback added: the
parentheses go around it, and a callback that added nothing leaves nothing.
-/

namespace SqlBuilder

/-- A block with parentheses around it; nothing stays of a group to which nothing was added. -/
def Fragment.group (pull : Bool) : List Fragment → List Fragment
  | [] => []
  | first :: rest => enclose pull (first :: rest) ++ [.token ")"]

/-- What stands behind a block does not matter to the parenthesis in front of it. -/
theorem Fragment.enclose_append (pull : Bool) {block : List Fragment} (some : block ≠ [])
    (back : List Fragment) : enclose pull (block ++ back) = enclose pull block ++ back := by
  cases block with
  | nil => exact absurd rfl some
  | cons first rest =>
      rw [List.cons_append, enclose, enclose]
      split <;> rfl

theorem Fragment.group_of_ne_nil (pull : Bool) {block : List Fragment} (some : block ≠ []) :
    group pull block = enclose pull block ++ [.token ")"] := by
  cases block with
  | nil => exact absurd rfl some
  | cons first rest => rfl

namespace Query

/-- Whether a change puts a block in where fragments go, and nothing else. -/
structure Splices (block : List Fragment) (query changed : Query) : Prop where
  fragments : changed.fragments = query.fragments.take query.insertionPoint ++
    (block ++ query.fragments.drop query.insertionPoint)
  point : changed.insertionPoint = query.insertionPoint + block.length
  rest : query.cursor = none → changed.cursor = none

/-- The place behind an opening moves back with it. -/
theorem insertionPoint_dropOpening {query : Query} {opening : Nat}
    (point : query.insertionPoint = opening + 1) :
    (query.dropOpening opening).insertionPoint = opening := by
  have inside := query.insertionPoint_le
  have erased : (query.fragments.eraseIdx opening).length = query.fragments.length - 1 :=
    List.length_eraseIdx_of_lt (by omega)
  unfold insertionPoint at point inside ⊢
  unfold dropOpening
  dsimp only
  rw [erased]
  cases known : query.cursor with
  | none =>
      rw [known] at point
      dsimp only [Option.map_none] at point ⊢
      omega
  | some cursor =>
      rw [known] at point inside
      dsimp only [Option.map_some] at point inside ⊢
      split at point <;> split <;> split <;> omega

namespace Splices

variable {block more : List Fragment} {query changed last inside : Query}

/-- What is neither fragment nor cursor does not matter. -/
theorem of_eq (fragments : changed.fragments = query.fragments)
    (cursor : changed.cursor = query.cursor) : Splices [] query changed where
  fragments := by rw [fragments, List.nil_append, List.take_append_drop]
  point := by
    rw [List.length_nil, Nat.add_zero]
    exact insertionPoint_congr cursor (by rw [fragments])
  rest := by
    rw [cursor]
    exact id

/-- The place of the next fragment splits the fragments. -/
theorem exists_split (query : Query) :
    ∃ front back, query.fragments = front ++ back ∧ front.length = query.insertionPoint :=
  ⟨_, _, (List.take_append_drop query.insertionPoint query.fragments).symm,
    List.length_take_of_le query.insertionPoint_le⟩

theorem of_split {front back : List Fragment} (split : query.fragments = front ++ back)
    (place : front.length = query.insertionPoint) (splices : Splices block query changed) :
    changed.fragments = front ++ (block ++ back) := by
  rw [splices.fragments, ← place, split, List.take_left, List.drop_left]

theorem trans (first : Splices block query changed) (second : Splices more changed last) :
    Splices (block ++ more) query last where
  fragments := by
    obtain ⟨front, back, split, place⟩ := exists_split query
    have between := first.of_split split place
    rw [← List.append_assoc] at between
    have end_eq := second.of_split between (by rw [List.length_append, place, first.point])
    rw [end_eq, ← place, split, List.take_left, List.drop_left, List.append_assoc,
      List.append_assoc]
  point := by rw [second.point, first.point, List.length_append, Nat.add_assoc]
  rest := second.rest ∘ first.rest

/-- Without a cursor a block goes to the end. -/
theorem fragments_of_rest (rest : query.cursor = none) (splices : Splices block query changed) :
    changed.fragments = query.fragments ++ block := by
  have place : query.fragments.length = query.insertionPoint := by simp [insertionPoint, rest]
  rw [splices.of_split (List.append_nil _).symm place, List.append_nil]

theorem insert (query : Query) (fragment : Fragment) :
    Splices [fragment] query (query.insert fragment) where
  fragments := by
    obtain ⟨front, back, split, place⟩ := exists_split query
    rw [Query.insert, ← place, split, List.take_left, List.drop_left, insertIdx_append_length]
    rfl
  point := by
    unfold insertionPoint
    rw [length_insert]
    unfold Query.insert advance
    cases query.cursor with
    | none => rfl
    | some cursor =>
        dsimp only [Option.map_some, List.length_singleton]
        split <;> split <;> omega
  rest rest := by simp [Query.insert, rest]

/-- A fragment that starts no select list is one block. -/
theorem add (query : Query) {fragment : Fragment}
    (other : isSelectKeyword fragment.keyword = false) :
    Splices [fragment] query (query.add fragment) := by
  unfold Query.add
  rw [other, if_neg Bool.false_ne_true]
  exact insert query fragment

theorem addText (query : Query) {keyword : String} (other : isSelectKeyword keyword = false)
    (text : String) : Splices [.withText keyword text] query (query.addText keyword text) :=
  add query other

/-- A join and what its callback adds come in where joins go. -/
theorem fragments_openJoin (rest : query.cursor = none) {kind : JoinKind} {target : String}
    (filled : Splices block (query.openJoin kind target) inside) :
    let place := query.joinPoint?.getD query.fragments.length
    inside.fragments = query.fragments.take place ++
      ([.withText kind.keyword target] ++ block ++ query.fragments.drop place) := by
  let placed : Query := { query with cursor := query.joinPoint?.or query.cursor }
  have opened : Splices [.withText kind.keyword target] placed (query.openJoin kind target) := by
    have same : Splices [] (placed.insert (.withText kind.keyword target))
        (query.openJoin kind target) := of_eq rfl rfl
    exact (insert placed _).trans same
  have point : placed.insertionPoint = query.joinPoint?.getD query.fragments.length := by
    unfold insertionPoint
    cases found : query.joinPoint? with
    | none => simp [placed, found, rest]
    | some place =>
        obtain ⟨reach, -, -⟩ := List.findIdx?_eq_some_iff_getElem.1 found
        simp [placed, found, Nat.le_of_lt reach]
  have whole := (opened.trans filled).fragments
  rwa [point] at whole

/-- The fragments in a group, and the place behind the block that was added in it. -/
theorem of_opening {front back : List Fragment} (split : query.fragments = front ++ back)
    (place : front.length = query.insertionPoint)
    (filled : Splices block (query.insertToken "(") inside) :
    inside.fragments = front ++ .token "(" :: (block ++ back) ∧
      inside.insertionPoint = query.insertionPoint + 1 + block.length := by
  have opening := insert query (.token "(")
  have whole := opening.trans filled
  exact ⟨whole.of_split split place, by rw [filled.point, insertToken, opening.point]; rfl⟩

/-- Behind a block that is empty the opening goes again. -/
theorem dropOpening (filled : Splices [] (query.insertToken "(") inside) :
    Splices [] query (inside.dropOpening query.insertionPoint) := by
  obtain ⟨front, back, split, place⟩ := exists_split query
  obtain ⟨fragments, point⟩ := filled.of_opening split place
  refine ⟨?_, insertionPoint_dropOpening point, fun rest => ?_⟩
  · rw [Query.dropOpening, ← place, fragments, List.nil_append, eraseIdx_append_length, split,
      List.take_left, List.drop_left, List.nil_append]
  · have moving := filled.rest ((insert query (.token "(")).rest rest)
    simp [Query.dropOpening, moving]

/-- Closing a group puts parentheses around the block that was added in it. -/
theorem closeGroup (pull : Bool) (filled : Splices block (query.insertToken "(") inside) :
    Splices (Fragment.group pull block) query (inside.closeGroup pull query.insertionPoint
      (query.insertToken "(").fragments.length) := by
  obtain ⟨front, back, split, place⟩ := exists_split query
  obtain ⟨fragments, point⟩ := filled.of_opening split place
  have opened : (query.insertToken "(").fragments.length = front.length + back.length + 1 := by
    rw [insertToken, length_insert, split, List.length_append]
  unfold Query.closeGroup
  rw [opened]
  by_cases empty : block = []
  case pos =>
    subst empty
    rw [if_pos (by rw [fragments]; simp; omega)]
    exact dropOpening filled
  case neg =>
    have grown : inside.fragments.length ≠ front.length + back.length + 1 := by
      have := List.length_pos_iff.2 empty
      rw [fragments]
      simp
      omega
    rw [if_neg grown, Fragment.group_of_ne_nil pull empty]
    -- Pulling the keyword out changes two fragments, but neither the length nor the cursor.
    have pulled : (if pull then inside.pullKeyword query.insertionPoint else inside).fragments =
        front ++ (Fragment.enclose pull block ++ back) := by
      cases pull with
      | false =>
          rw [if_neg Bool.false_ne_true, fragments, Fragment.enclose_false, List.cons_append]
      | true =>
          have found : inside.fragments[query.insertionPoint]? = some (.token "(") := by
            simp [fragments, ← place]
          rw [if_pos rfl, fragments_pullKeyword found, fragments, ← place, List.take_left,
            ← List.drop_drop, List.drop_left, List.drop_one, List.tail_cons,
            Fragment.enclose_append true empty]
    have cursor : (if pull then inside.pullKeyword query.insertionPoint else inside).cursor =
        inside.cursor := by
      cases pull with
      | false => rfl
      | true => exact inside.cursor_pullKeyword _
    have length :
        (if pull then inside.pullKeyword query.insertionPoint else inside).fragments.length =
          inside.fragments.length := by
      cases pull with
      | false => rfl
      | true => exact inside.length_pullKeyword _
    have point' := (insertionPoint_congr cursor length).trans point
    have closing := insert (if pull then inside.pullKeyword query.insertionPoint else inside)
      (.token ")")
    refine ⟨?_, ?_, fun rest => ?_⟩
    · rw [← List.append_assoc] at pulled
      have end_eq := closing.of_split pulled (by
        rw [List.length_append, Fragment.length_enclose, place, point']
        omega)
      rw [insertToken, end_eq, ← place, split, List.take_left, List.drop_left]
      simp
    · rw [insertToken, closing.point, point', List.length_append, Fragment.length_enclose]
      simp only [List.length_singleton]
      omega
    · exact closing.rest (cursor.trans (filled.rest ((insert query (.token "(")).rest rest)))

/-- Closing a group of conditions puts parentheses around the block that was added in it. -/
theorem closeConditionGroup (connective : Connective)
    (filled : Splices block (query.openGroup connective) inside) :
    Splices (Fragment.group true block) query (query.closeConditionGroup inside connective) := by
  have start : Splices [] query { query with
      pending := if connective = Connective.or then some Connective.or else query.pending } :=
    of_eq rfl rfl
  have closed := start.trans (closeGroup true filled)
  have last : Splices ([] ++ Fragment.group true block ++ []) query
      (query.closeConditionGroup inside connective) := closed.trans (of_eq rfl rfl)
  rwa [List.nil_append, List.append_nil] at last

end Splices

end Query

end SqlBuilder
