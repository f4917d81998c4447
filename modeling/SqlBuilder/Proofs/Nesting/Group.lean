import SqlBuilder.Proofs.Nesting.Query

/-!
# Groups and joins with balanced fragments

What callbacks add: a block of conditions and groups at the place where fragments go. The block of a
group is the block of its callback with parentheses around it. Its first keyword is that of a
condition, or there is none because it was pulled out in front of the opening parenthesis, which is
then the fragment before it.
-/

namespace SqlBuilder

variable {dialect : Dialect}

/-- Balanced fragments that start like a condition. -/
structure ConditionBlock (dialect : Dialect) (block : List Fragment) : Prop where
  balanced : Balanced dialect block
  keyword : ∀ fragment ∈ block.head?, fragment.keyword ∈ "(" :: Fragment.conditionKeywords

namespace ConditionBlock

variable {block more rest : List Fragment} {first : Fragment}

theorem nil : ConditionBlock dialect [] := ⟨.nil, by simp⟩

theorem append (start : ConditionBlock dialect block) (next : ConditionBlock dialect more) :
    ConditionBlock dialect (block ++ more) := by
  refine ⟨start.balanced.append next.balanced, ?_⟩
  cases block with
  | nil => exact next.keyword
  | cons fragment rest => exact start.keyword

theorem condition {keyword text : String} (word : keyword ∈ Fragment.conditionKeywords)
    (body : dialect.Closed text) : ConditionBlock dialect [.withText keyword text] := by
  have closed : dialect.Closed keyword := by
    simp only [Fragment.conditionKeywords, List.mem_cons, List.not_mem_nil, or_false] at word
    rcases word with rfl | rfl | rfl | rfl | rfl
    all_goals exact .of_all (by decide)
  refine ⟨.singleton (.withText closed body), ?_⟩
  rintro fragment ⟨⟩
  exact List.mem_cons_of_mem _ word

/-- A group whose opening parenthesis stands by itself. -/
theorem group (inside : ConditionBlock dialect block) :
    ConditionBlock dialect (.token "(" :: (block ++ [.token ")"])) := by
  have linked : List.IsChain MayFollow (.token "(" :: block) := by
    refine List.isChain_cons.2 ⟨?_, inside.balanced.linked⟩
    intro next _ _
    exact .token
  refine ⟨.group .token (by decide) inside.balanced.levels linked, ?_⟩
  rintro fragment ⟨⟩
  exact List.mem_cons_self

/-- A group that took over the keyword of its first fragment. -/
theorem pulled (inside : ConditionBlock dialect (first :: rest)) (other : first.keyword ≠ "(") :
    ConditionBlock dialect (.withText first.keyword "(" ::
      ({ first with keyword := "" } :: rest ++ [.token ")"])) := by
  have word : first.keyword ∈ Fragment.conditionKeywords := by
    rcases List.mem_cons.1 (inside.keyword first rfl) with same | mem
    · exact absurd same other
    · exact mem
  have notEmpty : first.keyword ≠ "" := by
    intro same
    rw [same] at word
    exact absurd word (by decide)
  have opens : (Fragment.withText first.keyword "(").Opens := .under (List.mem_cons_of_mem _ word)
  have levels : Levels dialect 0 ({ first with keyword := "" } :: rest) 0 := by
    cases inside.balanced.levels with
    | closed closed tail => exact .closed ⟨.empty, closed.items, closed.separator⟩ tail
    | opening opens tail =>
        refine .opening ?_ tail
        cases opens with
        | token => exact absurd rfl other
        | under _ => exact .under List.mem_cons_self
  -- The first fragment is an opening exactly if it was one, so the second may still follow it.
  have linked : List.IsChain MayFollow ({ first with keyword := "" } :: rest) := by
    rcases List.isChain_cons.1 inside.balanced.linked with ⟨follows, tail⟩
    refine List.isChain_cons.2 ⟨?_, tail⟩
    intro next mem inner
    have opened := follows next mem inner
    cases opened with
    | token => exact absurd rfl other
    | under _ => exact .under List.mem_cons_self
  have whole : List.IsChain MayFollow
      (.withText first.keyword "(" :: { first with keyword := "" } :: rest) := by
    refine List.isChain_cons.2 ⟨?_, linked⟩
    intro next _ _
    exact opens
  refine ⟨.group opens ?_ levels whole, ?_⟩
  · intro same
    exact notEmpty (congrArg Fragment.keyword same)
  · rintro fragment ⟨⟩
    exact List.mem_cons_of_mem _ word

end ConditionBlock

namespace Query

/-- Where fragments are added: between two halves at the cursor, or at the end without one. -/
structure Splits (query : Query) (moving : Bool) (head tail : List Fragment) : Prop where
  fragments : query.fragments = head ++ tail
  cursor : query.cursor = if moving then some head.length else none
  atEnd : moving = false → tail = []

/-- Whether one query is another with conditions added to it. -/
structure Grown (dialect : Dialect) (query changed : Query) : Prop where
  connection : changed.connection = query.connection
  block : ∀ {moving head tail}, query.Splits moving head tail →
    ∃ block, ConditionBlock dialect block ∧ changed.Splits moving (head ++ block) tail

variable {query changed last : Query} {moving : Bool} {head tail : List Fragment}

namespace Splits

theorem insertionPoint (splits : query.Splits moving head tail) :
    query.insertionPoint = head.length := by
  unfold Query.insertionPoint
  rw [splits.cursor, splits.fragments]
  cases moving with
  | true => simp
  | false => simp [splits.atEnd rfl]

theorem insert (splits : query.Splits moving head tail) (fragment : Fragment) :
    (query.insert fragment).Splits moving (head ++ [fragment]) tail where
  fragments := by
    unfold Query.insert
    rw [splits.insertionPoint, splits.fragments, insertIdx_append_length]
    simp
  cursor := by
    unfold Query.insert Query.advance
    rw [splits.cursor, splits.fragments]
    cases moving with
    | true => simp
    | false => rfl
  atEnd := splits.atEnd

/-- Only the fragments and the cursor matter. -/
theorem congr (splits : query.Splits moving head tail)
    (fragments : changed.fragments = query.fragments) (cursor : changed.cursor = query.cursor) :
    changed.Splits moving head tail where
  fragments := fragments.trans splits.fragments
  cursor := cursor.trans splits.cursor
  atEnd := splits.atEnd

/-- Nothing is left of a group to which nothing was added. -/
theorem dropOpening (splits : query.Splits moving (head ++ [.token "("]) tail) :
    (query.dropOpening head.length).Splits moving head tail where
  fragments := by
    unfold Query.dropOpening
    dsimp only
    rw [splits.fragments, List.append_assoc]
    exact eraseIdx_append_length head tail _
  cursor := by
    unfold Query.dropOpening
    rw [splits.cursor]
    cases moving with
    | true => simp
    | false => rfl
  atEnd := splits.atEnd

theorem pullKeyword {first : Fragment} {rest : List Fragment}
    (splits : query.Splits moving (head ++ .token "(" :: first :: rest) tail)
    (word : first.keyword ∈ "(" :: Fragment.conditionKeywords) (other : first.keyword ≠ "(") :
    (query.pullKeyword head.length).Splits moving
      (head ++ .withText first.keyword "(" :: { first with keyword := "" } :: rest) tail := by
  have kept : ["", "(", ")", ","].contains first.keyword = false := by
    simp only [Fragment.conditionKeywords, List.mem_cons, List.not_mem_nil, or_false] at word
    rcases word with same | same | same | same | same | same
    · exact absurd same other
    all_goals
      rw [same]
      decide
  have behind : query.fragments[head.length + 1]? = some first := by
    simp [splits.fragments]
  have fragments : query.fragments = (head ++ [.token "("]) ++ first :: (rest ++ tail) := by
    simp [splits.fragments]
  have second (change : Fragment → Fragment) : query.fragments.modify (head.length + 1) change =
      head ++ .token "(" :: change first :: (rest ++ tail) := by
    have place : head.length + 1 = (head ++ [Fragment.token "("]).length := by simp
    rw [fragments, place, modify_append_length]
    simp
  unfold Query.pullKeyword
  rw [behind]
  dsimp only
  rw [kept, if_neg Bool.false_ne_true]
  refine ⟨?_, ?_, splits.atEnd⟩
  · dsimp only
    rw [second, modify_append_length]
    simp [Fragment.withText, Fragment.token]
  · rw [splits.cursor]
    simp

end Splits

namespace Grown

theorem refl (query : Query) : query.Grown dialect query where
  connection := rfl
  block splits := ⟨[], .nil, by simpa using splits⟩

theorem trans (first : query.Grown dialect changed) (second : changed.Grown dialect last) :
    query.Grown dialect last where
  connection := second.connection.trans first.connection
  block splits := by
    rcases first.block splits with ⟨block, start, middle⟩
    rcases second.block middle with ⟨more, next, stop⟩
    refine ⟨block ++ more, start.append next, ?_⟩
    simpa using stop

/-- Nothing but the connection, the fragments and the cursor matters. -/
theorem congr (grown : query.Grown dialect changed)
    (connection : last.connection = changed.connection)
    (fragments : last.fragments = changed.fragments) (cursor : last.cursor = changed.cursor) :
    query.Grown dialect last where
  connection := connection.trans grown.connection
  block splits := by
    rcases grown.block splits with ⟨block, conditions, stop⟩
    exact ⟨block, conditions, stop.congr fragments cursor⟩

theorem of_congr (connection : changed.connection = query.connection)
    (fragments : changed.fragments = query.fragments) (cursor : changed.cursor = query.cursor) :
    query.Grown dialect changed :=
  (refl query).congr connection fragments cursor

theorem addText {keyword text : String} (word : keyword ∈ Fragment.conditionKeywords)
    (body : dialect.Closed text) : query.Grown dialect (query.addText keyword text) := by
  have notSelect : isSelectKeyword keyword = false := by
    simp only [Fragment.conditionKeywords, List.mem_cons, List.not_mem_nil, or_false] at word
    rcases word with rfl | rfl | rfl | rfl | rfl
    all_goals decide
  have inserted : query.addText keyword text = query.insert (.withText keyword text) := by
    unfold Query.addText Query.add
    rw [show (Fragment.withText keyword text).keyword = keyword from rfl, notSelect,
      if_neg Bool.false_ne_true]
  rw [inserted]
  exact ⟨rfl, fun splits => ⟨_, .condition word body, splits.insert _⟩⟩

/-- Parentheses around what a callback added. -/
theorem group (pull : Bool) {inside : Query}
    (grown : (query.insertToken "(").Grown dialect inside) :
    query.Grown dialect (inside.closeGroup pull query.insertionPoint
      (query.insertToken "(").fragments.length) where
  connection := (Rearranges.closeGroup inside _ _ _).connection.trans grown.connection
  block {moving head tail} splits := by
    have opened := splits.insert (.token "(")
    rcases grown.block opened with ⟨block, conditions, added⟩
    have count : (query.insertToken "(").fragments.length = head.length + 1 + tail.length := by
      change (query.insert (.token "(")).fragments.length = _
      rw [opened.fragments]
      simp only [List.length_append, List.length_cons, List.length_nil]
    rw [count, splits.insertionPoint]
    unfold closeGroup
    cases block with
    | nil =>
        have same : inside.fragments.length = head.length + 1 + tail.length := by
          rw [added.fragments]
          simp only [List.length_append, List.length_cons, List.length_nil, Nat.add_zero]
        rw [List.append_nil] at added
        rw [if_pos same]
        exact ⟨[], .nil, by simpa using added.dropOpening⟩
    | cons first rest =>
        have longer : inside.fragments.length ≠ head.length + 1 + tail.length := by
          rw [added.fragments]
          simp only [List.length_append, List.length_cons, List.length_nil]
          omega
        rw [if_neg longer]
        have shown : inside.Splits moving (head ++ .token "(" :: first :: rest) tail := by
          simpa using added
        have plain : ∃ block, ConditionBlock dialect block ∧
            (inside.insertToken ")").Splits moving (head ++ block) tail := by
          refine ⟨_, conditions.group, ?_⟩
          simpa [insertToken] using shown.insert (.token ")")
        cases pull with
        | false => exact plain
        | true =>
            by_cases parenthesis : first.keyword = "("
            · have kept : inside.pullKeyword head.length = inside := by
                have behind : inside.fragments[head.length + 1]? = some first := by
                  simp [shown.fragments]
                simp [pullKeyword, behind, parenthesis]
              rw [if_pos rfl, kept]
              exact plain
            · refine ⟨_, conditions.pulled parenthesis, ?_⟩
              have pulled := shown.pullKeyword (conditions.keyword first rfl) parenthesis
              have closing := pulled.insert (.token ")")
              rw [if_pos rfl]
              simpa [insertToken] using closing

theorem conditionGroup (connective : Connective) {inside : Query}
    (grown : (query.openGroup connective).Grown dialect inside) :
    query.Grown dialect (query.closeConditionGroup inside connective) := by
  let pending : Query :=
    { query with
      pending := if connective = Connective.or then some Connective.or else query.pending }
  have around : pending.Grown dialect (inside.closeGroup true pending.insertionPoint
      (pending.insertToken "(").fragments.length) := group true grown
  have start : query.Grown dialect pending := of_congr rfl rfl rfl
  exact (start.trans around).congr rfl rfl rfl

/-- Conditions that were added to a sealed query. -/
theorem sealed (grown : query.Grown dialect changed) (closed : query.Sealed dialect) :
    changed.Sealed dialect := by
  have splits : query.Splits false query.fragments [] := ⟨by simp, closed.cursor, fun _ => rfl⟩
  rcases grown.block splits with ⟨block, conditions, stop⟩
  refine ⟨?_, ?_, stop.cursor⟩
  · rw [Connection.Speaks, grown.connection]
    exact closed.speaks
  · rw [stop.fragments, List.append_nil]
    exact closed.balanced.append conditions.balanced

/-- A join with the conditions that its callback added. -/
theorem join (kind : JoinKind) {target : String} (body : dialect.Closed target)
    (closed : query.Sealed dialect) {inside : Query}
    (grown : (query.openJoin kind target).Grown dialect inside) :
    (inside.closeJoin query).Sealed dialect := by
  have word : dialect.Closed kind.keyword := by
    cases kind <;> exact .of_all (by decide)
  have joined : Balanced dialect [.withText kind.keyword target] := .singleton (.withText word body)
  have cursor : (inside.closeJoin query).cursor = none := by
    simp [closeJoin, closed.cursor]
  have speaks : (inside.closeJoin query).connection.Speaks dialect := by
    change inside.connection.Speaks dialect
    rw [Connection.Speaks, grown.connection]
    exact closed.speaks
  refine ⟨speaks, ?_, cursor⟩
  change Balanced dialect inside.fragments
  cases found : query.joinPoint? with
  | none =>
      have moved : Splits { query with cursor := query.joinPoint?.or query.cursor } false
          query.fragments [] := by
        refine ⟨by simp, ?_, fun _ => rfl⟩
        simp [found, closed.cursor]
      rcases grown.block ((moved.insert _).congr rfl rfl) with ⟨block, conditions, stop⟩
      rw [stop.fragments, List.append_nil]
      exact (closed.balanced.append joined).append conditions.balanced
  | some place =>
      rcases exists_append_of_findIdx? found with ⟨before, clause, after, shape, rfl, holds⟩
      have moved : Splits { query with cursor := query.joinPoint?.or query.cursor } true
          before (clause :: after) := by
        refine ⟨shape, ?_, by simp⟩
        simp [found]
      rcases grown.block ((moved.insert _).congr rfl rfl) with ⟨block, conditions, stop⟩
      have balanced := closed.balanced
      rw [shape] at balanced
      rw [stop.fragments, List.append_assoc, List.append_assoc, ← List.append_assoc [_]]
      refine balanced.insert (joined.append conditions.balanced) ?_
      rintro ⟨⟩
      exact absurd holds (by decide)

end Grown

end Query

end SqlBuilder
