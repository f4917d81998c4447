import SqlBuilder.Proofs.Nesting.Query

/-!
# Parts of a query

A query with a source has four more parts: common table expressions in front of all, the select
list, the joins behind the source, and the clauses behind the joins. What belongs to a part stands
together, whatever the order of calls, and every part is told by its keywords: its first fragment
has one of a few, the others have one of a few more.

A change of one part finds its place by keywords as well. Between fragments that do not have them
it does to the part what it does to the part alone.
-/

namespace SqlBuilder

/-- A part of a query besides its source. -/
inductive Part where
  | commonTables
  | selection
  | joins
  | clauses
  deriving DecidableEq

namespace Part

/-- The keywords that the first fragment of a part may have. -/
def anchors : Part → List String
  | .commonTables => ["with", "with recursive"]
  | .selection => ["select", "select distinct"]
  | .joins => ["inner join", "left join", "right join", "full outer join", "cross join"]
  | .clauses => ["where", "group by", "having", "order by", "limit", "offset", "for update"]

/-- The keywords that the other fragments of a part may have. -/
def furtherKeywords : Part → List String
  | .commonTables => [","]
  | .selection => []
  | .joins => "on" :: "and" :: "or" :: Part.joins.anchors
  | .clauses => "and" :: "or" :: "" :: "(" :: ")" :: "," :: Part.clauses.anchors

/-- Whether fragments have the keywords of a part. -/
def Shape (part : Part) : List Fragment → Prop
  | [] => True
  | first :: rest => first.keyword ∈ part.anchors ∧
    ∀ fragment ∈ rest, fragment.keyword ∈ part.furtherKeywords

/-- Whether fragments around a part leave its place clear: they have no keyword by which the part is
found, and what follows is what the part stands in front of. -/
def Frames : Part → List Fragment → List Fragment → Prop
  | .commonTables, front, behind => front = [] ∧
    (∀ fragment ∈ behind, fragment.keyword ∉ Part.commonTables.anchors) ∧
    ∀ fragment ∈ behind.head?, fragment.keyword ≠ ","
  | .selection, front, behind =>
    (∀ fragment ∈ front, fragment.keyword ∉ "from" :: Part.selection.anchors) ∧
    (∀ fragment ∈ behind, fragment.keyword ∉ Part.selection.anchors) ∧
    ∀ fragment ∈ behind.head?, fragment.keyword = "from"
  | .joins, front, behind => (∀ fragment ∈ front, fragment.keyword ∉ clausesAfterJoins) ∧
    (∀ fragment ∈ behind.head?, fragment.keyword ∈ clausesAfterJoins) ∧
    ∀ fragment ∈ front ++ behind, "join".toList.isSuffixOf fragment.keyword.toList = false
  | .clauses, front, behind => behind = [] ∧
    ∀ fragment ∈ front, fragment.keyword ∉ Part.clauses.anchors

variable {part : Part} {front fragments behind : List Fragment} {fragment : Fragment}

/-- Nothing around a part leaves its place clear. -/
theorem frames_nil (part : Part) : part.Frames [] [] := by
  cases part <;> simp [Frames]

theorem Shape.keyword_mem (shape : part.Shape fragments) (mem : fragment ∈ fragments) :
    fragment.keyword ∈ part.anchors ++ part.furtherKeywords := by
  cases fragments with
  | nil => cases mem
  | cons first rest =>
      rcases List.mem_cons.1 mem with rfl | mem
      · exact List.mem_append_left _ shape.1
      · exact List.mem_append_right _ (shape.2 fragment mem)

/-- What holds of all keywords of a part holds of its fragments. -/
theorem Shape.forall_keyword {holds : String → Prop} (shape : part.Shape fragments)
    (all : ∀ keyword ∈ part.anchors ++ part.furtherKeywords, holds keyword) :
    ∀ fragment ∈ fragments, holds fragment.keyword :=
  fun fragment mem => all fragment.keyword (shape.keyword_mem mem)

theorem Shape.head (shape : part.Shape fragments) :
    ∀ fragment ∈ fragments.head?, fragment.keyword ∈ part.anchors := by
  cases fragments with
  | nil => simp
  | cons first rest =>
      rintro fragment ⟨⟩
      exact shape.1

/-- Further fragments behind a part. -/
theorem Shape.append {more : List Fragment} (shape : part.Shape fragments)
    (empty : fragments = [] → part.Shape more)
    (keywords : ∀ fragment ∈ more, fragment.keyword ∈ part.furtherKeywords) :
    part.Shape (fragments ++ more) := by
  cases fragments with
  | nil => exact empty rfl
  | cons first rest =>
      refine ⟨shape.1, ?_⟩
      intro fragment mem
      rcases List.mem_append.1 mem with mem | mem
      · exact shape.2 fragment mem
      · exact keywords fragment mem

/-- A change that keeps keywords. -/
theorem Shape.modify (shape : part.Shape fragments) (place : Nat) {change : Fragment → Fragment}
    (keyword : ∀ fragment, (change fragment).keyword = fragment.keyword) :
    part.Shape (fragments.modify place change) := by
  have same : (fragments.modify place change).map (·.keyword) = fragments.map (·.keyword) := by
    apply List.ext_getElem?
    intro index
    rw [List.getElem?_map, List.getElem?_map, List.getElem?_modify]
    cases fragments[index]? with
    | none => rfl
    | some fragment =>
        by_cases here : place = index
        · simp [here, keyword]
        · simp [here]
  generalize fragments.modify place change = changed at same ⊢
  cases fragments with
  | nil =>
      rw [List.map_eq_nil_iff.1 same]
      trivial
  | cons first rest =>
      cases changed with
      | nil => trivial
      | cons first' rest' =>
          simp only [List.map_cons, List.cons.injEq] at same
          refine ⟨same.1 ▸ shape.1, ?_⟩
          intro fragment mem
          have present : fragment.keyword ∈ rest.map (·.keyword) :=
            same.2 ▸ List.mem_map_of_mem mem
          rcases List.mem_map.1 present with ⟨other, other_mem, keyword⟩
          exact keyword ▸ shape.2 other other_mem

end Part

/-! ### Changes of parts -/

section Places

variable {front fragments behind : List Fragment} {query : Query}

/-- A place is found behind fragments that fail a test. -/
theorem findIdx?_append_of_forall {test : Fragment → Bool} {rest : List Fragment}
    (foreign : ∀ fragment ∈ front, test fragment = false) :
    (front ++ rest).findIdx? test = (rest.findIdx? test).map (· + front.length) := by
  rw [List.findIdx?_append, List.findIdx?_eq_none_iff.2 foreign, Option.none_or]

/-- Common tables with one more. -/
def moreCommonTables (isRecursive : Bool) (text : String) : List Fragment → List Fragment
  | [] => [.withText (if isRecursive then "with recursive" else "with") text]
  | first :: rest =>
    (if isRecursive then { first with keyword := "with recursive" } else first) ::
      (rest ++ [.withText "," text])

theorem shape_moreCommonTables {isRecursive : Bool} {text : String}
    (shape : Part.commonTables.Shape fragments) :
    Part.commonTables.Shape (moreCommonTables isRecursive text fragments) := by
  cases fragments with
  | nil =>
      refine ⟨?_, List.forall_mem_nil _⟩
      cases isRecursive <;> simp [Fragment.withText, Part.anchors]
  | cons first rest =>
      refine ⟨?_, ?_⟩
      · split
        · simp [Part.anchors]
        · exact shape.1
      · refine List.forall_mem_append.2 ⟨shape.2, ?_⟩
        simp [Fragment.withText, Part.furtherKeywords]

theorem Query.addCommonTable_eq {isRecursive : Bool} {text : String}
    (after : ∀ fragment ∈ behind, fragment.keyword ∉ Part.commonTables.anchors)
    (next : ∀ fragment ∈ behind.head?, fragment.keyword ≠ ",")
    (shape : Part.commonTables.Shape fragments) (cursor : query.cursor = none)
    (parts : query.fragments = fragments ++ behind) :
    query.addCommonTable isRecursive text =
      { query with fragments := moreCommonTables isRecursive text fragments ++ behind } := by
  let starts (fragment : Fragment) : Bool :=
    fragment.keyword == "with" || fragment.keyword == "with recursive"
  have starts_iff (fragment : Fragment) :
      starts fragment = true ↔ fragment.keyword ∈ Part.commonTables.anchors := by
    simp [starts, Part.anchors]
  unfold Query.addCommonTable
  dsimp only
  cases fragments with
  | nil =>
      have none : query.fragments.findIdx? starts = none := by
        rw [parts, List.nil_append]
        exact List.findIdx?_eq_none_iff.2 fun fragment mem =>
          Bool.eq_false_iff.2 fun same => after fragment mem ((starts_iff fragment).1 same)
      rw [none]
      simp [Query.insertAt, Query.shiftCursor, cursor, parts, moreCommonTables]
  | cons first rest =>
      have found : query.fragments.findIdx? starts = some 0 := by
        rw [parts, List.cons_append, List.findIdx?_cons, if_pos ((starts_iff first).2 shape.1)]
      have commas : ∀ fragment ∈ rest, (fragment.keyword == ",") = true := by
        intro fragment mem
        simpa [Part.furtherKeywords] using shape.2 fragment mem
      have stop : behind.takeWhile (·.keyword == ",") = [] := by
        cases behind with
        | nil => rfl
        | cons fragment _ => simp [next fragment rfl]
      have last : ((rest ++ behind).takeWhile (·.keyword == ",")).length = rest.length := by
        rw [List.takeWhile_append_of_pos commas, stop, List.append_nil]
      have tail := insertIdx_append_length rest behind (.withText "," text)
      rw [found]
      cases isRecursive <;>
        simp [Query.insertAt, Query.shiftCursor, cursor, parts, last, moreCommonTables,
          Nat.add_comm 1, tail]

/-- A select list that is there takes further items. -/
theorem Query.add_of_select {added first : Fragment} {rest : List Fragment}
    (selects : isSelectKeyword added.keyword = true) (found : isSelectKeyword first.keyword = true)
    (foreign : ∀ fragment ∈ front, isSelectKeyword fragment.keyword = false)
    (parts : query.fragments = front ++ first :: rest) :
    query.add added = { query with
      fragments := front ++ mergeSelect added.keyword added.payload first :: rest
      currentClause := some added.keyword } := by
  have list : query.selectIndex? = some front.length := by
    unfold selectIndex?
    rw [parts, findIdx?_append_of_forall foreign, List.findIdx?_cons, if_pos found]
    simp
  unfold add
  rw [if_pos selects, list]
  simp [parts, modify_append_length]

/-- A new select list goes in front of the source. -/
theorem Query.add_of_source {added next : Fragment} {rest : List Fragment}
    (selects : isSelectKeyword added.keyword = true)
    (foreign : ∀ fragment ∈ query.fragments, isSelectKeyword fragment.keyword = false)
    (before : ∀ fragment ∈ front, (fragment.keyword == "from") = false)
    (source : next.keyword = "from") (cursor : query.cursor = none)
    (parts : query.fragments = front ++ next :: rest) :
    query.add added = { query with
      fragments := front ++ added :: next :: rest
      currentClause := some added.keyword } := by
  have list : query.selectIndex? = none := List.findIdx?_eq_none_iff.2 foreign
  have table : query.clauseIndex? "from" = some front.length := by
    unfold clauseIndex?
    rw [parts, findIdx?_append_of_forall before, List.findIdx?_cons,
      if_pos (beq_iff_eq.2 source)]
    simp
  unfold add
  rw [if_pos selects, list, table]
  simp [parts, cursor, insertIdx_append_length]

/-- Without a source a new select list goes to the end. -/
theorem Query.add_of_end {added : Fragment} (selects : isSelectKeyword added.keyword = true)
    (foreign : ∀ fragment ∈ query.fragments, isSelectKeyword fragment.keyword = false)
    (before : ∀ fragment ∈ query.fragments, (fragment.keyword == "from") = false)
    (cursor : query.cursor = none) :
    query.add added = { query with
      fragments := query.fragments ++ [added]
      currentClause := query.clauseAfter added.keyword } := by
  have list : query.selectIndex? = none := List.findIdx?_eq_none_iff.2 foreign
  have table : query.clauseIndex? "from" = none := List.findIdx?_eq_none_iff.2 before
  unfold add
  rw [if_pos selects, list, table]
  exact insert_of_cursor_eq_none cursor added

/-- Whether a change of a query at rest is a change of one part, wherever the part stands. -/
def Part.Places (part : Part) (change : Query → Query) : Prop :=
  ∃ extend : Connection → List Fragment → List Fragment,
    (∀ connection fragments, part.Shape fragments → part.Shape (extend connection fragments)) ∧
    ∀ {query : Query} {front fragments behind : List Fragment}, part.Frames front behind →
      part.Shape fragments → query.cursor = none →
      query.fragments = front ++ fragments ++ behind →
      ∃ clause, change query = { query with
        fragments := front ++ extend query.connection fragments ++ behind
        currentClause := clause }

namespace Part.Places

variable {part : Part}

/-- A change that reads the connection. -/
theorem of_connection {change : Connection → Query → Query}
    (places : ∀ connection, part.Places (change connection)) :
    part.Places fun query => change query.connection query := by
  choose extend shape changed using places
  refine ⟨fun connection => extend connection connection,
    fun connection => shape connection connection, ?_⟩
  intro query front fragments behind frames shaped cursor parts
  exact changed query.connection frames shaped cursor parts

theorem isSelectKeyword_iff (keyword : String) :
    isSelectKeyword keyword = true ↔ keyword ∈ Part.selection.anchors := by
  simp [isSelectKeyword, Part.anchors]

/-- Items go to the select list, which stands in front of the source. -/
theorem select {added : Fragment} (keyword : added.keyword ∈ Part.selection.anchors) :
    Part.selection.Places (·.add added) := by
  let extend : List Fragment → List Fragment
    | [] => [added]
    | first :: rest => Query.mergeSelect added.keyword added.payload first :: rest
  refine ⟨fun _ => extend, ?_, ?_⟩
  · intro _ fragments shape
    cases fragments with
    | nil => exact ⟨keyword, by simp⟩
    | cons first rest =>
        refine ⟨?_, shape.2⟩
        change (if added.keyword == "select" then first.keyword else added.keyword) ∈ _
        split
        · exact shape.1
        · exact keyword
  · intro query front fragments behind frames shape cursor parts
    rcases frames with ⟨before, after, source⟩
    have selects : isSelectKeyword added.keyword = true := (isSelectKeyword_iff _).2 keyword
    have notSelect {fragment : Fragment} (foreign : fragment.keyword ∉ Part.selection.anchors) :
        isSelectKeyword fragment.keyword = false :=
      Bool.eq_false_iff.2 fun same => foreign ((isSelectKeyword_iff _).1 same)
    have frontSelect : ∀ fragment ∈ front, isSelectKeyword fragment.keyword = false :=
      fun fragment mem => notSelect fun same => before fragment mem (List.mem_cons_of_mem _ same)
    have frontFrom : ∀ fragment ∈ front, (fragment.keyword == "from") = false := by
      intro fragment mem
      exact beq_false_of_ne fun same => before fragment mem (same ▸ List.mem_cons_self)
    rw [List.append_assoc] at parts
    cases fragments with
    | cons first rest =>
        have found : isSelectKeyword first.keyword = true := (isSelectKeyword_iff _).2 shape.1
        refine ⟨some added.keyword, (Query.add_of_select selects found frontSelect parts).trans ?_⟩
        simp [extend]
    | nil =>
        rw [List.nil_append] at parts
        have foreign : ∀ fragment ∈ query.fragments, isSelectKeyword fragment.keyword = false := by
          rw [parts]
          exact List.forall_mem_append.2 ⟨frontSelect, fun fragment mem =>
            notSelect (after fragment mem)⟩
        cases behind with
        | nil =>
            rw [List.append_nil] at parts
            have noSource : ∀ fragment ∈ query.fragments, (fragment.keyword == "from") = false := by
              rwa [parts]
            refine ⟨query.clauseAfter added.keyword,
              (Query.add_of_end selects foreign noSource cursor).trans ?_⟩
            simp [extend, parts]
        | cons next rest =>
            refine ⟨some added.keyword, (Query.add_of_source selects foreign frontFrom
              (source next rfl) cursor parts).trans ?_⟩
            simp [extend]

/-- A common table goes behind the others, in front of all else. -/
theorem commonTable (isRecursive : Bool) (text : String) :
    Part.commonTables.Places (·.addCommonTable isRecursive text) := by
  refine ⟨fun _ => moreCommonTables isRecursive text, fun _ _ => shape_moreCommonTables, ?_⟩
  intro query front fragments behind frames shape cursor parts
  rcases frames with ⟨rfl, after, next⟩
  refine ⟨query.currentClause, ?_⟩
  exact Query.addCommonTable_eq after next shape cursor (by simpa using parts)

/-! Clauses behind the joins are found by their keywords, and new ones go to the end. -/

section Clauses

variable {keyword : String}

theorem isSelectKeyword_clause {keyword : String}
    (word : keyword ∈ Part.clauses.anchors ++ Part.clauses.furtherKeywords) :
    isSelectKeyword keyword = false := by
  have all : ∀ keyword ∈ Part.clauses.anchors ++ Part.clauses.furtherKeywords,
      isSelectKeyword keyword = false := by decide
  exact all keyword word

theorem beq_false_of_front {front : List Fragment}
    (foreign : ∀ fragment ∈ front, fragment.keyword ∉ Part.clauses.anchors)
    (anchor : keyword ∈ Part.clauses.anchors) :
    ∀ fragment ∈ front, (fragment.keyword == keyword) = false :=
  fun fragment mem => beq_false_of_ne fun same => foreign fragment mem (same ▸ anchor)

theorem setText (anchor : keyword ∈ Part.clauses.anchors) (text : String) :
    Part.clauses.Places (·.setText keyword text) := by
  let change (fragment : Fragment) : Fragment := { fragment with payload := some (.text text) }
  let extend (fragments : List Fragment) : List Fragment :=
    (fragments.findIdx? (·.keyword == keyword)).elim (fragments ++ [.withText keyword text])
      fun place => fragments.modify place change
  refine ⟨fun _ => extend, ?_, ?_⟩
  · intro _ fragments shape
    dsimp only [extend]
    cases fragments.findIdx? (·.keyword == keyword) with
    | some place => exact shape.modify place fun _ => rfl
    | none =>
        refine shape.append (fun _ => ⟨anchor, by simp⟩) ?_
        intro fragment mem
        rw [List.mem_singleton.1 mem]
        simp [Part.furtherKeywords, Fragment.withText, anchor]
  · intro query front fragments behind frames shape cursor parts
    rcases frames with ⟨rfl, foreign⟩
    rw [List.append_nil] at parts
    have found : query.clauseIndex? keyword =
        (fragments.findIdx? (·.keyword == keyword)).map (· + front.length) := by
      unfold Query.clauseIndex?
      rw [parts, findIdx?_append_of_forall (beq_false_of_front foreign anchor)]
    change ∃ clause, query.setText keyword text = _
    unfold Query.setText
    rw [found]
    cases known : fragments.findIdx? (·.keyword == keyword) with
    | some place =>
        have moved := modify_append_length_add front fragments place change
        refine ⟨query.currentClause, ?_⟩
        simp only [Option.map_some, Option.elim_some, parts, extend, known, List.append_nil,
          ← moved]
        rw [Nat.add_comm place]
    | none =>
        have plain := isSelectKeyword_clause (List.mem_append_left _ anchor)
        refine ⟨query.clauseAfter keyword, ?_⟩
        simp [Query.addText_of_cursor_eq_none cursor plain, parts, extend, known]

theorem addTerm (anchor : keyword ∈ Part.clauses.anchors) (term : String) :
    Part.clauses.Places (·.addTerm keyword term) := by
  let word (fragments : List Fragment) : String :=
    if fragments.any (·.keyword == keyword) then "," else keyword
  have known (fragments : List Fragment) : word fragments ∈ Part.clauses.furtherKeywords := by
    change (if _ then _ else _) ∈ _
    split <;> simp [Part.furtherKeywords, anchor]
  refine ⟨fun _ fragments => fragments ++ [.withText (word fragments) term], ?_, ?_⟩
  · intro _ fragments shape
    refine shape.append (fun empty => ⟨?_, by simp⟩) ?_
    · simpa [empty, word, Fragment.withText] using anchor
    · intro fragment mem
      rw [List.mem_singleton.1 mem]
      exact known fragments
  · intro query front fragments behind frames shape cursor parts
    rcases frames with ⟨rfl, foreign⟩
    rw [List.append_nil] at parts
    have absent : front.any (·.keyword == keyword) = false :=
      List.any_eq_false.2 fun fragment mem =>
        Bool.eq_false_iff.1 (beq_false_of_front foreign anchor fragment mem)
    have same : query.hasClause keyword = fragments.any (·.keyword == keyword) := by
      unfold Query.hasClause
      rw [parts, List.any_append, absent, Bool.false_or]
    have plain := isSelectKeyword_clause (List.mem_append_right _ (known fragments))
    refine ⟨query.clauseAfter (word fragments), ?_⟩
    change query.addText (if query.hasClause keyword then "," else keyword) term = _
    rw [same]
    exact (Query.addText_of_cursor_eq_none cursor plain term).trans (by simp [parts])

theorem token (anchor : keyword ∈ Part.clauses.anchors) :
    Part.clauses.Places (·.insertToken keyword) := by
  refine ⟨fun _ fragments => fragments ++ [.token keyword], ?_, ?_⟩
  · intro _ fragments shape
    refine shape.append (fun _ => ⟨anchor, by simp⟩) ?_
    intro fragment mem
    rw [List.mem_singleton.1 mem]
    simp [Part.furtherKeywords, Fragment.token, anchor]
  · intro query front fragments behind frames shape cursor parts
    rcases frames with ⟨rfl, -⟩
    refine ⟨query.clauseAfter keyword, ?_⟩
    exact (Query.insert_of_cursor_eq_none cursor _).trans (by simp [parts, Fragment.token])

end Clauses

end Part.Places

end Places

end SqlBuilder
