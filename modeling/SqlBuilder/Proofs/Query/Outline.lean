import Mathlib.Data.List.Nodup
import SqlBuilder.Proofs.Nesting.Query

/-!
# Clauses that a query has once

Ten clauses stand in a query at most once, whatever is called: calls that meet one of them set it
again, extend it, or go on behind it. An outline tells what the calls since the last removal asked
for, without regard to fragments: the select calls in their order, and the last source, limit and
offset. The theorems say how each change of the fragments follows a change of the outline.
-/

namespace SqlBuilder

/-- The clause that a fragment starts; a distinct selection is a selection. -/
def Fragment.clause (fragment : Fragment) : String :=
  if isSelectKeyword fragment.keyword then "select" else fragment.keyword

/-- The clauses that a query has at most once. -/
def singleClauses : List String :=
  ["select", "from", "where", "having", "group by", "order by", "limit", "offset", "set", "values"]

/-- Those of them whose content follows from calls alone. -/
def heldClauses : List String := ["select", "from", "limit", "offset"]

theorem heldClauses_subset : heldClauses ⊆ singleClauses := by decide

/-- Whether a fragment starts a clause that a query has once. -/
def Fragment.isSingle (fragment : Fragment) : Bool := singleClauses.contains fragment.clause

/-- The fragments that start a clause which a query has once. -/
def Query.clauses (query : Query) : List Fragment := query.fragments.filter (·.isSingle)

/-- What was asked for since it was last removed. -/
structure Outline where
  /-- The select calls, each with whether it was distinct and the items that it gave. -/
  selections : List (Bool × List String) := []
  source : Option String := none
  limit : Option String := none
  offset : Option String := none
  deriving DecidableEq, Repr

namespace Outline

/-- Items behind those that are there: a lone star gives way, and no item comes twice. -/
def extend (present incoming : List String) : List String :=
  let kept := if present = ["*"] then [] else present
  kept ++ (incoming.filter fun item => !kept.contains item).eraseDups

/-- The items of select calls: those of the first as they are, extended by the later ones. -/
def items : List (List String) → List String
  | [] => []
  | first :: rest => rest.foldl extend first

variable (outline : Outline)

/-- The keyword of the select list. -/
def selectKeyword : String :=
  if outline.selections.any (·.1) then "select distinct" else "select"

/-- The select list that the select calls make. -/
def selectList : Option Fragment :=
  if outline.selections.isEmpty then none
  else some
    { keyword := outline.selectKeyword
      payload := some (.items (items (outline.selections.map (·.2)))) }

/-- The fragment of a clause whose content follows from calls. -/
def held (clause : String) : Option Fragment :=
  if clause = "select" then outline.selectList
  else if clause = "from" then outline.source.map (.withText "from")
  else if clause = "limit" then outline.limit.map (.withText "limit")
  else if clause = "offset" then outline.offset.map (.withText "offset")
  else none

/-- One more select call. -/
def select (distinct : Bool) (items : List String) : Outline :=
  { outline with selections := outline.selections ++ [(distinct, items)] }

/-- A clause is removed, if there is one with that very keyword. -/
def remove (keyword : String) : Outline :=
  if keyword = outline.selectKeyword then { outline with selections := [] }
  else if keyword = "from" then { outline with source := none }
  else if keyword = "limit" then { outline with limit := none }
  else if keyword = "offset" then { outline with offset := none }
  else outline

/-- Whether fragments are what an outline asks for. -/
structure Describes (outline : Outline) (clauses : List Fragment) : Prop where
  single : (clauses.map (·.clause)).Nodup
  ordered : (clauses.map (·.clause)).Pairwise fun before after =>
    ¬(before = "from" ∧ after = "select")
  held : ∀ clause ∈ heldClauses,
    clauses.filter (·.clause == clause) = (outline.held clause).toList

/-- Whether an outline changes in one clause only, and asks for a fragment there. -/
structure Sets (outline changed : Outline) (clause : String) (fragment : Option Fragment) :
    Prop where
  own : clause ∈ heldClauses → changed.held clause = fragment
  others : ∀ other ∈ heldClauses, other ≠ clause → changed.held other = outline.held other

/-! ### Items -/

/-- Items that are added one by one come in their order, each once. -/
theorem foldl_addNew (incoming present : List String) :
    incoming.foldl (fun items item => if items.contains item then items else items ++ [item])
        present = present ++ (incoming.filter fun item => !present.contains item).eraseDups := by
  induction incoming generalizing present with
  | nil => simp
  | cons item rest ih =>
      rw [List.foldl_cons]
      cases known : present.contains item with
      | true =>
          rw [if_pos rfl, ih, List.filter_cons_of_neg]
          rw [known]
          exact Bool.false_ne_true
      | false =>
          rw [if_neg Bool.false_ne_true, ih, List.filter_cons_of_pos (by rw [known]; rfl),
            List.eraseDups_cons, List.filter_filter, List.append_assoc, List.singleton_append]
          congr 3
          apply List.filter_congr
          intro other _
          by_cases same : other = item <;> simp [same]

theorem mergeItems_eq_extend (present incoming : List String) :
    Query.mergeItems present incoming = extend present incoming :=
  foldl_addNew incoming _

/-- The items of one more select call extend those of the calls before. -/
theorem items_append (calls : List (List String)) (more : List String) (notFirst : calls ≠ []) :
    items (calls ++ [more]) = extend (items calls) more := by
  cases calls with
  | nil => exact absurd rfl notFirst
  | cons first rest => simp [items]

/-- Without select calls there is no select list. -/
theorem selections_eq_nil_iff : outline.selections = [] ↔ outline.selectList = none := by
  unfold selectList
  cases outline.selections <;> simp

/-! ### Changes of the outline -/

namespace Sets

/-- What asks for nothing changes nothing. -/
theorem refl {clause : String} (other : clause ∉ heldClauses) (fragment : Option Fragment) :
    outline.Sets outline clause fragment :=
  ⟨fun mem => absurd mem other, fun _ _ _ => rfl⟩

theorem selections (selections : List (Bool × List String)) :
    outline.Sets { outline with selections } "select"
      ({ outline with selections }.selectList) := by
  refine ⟨fun _ => rfl, fun other _ different => ?_⟩
  rw [held, held, if_neg different, if_neg different]

theorem source (source : Option String) :
    outline.Sets { outline with source } "from" (source.map (.withText "from")) := by
  refine ⟨fun _ => rfl, fun other _ different => ?_⟩
  rw [held, held, if_neg different, if_neg different]
  rfl

theorem limit (limit : Option String) :
    outline.Sets { outline with limit } "limit" (limit.map (.withText "limit")) := by
  refine ⟨fun _ => rfl, fun other _ different => ?_⟩
  rw [held, held, if_neg different, if_neg different]
  rfl

theorem offset (offset : Option String) :
    outline.Sets { outline with offset } "offset" (offset.map (.withText "offset")) := by
  refine ⟨fun _ => rfl, fun other _ different => ?_⟩
  rw [held, held, if_neg different, if_neg different]
  rfl

/-- Removing a clause by its keyword asks for none of it. -/
theorem remove {keyword : String} (other : isSelectKeyword keyword = false) :
    outline.Sets (outline.remove keyword) keyword none := by
  have notSelect : keyword ≠ outline.selectKeyword := by
    intro same
    rw [same, selectKeyword] at other
    split at other <;> cases other
  unfold Outline.remove
  rw [if_neg notSelect]
  split
  case isTrue same => exact same ▸ source outline none
  case isFalse notSource =>
    split
    case isTrue same => exact same ▸ limit outline none
    case isFalse notLimit =>
      split
      case isTrue same => exact same ▸ offset outline none
      case isFalse notOffset =>
        refine refl outline ?_ none
        have : keyword ≠ "select" := by
          rintro rfl
          cases other
        simp [heldClauses, *]

end Sets

/-! ### Changes of the clauses -/

namespace Describes

variable {outline changed : Outline} {clauses before after : List Fragment}
  {fragment replacement : Fragment}

theorem nil : Describes {} [] where
  single := .nil
  ordered := .nil
  held := by
    intro clause mem
    simp only [heldClauses, List.mem_cons, List.not_mem_nil, or_false] at mem
    rcases mem with rfl | rfl | rfl | rfl <;> rfl

/-- A clause stands at one place only. -/
theorem others (describes : outline.Describes (before ++ fragment :: after)) :
    (∀ other ∈ before, other.clause ≠ fragment.clause) ∧
      ∀ other ∈ after, other.clause ≠ fragment.clause := by
  have single := describes.single
  rw [List.map_append, List.map_cons] at single
  obtain ⟨-, own, apart⟩ := List.nodup_append.1 single
  refine ⟨fun other mem same => ?_, fun other mem same => ?_⟩
  · exact apart _ (List.mem_map_of_mem mem) _ List.mem_cons_self same
  · exact (List.nodup_cons.1 own).1 (same ▸ List.mem_map_of_mem mem)

theorem filter_eq_nil {clause : String} (absent : ∀ other ∈ clauses, other.clause ≠ clause) :
    clauses.filter (·.clause == clause) = [] := by
  rw [List.filter_eq_nil_iff]
  intro other mem
  simpa using absent other mem

/-- A clause that is absent comes in at the end. -/
theorem append (describes : outline.Describes clauses)
    (absent : ∀ other ∈ clauses, other.clause ≠ fragment.clause)
    (behind : fragment.clause = "select" → ∀ other ∈ clauses, other.clause ≠ "from")
    (sets : outline.Sets changed fragment.clause (some fragment)) :
    changed.Describes (clauses ++ [fragment]) where
  single := by
    rw [List.map_append, List.nodup_append]
    refine ⟨describes.single, List.nodup_singleton _, ?_⟩
    simp only [List.mem_map, List.map_cons, List.map_nil, List.mem_singleton]
    rintro _ ⟨other, mem, rfl⟩ _ rfl
    exact absent other mem
  ordered := by
    rw [List.map_append, List.pairwise_append]
    refine ⟨describes.ordered, List.pairwise_singleton _ _, ?_⟩
    simp only [List.mem_map, List.map_cons, List.map_nil, List.mem_singleton]
    rintro _ ⟨other, mem, rfl⟩ _ rfl ⟨source, selection⟩
    exact behind selection other mem source
  held := by
    intro clause mem
    rw [List.filter_append]
    by_cases own : clause = fragment.clause
    · subst own
      rw [filter_eq_nil absent, sets.own mem]
      simp
    · rw [describes.held clause mem, sets.others clause mem own,
        List.filter_cons_of_neg (by simpa using fun same => own same.symm)]
      simp

/-- A clause is set again in its place. -/
theorem replace (describes : outline.Describes (before ++ fragment :: after))
    (same : replacement.clause = fragment.clause)
    (sets : outline.Sets changed fragment.clause (some replacement)) :
    changed.Describes (before ++ replacement :: after) where
  single := by
    have single := describes.single
    rw [List.map_append, List.map_cons] at single ⊢
    rwa [same]
  ordered := by
    have ordered := describes.ordered
    rw [List.map_append, List.map_cons] at ordered ⊢
    rwa [same]
  held := by
    intro clause mem
    have old := describes.held clause mem
    have others := describes.others
    rw [List.filter_append] at old ⊢
    by_cases own : clause = fragment.clause
    · subst own
      rw [filter_eq_nil others.1, List.filter_cons_of_pos (by simpa using same),
        filter_eq_nil others.2, sets.own mem]
      rfl
    · rw [List.filter_cons_of_neg (by simpa using fun h => own h.symm)] at old
      rw [List.filter_cons_of_neg (by simpa [same] using fun h => own h.symm), old,
        sets.others clause mem own]

/-- A selection comes in right in front of the source. -/
theorem insert (describes : outline.Describes (before ++ fragment :: after))
    (source : fragment.clause = "from") (selection : replacement.clause = "select")
    (absent : ∀ other ∈ before ++ fragment :: after, other.clause ≠ "select")
    (sets : outline.Sets changed "select" (some replacement)) :
    changed.Describes (before ++ replacement :: fragment :: after) where
  single := by
    have single := describes.single
    rw [List.map_append, List.map_cons, List.map_cons, List.nodup_middle, List.nodup_cons]
    rw [List.map_append, List.map_cons] at single
    refine ⟨?_, single⟩
    rw [← List.map_cons, ← List.map_append, selection]
    intro mem
    obtain ⟨other, present, same⟩ := List.mem_map.1 mem
    exact absent other present same
  ordered := by
    have ordered := describes.ordered
    rw [List.map_append, List.map_cons] at ordered
    rw [List.map_append, List.map_cons, List.map_cons]
    obtain ⟨first, second, apart⟩ := List.pairwise_append.1 ordered
    refine List.pairwise_append.2 ⟨first, List.pairwise_cons.2 ⟨?_, second⟩, ?_⟩
    · rintro other - ⟨isSource, -⟩
      rw [selection] at isSource
      exact absurd isSource (by decide)
    · rintro other mem last present ⟨isSource, -⟩
      obtain ⟨earlier, known, rfl⟩ := List.mem_map.1 mem
      exact describes.others.1 earlier known (isSource.trans source.symm)
  held := by
    intro clause mem
    have old := describes.held clause mem
    rw [List.filter_append] at old ⊢
    by_cases own : clause = "select"
    · subst own
      have none := filter_eq_nil absent
      rw [List.filter_append] at none
      obtain ⟨first, second⟩ := List.append_eq_nil_iff.1 none
      rw [first, List.filter_cons_of_pos (by simpa using selection), second, sets.own mem]
      rfl
    · rw [List.filter_cons_of_neg (by rw [selection]; simpa using fun h => own h.symm), old,
        sets.others clause mem own]

/-- A clause is removed. -/
theorem remove (describes : outline.Describes (before ++ fragment :: after))
    (sets : outline.Sets changed fragment.clause none) : changed.Describes (before ++ after) where
  single := by
    refine describes.single.sublist (List.Sublist.map _ ?_)
    exact List.Sublist.append (List.Sublist.refl _) (List.sublist_cons_self _ _)
  ordered := by
    refine describes.ordered.sublist (List.Sublist.map _ ?_)
    exact List.Sublist.append (List.Sublist.refl _) (List.sublist_cons_self _ _)
  held := by
    intro clause mem
    have old := describes.held clause mem
    have others := describes.others
    rw [List.filter_append] at old ⊢
    by_cases own : clause = fragment.clause
    · subst own
      rw [filter_eq_nil others.1, filter_eq_nil others.2, sets.own mem]
      rfl
    · rw [List.filter_cons_of_neg (by simpa using fun h => own h.symm)] at old
      rw [old, sets.others clause mem own]

/-- A clause that is absent stays so. -/
theorem congr (describes : outline.Describes clauses) {clause : String}
    (absent : ∀ other ∈ clauses, other.clause ≠ clause) (sets : outline.Sets changed clause none) :
    changed.Describes clauses where
  single := describes.single
  ordered := describes.ordered
  held := by
    intro other mem
    by_cases own : other = clause
    · subst own
      rw [filter_eq_nil absent, sets.own mem]
      rfl
    · rw [describes.held other mem, sets.others other mem own]

/-- A fragment of a clause that follows from calls is the one that is asked for. -/
theorem held_of_mem (describes : outline.Describes clauses) (mem : fragment ∈ clauses)
    (known : fragment.clause ∈ heldClauses) : outline.held fragment.clause = some fragment := by
  have own : fragment ∈ clauses.filter (·.clause == fragment.clause) :=
    List.mem_filter.2 ⟨mem, beq_self_eq_true _⟩
  rw [describes.held _ known, Option.mem_toList] at own
  exact own

end Describes

end Outline

/-! ### Changes of the fragments -/

namespace Fragment

theorem clause_of_keyword {fragment : Fragment} {keyword : String}
    (same : fragment.keyword = keyword) (other : isSelectKeyword keyword = false) :
    fragment.clause = keyword := by
  rw [clause, same, if_neg (by rw [other]; exact Bool.false_ne_true)]

theorem clause_eq_select (fragment : Fragment) :
    fragment.clause = "select" ↔ isSelectKeyword fragment.keyword = true := by
  unfold clause
  split
  case isTrue isSelect => simp [isSelect]
  case isFalse other =>
    constructor
    · intro same
      rw [same] at other
      exact absurd rfl other
    · intro isSelect
      exact absurd isSelect other

/-- Apart from the select list, clauses are told by the keyword. -/
theorem beq_clause (fragment : Fragment) {keyword : String}
    (other : isSelectKeyword keyword = false) :
    (fragment.keyword == keyword) = (fragment.clause == keyword) := by
  unfold clause
  split
  case isFalse => rfl
  case isTrue isSelect =>
    have apart : fragment.keyword ≠ keyword := by
      rintro rfl
      rw [isSelect] at other
      cases other
    have notSelect : "select" ≠ keyword := by
      rintro rfl
      cases other
    rw [beq_eq_false_iff_ne.2 apart, beq_eq_false_iff_ne.2 notSelect]

/-- What goes on with a clause starts none. -/
theorem isSingle_of_continues {fragment : Fragment} (continues : fragment.isContinuation = true) :
    fragment.isSingle = false := by
  have word : fragment.keyword = "" ∨ fragment.keyword = "," := by
    simpa [isContinuation] using continues
  unfold isSingle clause
  rcases word with word | word <;> rw [word] <;> decide

end Fragment

theorem filter_insertIdx_of_neg {α : Type} {test : α → Bool} {item : α} (items : List α)
    (place : Nat) (other : test item = false) :
    (items.insertIdx place item).filter test = items.filter test := by
  induction items generalizing place with
  | nil => cases place <;> simp [other]
  | cons first rest ih =>
      cases place with
      | zero => simp [other]
      | succ place => rw [List.insertIdx_succ_cons, List.filter_cons, List.filter_cons, ih]

theorem filter_dropWhile_of_neg {α : Type} {test more : α → Bool} (items : List α)
    (other : ∀ item, more item = true → test item = false) :
    (items.dropWhile more).filter test = items.filter test := by
  induction items with
  | nil => rfl
  | cons first rest ih =>
      rw [List.dropWhile_cons]
      split
      case isTrue continues => rw [ih, List.filter_cons_of_neg (by simp [other first continues])]
      case isFalse => rfl

namespace Query

variable {query changed : Query} {outline : Outline} {fragment : Fragment}

theorem clauses_insert_other (query : Query) (other : fragment.isSingle = false) :
    (query.insert fragment).clauses = query.clauses :=
  filter_insertIdx_of_neg _ _ other

theorem clauses_insert (rest : query.cursor = none) (single : fragment.isSingle = true) :
    (query.insert fragment).clauses = query.clauses ++ [fragment] := by
  rw [insert_of_cursor_eq_none rest]
  simp [clauses, single]

/-- The clauses around a fragment that is found by a test. -/
theorem exists_clauses {test : Fragment → Bool} {place : Nat}
    (found : query.fragments.findIdx? test = some place)
    (single : ∀ fragment, test fragment = true → fragment.isSingle = true) :
    ∃ before fragment behind, query.fragments = before ++ fragment :: behind ∧
      before.length = place ∧ test fragment = true ∧
      query.clauses = before.filter (·.isSingle) ++ fragment :: behind.filter (·.isSingle) := by
  obtain ⟨before, fragment, behind, shape, length, holds⟩ := exists_append_of_findIdx? found
  refine ⟨before, fragment, behind, shape, length, holds, ?_⟩
  rw [clauses, shape, List.filter_append, List.filter_cons_of_pos (single fragment holds)]

theorem mem_clauses (mem : fragment ∈ query.clauses) : fragment ∈ query.fragments :=
  (List.mem_filter.1 mem).1

/-- Without the keyword there is no clause of it. -/
theorem ne_clause_of_absent {keyword : String} (other : isSelectKeyword keyword = false)
    (absent : query.clauseIndex? keyword = none) :
    ∀ fragment ∈ query.clauses, fragment.clause ≠ keyword := by
  intro fragment mem same
  have none := List.findIdx?_eq_none_iff.1 absent fragment (mem_clauses mem)
  unfold Fragment.clause at same
  split at same
  · rw [← same] at other
    cases other
  · rw [same] at none
    simp at none

theorem ne_select_of_absent (absent : query.selectIndex? = none) :
    ∀ fragment ∈ query.clauses, fragment.clause ≠ "select" := by
  intro fragment mem same
  have none := List.findIdx?_eq_none_iff.1 absent fragment (mem_clauses mem)
  rw [(fragment.clause_eq_select).1 same] at none
  cases none

/-! ### Calls -/

/-- A fragment that starts no select list is put in where fragments go. -/
theorem addText_eq_insert (query : Query) {keyword : String}
    (other : isSelectKeyword keyword = false) (text : String) :
    query.addText keyword text = query.insert (.withText keyword text) := by
  unfold addText add
  rw [Fragment.withText, other, if_neg Bool.false_ne_true]

theorem isSingle_withText {keyword : String} (single : keyword ∈ singleClauses)
    (other : isSelectKeyword keyword = false) (text : String) :
    (Fragment.withText keyword text).isSingle = true := by
  rw [Fragment.isSingle, Fragment.clause_of_keyword rfl other]
  exact List.contains_iff_mem.2 single

/-- A clause comes in at the end. -/
theorem describes_insert (rest : query.cursor = none) (describes : outline.Describes query.clauses)
    {keyword text : String} (single : keyword ∈ singleClauses)
    (other : isSelectKeyword keyword = false) (absent : query.clauseIndex? keyword = none)
    {outline' : Outline} (sets : outline.Sets outline' keyword (some (.withText keyword text))) :
    outline'.Describes (query.addText keyword text).clauses := by
  have own : (Fragment.withText keyword text).clause = keyword :=
    Fragment.clause_of_keyword rfl other
  rw [addText_eq_insert query other, clauses_insert rest (isSingle_withText single other text)]
  refine describes.append ?_ ?_ (by rwa [own])
  · rw [own]
    exact ne_clause_of_absent other absent
  · intro select
    rw [own] at select
    rw [select] at other
    cases other

/-- A clause that others go on with is there once. -/
theorem describes_addTerm (rest : query.cursor = none) (describes : outline.Describes query.clauses)
    {keyword : String} (single : keyword ∈ singleClauses)
    (other : isSelectKeyword keyword = false) (free : keyword ∉ heldClauses) (term : String) :
    outline.Describes (query.addTerm keyword term).clauses := by
  unfold addTerm
  cases known : query.hasClause keyword with
  | true =>
      rw [if_pos rfl, addText_eq_insert query rfl, clauses_insert_other query rfl]
      exact describes
  | false =>
      rw [if_neg Bool.false_ne_true]
      have absent : query.clauseIndex? keyword = none := by
        rw [clauseIndex?, List.findIdx?_eq_none_iff]
        exact fun fragment mem => Bool.eq_false_iff.2 (List.any_eq_false.1 known fragment mem)
      exact describes_insert rest describes single other absent (.refl _ free _)

/-- A clause is changed in its place. -/
theorem describes_modify (describes : outline.Describes query.clauses) {test : Fragment → Bool}
    {change : Fragment → Fragment} {clause : String} {place : Nat} {outline' : Outline}
    (known : clause ∈ heldClauses) (found : query.fragments.findIdx? test = some place)
    (starts : ∀ fragment, test fragment = true → fragment.clause = clause)
    (stays : ∀ fragment, test fragment = true → (change fragment).clause = clause)
    (sets : ∀ fragment, test fragment = true → outline.held clause = some fragment →
      outline.Sets outline' clause (some (change fragment))) :
    outline'.Describes ((query.fragments.modify place change).filter (·.isSingle)) := by
  have single (fragment : Fragment) (own : fragment.clause = clause) :
      fragment.isSingle = true := by
    rw [Fragment.isSingle, own]
    exact List.contains_iff_mem.2 (heldClauses_subset known)
  obtain ⟨before, fragment, behind, shape, rfl, holds, clauses⟩ :=
    exists_clauses found fun fragment holds => single fragment (starts fragment holds)
  have own := starts fragment holds
  have own' := stays fragment holds
  rw [clauses] at describes
  have asked : outline.held fragment.clause = some fragment :=
    describes.held_of_mem (by simp) (by rwa [own])
  rw [shape, modify_append_length, List.filter_append, List.filter_cons_of_pos (single _ own')]
  rw [own] at asked
  refine describes.replace (own'.trans own.symm) ?_
  rw [own]
  exact sets fragment holds asked

/-- A clause that is set again keeps its place. -/
theorem describes_setText (rest : query.cursor = none) (describes : outline.Describes query.clauses)
    {keyword text : String} (known : keyword ∈ heldClauses)
    (other : isSelectKeyword keyword = false) {outline' : Outline}
    (plain : ∀ fragment, outline.held keyword = some fragment → fragment.separator = none)
    (sets : outline.Sets outline' keyword (some (.withText keyword text))) :
    outline'.Describes (query.setText keyword text).clauses := by
  unfold setText
  split
  case h_2 absent =>
    exact describes_insert rest describes (heldClauses_subset known) other absent sets
  case h_1 place found =>
    refine describes_modify describes known found
      (fun fragment holds => Fragment.clause_of_keyword (beq_iff_eq.1 holds) other)
      (fun fragment holds => Fragment.clause_of_keyword (beq_iff_eq.1 holds) other)
      fun fragment holds asked => ?_
    have replaced : { fragment with payload := some (.text text) } = .withText keyword text := by
      rw [Fragment.withText, ← beq_iff_eq.1 holds, ← plain fragment asked]
    rwa [replaced]

theorem describes_limit (rest : query.cursor = none) (describes : outline.Describes query.clauses)
    (count : Nat) :
    { outline with limit := some (Nat.repr count) }.Describes (query.limit count).clauses := by
  refine describes_setText rest describes (by decide) rfl ?_ (.limit outline (some _))
  intro fragment asked
  obtain ⟨text, -, rfl⟩ := Option.map_eq_some_iff.1 (asked : outline.limit.map _ = some fragment)
  rfl

theorem describes_offset (rest : query.cursor = none) (describes : outline.Describes query.clauses)
    (count : Nat) :
    { outline with offset := some (Nat.repr count) }.Describes (query.offset count).clauses := by
  refine describes_setText rest describes (by decide) rfl ?_ (.offset outline (some _))
  intro fragment asked
  obtain ⟨text, -, rfl⟩ := Option.map_eq_some_iff.1 (asked : outline.offset.map _ = some fragment)
  rfl

theorem describes_source (rest : query.cursor = none) (describes : outline.Describes query.clauses)
    (text : String) :
    { outline with source := some text }.Describes (query.setText "from" text).clauses := by
  refine describes_setText rest describes (by decide) rfl ?_ (.source outline (some text))
  intro fragment asked
  obtain ⟨text, -, rfl⟩ := Option.map_eq_some_iff.1 (asked : outline.source.map _ = some fragment)
  rfl

/-- The keyword of a select call. -/
def selectCallKeyword (distinct : Bool) : String := if distinct then "select distinct" else "select"

theorem isSelectKeyword_selectCallKeyword (distinct : Bool) :
    isSelectKeyword (selectCallKeyword distinct) = true := by
  cases distinct <;> rfl

theorem clause_of_isSelectKeyword {fragment : Fragment}
    (isSelect : isSelectKeyword fragment.keyword = true) : fragment.clause = "select" :=
  fragment.clause_eq_select.2 isSelect

/-- One more select call extends the select list as it extends the items. -/
theorem selectList_select {distinct : Bool} {items : List String} (notEmpty : items ≠ [])
    (present : outline.selectList = some fragment) :
    (outline.select distinct items).selectList =
      some (mergeSelect (selectCallKeyword distinct) (some (.items items)) fragment) := by
  unfold Outline.selectList at present ⊢
  split at present
  case isTrue => cases present
  case isFalse nonempty =>
    have calls : outline.selections.map (·.2) ≠ [] := by simpa using nonempty
    obtain rfl := Option.some.inj present
    rw [if_neg (by simp [Outline.select])]
    congr 1
    unfold mergeSelect
    have gives : items.isEmpty = false := by simpa using notEmpty
    simp only [Option.map_some, Payload.toItems, Option.getD_some, gives, Bool.false_eq_true,
      if_false, Outline.select, List.map_append, List.map_cons, List.map_nil,
      Outline.items_append _ _ calls, Outline.mergeItems_eq_extend, Fragment.mk.injEq, and_true]
    have distinct_any : (outline.selections ++ [(distinct, items)]).any (·.1) =
        (outline.selections.any (·.1) || distinct) := by
      rw [List.any_append, List.any_cons, List.any_nil, Bool.or_false]
    unfold Outline.selectKeyword selectCallKeyword
    dsimp only
    rw [distinct_any]
    cases distinct with
    | false =>
        rw [Bool.or_false]
        rfl
    | true =>
        rw [Bool.or_true]
        rfl

/-- The first select call gives its items as they are. -/
theorem selectList_select_first {distinct : Bool} {items : List String}
    (none : outline.selections = []) :
    (outline.select distinct items).selectList =
      some { keyword := selectCallKeyword distinct, payload := some (.items items) } := by
  unfold Outline.selectList Outline.selectKeyword Outline.select selectCallKeyword
  rw [none]
  cases distinct <;> rfl

/-- A fragment that is put in right in front of the source stands in front of it. -/
theorem describes_insertIdx (describes : outline.Describes query.clauses) {place : Nat}
    {outline' : Outline} (found : query.clauseIndex? "from" = some place)
    (absent : query.selectIndex? = none) (selects : fragment.clause = "select")
    (sets : outline.Sets outline' "select" (some fragment)) :
    outline'.Describes ((query.fragments.insertIdx place fragment).filter (·.isSingle)) := by
  have single (other : Fragment) {clause : String} (own : other.clause = clause)
      (known : clause ∈ singleClauses) : other.isSingle = true := by
    rw [Fragment.isSingle, own]
    exact List.contains_iff_mem.2 known
  have sourced (other : Fragment) (holds : (other.keyword == "from") = true) :
      other.clause = "from" :=
    Fragment.clause_of_keyword (beq_iff_eq.1 holds) rfl
  obtain ⟨before, source, behind, shape, rfl, holds, clauses⟩ :=
    exists_clauses found fun other holds => single other (sourced other holds) (by decide)
  have none := ne_select_of_absent absent
  rw [clauses] at describes none
  rw [shape, insertIdx_append_length, List.filter_append,
    List.filter_cons_of_pos (single fragment selects (by decide)),
    List.filter_cons_of_pos (single source (sourced source holds) (by decide))]
  exact describes.insert (sourced source holds) selects none sets

/-- A select call starts the select list, in front of the source, or extends it. -/
theorem describes_select (rest : query.cursor = none) (describes : outline.Describes query.clauses)
    (distinct : Bool) {items : List String} (notEmpty : items ≠ []) :
    (outline.select distinct items).Describes (query.add
      { keyword := selectCallKeyword distinct, payload := some (.items items) }).clauses := by
  have isSelect := isSelectKeyword_selectCallKeyword distinct
  have own : Fragment.clause
      { keyword := selectCallKeyword distinct, payload := some (.items items) } = "select" :=
    clause_of_isSelectKeyword isSelect
  -- Where there is no select list, no select call has been made since it was removed.
  have first (absent : query.selectIndex? = none) :
      outline.Sets (outline.select distinct items) "select"
        (some { keyword := selectCallKeyword distinct, payload := some (.items items) }) := by
    have unasked := describes.held "select" (by decide)
    rw [Outline.Describes.filter_eq_nil (ne_select_of_absent absent)] at unasked
    rw [← selectList_select_first (outline.selections_eq_nil_iff.2
      (Option.toList_eq_nil_iff.1 unasked.symm))]
    exact .selections outline _
  unfold add
  rw [if_pos isSelect]
  split
  case h_1 place _ found =>
    refine describes_modify describes (by decide) found
      (fun fragment selects => clause_of_isSelectKeyword selects) (fun fragment selects => ?_)
      fun fragment _ asked => ?_
    · refine clause_of_isSelectKeyword ?_
      unfold mergeSelect
      dsimp only
      split <;> assumption
    · rw [← selectList_select notEmpty asked]
      exact .selections outline _
  case h_2 place absent found =>
    exact describes_insertIdx describes found absent own (first absent)
  case h_3 absent sourceless =>
    rw [clauses_insert rest (by rw [Fragment.isSingle, own]; rfl)]
    refine describes.append ?_ (fun _ => ne_clause_of_absent rfl sourceless) ?_
    · rw [own]
      exact ne_select_of_absent absent
    · rw [own]
      exact first absent

/-- Removing a clause takes its first fragment away and nothing else that starts a clause. -/
theorem clauses_removeClause {keyword : String} {before behind : List Fragment}
    (found : query.clauseIndex? keyword = some before.length)
    (shape : query.fragments = before ++ fragment :: behind) :
    (query.removeClause keyword).clauses =
      before.filter (·.isSingle) ++ behind.filter (·.isSingle) := by
  have left (count : Nat) :
      query.fragments.drop (before.length + (1 + count)) = behind.drop count := by
    rw [shape, ← List.drop_drop, List.drop_left, Nat.add_comm, List.drop_succ_cons]
  have front : query.fragments.take before.length = before := by rw [shape, List.take_left]
  have behind_eq : query.fragments.drop (before.length + 1) = behind := left 0
  unfold removeClause clauses
  rw [found]
  dsimp only
  rw [front, left, behind_eq, drop_length_takeWhile, List.filter_append,
    filter_dropWhile_of_neg _ fun _ continues => Fragment.isSingle_of_continues continues]

theorem removeClause_eq_self {keyword : String} (absent : query.clauseIndex? keyword = none) :
    query.removeClause keyword = query := by
  rw [removeClause, absent]

theorem selectKeyword_isSelect (outline : Outline) :
    isSelectKeyword outline.selectKeyword = true := by
  unfold Outline.selectKeyword
  split <;> rfl

/-- The select list has the keyword that was asked for. -/
theorem keyword_eq_of_describes (describes : outline.Describes query.clauses)
    (mem : fragment ∈ query.clauses) (isSelect : isSelectKeyword fragment.keyword = true) :
    fragment.keyword = outline.selectKeyword := by
  have own := clause_of_isSelectKeyword isSelect
  have asked := describes.held_of_mem mem (by rw [own]; decide)
  rw [own] at asked
  have list : outline.selectList = some fragment := asked
  unfold Outline.selectList at list
  split at list
  · cases list
  · rw [← Option.some.inj list]

/-- Removing what stands under a keyword removes the clause that the keyword stands for. -/
theorem describes_removeClause_of (describes : outline.Describes query.clauses)
    {keyword clause : String} {outline' : Outline} (single : clause ∈ singleClauses)
    (named : ∀ fragment : Fragment, fragment.keyword = keyword → fragment.clause = clause)
    (absent : query.clauseIndex? keyword = none →
      ∀ fragment ∈ query.clauses, fragment.clause ≠ clause)
    (sets : outline.Sets outline' clause none) :
    outline'.Describes (query.removeClause keyword).clauses := by
  cases found : query.clauseIndex? keyword with
  | none =>
      rw [removeClause_eq_self found]
      exact describes.congr (absent found) sets
  | some place =>
      obtain ⟨before, fragment, behind, shape, rfl, holds, clauses⟩ :=
        exists_clauses found fun fragment holds => by
          rw [Fragment.isSingle, named fragment (beq_iff_eq.1 holds)]
          exact List.contains_iff_mem.2 single
      rw [clauses] at describes
      rw [clauses_removeClause found shape]
      exact describes.remove (by rwa [named fragment (beq_iff_eq.1 holds)])

/-- Removing a clause asks for it no more. -/
theorem describes_removeClause (describes : outline.Describes query.clauses) {keyword : String}
    (known : keyword ∈ "select distinct" :: singleClauses) :
    (outline.remove keyword).Describes (query.removeClause keyword).clauses := by
  cases isSelect : isSelectKeyword keyword with
  | false =>
      have single : keyword ∈ singleClauses := by
        rcases List.mem_cons.1 known with rfl | mem
        · cases isSelect
        · exact mem
      exact describes_removeClause_of describes single
        (fun fragment same => Fragment.clause_of_keyword same isSelect)
        (ne_clause_of_absent isSelect) (.remove outline isSelect)
  | true =>
      by_cases own : keyword = outline.selectKeyword
      · have sets : outline.Sets (outline.remove keyword) "select" none := by
          rw [Outline.remove, if_pos own]
          exact .selections outline []
        refine describes_removeClause_of describes (by decide)
          (fun fragment same => clause_of_isSelectKeyword (by rwa [same]))
          (fun found fragment mem same => ?_) sets
        have absent := List.findIdx?_eq_none_iff.1 found fragment (mem_clauses mem)
        have keyword_eq := keyword_eq_of_describes describes mem (fragment.clause_eq_select.1 same)
        rw [keyword_eq, own, beq_self_eq_true] at absent
        cases absent
      · -- The select list, if there is one, has the other of the two keywords.
        have absent : query.clauseIndex? keyword = none := by
          refine List.findIdx?_eq_none_iff.2 fun fragment mem => ?_
          refine beq_eq_false_iff_ne.2 fun same => own ?_
          have selects : isSelectKeyword fragment.keyword = true := by rwa [same]
          have single : fragment ∈ query.clauses := by
            refine List.mem_filter.2 ⟨mem, ?_⟩
            rw [Fragment.isSingle, clause_of_isSelectKeyword selects]
            rfl
          rw [← same, keyword_eq_of_describes describes single selects]
        have kept : outline.remove keyword = outline := by
          have word : keyword = "select" ∨ keyword = "select distinct" := by
            simpa [isSelectKeyword] using isSelect
          rw [Outline.remove, if_neg own]
          rcases word with rfl | rfl <;> rfl
        rw [removeClause_eq_self absent, kept]
        exact describes

/-- A select list of one item takes the place of the one that is there. -/
theorem describes_withSelectList (describes : outline.Describes query.clauses) {item : String}
    (replaced : query.withSelectList item = .ok changed) :
    { outline with selections := [(false, [item])] }.Describes changed.clauses := by
  unfold withSelectList replaceClause at replaced
  split at replaced
  · cases replaced
  case h_2 place found =>
    cases replaced
    have selects (fragment : Fragment) (holds : (fragment.keyword == "select") = true) :
        isSelectKeyword fragment.keyword = true := by
      rw [beq_iff_eq.1 holds]
      rfl
    refine describes_modify describes (by decide) found
      (fun fragment holds => clause_of_isSelectKeyword (selects fragment holds))
      (fun fragment holds => clause_of_isSelectKeyword (selects fragment holds))
      fun fragment holds _ => ?_
    rw [beq_iff_eq.1 holds]
    exact .selections outline _

end Query

end SqlBuilder
