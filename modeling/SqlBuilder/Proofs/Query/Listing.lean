import SqlBuilder.Proofs.Query.Outline
import SqlBuilder.Proofs.Query.TermList

/-!
# HoldsLists of terms in queries

What changes of a query do to its lists. Fragments at the end, select lists, joins and common table
expressions come where no list is parted, and a clause is removed with all of its terms. A term goes
to its list if the clause is absent or its list stands last, and only then: the comma of a term that
comes later goes on with another clause.
-/

namespace SqlBuilder

/-- Whether a block is of no list, and goes on with nothing. -/
structure Fragment.Foreign (block : List Fragment) : Prop where
  free : ∀ fragment ∈ block, "," ≠ fragment.keyword ∧ fragment.keyword ∉ listStarts
  starts : Starts block

namespace Fragment.Foreign

variable {block more : List Fragment} {fragment : Fragment}

theorem nil : Foreign [] := ⟨List.forall_mem_nil _, by simp [Starts]⟩

theorem append (first : Foreign block) (second : Foreign more) : Foreign (block ++ more) :=
  ⟨List.forall_mem_append.2 ⟨first.free, second.free⟩, first.starts.append second.starts⟩

theorem of_neutral (neutral : fragment.isNeutral = true) :
    fragment.keyword ∉ "" :: "," :: listStarts := by
  simpa [isNeutral] using neutral

theorem singleton (neutral : fragment.isNeutral = true) : Foreign [fragment] := by
  have word := of_neutral neutral
  simp only [List.mem_cons, not_or] at word
  refine ⟨List.forall_mem_singleton.2 ⟨Ne.symm word.2.1, ?_⟩, ?_⟩
  · simpa [listStarts] using word.2.2
  · simp [Starts, isContinuation, word.1, word.2.1]

/-- Parentheses around a block of no list make a block of no list. -/
theorem group (pull : Bool) (foreign : Foreign block) : Foreign (Fragment.group pull block) := by
  cases block with
  | nil => exact nil
  | cons first rest =>
      obtain ⟨own, others⟩ := List.forall_mem_cons.1 foreign.free
      have starts : first.isContinuation = false := foreign.starts first rfl
      have closing : Foreign [.token ")"] := singleton (by decide)
      have mark : ∀ word ∈ ["", "("], "," ≠ word ∧ word ∉ listStarts := by decide
      have empty := mark "" List.mem_cons_self
      have opening := mark "(" (List.mem_cons_of_mem _ List.mem_cons_self)
      refine append ?_ closing
      rw [enclose]
      split
      · refine ⟨List.forall_mem_cons.2 ⟨own, List.forall_mem_cons.2 ⟨empty, others⟩⟩, ?_⟩
        simpa [Starts, isContinuation, withText] using starts
      · refine ⟨List.forall_mem_cons.2 ⟨opening, foreign.free⟩, ?_⟩
        simp [Starts, isContinuation, token]

end Fragment.Foreign

/-! ### Changes outside of lists -/

/-- Changes of a query that give no list a term and take none from it. -/
inductive Query.Alters : Query → Query → Prop
  /-- Neither fragments nor the place of the next one change. -/
  | keep {query changed : Query} : changed.fragments = query.fragments →
      changed.cursor = query.cursor → Alters query changed
  | trans {query changed last : Query} : Alters query changed → Alters changed last →
      Alters query last
  | insert {query : Query} (fragment : Fragment) : fragment.isNeutral = true →
      Alters query (query.insert fragment)
  | add {query : Query} (fragment : Fragment) : fragment.isNeutral = true →
      Alters query (query.add fragment)
  | setText {query : Query} {keyword : String} (text : String) :
      (Fragment.token keyword).isNeutral = true → Alters query (query.setText keyword text)
  | replaceClause {query changed : Query} {keyword : String} {change : Fragment → Fragment} :
      (Fragment.token keyword).isNeutral = true →
      (∀ fragment, fragment.keyword = keyword → (change fragment).isNeutral = true) →
      query.replaceClause keyword change = .ok changed → Alters query changed
  | addCommonTable {query : Query} (isRecursive : Bool) (text : String) :
      Alters query (query.addCommonTable isRecursive text)

namespace Query

theorem Alters.addText {query : Query} (keyword text : String)
    (neutral : (Fragment.token keyword).isNeutral = true) :
    Alters query (query.addText keyword text) :=
  .add (.withText keyword text) neutral

/-- Whether a query outside of joins has its lists in order. -/
structure Gathers (query : Query) (listing : Listing) : Prop where
  rest : query.cursor = none
  arranged : Fragment.Arranged query.fragments listing

namespace Gathers

variable {query changed : Query} {listing : Listing} {block : List Fragment}

/-- A block at the end parts no list. -/
theorem splices (gathers : query.Gathers listing) (foreign : Fragment.Foreign block)
    (spliced : Splices block query changed) : changed.Gathers listing where
  rest := spliced.rest gathers.rest
  arranged := by
    have arranged : Fragment.Arranged (query.fragments ++ []) listing :=
      (List.append_nil _).symm ▸ gathers.arranged
    rw [spliced.fragments_of_rest gathers.rest, ← List.append_nil block]
    exact arranged.splice_neutral (by simp [Fragment.Starts]) foreign.free foreign.starts

/-- A fragment of no list is changed in its place. -/
theorem modify (gathers : query.Gathers listing) {test : Fragment → Bool} {place : Nat}
    (change : Fragment → Fragment) (found : query.fragments.findIdx? test = some place)
    (neutral : ∀ fragment, test fragment = true →
      fragment.isNeutral = true ∧ (change fragment).isNeutral = true) :
    Gathers { query with fragments := query.fragments.modify place change } listing where
  rest := gathers.rest
  arranged := by
    obtain ⟨front, fragment, back, shape, rfl, holds⟩ := exists_append_of_findIdx? found
    have arranged := gathers.arranged
    obtain ⟨before, after⟩ := neutral fragment holds
    have before := Fragment.Foreign.of_neutral before
    have after := Fragment.Foreign.of_neutral after
    simp only [listStarts, List.mem_cons, not_or] at before after
    dsimp only
    rw [shape] at arranged ⊢
    rw [modify_append_length]
    refine arranged.replace ?_ ?_ ?_ <;> simp_all [listStarts]

/-- A fragment comes in front of one that goes on with nothing. -/
theorem insertIdx (gathers : query.Gathers listing) {test : Fragment → Bool} {place : Nat}
    {fragment : Fragment} (found : query.fragments.findIdx? test = some place)
    (apart : ∀ other, test other = true → other.isContinuation = false)
    (neutral : fragment.isNeutral = true) :
    Fragment.Arranged (query.fragments.insertIdx place fragment) listing := by
  obtain ⟨front, other, back, shape, rfl, holds⟩ := exists_append_of_findIdx? found
  have arranged := gathers.arranged
  have foreign := Fragment.Foreign.singleton neutral
  rw [shape] at arranged ⊢
  rw [insertIdx_append_length]
  exact arranged.splice_neutral (by simpa [Fragment.Starts] using apart other holds) foreign.free
    foreign.starts

theorem insert (gathers : query.Gathers listing) {fragment : Fragment}
    (neutral : fragment.isNeutral = true) : (query.insert fragment).Gathers listing :=
  gathers.splices (.singleton neutral) (.insert query fragment)

/-- A select list is no list of terms. -/
theorem isNeutral_of_isSelect {fragment : Fragment}
    (select : isSelectKeyword fragment.keyword = true) : fragment.isNeutral = true := by
  have word : fragment.keyword = "select" ∨ fragment.keyword = "select distinct" := by
    simpa [isSelectKeyword] using select
  unfold Fragment.isNeutral
  rcases word with word | word <;> rw [word] <;> decide

theorem add (gathers : query.Gathers listing) (fragment : Fragment)
    (neutral : fragment.isNeutral = true) : (query.add fragment).Gathers listing := by
  unfold Query.add
  split
  case isFalse => exact gathers.insert neutral
  case isTrue select =>
    split
    case h_1 place _ found =>
      have merged := gathers.modify (mergeSelect fragment.keyword fragment.payload) found
        fun present holds => ⟨isNeutral_of_isSelect holds, isNeutral_of_isSelect ?_⟩
      · exact ⟨merged.rest, merged.arranged⟩
      · unfold mergeSelect
        dsimp only
        split
        · exact holds
        · exact select
    case h_2 place _ found =>
      refine ⟨by simp [gathers.rest], gathers.insertIdx found (fun other holds => ?_) neutral⟩
      simp [Fragment.isContinuation, beq_iff_eq.1 holds]
    case h_3 => exact gathers.insert neutral

theorem isNeutral_congr {fragment other : Fragment} (same : other.keyword = fragment.keyword) :
    other.isNeutral = fragment.isNeutral := by
  rw [Fragment.isNeutral, Fragment.isNeutral, same]

theorem setText (gathers : query.Gathers listing) (keyword : String)
    (neutral : (Fragment.token keyword).isNeutral = true) (text : String) :
    (query.setText keyword text).Gathers listing := by
  unfold Query.setText
  split
  case h_1 place found =>
    refine gathers.modify _ found fun fragment holds => ?_
    have own : fragment.isNeutral = true := (isNeutral_congr (beq_iff_eq.1 holds)).trans neutral
    exact ⟨own, own⟩
  case h_2 => exact gathers.add _ neutral

theorem replaceClause (gathers : query.Gathers listing) (keyword : String)
    {change : Fragment → Fragment} (old : (Fragment.token keyword).isNeutral = true)
    (new : ∀ fragment, fragment.keyword = keyword → (change fragment).isNeutral = true)
    (replaced : query.replaceClause keyword change = .ok changed) : changed.Gathers listing := by
  unfold Query.replaceClause at replaced
  split at replaced
  · cases replaced
  case h_2 place found =>
    cases replaced
    exact gathers.modify _ found fun fragment holds =>
      ⟨(isNeutral_congr (beq_iff_eq.1 holds)).trans old, new fragment (beq_iff_eq.1 holds)⟩

/-- A common table expression goes on with those that there are, or stands in front of all. -/
theorem addCommonTable (gathers : query.Gathers listing) (isRecursive : Bool) (text : String) :
    (query.addCommonTable isRecursive text).Gathers listing := by
  unfold Query.addCommonTable
  dsimp only
  split
  case h_2 =>
    have foreign : Fragment.Starts
        [.withText (if isRecursive then "with recursive" else "with") text] := by
      cases isRecursive <;> simp [Fragment.Starts, Fragment.isContinuation, Fragment.withText]
    refine ⟨by simp [insertAt, shiftCursor, gathers.rest], ?_⟩
    have whole : Fragment.Arranged ([] ++ query.fragments) listing := gathers.arranged
    refine whole.splice gathers.arranged.starts ?_ (List.isChain_singleton _) foreign
    cases isRecursive <;> simp [Fragment.withText, listKeywords]
  case h_1 place found =>
    refine ⟨by simp [insertAt, shiftCursor, gathers.rest], ?_⟩
    obtain ⟨front, first, behind, shape, rfl, holds⟩ := exists_append_of_findIdx? found
    have arranged := gathers.arranged
    have behind_eq : query.fragments.drop (front.length + 1) = behind := by
      rw [shape, ← List.drop_drop, List.drop_left, List.drop_one, List.tail_cons]
    have word : first.keyword = "with" ∨ first.keyword = "with recursive" := by simpa using holds
    -- A recursive table changes the keyword of the first one, which still begins the same list.
    obtain ⟨marked, marked_eq, start⟩ : ∃ marked : Fragment,
        (if isRecursive then query.fragments.modify front.length fun fragment =>
            { fragment with keyword := if isRecursive then "with recursive" else "with" }
          else query.fragments) = front ++ marked :: behind ∧
        (marked.keyword = "with" ∨ marked.keyword = "with recursive") := by
      cases isRecursive with
      | false => exact ⟨first, shape, word⟩
      | true =>
          refine ⟨{ first with keyword := "with recursive" }, ?_, .inr rfl⟩
          rw [if_pos rfl, shape, modify_append_length]
          rfl
    have words : ∀ keyword ∈ ["with", "with recursive"],
        keyword ∉ "" :: "," :: listKeywords ∧ keyword ∈ listStarts := by decide
    have old := words first.keyword (by simpa using word)
    have new := words marked.keyword (by simpa using start)
    rw [shape] at arranged
    have replaced := arranged.replace old.1 new.1 (iff_of_true old.2 new.2)
    obtain ⟨commas, back, rfl, taken, only, apart⟩ := Fragment.exists_commas behind
    have extended := replaced.extend new.2 only apart text
    rw [behind_eq, marked_eq, taken]
    have place : front.length + 1 + commas.length = (front ++ marked :: commas).length := by
      simp
      omega
    have shape' : front ++ marked :: (commas ++ back) = (front ++ marked :: commas) ++ back := by
      simp
    have result : (front ++ marked :: (commas ++ back)).insertIdx (front.length + 1 + commas.length)
        (.withText "," text) = front ++ marked :: (commas ++ .withText "," text :: back) := by
      rw [place, shape', insertIdx_append_length]
      simp
    unfold insertAt shiftCursor
    dsimp only
    rw [result]
    refine extended.congr fun keyword mem => ?_
    refine (Function.update_of_ne ?_ _ _).symm
    rintro rfl
    exact new.1 (List.mem_cons_of_mem _ (List.mem_cons_of_mem _ mem))

/-! ### Removals -/

/-- The first fragment with a keyword, and what stands around it. -/
theorem exists_append_of_clauseIndex? {keyword : String} {place : Nat}
    (found : query.clauseIndex? keyword = some place) :
    ∃ front fragment behind, query.fragments = front ++ fragment :: behind ∧
      front.length = place ∧ fragment.keyword = keyword ∧
      ∀ other ∈ front, other.keyword ≠ keyword := by
  obtain ⟨inside, holds, first⟩ := List.findIdx?_eq_some_iff_getElem.1 found
  refine ⟨query.fragments.take place, query.fragments[place], query.fragments.drop (place + 1),
    ?_, by rw [List.length_take]; omega, beq_iff_eq.1 holds, fun other mem => ?_⟩
  · rw [List.getElem_cons_drop, List.take_append_drop]
  · obtain ⟨index, reach, rfl⟩ := List.mem_take_iff_getElem.1 mem
    simpa using first index (by omega)

/-- What a removal leaves. -/
theorem fragments_removeClause {front behind : List Fragment} {fragment : Fragment}
    (shape : query.fragments = front ++ fragment :: behind)
    (absent : ∀ other ∈ front, other.keyword ≠ fragment.keyword) :
    (query.removeClause fragment.keyword).fragments =
      front ++ behind.dropWhile (·.isContinuation) := by
  have found : query.clauseIndex? fragment.keyword = some front.length := by
    rw [clauseIndex?, shape, List.findIdx?_append,
      List.findIdx?_eq_none_iff.2 fun other mem => beq_eq_false_iff_ne.2 (absent other mem)]
    simp [List.findIdx?_cons]
  have left (count : Nat) :
      query.fragments.drop (front.length + (1 + count)) = behind.drop count := by
    rw [shape, ← List.drop_drop, List.drop_left, Nat.add_comm, List.drop_succ_cons]
  have behind_eq : query.fragments.drop (front.length + 1) = behind := left 0
  unfold Query.removeClause
  rw [found]
  dsimp only
  rw [behind_eq, left, drop_length_takeWhile, shape, List.take_left]

/-- A clause is removed with all of its terms. -/
theorem removeClause (gathers : query.Gathers listing) {keyword : String} (word : keyword ≠ ",") :
    (query.removeClause keyword).Gathers (listing.remove keyword) := by
  refine ⟨(KeepsRest.removeClause query keyword).cursor gathers.rest, ?_⟩
  have arranged := gathers.arranged
  cases found : query.clauseIndex? keyword with
  | none =>
      have absent : ∀ fragment ∈ query.fragments, fragment.keyword ≠ keyword := by
        simpa using List.findIdx?_eq_none_iff.1 found
      rw [removeClause_eq_self found]
      refine arranged.congr fun other mem => ?_
      by_cases own : other = keyword
      · subst own
        rw [Listing.remove, Function.update_self, arranged.eq_nil_of_absent mem absent]
      · exact Function.update_of_ne own _ _
  | some place =>
      obtain ⟨front, fragment, behind, shape, -, rfl, absent⟩ := exists_append_of_clauseIndex? found
      rw [fragments_removeClause shape absent]
      rw [shape, ← List.takeWhile_append_dropWhile (p := Fragment.isContinuation) (l := behind)]
        at arranged
      refine arranged.remove (fun other mem => List.mem_takeWhile_imp mem) ?_ absent word
      intro first mem
      have apart := List.head?_dropWhile_not (·.isContinuation) behind
      rw [Option.mem_def.1 mem] at apart
      simpa using apart

/-! ### Joins -/

/-- A join goes in front of a clause, or to the end; its callback adds behind it. -/
theorem join (gathers : query.Gathers listing) (kind : JoinKind) (target : String) {inside : Query}
    (foreign : Fragment.Foreign block)
    (filled : Splices block (query.openJoin kind target) inside) :
    (inside.closeJoin query).Gathers listing := by
  refine ⟨by simp [Query.closeJoin, gathers.rest], ?_⟩
  have neutral : (Fragment.withText kind.keyword target).isNeutral = true := by
    cases kind <;> exact rfl
  have block_foreign := (Fragment.Foreign.singleton neutral).append foreign
  have fragments := filled.fragments_openJoin gathers.rest
  have apart : Fragment.Starts
      (query.fragments.drop (query.joinPoint?.getD query.fragments.length)) := by
    cases found : query.joinPoint? with
    | none => simp [Fragment.Starts]
    | some place =>
        obtain ⟨inside, holds, -⟩ := List.findIdx?_eq_some_iff_getElem.1 found
        have words : ∀ keyword ∈ clausesAfterJoins, keyword ≠ "" ∧ keyword ≠ "," := by decide
        obtain ⟨empty, comma⟩ := words _ (List.contains_iff_mem.1 holds)
        simp [Fragment.Starts, Fragment.isContinuation, empty, comma, List.head?_drop, inside]
  change Fragment.Arranged inside.fragments listing
  rw [fragments]
  refine Fragment.Arranged.splice_neutral ?_ apart block_foreign.free block_foreign.starts
  exact (List.take_append_drop _ _).symm ▸ gathers.arranged

end Gathers

/-! ### Terms -/

variable (query : Query)

/-- The keyword of the last fragment apart from commas: the clause that a comma at the end goes on
with. -/
def openClause : Option String :=
  (query.fragments.reverse.find? (·.keyword != ",")).map (·.keyword)

/-- Whether a term of a list goes to its list: the clause is absent, or its list stands last. -/
def isTimely (keyword : String) : Bool :=
  !query.hasClause keyword || query.openClause == some keyword

variable {query} {changed : Query} {listing : Listing} {keyword : String}

/-- The last fragment apart from commas, and the commas behind it. -/
theorem exists_openClause (starts : Fragment.Starts query.fragments) (some : query.fragments ≠ []) :
    ∃ front fragment commas, query.fragments = front ++ fragment :: commas ∧
      (∀ comma ∈ commas, comma.keyword = ",") ∧ query.openClause = Option.some fragment.keyword ∧
      fragment.keyword ≠ "," := by
  unfold openClause
  cases found : query.fragments.reverse.find? (·.keyword != ",") with
  | none =>
      have all := List.find?_eq_none.1 found
      obtain ⟨first, rest, shape⟩ := List.exists_cons_of_ne_nil some
      have comma := all first (by simp [shape])
      exact absurd (by simpa using comma) (starts.apart first (by simp [shape]))
  | some fragment =>
      obtain ⟨holds, commas, front, shape, only⟩ := List.find?_eq_some_iff_append.1 found
      refine ⟨front.reverse, fragment, commas.reverse, ?_, fun comma mem => ?_, rfl, ?_⟩
      · have := congrArg List.reverse shape
        simpa using this
      · simpa using only comma (List.mem_reverse.1 mem)
      · simpa using holds

theorem isSelectKeyword_of_list (mem : keyword ∈ listKeywords) :
    isSelectKeyword keyword = false := by
  have words : ∀ keyword ∈ listKeywords, isSelectKeyword keyword = false := by decide
  exact words keyword mem

/-- Behind a term in time the next one is in time. -/
theorem isTimely_addTerm (rest : query.cursor = none) (mem : keyword ∈ listKeywords)
    (timely : query.isTimely keyword = true) (term : String) :
    (query.addTerm keyword term).isTimely keyword = true := by
  have word := Fragment.Arranged.ne_comma mem
  suffices last : (query.addTerm keyword term).openClause = some keyword by
    simp [isTimely, last]
  unfold addTerm openClause
  cases known : query.hasClause keyword with
  | false =>
      rw [if_neg Bool.false_ne_true, addText_eq_insert _ (isSelectKeyword_of_list mem),
        insert_of_cursor_eq_none rest]
      simp [Fragment.withText, word]
  | true =>
      have open_eq : query.openClause = some keyword := by simpa [isTimely, known] using timely
      rw [if_pos rfl, addText_eq_insert _ rfl, insert_of_cursor_eq_none rest]
      simpa [Fragment.withText, openClause] using open_eq

namespace Gathers

/-- A term in time goes to its list. -/
theorem addTerm (gathers : query.Gathers listing) (mem : keyword ∈ listKeywords)
    (timely : query.isTimely keyword = true) (term : String) :
    (query.addTerm keyword term).Gathers (listing.add keyword term) := by
  have arranged := gathers.arranged
  unfold Query.addTerm
  cases known : query.hasClause keyword with
  | false =>
      rw [if_neg Bool.false_ne_true, addText_eq_insert _ (isSelectKeyword_of_list mem)]
      refine ⟨(KeepsRest.insert query _).cursor gathers.rest, ?_⟩
      rw [insert_of_cursor_eq_none gathers.rest]
      exact arranged.start mem (by simpa [hasClause] using known) term
  | true =>
      have open_eq : query.openClause = some keyword := by
        simpa [isTimely, known] using timely
      have filled : query.fragments ≠ [] := by
        intro none
        simp [hasClause, none] at known
      obtain ⟨front, fragment, commas, shape, only, last, -⟩ :=
        exists_openClause arranged.starts filled
      obtain rfl : keyword = fragment.keyword := Option.some.inj (open_eq.symm.trans last)
      rw [if_pos rfl, addText_eq_insert _ rfl]
      refine ⟨(KeepsRest.insert query _).cursor gathers.rest, ?_⟩
      rw [insert_of_cursor_eq_none gathers.rest]
      dsimp only
      rw [shape, ← List.append_nil commas] at arranged
      rw [shape, List.append_assoc, List.cons_append]
      exact arranged.extend (List.mem_cons_of_mem _ (List.mem_cons_of_mem _ mem)) only (by simp)
        term

end Gathers

/--
Whether the terms of each list make one run, in the order in which they were given: the first under
the keyword, the others under commas right behind it. No comma stands anywhere but in a list, and a
list is removed with all of its terms and nothing else.
-/
structure HoldsLists (query : Query) (listing : Listing) : Prop where
  gathered : ∀ keyword ∈ listKeywords, ∃ front back,
    query.fragments = front ++ (Fragment.list keyword (listing keyword) ++ back) ∧
    (∀ fragment ∈ front ++ back, fragment.keyword ≠ keyword) ∧
    (∀ first ∈ back.head?, first.keyword ≠ ",") ∧
    (query.removeClause keyword).fragments = front ++ back
  commas : query.fragments.IsChain fun before after =>
    after.keyword = "," → before.keyword ∈ "," :: listStarts
  head : ∀ first ∈ query.fragments.head?, first.keyword ≠ ","

theorem Gathers.toHoldsLists (gathers : query.Gathers listing) : query.HoldsLists listing where
  gathered keyword mem := by
    have arranged := gathers.arranged
    have own := arranged.runs keyword mem
    cases terms : listing keyword with
    | nil =>
        rw [terms] at own
        have absent := Fragment.runs_eq_nil_iff.1 own
        refine ⟨query.fragments, [], by simp [Fragment.list], by simpa using absent, by simp, ?_⟩
        rw [removeClause_eq_self (List.findIdx?_eq_none_iff.2 fun other present =>
          beq_eq_false_iff_ne.2 (absent other present)), List.append_nil]
    | cons first rest =>
        rw [terms] at own
        obtain ⟨front, back, shape, absent, apart⟩ := Fragment.exists_of_runs_eq_singleton own
        refine ⟨front, back, shape, absent, apart, ?_⟩
        rw [Fragment.list, List.cons_append] at shape
        have only : ∀ comma ∈ rest.map (Fragment.withText ","), comma.keyword = "," := by
          simp [Fragment.withText]
        rw [shape] at arranged
        have starts := arranged.starts_behind
          (List.mem_cons_of_mem _ (List.mem_cons_of_mem _ mem)) only apart
        have removed := Gathers.fragments_removeClause shape
          (List.forall_mem_append.1 absent).1
        rw [List.dropWhile_append_of_pos fun comma present => by
          simp [Fragment.isContinuation, only comma present]] at removed
        refine removed.trans (congrArg _ ?_)
        cases back with
        | nil => rfl
        | cons next others => exact List.dropWhile_cons_of_neg (by simp [starts next rfl])
  commas := gathers.arranged.chain.imp fun _ _ follows => follows.1
  head := gathers.arranged.starts.apart

/-- A term that comes late is not in its list: its comma goes on with another clause. -/
theorem Gathers.isTimely_of_lists (gathers : query.Gathers listing) (mem : keyword ∈ listKeywords)
    {term : String} (lists : (query.addTerm keyword term).HoldsLists (listing.add keyword term)) :
    query.isTimely keyword = true := by
  have arranged := gathers.arranged
  have word := Fragment.Arranged.ne_comma mem
  by_contra late
  simp only [isTimely, Bool.or_eq_true, Bool.not_eq_true', beq_iff_eq, not_or,
    Bool.not_eq_false] at late
  obtain ⟨known, elsewhere⟩ := late
  have filled : query.fragments ≠ [] := by
    intro none
    simp [hasClause, none] at known
  obtain ⟨front, fragment, commas, shape, only, last, mark⟩ :=
    exists_openClause arranged.starts filled
  have other : fragment.keyword ≠ keyword := fun same => elsewhere (same ▸ last)
  have added : (query.addTerm keyword term).fragments =
      front ++ fragment :: (commas ++ [.withText "," term]) := by
    rw [Query.addTerm, known, if_pos rfl, addText_eq_insert _ rfl,
      insert_of_cursor_eq_none gathers.rest]
    dsimp only
    rw [shape, List.append_assoc, List.cons_append]
  have only' : ∀ comma ∈ commas ++ [Fragment.withText "," term], comma.keyword = "," :=
    List.forall_mem_append.2 ⟨only, by simp [Fragment.withText]⟩
  -- Neither the list that is there nor one that is longer by a term changes with the comma.
  have before := arranged.runs keyword mem
  rw [shape, Fragment.runs_append keyword front (by simpa using mark),
    Fragment.runs_cons_commas fragment only word, if_neg other] at before
  obtain ⟨front', back', shape', absent, apart, -⟩ := lists.gathered keyword mem
  have after := Fragment.runs_eq_of_list (listing.add keyword term keyword) word absent apart
  rw [← shape', added, Fragment.runs_append keyword front (by simpa using mark),
    Fragment.runs_cons_commas fragment only' word, if_neg other, before, Listing.add,
    Function.update_self] at after
  have terms := congrArg (fun runs => (runs.map List.length).sum) after
  have length (terms : List String) :
      (([Fragment.list keyword terms].filter (!·.isEmpty)).map List.length).sum = terms.length := by
    cases terms <;> simp [Fragment.list]
  simp only [length, List.length_append, List.length_singleton] at terms
  omega

end Query

end SqlBuilder
