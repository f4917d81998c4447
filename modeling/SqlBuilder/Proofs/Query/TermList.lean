import Mathlib.Data.List.Chain
import Mathlib.Logic.Function.Basic
import SqlBuilder.Proofs.Query.Splice

/-!
# Lists of terms

Four clauses are given their terms one by one. The first term stands under the keyword, the others
stand behind it under commas. A term is told by its comma alone to belong to a list, so a comma that
is added at the end goes on with whatever list stands last, and not with the clause it was meant
for. A list stays in one piece as long as each of its terms comes while the list stands last.

`Fragment.Arranged` is what the proofs carry: each list is one run of fragments, and commas and
fragments without keyword stand where they go on with the fragment in front of them. Blocks come in
in front of fragments that go on with nothing, so they part no list.
-/

namespace SqlBuilder

/-- The clauses that are given their terms one by one. -/
def listKeywords : List String := ["group by", "order by", "set", "values"]

/-- The keywords that a comma can go on with. -/
def listStarts : List String := "with" :: "with recursive" :: listKeywords

/-- The terms that were given to clauses, by keyword. -/
abbrev Listing := String → List String

namespace Listing

/-- No terms. -/
def empty : Listing := fun _ => []

/-- One more term. -/
def add (listing : Listing) (keyword term : String) : Listing :=
  Function.update listing keyword (listing keyword ++ [term])

/-- A clause without its terms. -/
def remove (listing : Listing) (keyword : String) : Listing := Function.update listing keyword []

end Listing

namespace Fragment

/-- The terms of a clause: the first under its keyword, the others under commas. -/
def list (keyword : String) : List String → List Fragment
  | [] => []
  | first :: rest => .withText keyword first :: rest.map (.withText ",")

/-- Whether a fragment is neither of a list nor goes on with anything. -/
def isNeutral (fragment : Fragment) : Bool :=
  !("" :: "," :: listStarts).contains fragment.keyword

/-- The fragments with a keyword, each with the commas behind it. -/
def runs (keyword : String) : List Fragment → List (List Fragment)
  | [] => []
  | fragment :: rest =>
    if fragment.keyword == keyword then
      (fragment :: rest.takeWhile (·.keyword == ",")) :: runs keyword rest
    else runs keyword rest

/-- Whether the first fragment goes on with nothing. -/
def Starts (fragments : List Fragment) : Prop :=
  ∀ first ∈ fragments.head?, first.isContinuation = false

/-- Whether a fragment stands well behind another: a comma in a list, a fragment without keyword
outside of lists. -/
def MayFollow (before after : Fragment) : Prop :=
  (after.keyword = "," → before.keyword ∈ "," :: listStarts) ∧
    (after.keyword = "" → before.keyword ∉ "," :: listStarts)

/-- Whether the terms of each list make one run, as they were given. -/
structure Arranged (fragments : List Fragment) (listing : Listing) : Prop where
  runs : ∀ keyword ∈ listKeywords,
    runs keyword fragments = [list keyword (listing keyword)].filter (!·.isEmpty)
  chain : fragments.IsChain MayFollow
  starts : Starts fragments

variable {fragment changed : Fragment} {fragments front back block commas : List Fragment}
  {keyword : String} {listing : Listing}

theorem list_append (keyword : String) {terms : List String} (some : terms ≠ []) (term : String) :
    list keyword (terms ++ [term]) = list keyword terms ++ [.withText "," term] := by
  cases terms with
  | nil => exact absurd rfl some
  | cons first rest => simp [list]

/-! ### Runs -/

/-- Nothing is cut where no comma stands behind the cut. -/
theorem runs_append (keyword : String) (front : List Fragment)
    (apart : ∀ first ∈ back.head?, first.keyword ≠ ",") :
    runs keyword (front ++ back) = runs keyword front ++ runs keyword back := by
  induction front with
  | nil => rfl
  | cons fragment rest ih =>
      have whole : (rest ++ back).takeWhile (·.keyword == ",") =
          rest.takeWhile (·.keyword == ",") := by
        rw [List.takeWhile_append]
        split
        case isFalse => rfl
        case isTrue all =>
          have none : back.takeWhile (·.keyword == ",") = [] := by
            cases back with
            | nil => rfl
            | cons first _ => simpa using apart first rfl
          rw [none, List.append_nil]
          exact ((List.takeWhile_sublist _).eq_of_length all).symm
      simp only [List.cons_append, runs]
      split
      · rw [whole, ih, List.cons_append]
      · exact ih

theorem runs_eq_nil_iff :
    runs keyword fragments = [] ↔ ∀ fragment ∈ fragments, fragment.keyword ≠ keyword := by
  induction fragments with
  | nil => simp [runs]
  | cons fragment rest ih =>
      rw [runs, List.forall_mem_cons, ← ih]
      by_cases same : fragment.keyword = keyword <;> simp [same]

/-- The commas in front, up to the first fragment that is none. -/
theorem exists_commas (fragments : List Fragment) :
    ∃ commas back, fragments = commas ++ back ∧
      fragments.takeWhile (·.keyword == ",") = commas ∧
      (∀ comma ∈ commas, comma.keyword = ",") ∧ ∀ first ∈ back.head?, first.keyword ≠ "," := by
  refine ⟨fragments.takeWhile (·.keyword == ","), fragments.dropWhile (·.keyword == ","),
    List.takeWhile_append_dropWhile.symm, rfl, fun comma mem => ?_, fun first mem => ?_⟩
  · simpa using List.mem_takeWhile_imp mem
  · have apart := List.head?_dropWhile_not (·.keyword == ",") fragments
    rw [Option.mem_def.1 mem] at apart
    simpa using apart

/-- A run of commas is one piece. -/
theorem runs_cons_commas (fragment : Fragment) (only : ∀ comma ∈ commas, comma.keyword = ",")
    (word : keyword ≠ ",") : runs keyword (fragment :: commas) =
      if fragment.keyword = keyword then [fragment :: commas] else [] := by
  have none : runs keyword commas = [] :=
    runs_eq_nil_iff.2 fun comma mem => (only comma mem).symm ▸ word.symm
  have all : commas.takeWhile (·.keyword == ",") = commas :=
    List.takeWhile_eq_self_iff.2 fun comma mem => by simpa using only comma mem
  rw [runs, none, all]
  simp only [beq_iff_eq]

/-- The only run stands somewhere, and the keyword stands nowhere else. -/
theorem exists_of_runs_eq_singleton {run : List Fragment}
    (one : runs keyword fragments = [run]) :
    ∃ front back, fragments = front ++ (run ++ back) ∧
      (∀ fragment ∈ front ++ back, fragment.keyword ≠ keyword) ∧
      ∀ first ∈ back.head?, first.keyword ≠ "," := by
  induction fragments with
  | nil => cases one
  | cons fragment rest ih =>
      rw [runs] at one
      split at one
      case isTrue same =>
        obtain ⟨rfl, none⟩ := List.cons_eq_cons.1 one
        obtain ⟨commas, back, rfl, taken, -, apart⟩ := exists_commas rest
        rw [taken]
        refine ⟨[], back, rfl, fun other mem => ?_, apart⟩
        exact runs_eq_nil_iff.1 none other (List.mem_append_right _ mem)
      case isFalse other =>
        obtain ⟨front, back, rfl, absent, apart⟩ := ih one
        refine ⟨fragment :: front, back, rfl, ?_, apart⟩
        exact List.forall_mem_cons.2 ⟨by simpa using other, absent⟩

/-- A list that stands in one piece is the only run. -/
theorem runs_eq_of_list (terms : List String) (word : keyword ≠ ",")
    (absent : ∀ fragment ∈ front ++ back, fragment.keyword ≠ keyword)
    (apart : ∀ first ∈ back.head?, first.keyword ≠ ",") :
    runs keyword (front ++ (list keyword terms ++ back)) =
      [list keyword terms].filter (!·.isEmpty) := by
  obtain ⟨before, behind⟩ := List.forall_mem_append.1 absent
  cases terms with
  | nil =>
      exact runs_eq_nil_iff.2 absent
  | cons first rest =>
      have commas : ∀ comma ∈ rest.map (withText ","), comma.keyword = "," := by
        simp [withText]
      have own : (withText keyword first).keyword = keyword := rfl
      rw [list, runs_append keyword front (by simpa [own] using word),
        runs_append keyword _ apart, runs_eq_nil_iff.2 before, runs_eq_nil_iff.2 behind,
        runs_cons_commas _ commas word, if_pos own]
      rfl

/-! ### Chains -/

/-- What comes behind a front can be replaced. -/
theorem Starts.append_of_append (starts : Starts (front ++ block)) (behind : Starts back) :
    Starts (front ++ back) := by
  cases front with
  | nil => exact behind
  | cons first rest => exact starts

theorem Starts.append (starts : Starts front) (behind : Starts back) : Starts (front ++ back) :=
  append_of_append ((List.append_nil front).symm ▸ starts) behind

theorem Starts.apart (starts : Starts back) : ∀ first ∈ back.head?, first.keyword ≠ "," := by
  intro first mem comma
  have := starts first mem
  simp [isContinuation, comma] at this

theorem mayFollow_of_starts {before after : Fragment} (starts : after.isContinuation = false) :
    MayFollow before after := by
  simp only [isContinuation, Bool.or_eq_false_iff, beq_eq_false_iff_ne] at starts
  exact ⟨fun comma => absurd comma starts.2, fun empty => absurd empty starts.1⟩

theorem isChain_append (first : front.IsChain MayFollow) (second : back.IsChain MayFollow)
    (starts : Starts back) : (front ++ back).IsChain MayFollow :=
  first.append second fun _ _ after mem => mayFollow_of_starts (starts after mem)

/-! ### Arranged fragments -/

namespace Arranged

/-- Whether a list clause is none of the marks and words that go with lists. -/
theorem word_of_mem (mem : keyword ∈ listKeywords) :
    keyword ∉ ["", ",", "with", "with recursive"] := by
  simp only [listKeywords, List.mem_cons, List.not_mem_nil, or_false] at mem
  rcases mem with rfl | rfl | rfl | rfl <;> decide

theorem ne_comma (mem : keyword ∈ listKeywords) : keyword ≠ "," := by
  rintro rfl
  exact absurd mem (by decide)

theorem nil : Arranged [] .empty := ⟨fun _ _ => rfl, List.isChain_nil, fun _ mem => nomatch mem⟩

/-- A block comes in where nothing is parted by it. -/
theorem splice (arranged : Arranged (front ++ back) listing) (apart : Starts back)
    (free : ∀ fragment ∈ block, fragment.keyword ∉ listKeywords)
    (chain : block.IsChain MayFollow) (starts : Starts block) :
    Arranged (front ++ (block ++ back)) listing where
  runs keyword mem := by
    have none : Fragment.runs keyword block = [] :=
      runs_eq_nil_iff.2 fun fragment known same => free fragment known (same ▸ mem)
    rw [← arranged.runs keyword mem, runs_append keyword front (starts.append apart).apart,
      runs_append keyword block apart.apart, none, List.nil_append,
      runs_append keyword front apart.apart]
  chain := by
    obtain ⟨first, second, -⟩ := List.isChain_append.1 arranged.chain
    exact isChain_append first (isChain_append chain second apart) (starts.append apart)
  starts := arranged.starts.append_of_append (starts.append apart)

/-- A block without marks and list clauses comes in where nothing is parted by it. -/
theorem splice_neutral (arranged : Arranged (front ++ back) listing) (apart : Starts back)
    (neutral : ∀ fragment ∈ block, "," ≠ fragment.keyword ∧ fragment.keyword ∉ listStarts)
    (starts : Starts block) : Arranged (front ++ (block ++ back)) listing := by
  refine arranged.splice apart (fun fragment mem list => ?_) ?_ starts
  · exact (neutral fragment mem).2 (List.mem_cons_of_mem _ (List.mem_cons_of_mem _ list))
  · refine List.Pairwise.isChain
      (List.pairwise_of_forall_mem_list fun before first after second => ?_)
    refine ⟨fun comma => absurd comma.symm (neutral after second).1, fun _ mem => ?_⟩
    rcases List.mem_cons.1 mem with comma | start
    · exact (neutral before first).1 comma.symm
    · exact (neutral before first).2 start

/-- A fragment outside of lists is changed. -/
theorem replace (arranged : Arranged (front ++ fragment :: back) listing)
    (before : fragment.keyword ∉ "" :: "," :: listKeywords)
    (after : changed.keyword ∉ "" :: "," :: listKeywords)
    (same : fragment.keyword ∈ listStarts ↔ changed.keyword ∈ listStarts) :
    Arranged (front ++ changed :: back) listing := by
  simp only [List.mem_cons, not_or] at before after
  have starts : changed.isContinuation = false := by simp [isContinuation, after.1, after.2.1]
  refine ⟨fun keyword mem => ?_, ?_, ?_⟩
  · rw [← arranged.runs keyword mem, runs_append keyword front (by simpa using after.2.1),
      runs_append keyword front (by simpa using before.2.1), Fragment.runs, Fragment.runs,
      if_neg, if_neg]
    · rw [beq_iff_eq]
      rintro rfl
      exact before.2.2 mem
    · rw [beq_iff_eq]
      rintro rfl
      exact after.2.2 mem
  · obtain ⟨first, second⟩ := List.isChain_split.1 arranged.chain
    obtain ⟨next, behind⟩ := List.isChain_cons.1 second
    refine List.isChain_split.2 ⟨?_, List.isChain_cons.2 ⟨fun follower mem => ?_, behind⟩⟩
    · exact isChain_append (List.isChain_append.1 first).1 (List.isChain_singleton _)
        (by simpa [Starts] using starts)
    · obtain ⟨comma, empty⟩ := next follower mem
      refine ⟨fun word => ?_, fun word mem' => empty word ?_⟩
      · rcases List.mem_cons.1 (comma word) with mark | start
        · exact absurd mark before.2.1
        · exact List.mem_cons_of_mem _ (same.1 start)
      · rcases List.mem_cons.1 mem' with mark | start
        · exact absurd mark after.2.1
        · exact List.mem_cons_of_mem _ (same.2 start)
  · exact arranged.starts.append_of_append (by simpa [Starts] using starts)

/-- A clause is removed with all that goes on with it. -/
theorem remove {run : List Fragment}
    (arranged : Arranged (front ++ fragment :: (run ++ back)) listing)
    (only : ∀ other ∈ run, other.isContinuation = true) (apart : Starts back)
    (absent : ∀ other ∈ front, other.keyword ≠ fragment.keyword) (word : fragment.keyword ≠ ",") :
    Arranged (front ++ back) (listing.remove fragment.keyword) where
  runs keyword mem := by
    have own := arranged.runs keyword mem
    rw [runs_append keyword front (by simpa using word), ← List.cons_append,
      runs_append keyword _ apart.apart, Fragment.runs] at own
    have none : Fragment.runs keyword run = [] := by
      refine runs_eq_nil_iff.2 fun other present same => ?_
      have goes := only other present
      have := word_of_mem mem
      simp_all [isContinuation]
    rw [runs_append keyword front apart.apart]
    by_cases same : fragment.keyword = keyword
    case pos =>
      subst same
      rw [runs_eq_nil_iff.2 absent, none, if_pos (beq_self_eq_true _)] at own
      have single : (Fragment.runs fragment.keyword back) = [] := by
        have length := congrArg List.length own
        have bound := List.length_filter_le (fun run : List Fragment => !run.isEmpty)
          [list fragment.keyword (listing fragment.keyword)]
        simp only [List.nil_append, List.length_append, List.length_cons, List.length_nil]
          at length bound
        exact List.eq_nil_of_length_eq_zero (by omega)
      rw [runs_eq_nil_iff.2 absent, single, Listing.remove, Function.update_self]
      rfl
    case neg =>
      rw [if_neg (by simpa using same), none, List.nil_append] at own
      rw [own, Listing.remove, Function.update_of_ne (Ne.symm same)]
  chain := by
    obtain ⟨first, second, -⟩ := List.isChain_append.1 arranged.chain
    rw [← List.cons_append] at second
    exact isChain_append first (List.isChain_append.1 second).2.1 apart
  starts := arranged.starts.append_of_append apart

/-- Behind a list stands nothing that would go on with it. -/
theorem starts_behind (arranged : Arranged (front ++ fragment :: (commas ++ back)) listing)
    (start : fragment.keyword ∈ listStarts) (only : ∀ comma ∈ commas, comma.keyword = ",")
    (apart : ∀ first ∈ back.head?, first.keyword ≠ ",") : Starts back := by
  intro first mem
  have chain := (List.isChain_append.1 arranged.chain).2.1
  rw [← List.cons_append] at chain
  obtain ⟨last, known⟩ := Option.isSome_iff_exists.1
    (List.getLast?_isSome.2 (List.cons_ne_nil fragment commas))
  have word : last.keyword ∈ "," :: listStarts := by
    rcases List.mem_cons.1 (List.mem_of_getLast? known) with rfl | comma
    · exact List.mem_cons_of_mem _ start
    · exact only last comma ▸ List.mem_cons_self
  have follows := (List.isChain_append.1 chain).2.2 last known first mem
  have keyword : first.keyword ≠ "" := fun empty => follows.2 empty word
  simp [isContinuation, keyword, apart first mem]

/-- The run of a list clause holds its terms, and there is no other. -/
theorem only_run (arranged : Arranged (front ++ fragment :: (commas ++ back)) listing)
    (mem : fragment.keyword ∈ listKeywords) (only : ∀ comma ∈ commas, comma.keyword = ",")
    (apart : ∀ first ∈ back.head?, first.keyword ≠ ",") :
    Fragment.runs fragment.keyword front = [] ∧ Fragment.runs fragment.keyword back = [] ∧
      list fragment.keyword (listing fragment.keyword) = fragment :: commas := by
  have own := arranged.runs _ mem
  rw [runs_append _ front (by simpa using ne_comma mem), ← List.cons_append,
    runs_append _ _ apart, runs_cons_commas fragment only (ne_comma mem), if_pos rfl] at own
  have length := congrArg List.length own
  have bound := List.length_filter_le (fun run : List Fragment => !run.isEmpty)
    [list fragment.keyword (listing fragment.keyword)]
  simp only [List.length_append, List.length_cons, List.length_nil] at length bound
  have before : Fragment.runs fragment.keyword front = [] :=
    List.eq_nil_of_length_eq_zero (by omega)
  have behind : Fragment.runs fragment.keyword back = [] :=
    List.eq_nil_of_length_eq_zero (by omega)
  refine ⟨before, behind, ?_⟩
  rw [before, behind] at own
  have mem : fragment :: commas ∈ [list fragment.keyword (listing fragment.keyword)].filter
      (!·.isEmpty) := own ▸ List.mem_singleton_self _
  exact (List.mem_singleton.1 (List.mem_filter.1 mem).1).symm

/-- A comma goes on with the list that it is put behind. -/
theorem extend (arranged : Arranged (front ++ fragment :: (commas ++ back)) listing)
    (start : fragment.keyword ∈ listStarts) (only : ∀ comma ∈ commas, comma.keyword = ",")
    (apart : ∀ first ∈ back.head?, first.keyword ≠ ",") (term : String) :
    Arranged (front ++ fragment :: (commas ++ .withText "," term :: back))
      (listing.add fragment.keyword term) := by
  have behind := arranged.starts_behind start only apart
  have words : ∀ keyword ∈ listStarts, keyword ≠ "" ∧ keyword ≠ "," := by decide
  obtain ⟨empty, word⟩ := words _ start
  have only' : ∀ comma ∈ commas ++ [withText "," term], comma.keyword = "," :=
    List.forall_mem_append.2 ⟨only, by simp [withText]⟩
  have shape : front ++ fragment :: (commas ++ withText "," term :: back) =
      front ++ ((fragment :: (commas ++ [withText "," term])) ++ back) := by simp
  rw [shape]
  refine ⟨fun keyword mem => ?_, ?_, ?_⟩
  · rw [runs_append keyword front (by simpa using word), runs_append keyword _ apart,
      runs_cons_commas fragment only' (ne_comma mem)]
    by_cases same : fragment.keyword = keyword
    case pos =>
      subst same
      obtain ⟨none, none', own⟩ := arranged.only_run mem only apart
      have some : listing fragment.keyword ≠ [] := by
        intro none
        rw [none] at own
        cases own
      rw [none, none', if_pos rfl, Listing.add, Function.update_self, list_append _ some, own]
      rfl
    case neg =>
      have own := arranged.runs keyword mem
      rw [runs_append keyword front (by simpa using word), ← List.cons_append,
        runs_append keyword _ apart, runs_cons_commas fragment only (ne_comma mem),
        if_neg same] at own
      rw [if_neg same, own, Listing.add, Function.update_of_ne (Ne.symm same)]
  · obtain ⟨first, second, between⟩ := List.isChain_append.1 arranged.chain
    rw [← List.cons_append] at second
    obtain ⟨own, others, -⟩ := List.isChain_append.1 second
    have longer : (fragment :: (commas ++ [withText "," term])).IsChain MayFollow := by
      rw [← List.cons_append]
      refine own.append (List.isChain_singleton _) fun last known after mem => ?_
      obtain rfl : withText "," term = after := by simpa using mem
      refine ⟨fun _ => ?_, fun empty => absurd empty (by simp [withText])⟩
      rcases List.mem_cons.1 (List.mem_of_getLast? known) with rfl | comma
      · exact List.mem_cons_of_mem _ start
      · exact only last comma ▸ List.mem_cons_self
    exact first.append (isChain_append longer others behind) (by simpa using between)
  · have starts : Starts (fragment :: (commas ++ [withText "," term]) ++ back) := by
      simp [Starts, isContinuation, word, empty]
    exact arranged.starts.append_of_append starts

/-- What was given to other keywords does not matter. -/
theorem congr {other : Listing} (arranged : Arranged fragments listing)
    (same : ∀ keyword ∈ listKeywords, other keyword = listing keyword) :
    Arranged fragments other :=
  ⟨fun keyword mem => same keyword mem ▸ arranged.runs keyword mem, arranged.chain, arranged.starts⟩

/-- Without the keyword there are no terms. -/
theorem eq_nil_of_absent (arranged : Arranged fragments listing) (mem : keyword ∈ listKeywords)
    (absent : ∀ fragment ∈ fragments, fragment.keyword ≠ keyword) : listing keyword = [] := by
  have own := arranged.runs keyword mem
  rw [runs_eq_nil_iff.2 absent] at own
  cases terms : listing keyword with
  | nil => rfl
  | cons first rest => simp [terms, list] at own

/-- The first term of a list starts it at the end. -/
theorem start (arranged : Arranged fragments listing) (mem : keyword ∈ listKeywords)
    (absent : ∀ fragment ∈ fragments, fragment.keyword ≠ keyword) (term : String) :
    Arranged (fragments ++ [.withText keyword term]) (listing.add keyword term) := by
  have word := word_of_mem mem
  simp only [List.mem_cons, not_or] at word
  have starts : Starts [withText keyword term] := by
    simp [Starts, isContinuation, withText, word.1, word.2.1]
  refine ⟨fun other known => ?_, ?_, ?_⟩
  · have own := arranged.runs other known
    have single : Fragment.runs other [withText keyword term] =
        if keyword = other then [[withText keyword term]] else [] :=
      runs_cons_commas _ (List.forall_mem_nil _) (ne_comma known)
    rw [runs_append other fragments starts.apart, single]
    by_cases same : keyword = other
    case pos =>
      subst same
      rw [runs_eq_nil_iff.2 absent, if_pos rfl, Listing.add, Function.update_self,
        arranged.eq_nil_of_absent mem absent]
      rfl
    case neg =>
      rw [if_neg same, own, Listing.add, Function.update_of_ne (Ne.symm same), List.append_nil]
  · exact isChain_append arranged.chain (List.isChain_singleton _) starts
  · exact arranged.starts.append starts

end Arranged

end Fragment

end SqlBuilder
