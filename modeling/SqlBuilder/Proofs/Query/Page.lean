import Mathlib.Algebra.Group.Nat.Defs
import Mathlib.Logic.ExistsUnique
import SqlBuilder.Proofs.History.Execution
import SqlBuilder.Proofs.Query.Listing

/-!
# Pages of a result

A page is cut out of the rows of a query by a limit and an offset, and the rows are counted first,
to say which page is the last one. What is reported and what is sent agree: the windows of the pages
up to the last one hold every row that was counted, each in one window, and behind the last page
there are no rows. The offset of a page is written with 64 bits and stops at the greatest number
there is, but no page with rows on it is that far away.
-/

namespace SqlBuilder

open Execution

/-! ### Windows -/

namespace PageRequest

variable {request : PageRequest} {total number row : Nat}

/-- Whether a row, counted from zero, is in the window of a page. -/
def Shows (request : PageRequest) (row : Nat) : Prop :=
  request.offset ≤ row ∧ row < request.offset + request.perPage

theorem one_le_perPage_clamp (request : PageRequest) : 1 ≤ request.clamp.perPage :=
  Nat.le_max_left 1 _

/-- What is within the bounds stays as it is. -/
theorem clamp_clamp (request : PageRequest) : request.clamp.clamp = request.clamp := by
  have bounds : 1 ≤ greatestPerPage := by decide
  simp only [clamp, mk.injEq]
  omega

/-- There are rows behind every page but the last one. -/
theorem lt_lastPage_iff (some : 1 ≤ request.perPage) (first : 1 ≤ number) :
    number < request.lastPage total ↔ number * request.perPage < total := by
  have full : request.perPage ≤ number * request.perPage := Nat.le_mul_of_pos_left _ first
  have next : number + 1 ≤ (total + request.perPage - 1) / request.perPage ↔
      (number + 1) * request.perPage ≤ total + request.perPage - 1 :=
    Nat.le_div_iff_mul_le some
  rw [Nat.succ_mul] at next
  unfold lastPage
  omega

theorem one_le_lastPage : 1 ≤ request.lastPage total := Nat.le_max_left 1 _

/-- The rows up to the end of the last page are all rows that there are. -/
theorem le_lastPage_mul (some : 1 ≤ request.perPage) :
    total ≤ request.lastPage total * request.perPage :=
  Nat.le_of_not_lt fun more => Nat.lt_irrefl _ ((lt_lastPage_iff some one_le_lastPage).2 more)

/-- Up to the last page no offset is too great to be written. -/
theorem offset_eq_of_le_lastPage (some : 1 ≤ request.perPage) (written : total ≤ greatestRow)
    (inside : number ≤ request.lastPage total) :
    offset { request with page := number } = (number - 1) * request.perPage := by
  refine Nat.min_eq_left ?_
  rcases Nat.lt_or_ge 1 number with later | first
  · have before : (number - 1) * request.perPage < total :=
      (lt_lastPage_iff some (by omega)).1 (by omega)
    exact Nat.le_trans (Nat.le_of_lt before) written
  · rw [Nat.sub_eq_zero_of_le first, Nat.zero_mul]
    exact Nat.zero_le _

/-- A row is on the page that its number falls on. -/
theorem shows_iff (some : 1 ≤ request.perPage) (written : total ≤ greatestRow)
    (first : 1 ≤ number) (inside : number ≤ request.lastPage total) :
    Shows { request with page := number } row ↔ row / request.perPage + 1 = number := by
  have offset := offset_eq_of_le_lastPage some written inside
  have last : (number - 1) * request.perPage + request.perPage = number * request.perPage := by
    rw [← Nat.succ_mul, Nat.succ_eq_add_one, Nat.sub_add_cancel first]
  have lower : number - 1 ≤ row / request.perPage ↔ (number - 1) * request.perPage ≤ row :=
    Nat.le_div_iff_mul_le some
  have upper : row / request.perPage < number ↔ row < number * request.perPage :=
    Nat.div_lt_iff_lt_mul some
  unfold Shows
  rw [offset]
  dsimp only
  omega

/-- Every row that there is is on one of the pages up to the last, and on no other. -/
theorem existsUnique_shows (some : 1 ≤ request.perPage) (written : total ≤ greatestRow)
    (present : row < total) :
    ∃! number, (1 ≤ number ∧ number ≤ request.lastPage total) ∧
      Shows { request with page := number } row := by
  have inside : row / request.perPage + 1 ≤ request.lastPage total := by
    refine (Nat.div_lt_iff_lt_mul some).2 ?_
    exact Nat.lt_of_lt_of_le present (le_lastPage_mul some)
  have first : 1 ≤ row / request.perPage + 1 := Nat.le_add_left 1 _
  refine ⟨row / request.perPage + 1,
    ⟨⟨first, inside⟩, (shows_iff some written first inside).2 rfl⟩, ?_⟩
  rintro number ⟨⟨least, greatest⟩, shows⟩
  exact ((shows_iff some written least greatest).1 shows).symm

/-- Behind the last page there are no rows. -/
theorem not_shows (some : 1 ≤ request.perPage) (written : total ≤ greatestRow)
    (beyond : request.lastPage total < number) (present : row < total) :
    ¬Shows { request with page := number } row := by
  rintro ⟨reached, -⟩
  have all : total ≤ (number - 1) * request.perPage :=
    Nat.le_trans (le_lastPage_mul some) (Nat.mul_le_mul_right _ (Nat.le_sub_one_of_lt beyond))
  have past : total ≤ offset { request with page := number } := Nat.le_min.2 ⟨all, written⟩
  omega

end PageRequest

/-- What a page says about the rows that were counted, and the windows of all pages of its size. -/
structure Page.Partitions (page : Page) : Prop where
  more : page.hasMore = true ↔ page.request.page * page.request.perPage < page.total
  one : ∀ row < page.total, ∃! number, (1 ≤ number ∧ number ≤ page.lastPage) ∧
    PageRequest.Shows { page.request with page := number } row
  exact : ∀ number ≤ page.lastPage,
    PageRequest.offset { page.request with page := number } = (number - 1) * page.request.perPage
  beyond : ∀ number, page.lastPage < number → ∀ row < page.total,
    ¬PageRequest.Shows { page.request with page := number } row

/-! ### The query of a page -/

namespace Query

variable {query : Query} {keyword text : String}

/-- Whether a query asks for the rows of another, `count` of them behind the first `skipped`. -/
structure Cuts (query paged : Query) (count skipped : Nat) : Prop where
  connection : paged.connection = query.connection
  params : paged.params = query.params
  limit : (paged.fragments.filter (·.keyword == "limit")).map (·.payload) =
    [some (.text (Nat.repr count))]
  offset : (paged.fragments.filter (·.keyword == "offset")).map (·.payload) =
    [some (.text (Nat.repr skipped))]
  others : paged.fragments.filter (! ["limit", "offset"].contains ·.keyword) =
    query.fragments.filter (! ["limit", "offset"].contains ·.keyword)

/-- Setting a text puts a fragment where the clause stands, or in where it stands nowhere. -/
theorem exists_setText (query : Query) (other : isSelectKeyword keyword = false) (text : String) :
    ∃ front before fragment behind, query.fragments = front ++ (before ++ behind) ∧
      (query.setText keyword text).fragments = front ++ fragment :: behind ∧
      fragment.keyword = keyword ∧ fragment.payload = some (.text text) ∧
      (∀ old ∈ before, old.keyword = keyword) ∧
      (query.fragments.countP (·.keyword == keyword) ≤ 1 →
        (front ++ behind).countP (·.keyword == keyword) = 0) := by
  unfold setText
  cases found : query.clauseIndex? keyword with
  | none =>
      dsimp only
      rw [addText_eq_insert query other]
      obtain ⟨front, behind, split, place⟩ := Splices.exists_split query
      have added := (Splices.insert query (.withText keyword text)).of_split split place
      refine ⟨front, [], _, behind, split, added, rfl, rfl, List.forall_mem_nil _, fun _ => ?_⟩
      rw [← split]
      exact List.countP_eq_zero.2 fun fragment mem => by
        simpa using List.findIdx?_eq_none_iff.1 found fragment mem
  | some place =>
      obtain ⟨front, fragment, behind, split, rfl, own, -⟩ :=
        Gathers.exists_append_of_clauseIndex? found
      let changed := { fragment with payload := some (.text text) }
      refine ⟨front, [fragment], changed, behind, split, ?_, own, rfl,
        List.forall_mem_singleton.2 own, fun single => ?_⟩
      · dsimp only
        rw [split, modify_append_length]
      · rw [split, List.countP_append, List.countP_cons_of_pos (by simpa using own)] at single
        rw [List.countP_append]
        omega

/-- A clause that there is at most once has the text that was set last. -/
theorem payloads_setText (other : isSelectKeyword keyword = false)
    (single : query.fragments.countP (·.keyword == keyword) ≤ 1) (text : String) :
    ((query.setText keyword text).fragments.filter (·.keyword == keyword)).map (·.payload) =
      [some (.text text)] := by
  obtain ⟨front, before, fragment, behind, -, changed, own, payload, -, others⟩ :=
    query.exists_setText other text
  have none := List.countP_eq_zero.1 (others single)
  rw [List.forall_mem_append] at none
  rw [changed, List.filter_append, List.filter_eq_nil_iff.2 none.1,
    List.filter_cons_of_pos (by simpa using own), List.filter_eq_nil_iff.2 none.2, List.nil_append,
    List.map_singleton, payload]

/-- Setting a text leaves other clauses alone. -/
theorem filter_setText (other : isSelectKeyword keyword = false) (text : String)
    {test : Fragment → Bool}
    (apart : ∀ fragment, fragment.keyword = keyword → test fragment = false) :
    (query.setText keyword text).fragments.filter test = query.fragments.filter test := by
  obtain ⟨front, before, fragment, behind, split, changed, own, -, olds, -⟩ :=
    query.exists_setText other text
  have gone : before.filter test = [] :=
    List.filter_eq_nil_iff.2 fun old mem => by simp [apart old (olds old mem)]
  rw [changed, split, List.filter_append, List.filter_append, List.filter_append, gone,
    List.filter_cons_of_neg (by simp [apart fragment own]), List.nil_append]

/-- The query of a page asks for the window of the page. -/
theorem cuts_page (limits : query.fragments.countP (·.keyword == "limit") ≤ 1)
    (offsets : query.fragments.countP (·.keyword == "offset") ≤ 1) (request : PageRequest)
    (workspace : Workspace) :
    query.Cuts (query.page request workspace) request.clamp.perPage
      request.clamp.offset := by
  have copied : (query.clone.run workspace).1.fragments = query.fragments := rfl
  rw [← copied] at limits offsets
  have unlike {word keyword : String} (different : word ≠ keyword) (fragment : Fragment)
      (own : fragment.keyword = word) : (fragment.keyword == keyword) = false := by
    rw [own]
    exact beq_false_of_ne different
  refine ⟨query.connection_page request, ?_, ?_, ?_, ?_⟩
  · rw [params, page, paginate, Query.offset, ledger_setText, Query.limit, ledger_setText]
    rfl
  · rw [page, paginate, request.clamp_clamp, Query.offset,
      filter_setText rfl _ (unlike (by decide))]
    exact payloads_setText rfl limits _
  · rw [page, paginate, request.clamp_clamp]
    refine payloads_setText rfl ?_ _
    rw [List.countP_eq_length_filter, Query.limit, filter_setText rfl _ (unlike (by decide)),
      ← List.countP_eq_length_filter]
    exact offsets
  · have listed {word : String} (mem : word ∈ ["limit", "offset"]) (fragment : Fragment)
        (own : fragment.keyword = word) :
        (! ["limit", "offset"].contains fragment.keyword) = false := by
      rw [own, List.contains_iff_mem.2 mem]
      rfl
    rw [page, paginate, Query.offset, filter_setText rfl _ (listed (by decide)), Query.limit,
      filter_setText rfl _ (listed (by decide)), copied]

end Query

/-! ### Runs that succeed -/

section Succeeds

variable {α β : Type} {executor : Executor} {query : Query} {request : PageRequest}
  {trace trace' : Trace} {workspace workspace' : Workspace}

/-- What succeeds has succeeded in each of its steps. -/
theorem Execution.exists_outcome_of_bind {action : Execution α} {next : α → Execution β}
    {value : β}
    (succeeds : (action >>= next).outcome trace workspace = ((.ok value, trace'), workspace')) :
    ∃ result trace₁ workspace₁,
      action.outcome trace workspace = ((.ok result, trace₁), workspace₁) ∧
      (next result).outcome trace₁ workspace₁ = ((.ok value, trace'), workspace') := by
  rw [outcome_bind] at succeeds
  dsimp only at succeeds
  rcases ran : action.outcome trace workspace with ⟨⟨result, trace₁⟩, workspace₁⟩
  rw [ran] at succeeds
  cases result with
  | error error => cases succeeds
  | ok result => exact ⟨result, trace₁, workspace₁, rfl, succeeds⟩

/-- A number of rows has 63 bits. -/
theorem Scalar.lt_of_toCount {scalar : Scalar} {count : Nat}
    (counted : scalar.toCount = .ok count) : count < 2 ^ 63 := by
  unfold Scalar.toCount at counted
  dsimp only at counted
  split at counted
  case h_1 =>
    cases counted
    decide
  case h_2 =>
    split at counted
    case h_2 => cases counted
    case h_1 number _ =>
      split at counted
      case isFalse => cases counted
      case isTrue =>
        cases counted
        have bound : number.toInt < 2 ^ 63 := number.toInt_lt
        omega

namespace Query

/-- A query that was answered was sent. -/
theorem eq_of_outcome_run {ask : Statement → Except QueryError α} {answer : α}
    (answered : (query.run ask).outcome trace workspace = ((.ok answer, trace'), workspace')) :
    ask query.statement = .ok answer ∧
      trace'.statements = trace.statements ++ [query.statement] ∧ workspace' = workspace := by
  cases faulty : query.ledger.fault with
  | some fault =>
      have refuses : (query.run ask).Refuses workspace := refuses_run faulty
      have refused := (refuses trace).1
      rw [answered] at refused
      obtain ⟨error, refused⟩ := refused
      cases refused
  | none =>
      rw [outcome_run faulty, Prod.mk.injEq, Prod.mk.injEq] at answered
      obtain ⟨⟨answer, rfl⟩, rfl⟩ := answered
      exact ⟨answer, rfl, rfl⟩

/-- A count that was answered was sent. -/
theorem eq_of_outcome_fetchCount {count : Session (Except QueryError Query)} {total : Nat}
    (answered : (fetchCount executor count).outcome trace workspace =
      ((.ok total, trace'), workspace')) :
    ∃ counted, (count.run workspace).1 = .ok counted ∧
      (executor.scalar counted.statement >>= Scalar.toCount) = .ok total ∧
      trace'.statements = trace.statements ++ [counted.statement] ∧
      workspace' = (count.run workspace).2 := by
  rw [fetchCount, outcome_ofSession_bind] at answered
  obtain ⟨counted, trace₁, workspace₁, made, asked⟩ := exists_outcome_of_bind answered
  rw [outcome_ofExcept, Prod.mk.injEq, Prod.mk.injEq] at made
  obtain ⟨⟨made, rfl⟩, rfl⟩ := made
  obtain ⟨scalar, trace₂, workspace₂, run, read⟩ := exists_outcome_of_bind asked
  obtain ⟨scalar_eq, sent, rfl⟩ := eq_of_outcome_run run
  rw [outcome_ofExcept, Prod.mk.injEq, Prod.mk.injEq] at read
  obtain ⟨⟨number, rfl⟩, rfl⟩ := read
  refine ⟨counted, made, ?_, sent, rfl⟩
  rw [scalar_eq]
  exact number

/-- A page that is fetched: the rows are counted, and then those of the page are asked for. -/
theorem eq_of_outcome_fetchPage {page : Page}
    (fetched : (query.fetchPage executor request).outcome trace workspace =
      ((.ok page, trace'), workspace')) :
    ∃ counted, (query.totalCountQuery.run workspace).1 = .ok counted ∧
      (executor.scalar counted.statement >>= Scalar.toCount) = .ok page.total ∧
      page.request = request.clamp ∧ page.lastPage = request.clamp.lastPage page.total ∧
      trace'.statements = trace.statements ++ [counted.statement,
        (query.page request (query.totalCountQuery.run workspace).2).statement] := by
  obtain ⟨total, trace₁, workspace₁, asked, paged⟩ := exists_outcome_of_bind fetched
  obtain ⟨counted, made, answer, sent, rfl⟩ := eq_of_outcome_fetchCount asked
  rw [outcome_ofSession_bind] at paged
  obtain ⟨rows, trace₂, workspace₂, run, built⟩ := exists_outcome_of_bind paged
  obtain ⟨-, last, rfl⟩ := eq_of_outcome_run run
  cases built
  refine ⟨counted, made, answer, rfl, rfl, ?_⟩
  rw [last, sent, List.append_assoc]
  rfl

/-- Pages divide the rows that were counted among them. What is reported is the request within the
bounds, and what is sent asks for its window. -/
theorem fetchPage_partitions (limits : query.fragments.countP (·.keyword == "limit") ≤ 1)
    (offsets : query.fragments.countP (·.keyword == "offset") ≤ 1) {page : Page}
    (fetched : (query.fetchPage executor request).outcome trace workspace =
      ((.ok page, trace'), workspace')) :
    page.request.page = max request.page 1 ∧
    page.request.perPage = max 1 (min request.perPage 1000) ∧ page.total < 2 ^ 63 ∧
    (∃ counted paged : Query,
      trace'.statements = trace.statements ++ [counted.statement, paged.statement] ∧
      (query.totalCountQuery.run workspace).1 = .ok counted ∧
      (executor.scalar counted.statement >>= Scalar.toCount) = .ok page.total ∧
      query.Cuts paged page.request.perPage
        (min ((page.request.page - 1) * page.request.perPage) (2 ^ 64 - 1))) ∧
    page.Partitions := by
  obtain ⟨counted, made, answer, asked, last, sent⟩ := eq_of_outcome_fetchPage fetched
  have bound : page.total < 2 ^ 63 := by
    cases got : executor.scalar counted.statement with
    | error error =>
        rw [got] at answer
        cases answer
    | ok scalar =>
        rw [got] at answer
        exact Scalar.lt_of_toCount answer
  -- Offsets are written up to a bound that no row which was counted is beyond.
  have written : page.total ≤ greatestRow :=
    Nat.le_of_lt (Nat.lt_trans bound (by decide))
  have some : 1 ≤ page.request.perPage := asked ▸ request.one_le_perPage_clamp
  have first : 1 ≤ page.request.page := asked ▸ Nat.le_max_right request.page 1
  rw [← asked] at last
  refine ⟨congrArg PageRequest.page asked, congrArg PageRequest.perPage asked, bound,
    ⟨counted, _, sent, made, answer, ?_⟩, ?_⟩
  · have cuts := cuts_page limits offsets request (query.totalCountQuery.run workspace).2
    rw [← asked] at cuts
    exact cuts
  · constructor
    · rw [Page.hasMore, decide_eq_true_iff, last]
      exact PageRequest.lt_lastPage_iff some first
    · rw [last]
      exact fun row present => PageRequest.existsUnique_shows some written present
    · rw [last]
      exact fun number inside => PageRequest.offset_eq_of_le_lastPage some written inside
    · rw [last]
      exact fun number outside row present => PageRequest.not_shows some written outside present

/-- Of 25 rows the second page of ten has the second ten; the limit that was set before is gone. -/
theorem fetchPage_partitions_second :
    let query : Query := ((Query.table (.ofConfig {}) "a").run {}).1.limit 3
    let executor : Executor :=
      { rows := fun _ => .ok [], scalar := fun _ => .ok (.int 25), affected := fun _ => .ok 0 }
    let page : Page :=
      { items := [], total := 25, request := { page := 2, perPage := 10 }, lastPage := 3 }
    page.hasMore = true ∧ page.Partitions ∧ ∃ counted paged : Query,
      ((query.fetchPage executor { page := 2, perPage := 10 }).outcome {} {}).1.2.statements =
        [counted.statement, paged.statement] ∧ query.Cuts paged 10 10 := by
  intro query executor page
  have fetched : ((query.fetchPage executor { page := 2, perPage := 10 }).outcome {} {}) =
      ((.ok page, _), _) := rfl
  obtain ⟨-, -, -, ⟨counted, paged, sent, -, -, cuts⟩, partitions⟩ :=
    fetchPage_partitions (by decide +kernel) (by decide +kernel) fetched
  exact ⟨rfl, partitions, counted, paged, sent, cuts⟩

end Query

end Succeeds

end SqlBuilder
