import SqlBuilder.Proofs.Param.Registry
import SqlBuilder.Proofs.Query.Placement
import SqlBuilder.Proofs.Script.Preservation
import SqlBuilder.Proofs.Twin.Fragment
import SqlBuilder.Query.Mutation

/-!
# Twin queries

Queries of two runs that differ in their parameters and in what is written for them only. Where a
fragment goes depends on keywords, so placing twin fragments in twin queries leaves them twin.

A `Coupling` says what connects the two runs: which connections belong together, how the ledgers of
twin queries differ, and how the second run writes what the first one binds.
-/

namespace SqlBuilder

/-- What connects two runs of a program. -/
structure Coupling extends Writing where
  connections : Connection → Connection → Prop
  ledgers : Ledger → Ledger → Prop
  counters : Nat → Nat → Prop
  /-- The values that may be bound. -/
  values : Scalar → Prop
  /-- Whether both runs are the same. -/
  identical : Prop
  prepared {connection connection' : Connection} : connections connection connection' →
    connection.config.prepared = true
  grammar {connection connection' : Connection} : connections connection connection' →
    connection'.grammar = connection.grammar
  dialect {connection connection' : Connection} : connections connection connection' →
    ∃ dialect : Dialect, connection.grammar = dialect.grammar
  quote {connection connection' : Connection} : connections connection connection' →
    connection'.quote = connection.quote
  made {number number' : Nat} : counters number number' →
    ledgers { params := { namespaceId := number } } { params := { namespaceId := number' } }
  taken {number number' : Nat} : counters number number' → counters (number + 1) (number' + 1)
  bound {connection connection' : Connection} {ledger ledger' : Ledger} (value : Scalar) :
    values value → connections connection connection' → ledgers ledger ledger' →
    (ledger'.bind connection' value).1 = literal ⟨ledger.params.nextName, value⟩ ∧
      ledgers (ledger.bind connection value).2 (ledger'.bind connection' value).2
  adopted {ledger ledger' other other' : Ledger} : ledgers ledger ledger' → ledgers other other' →
    ledgers (ledger.adopt other) (ledger'.adopt other')
  recorded {ledger ledger' : Ledger} (fault : Fault) : ledgers ledger ledger' →
    ledgers (ledger.record fault) (ledger'.record fault)
  forked {ledger ledger' : Ledger} {number number' : Nat} : ledgers ledger ledger' →
    counters number number' →
    ledgers { ledger with params := ledger.params.fork number }
      { ledger' with params := ledger'.params.fork number' }
  alike : identical → (∀ connection connection', connections connection connection' →
      connection' = connection) ∧ (∀ ledger ledger', ledgers ledger ledger' → ledger' = ledger) ∧
    (∀ number number', counters number number' → number' = number) ∧
    ∀ param, literal param = param.placeholder
  /-- Namespaces are counted alike, or it does not matter how they are counted. -/
  counting : identical ∨ ∀ number number', counters number number'

theorem forall₂_insertIdx {α β : Type} {related : α → β → Prop} {xs : List α} {ys : List β}
    (all : List.Forall₂ related xs ys) (place : Nat) {x : α} {y : β} (new : related x y) :
    List.Forall₂ related (xs.insertIdx place x) (ys.insertIdx place y) := by
  induction all generalizing place with
  | nil =>
      cases place with
      | zero => exact .cons new .nil
      | succ place => exact .nil
  | cons first rest ih =>
      cases place with
      | zero => exact .cons new (.cons first rest)
      | succ place => exact .cons first (ih place)

theorem forall₂_modify {α β : Type} {related : α → β → Prop} {xs : List α} {ys : List β}
    (all : List.Forall₂ related xs ys) (place : Nat) {change : α → α} {change' : β → β}
    (changed : ∀ x y, xs[place]? = some x → related x y → related (change x) (change' y)) :
    List.Forall₂ related (xs.modify place change) (ys.modify place change') := by
  induction all generalizing place with
  | nil => simp
  | cons first rest ih =>
      cases place with
      | zero => exact .cons (changed _ _ rfl first) rest
      | succ place => exact .cons first (ih place changed)

theorem forall₂_eraseIdx {α β : Type} {related : α → β → Prop} {xs : List α} {ys : List β}
    (all : List.Forall₂ related xs ys) (place : Nat) :
    List.Forall₂ related (xs.eraseIdx place) (ys.eraseIdx place) := by
  induction all generalizing place with
  | nil => simp
  | cons first rest ih =>
      cases place with
      | zero => exact rest
      | succ place => exact .cons first (ih place)

theorem forall₂_getElem? {α β : Type} {related : α → β → Prop} {xs : List α} {ys : List β}
    (all : List.Forall₂ related xs ys) (place : Nat) :
    (xs[place]? = none ∧ ys[place]? = none) ∨
      ∃ x y, xs[place]? = some x ∧ ys[place]? = some y ∧ related x y := by
  induction all generalizing place with
  | nil => simp
  | cons first rest ih =>
      cases place with
      | zero => exact .inr ⟨_, _, rfl, rfl, first⟩
      | succ place => simpa using ih place

theorem forall₂_any {α β : Type} {related : α → β → Prop} {xs : List α} {ys : List β}
    {test : α → Bool} {test' : β → Bool} (all : List.Forall₂ related xs ys)
    (same : ∀ x y, related x y → test' y = test x) : ys.any test' = xs.any test := by
  induction all with
  | nil => rfl
  | cons first _ ih => simp [same _ _ first, ih]

namespace Writing.FragmentTwins

variable {writing : Writing} {known : List Param} {fragments fragments' : List Fragment}

theorem keywords (twins : writing.FragmentTwins known fragments fragments') :
    fragments'.map (·.keyword) = fragments.map (·.keyword) := by
  induction twins with
  | nil => rfl
  | cons first _ ih => simp [first.keyword, ih]

/-- A look at the keywords finds the same place in both lists. -/
theorem findIdx? (twins : writing.FragmentTwins known fragments fragments') (test : String → Bool) :
    fragments'.findIdx? (test ·.keyword) = fragments.findIdx? (test ·.keyword) := by
  have same := congrArg (List.findIdx? test) twins.keywords
  rw [List.findIdx?_map, List.findIdx?_map] at same
  exact same

theorem any (twins : writing.FragmentTwins known fragments fragments') (test : String → Bool) :
    fragments'.any (test ·.keyword) = fragments.any (test ·.keyword) := by
  have same := congrArg (List.any · test) twins.keywords
  simp only [List.any_map] at same
  exact same

theorem find? (twins : writing.FragmentTwins known fragments fragments') (test : String → Bool) :
    (fragments'.find? (test ·.keyword)).map (·.keyword) =
      (fragments.find? (test ·.keyword)).map (·.keyword) := by
  have same := congrArg (List.find? test) twins.keywords
  rw [List.find?_map, List.find?_map] at same
  exact same

theorem takeWhile_length (twins : writing.FragmentTwins known fragments fragments')
    (test : String → Bool) :
    (fragments'.takeWhile (test ·.keyword)).length =
      (fragments.takeWhile (test ·.keyword)).length := by
  have same := congrArg (fun keywords => (keywords.takeWhile test).length) twins.keywords
  simp only [List.takeWhile_map, List.length_map] at same
  exact same

theorem filter_length (twins : writing.FragmentTwins known fragments fragments')
    (test : String → Bool) :
    (fragments'.filter (test ·.keyword)).length = (fragments.filter (test ·.keyword)).length := by
  have same := congrArg (fun keywords => (keywords.filter test).length) twins.keywords
  simp only [List.filter_map, List.length_map] at same
  exact same

end Writing.FragmentTwins

namespace Writing.FragmentTwin

variable {writing : Writing} {known : List Param}

theorem withText {keyword text text' : String} (verbatim : writing.Verbatim keyword)
    (twin : writing.Text known text text')
    (listed : isSelectKeyword keyword = true → text' = text) :
    writing.FragmentTwin known (.withText keyword text) (.withText keyword text') :=
  ⟨rfl, verbatim, rfl, rfl, .text twin, fun select => by simp [Fragment.withText, listed select]⟩

theorem items {keyword : String} (verbatim : writing.Verbatim keyword) {items items' : List String}
    (twins : List.Forall₂ (writing.Text known) items items')
    (listed : isSelectKeyword keyword = true → items' = items) :
    writing.FragmentTwin known { keyword, payload := some (.items items) }
      { keyword, payload := some (.items items') } :=
  ⟨rfl, verbatim, rfl, rfl, .items twins, fun select => by simp [listed select]⟩

theorem token {keyword : String} (verbatim : writing.Verbatim keyword) :
    writing.FragmentTwin known (.token keyword) (.token keyword) :=
  ⟨rfl, verbatim, rfl, rfl, .none, fun _ => rfl⟩

end Writing.FragmentTwin

/-- Queries that differ in what is written for the known parameters only, their ledgers apart. -/
structure Query.Twin (coupling : Coupling) (known : List Param) (query query' : Query) : Prop where
  connection : coupling.connections query.connection query'.connection
  fragments : coupling.FragmentTwins known query.fragments query'.fragments
  currentClause : query'.currentClause = query.currentClause
  onDefined : query'.onDefined = query.onDefined
  cursor : query'.cursor = query.cursor
  pending : query'.pending = query.pending
  model : query'.model = query.model

namespace Query.Twin

variable {coupling : Coupling} {known known' : List Param} {query query' other other' : Query}
  {fragment fragment' : Fragment}

theorem mono (twin : Twin coupling known query query') (grown : known ⊆ known') :
    Twin coupling known' query query' :=
  { twin with fragments := twin.fragments.mono grown }

/-! ### What both queries agree on -/

theorem hasClause (twin : Twin coupling known query query') (keyword : String) :
    query'.hasClause keyword = query.hasClause keyword :=
  twin.fragments.any (· == keyword)

theorem clauseIndex? (twin : Twin coupling known query query') (keyword : String) :
    query'.clauseIndex? keyword = query.clauseIndex? keyword :=
  twin.fragments.findIdx? (· == keyword)

theorem selectIndex? (twin : Twin coupling known query query') :
    query'.selectIndex? = query.selectIndex? :=
  twin.fragments.findIdx? isSelectKeyword

theorem joinPoint? (twin : Twin coupling known query query') :
    query'.joinPoint? = query.joinPoint? :=
  twin.fragments.findIdx? (clausesAfterJoins.contains ·)

theorem length (twin : Twin coupling known query query') :
    query'.fragments.length = query.fragments.length :=
  twin.fragments.length_eq.symm

theorem insertionPoint (twin : Twin coupling known query query') :
    query'.insertionPoint = query.insertionPoint := by
  simp [Query.insertionPoint, twin.cursor, twin.length]

theorem lastClause (twin : Twin coupling known query query') :
    query'.lastClause = query.lastClause := by
  have reversed : coupling.FragmentTwins known query.fragments.reverse query'.fragments.reverse :=
    List.forall₂_reverse_iff.2 twin.fragments
  exact reversed.find? (1 < ·.utf8ByteSize)

theorem selectKeyword (twin : Twin coupling known query query') :
    query'.selectKeyword = query.selectKeyword := by
  have same := twin.fragments.find? isSelectKeyword
  unfold Query.selectKeyword
  revert same
  cases query.fragments.find? (isSelectKeyword ·.keyword) <;>
    cases query'.fragments.find? (isSelectKeyword ·.keyword) <;> simp +contextual

theorem isCompound (twin : Twin coupling known query query') :
    query'.isCompound = query.isCompound := by
  simp [Query.isCompound, twin.hasClause, twin.fragments.filter_length isSelectKeyword]

theorem escape (twin : Twin coupling known query query') (name : String) :
    query'.escape name = query.escape name := by
  simp [Query.escape, coupling.grammar twin.connection]

theorem escapePart (twin : Twin coupling known query query') (name : String) :
    query'.escapePart name = query.escapePart name := by
  simp [Query.escapePart, coupling.grammar twin.connection]

theorem escapeAs (twin : Twin coupling known query query') (name : String) (label : Option String) :
    query'.escapeAs name label = query.escapeAs name label := by
  cases label <;> simp [Query.escapeAs, twin.escape, twin.escapePart]

/-! ### Placing fragments -/

theorem insert (twin : Twin coupling known query query')
    (new : coupling.FragmentTwin known fragment fragment') :
    Twin coupling known (query.insert fragment) (query'.insert fragment') where
  connection := twin.connection
  fragments := by
    simp only [Query.insert, twin.insertionPoint]
    exact forall₂_insertIdx twin.fragments _ new
  currentClause := by simp [Query.insert, clauseAfter, new.keyword, twin.currentClause]
  onDefined := twin.onDefined
  cursor := by
    have advance : query'.advance = query.advance := by
      funext place
      simp [Query.advance, twin.length]
    simp [Query.insert, twin.cursor, advance]
  pending := twin.pending
  model := twin.model

/-- Merging adds no items of its own. -/
theorem mem_mergeItems {present incoming : List String} {item : String}
    (mem : item ∈ mergeItems present incoming) : item ∈ present ∨ item ∈ incoming := by
  have folded : ∀ (incoming items : List String), item ∈ incoming.foldl
      (fun items item => if items.contains item then items else items ++ [item]) items →
      item ∈ items ∨ item ∈ incoming := by
    intro incoming
    induction incoming with
    | nil => exact fun _ mem => .inl mem
    | cons first rest ih =>
        intro items mem
        rcases ih _ mem with mem | mem
        · dsimp only at mem
          split at mem
          · exact .inl mem
          · rcases List.mem_append.1 mem with mem | mem
            · exact .inl mem
            · exact .inr (by simp [List.mem_singleton.1 mem])
        · exact .inr (by simp [mem])
  rcases folded incoming _ mem with mem | mem
  · split at mem
    · simp at mem
    · exact .inl mem
  · exact .inr mem

theorem items_text {payload : Option Payload} {known : List Param}
    (twin : coupling.PayloadTwin known payload payload) :
    ∀ item ∈ (payload.map (·.toItems)).getD [], coupling.Text known item item := by
  cases payload with
  | none => simp
  | some payload =>
      cases payload with
      | text value =>
          cases twin with
          | text twin => simpa [Payload.toItems] using twin
      | items values =>
          cases twin with
          | items twins => simpa [Payload.toItems] using List.forall₂_same.1 twins

theorem mergeSelect (listed : isSelectKeyword fragment.keyword = true)
    {keyword : String} (select : isSelectKeyword keyword = true) {payload : Option Payload}
    (payload_twin : coupling.PayloadTwin known payload payload)
    (twin : coupling.FragmentTwin known fragment fragment') :
    coupling.FragmentTwin known (Query.mergeSelect keyword payload fragment)
      (Query.mergeSelect keyword payload fragment') := by
  have same := twin.listed listed
  have present := twin.payload
  rw [same] at present
  have verbatim : coupling.Verbatim keyword := by
    simp only [isSelectKeyword, Bool.or_eq_true, beq_iff_eq] at select
    rcases select with rfl | rfl <;> exact Writing.verbatim_of_all (by decide)
  refine ⟨?_, ?_, twin.separator, twin.separator', ?_, fun _ => ?_⟩
  · simp [Query.mergeSelect, twin.keyword]
  · unfold Query.mergeSelect
    dsimp only
    split
    · exact twin.verbatim
    · exact verbatim
  · unfold Query.mergeSelect
    dsimp only
    rw [same]
    split
    · exact present
    · refine .items (List.forall₂_same.2 ?_)
      intro item mem
      rcases mem_mergeItems mem with mem | mem
      · exact items_text present item mem
      · exact items_text payload_twin item mem
  · simp [Query.mergeSelect, same]

theorem add (twin : Twin coupling known query query')
    (new : coupling.FragmentTwin known fragment fragment') :
    Twin coupling known (query.add fragment) (query'.add fragment') := by
  unfold Query.add
  rw [new.keyword]
  split
  · rename_i select
    have payload := new.listed select
    have incoming := new.payload
    rw [payload] at incoming
    rw [twin.selectIndex?, twin.clauseIndex? "from", payload]
    split
    · rename_i place found
      refine { twin with fragments := ?_, currentClause := rfl }
      refine forall₂_modify twin.fragments place fun present present' at_place related => ?_
      obtain ⟨inside, listed, -⟩ := List.findIdx?_eq_some_iff_getElem.1 found
      obtain rfl : query.fragments[place] = present := by simpa [inside] using at_place
      exact mergeSelect listed select incoming related
    · rename_i place _ _
      refine { twin with fragments := ?_, currentClause := rfl, cursor := by simp [twin.cursor] }
      exact forall₂_insertIdx twin.fragments place new
    · exact twin.insert new
  · exact twin.insert new

theorem addText (twin : Twin coupling known query query') {keyword text text' : String}
    (verbatim : coupling.Verbatim keyword) (written : coupling.Text known text text')
    (listed : isSelectKeyword keyword = true → text' = text) :
    Twin coupling known (query.addText keyword text) (query'.addText keyword text') :=
  twin.add (.withText verbatim written listed)

theorem insertToken (twin : Twin coupling known query query') {keyword : String}
    (verbatim : coupling.Verbatim keyword) :
    Twin coupling known (query.insertToken keyword) (query'.insertToken keyword) :=
  twin.insert (.token verbatim)

theorem addTerm (twin : Twin coupling known query query') {keyword term term' : String}
    (verbatim : coupling.Verbatim keyword) (written : coupling.Text known term term')
    (notSelect : isSelectKeyword keyword = false) :
    Twin coupling known (query.addTerm keyword term) (query'.addTerm keyword term') := by
  unfold Query.addTerm
  rw [twin.hasClause]
  split
  · exact twin.addText (Writing.verbatim_of_all (by decide)) written (by simp [isSelectKeyword])
  · exact twin.addText verbatim written (by simp [notSelect])

theorem setText (twin : Twin coupling known query query') {keyword text text' : String}
    (verbatim : coupling.Verbatim keyword) (written : coupling.Text known text text')
    (notSelect : isSelectKeyword keyword = false) :
    Twin coupling known (query.setText keyword text) (query'.setText keyword text') := by
  unfold Query.setText
  rw [twin.clauseIndex?]
  split
  · rename_i place found
    refine { twin with fragments := ?_ }
    refine forall₂_modify twin.fragments place fun present present' at_place related => ?_
    obtain ⟨inside, named, -⟩ := List.findIdx?_eq_some_iff_getElem.1 found
    obtain rfl : query.fragments[place] = present := by simpa [inside] using at_place
    have keyword_eq : query.fragments[place].keyword = keyword := by simpa using named
    exact ⟨related.keyword, related.verbatim, related.separator, related.separator',
      .text written, by simp [keyword_eq, notSelect]⟩
  · exact twin.addText verbatim written (by simp [notSelect])

theorem selectRaw (twin : Twin coupling known query query') {sql : String}
    (written : coupling.Text known sql sql) :
    Twin coupling known (query.selectRaw sql) (query'.selectRaw sql) :=
  twin.add (.items (Writing.verbatim_of_all (by decide)) (.cons written .nil) fun _ => rfl)

theorem removeClause (twin : Twin coupling known query query') (keyword : String) :
    Twin coupling known (query.removeClause keyword) (query'.removeClause keyword) := by
  unfold Query.removeClause
  rw [twin.clauseIndex?]
  split
  · exact twin
  · rename_i place _
    have behind : coupling.FragmentTwins known (query.fragments.drop (place + 1))
        (query'.fragments.drop (place + 1)) := List.forall₂_drop _ twin.fragments
    have removed : ((query'.fragments.drop (place + 1)).takeWhile (·.isContinuation)).length =
        ((query.fragments.drop (place + 1)).takeWhile (·.isContinuation)).length :=
      behind.takeWhile_length fun keyword => keyword == "" || keyword == ","
    dsimp only
    rw [removed, twin.cursor]
    have rest : Twin coupling known
        { query with
          fragments := query.fragments.take place ++ query.fragments.drop (place +
            (1 + ((query.fragments.drop (place + 1)).takeWhile (·.isContinuation)).length))
          cursor := query.cursor.map fun cursor => if place < cursor then
            max (cursor - (1 + ((query.fragments.drop (place + 1)).takeWhile
              (·.isContinuation)).length)) place else cursor }
        { query' with
          fragments := query'.fragments.take place ++ query'.fragments.drop (place +
            (1 + ((query.fragments.drop (place + 1)).takeWhile (·.isContinuation)).length))
          cursor := query.cursor.map fun cursor => if place < cursor then
            max (cursor - (1 + ((query.fragments.drop (place + 1)).takeWhile
              (·.isContinuation)).length)) place else cursor } :=
      { twin with
        fragments := List.rel_append (List.forall₂_take _ twin.fragments)
          (List.forall₂_drop _ twin.fragments)
        cursor := rfl }
    exact { rest with currentClause := rest.lastClause }

theorem withoutPaging (twin : Twin coupling known query query') :
    Twin coupling known query.withoutPaging query'.withoutPaging :=
  ((twin.removeClause "limit").removeClause "order by").removeClause "offset"

/-- Replacing the select list fails for both queries or for none. -/
theorem withSelectList (twin : Twin coupling known query query') {item : String}
    (verbatim : coupling.Verbatim item) :
    (∃ changed changed', query.withSelectList item = .ok changed ∧
      query'.withSelectList item = .ok changed' ∧ Twin coupling known changed changed') ∨
    ∃ error, query.withSelectList item = .error error ∧
      query'.withSelectList item = .error error := by
  unfold Query.withSelectList Query.replaceClause
  rw [twin.clauseIndex?]
  cases query.clauseIndex? "select" with
  | none => exact .inr ⟨_, rfl, rfl⟩
  | some place =>
      refine .inl ⟨_, _, rfl, rfl, { twin with fragments := ?_ }⟩
      refine forall₂_modify twin.fragments place fun present present' _ related => ?_
      exact ⟨related.keyword, related.verbatim, rfl, rfl,
        .items (.cons (.verbatim verbatim) .nil), fun _ => rfl⟩

theorem foldl_insert {fragments fragments' : List Fragment}
    (new : coupling.FragmentTwins known fragments fragments')
    (twin : Twin coupling known query query') :
    Twin coupling known (fragments.foldl Query.insert query)
      (fragments'.foldl Query.insert query') := by
  induction new generalizing query query' with
  | nil => exact twin
  | cons first _ ih => exact ih (twin.insert first)

theorem merge (twin : Twin coupling known query query') (twin' : Twin coupling known other other') :
    Twin coupling known (query.merge other) (query'.merge other') := by
  have joined := foldl_insert twin'.fragments twin
  exact { joined with }

theorem union (twin : Twin coupling known query query') (twin' : Twin coupling known other other')
    (keepsDuplicates : Bool) :
    Twin coupling known (query.union keepsDuplicates other)
      (query'.union keepsDuplicates other') := by
  refine merge (twin.insertToken ?_) twin'
  cases keepsDuplicates <;> exact Writing.verbatim_of_all (by decide)

/-! ### Groups, joins and common table expressions -/

theorem nextKeyword_eq (twin : Twin coupling known query query') (clause : ConditionClause)
    (connective : Connective) :
    (query'.nextKeyword clause connective).1 = (query.nextKeyword clause connective).1 := by
  have condition : query'.hasCondition clause = query.hasCondition clause := by
    cases clause with
    | filter => exact twin.hasClause _
    | groupFilter => exact twin.hasClause _
    | join => exact twin.onDefined
  simp [Query.nextKeyword, condition, twin.pending]

theorem nextKeyword (twin : Twin coupling known query query') (clause : ConditionClause)
    (connective : Connective) :
    Twin coupling known (query.nextKeyword clause connective).2
      (query'.nextKeyword clause connective).2 :=
  { twin with pending := rfl, onDefined := by simp [Query.nextKeyword, twin.onDefined] }

theorem dropOpening (twin : Twin coupling known query query') (opening : Nat) :
    Twin coupling known (query.dropOpening opening) (query'.dropOpening opening) :=
  { twin with
    fragments := forall₂_eraseIdx twin.fragments opening
    cursor := by simp [Query.dropOpening, twin.cursor] }

theorem pullKeyword (twin : Twin coupling known query query') (opening : Nat) :
    Twin coupling known (query.pullKeyword opening) (query'.pullKeyword opening) := by
  unfold Query.pullKeyword
  rcases forall₂_getElem? twin.fragments (opening + 1) with
    ⟨absent, absent'⟩ | ⟨first, first', found, found', related⟩
  · rw [absent, absent']
    exact twin
  · rw [found, found']
    dsimp only
    rw [related.keyword]
    split
    · exact twin
    · refine { twin with fragments := ?_ }
      refine forall₂_modify (forall₂_modify twin.fragments (opening + 1) ?_) opening ?_
      · intro inner inner' _ inside
        have empty : coupling.Verbatim "" := Writing.verbatim_of_all (by decide)
        exact ⟨rfl, empty, inside.separator, inside.separator', inside.payload,
          by simp [isSelectKeyword]⟩
      · intro outer outer' _ outside
        exact ⟨rfl, related.verbatim, outside.separator, outside.separator',
          .text (.verbatim (Writing.verbatim_of_all (by decide))), fun _ => rfl⟩

theorem closeGroup (twin : Twin coupling known query query') (pull : Bool) (opening count : Nat) :
    Twin coupling known (query.closeGroup pull opening count)
      (query'.closeGroup pull opening count) := by
  unfold Query.closeGroup
  rw [twin.length]
  split
  · exact twin.dropOpening opening
  · have mark : coupling.Verbatim ")" := Writing.verbatim_of_all (by decide)
    cases pull with
    | true => exact (twin.pullKeyword opening).insertToken mark
    | false => exact twin.insertToken mark

theorem openGroup (twin : Twin coupling known query query') (connective : Connective) :
    Twin coupling known (query.openGroup connective) (query'.openGroup connective) := by
  have pending : Twin coupling known
      { query with
        pending := if connective = Connective.or then some Connective.or else query.pending }
      { query' with
        pending := if connective = Connective.or then some Connective.or else query'.pending } :=
    { twin with pending := by simp [twin.pending] }
  exact pending.insertToken (Writing.verbatim_of_all (by decide))

theorem closeConditionGroup (twin : Twin coupling known query query')
    (inside : Twin coupling known' other other') (connective : Connective) :
    Twin coupling known' (query.closeConditionGroup other connective)
      (query'.closeConditionGroup other' connective) := by
  have closed := inside.closeGroup true query.insertionPoint
    (query.openGroup connective).fragments.length
  unfold Query.closeConditionGroup
  rw [twin.insertionPoint, (twin.openGroup connective).length]
  exact { closed with pending := by simp [closed.length, twin.length, twin.pending] }

/-- A target that is joined already is joined in both queries: values are not taken for names. -/
theorem isJoined (twin : Twin coupling known query query') {target : String}
    (isPlain : Writing.Plain target.toList) : query'.isJoined target = query.isJoined target := by
  refine forall₂_any twin.fragments fun fragment fragment' related => ?_
  have payload := related.payload
  rw [related.keyword]
  congr 1
  revert payload
  generalize fragment.payload = first
  generalize fragment'.payload = second
  intro payload
  cases payload with
  | none => rfl
  | text written =>
      rw [Bool.eq_iff_iff]
      simpa using (written.eq_plain_iff isPlain).symm
  | items _ => rfl

theorem verbatim_joinKind (kind : JoinKind) : coupling.Verbatim kind.keyword := by
  cases kind <;> exact Writing.verbatim_of_all (by decide)

theorem openJoin (twin : Twin coupling known query query') (kind : JoinKind) {target : String}
    (isPlain : Writing.Plain target.toList) :
    Twin coupling known (query.openJoin kind target) (query'.openJoin kind target) := by
  have moved : Twin coupling known { query with cursor := query.joinPoint?.or query.cursor }
      { query' with cursor := query'.joinPoint?.or query'.cursor } :=
    { twin with cursor := by simp [twin.joinPoint?, twin.cursor] }
  have notSelect : isSelectKeyword kind.keyword = false := by cases kind <;> decide
  have joined := moved.insert
    (.withText (verbatim_joinKind kind) (.plain isPlain) (by simp [notSelect]))
  exact { joined with onDefined := rfl }

theorem closeJoin (twin : Twin coupling known query query')
    (inside : Twin coupling known' other other') :
    Twin coupling known' (other.closeJoin query) (other'.closeJoin query') :=
  { inside with
    onDefined := rfl
    cursor := by
      simp only [Query.closeJoin, twin.cursor, twin.joinPoint?, twin.length, inside.length]
    currentClause := by
      simp only [Query.closeJoin, twin.joinPoint?, twin.currentClause, inside.currentClause] }

theorem insertAt (twin : Twin coupling known query query') (place : Nat)
    (new : coupling.FragmentTwin known fragment fragment') :
    Twin coupling known (query.insertAt place fragment) (query'.insertAt place fragment') :=
  { twin with
    fragments := forall₂_insertIdx twin.fragments place new
    cursor := by simp [Query.insertAt, Query.shiftCursor, twin.cursor] }

theorem addCommonTable (twin : Twin coupling known query query') (isRecursive : Bool)
    {text text' : String} (written : coupling.Text known text text') :
    Twin coupling known (query.addCommonTable isRecursive text)
      (query'.addCommonTable isRecursive text') := by
  have verbatim : coupling.Verbatim (if isRecursive then "with recursive" else "with") := by
    cases isRecursive <;> exact Writing.verbatim_of_all (by decide)
  have notSelect : isSelectKeyword (if isRecursive then "with recursive" else "with") = false := by
    cases isRecursive <;> decide
  have start := twin.fragments.findIdx? fun keyword =>
    keyword == "with" || keyword == "with recursive"
  unfold Query.addCommonTable
  dsimp only at start ⊢
  rw [start]
  split
  · rename_i place _
    have behind : coupling.FragmentTwins known (query.fragments.drop (place + 1))
        (query'.fragments.drop (place + 1)) := List.forall₂_drop _ twin.fragments
    rw [behind.takeWhile_length (· == ",")]
    have term : coupling.FragmentTwin known (.withText "," text) (.withText "," text') :=
      .withText (Writing.verbatim_of_all (by decide)) written (by simp [isSelectKeyword])
    cases isRecursive with
    | false => exact twin.insertAt _ term
    | true =>
        have marked : Twin coupling known
            { query with fragments := query.fragments.modify place fun fragment =>
                { fragment with keyword := "with recursive" } }
            { query' with fragments := query'.fragments.modify place fun fragment =>
                { fragment with keyword := "with recursive" } } := by
          refine { twin with fragments := ?_ }
          refine forall₂_modify twin.fragments place fun present present' _ related => ?_
          exact ⟨rfl, verbatim, related.separator, related.separator', related.payload,
            by simp [isSelectKeyword]⟩
        exact marked.insertAt _ term
  · exact twin.insertAt 0 (.withText verbatim written (by simp [notSelect]))

end Query.Twin

end SqlBuilder
