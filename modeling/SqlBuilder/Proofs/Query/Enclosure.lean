import Mathlib.Data.List.InsertIdx
import Mathlib.Data.List.Perm.Basic
import SqlBuilder.Proofs.Query.ConditionTree

/-!
# What a group does to what its callback built

A group remembers the place of its opening parenthesis and finds it there when its callback is done,
provided that the callback put nothing in front of it. Then closing the group touches three
fragments: the opening, which may take over the keyword of the fragment behind it, that fragment,
and the closing, which is new.

A common table expression goes in front of the opening. A join does if a clause that has to stand
behind joins is there already, and so does a select list if there is a source but no select list
yet. Where none of this happens, callbacks leave the opening in its place, whatever else they call.
-/

namespace SqlBuilder

/-! ### A group after its callback -/

/-- An opening parenthesis in front of fragments; the first of them may give it its keyword. -/
def Fragment.enclose (pull : Bool) : List Fragment → List Fragment
  | [] => [.token "("]
  | first :: rest =>
    if pull && !(["", "(", ")", ","].contains first.keyword) then
      .withText first.keyword "(" :: { first with keyword := "" } :: rest
    else .token "(" :: first :: rest

/-- Whether a fragment opens a group. -/
def Fragment.opens (fragment : Fragment) : Bool :=
  fragment.keyword == "(" || fragment.payload == some (.text "(")

/-- How many more groups fragments open than they close. -/
def Fragment.balance (fragments : List Fragment) : Int :=
  fragments.countP (·.opens) - fragments.countP (·.keyword == ")")

/--
Whether a group with its opening at `place` leaves alone what its callback ended with. The opening
goes if nothing was added; otherwise it stays, it may have taken over a keyword, and the closing
comes somewhere behind it.
-/
def Query.ClosedAt (pull : Bool) (place : Nat) (query filled closed : Query) : Prop :=
  filled.fragments[place]? = some (.token "(") ∧
    if filled.fragments.length = query.fragments.length + 1 then
      closed.fragments = filled.fragments.eraseIdx place
    else ∃ closing < filled.fragments.length + 1, place < closing ∧
      closed.fragments = (filled.fragments.take place ++
        Fragment.enclose pull (filled.fragments.drop (place + 1))).insertIdx closing (.token ")")

namespace Fragment

theorem enclose_false (behind : List Fragment) : enclose false behind = token "(" :: behind := by
  cases behind <;> rfl

theorem length_enclose (pull : Bool) (behind : List Fragment) :
    (enclose pull behind).length = behind.length + 1 := by
  cases behind with
  | nil => rfl
  | cons first rest =>
      rw [enclose]
      split <;> rfl

theorem balance_append (front behind : List Fragment) :
    balance (front ++ behind) = balance front + balance behind := by
  simp only [balance, List.countP_append]
  omega

theorem balance_perm {fragments others : List Fragment} (perm : fragments.Perm others) :
    balance fragments = balance others := by
  simp only [balance, perm.countP_eq]

theorem balance_insertIdx {fragments : List Fragment} {place : Nat} (fragment : Fragment)
    (inside : place ≤ fragments.length) :
    balance (fragments.insertIdx place fragment) = balance [fragment] + balance fragments :=
  (balance_perm (List.perm_insertIdx fragment fragments inside)).trans
    (balance_append [fragment] fragments)

/-- Pulling a keyword out moves it from one opening or condition to another. -/
theorem balance_enclose (pull : Bool) (behind : List Fragment) :
    balance (enclose pull behind) = balance (token "(" :: behind) := by
  cases behind with
  | nil => rfl
  | cons first rest =>
      rw [enclose]
      split
      case isFalse => rfl
      case isTrue pulled =>
        have word : first.keyword ≠ "(" ∧ first.keyword ≠ ")" := by
          simp at pulled
          exact ⟨pulled.2.2.1, pulled.2.2.2.1⟩
        simp [balance, List.countP_cons, opens, withText, token, word.1, word.2]

end Fragment

/-! ### What stands in front of a group -/

namespace Query

theorem insertionPoint_le (query : Query) : query.insertionPoint ≤ query.fragments.length := by
  unfold insertionPoint
  split
  · split
    · assumption
    · exact Nat.le_refl _
  · exact Nat.le_refl _

theorem insertionPoint_congr {query other : Query} (cursor : other.cursor = query.cursor)
    (length : other.fragments.length = query.fragments.length) :
    other.insertionPoint = query.insertionPoint := by
  unfold insertionPoint
  rw [cursor, length]

theorem length_insert (query : Query) (fragment : Fragment) :
    (query.insert fragment).fragments.length = query.fragments.length + 1 :=
  List.length_insertIdx_of_le_length query.insertionPoint_le fragment

theorem length_pullKeyword (query : Query) (opening : Nat) :
    (query.pullKeyword opening).fragments.length = query.fragments.length := by
  unfold pullKeyword
  split
  · rfl
  · split
    · rfl
    · simp only [List.length_modify]

/-- Pulling a keyword out touches the opening and the fragment behind it. -/
theorem take_pullKeyword (query : Query) {count opening : Nat} (front : count ≤ opening) :
    (query.pullKeyword opening).fragments.take count = query.fragments.take count := by
  have reach : (query.fragments.take count).length ≤ opening := by
    rw [List.length_take]
    omega
  unfold pullKeyword
  split
  · rfl
  · split
    · rfl
    · dsimp only
      rw [List.take_modify, List.take_modify, List.modify_eq_self (Nat.le_succ_of_le reach),
        List.modify_eq_self reach]

theorem eq_append_of_opening {query : Query} {opening : Nat}
    (found : query.fragments[opening]? = some (.token "(")) :
    query.fragments = query.fragments.take opening ++
        .token "(" :: query.fragments.drop (opening + 1) ∧
      (query.fragments.take opening).length = opening := by
  obtain ⟨inside, same⟩ := List.getElem?_eq_some_iff.1 found
  refine ⟨?_, by rw [List.length_take]; omega⟩
  rw [← same, List.getElem_cons_drop, List.take_append_drop]

/-- The keyword behind an opening parenthesis is pulled out in front of it. -/
theorem fragments_pullKeyword {query : Query} {opening : Nat}
    (found : query.fragments[opening]? = some (.token "(")) :
    (query.pullKeyword opening).fragments = query.fragments.take opening ++
      Fragment.enclose true (query.fragments.drop (opening + 1)) := by
  obtain ⟨parts, length⟩ := eq_append_of_opening found
  have next : query.fragments[opening + 1]? = (query.fragments.drop (opening + 1)).head? := by
    rw [List.head?_drop]
  unfold pullKeyword
  rw [next]
  generalize query.fragments.take opening = front at parts length
  generalize query.fragments.drop (opening + 1) = behind at parts
  subst length
  cases behind with
  | nil => exact parts
  | cons first rest =>
      dsimp only [List.head?_cons]
      rw [Fragment.enclose, Bool.true_and]
      cases mark : ["", "(", ")", ","].contains first.keyword with
      | true => exact parts
      | false =>
          change (query.fragments.modify (front.length + 1) _).modify front.length _ = _
          rw [parts, modify_append_length_add front _ 1]
          exact modify_append_length_add front _ 0 _

/-- Whether no join and no select list can come to stand in front of a place. -/
structure Screens (joins selects : Bool) (front : List Fragment) : Prop where
  joins : joins = true → ∀ fragment ∈ front, clausesAfterJoins.contains fragment.keyword = false
  selects : selects = true → (∃ fragment ∈ front, isSelectKeyword fragment.keyword = true) ∨
    ∀ fragment ∈ front, fragment.keyword ≠ "from"

/-- Whether a callback finds its opening parenthesis at a place, and adds behind it. -/
structure Surrounds (joins selects : Bool) (place : Nat) (query : Query) : Prop where
  opening : query.fragments[place]? = some (.token "(")
  cursor : ∀ cursor ∈ query.cursor, place < cursor
  screens : Screens joins selects (query.fragments.take place)

end Query

/-- The fragment as far as calls leave it alone where it stands: they may extend a select list and
set a limit again. -/
def Fragment.settled (fragment : Fragment) : Fragment :=
  if isSelectKeyword fragment.keyword then .token "select"
  else if ["limit", "offset"].contains fragment.keyword then .token fragment.keyword
  else fragment

namespace Fragment

theorem isSelectKeyword_settled (fragment : Fragment) :
    isSelectKeyword fragment.settled.keyword = isSelectKeyword fragment.keyword := by
  unfold settled
  split
  case isTrue isSelect => exact isSelect.symm
  case isFalse => split <;> rfl

theorem settled_keyword {fragment : Fragment} (other : isSelectKeyword fragment.keyword = false) :
    fragment.settled.keyword = fragment.keyword := by
  unfold settled
  rw [other, if_neg Bool.false_ne_true]
  split <;> rfl

theorem eq_opening_of_settled {fragment : Fragment}
    (same : fragment.settled = (token "(").settled) : fragment = token "(" := by
  have opening : (token "(").settled = token "(" := rfl
  rw [opening] at same
  unfold settled at same
  split at same
  · exact absurd (congrArg Fragment.keyword same) (by decide)
  · split at same
    case isTrue word =>
      have keyword : fragment.keyword = "(" := congrArg Fragment.keyword same
      rw [keyword] at word
      cases word
    case isFalse => exact same

/-- The clauses behind joins are told from others in the settled fragment. -/
theorem contains_settled (fragment : Fragment) :
    clausesAfterJoins.contains fragment.settled.keyword =
      clausesAfterJoins.contains fragment.keyword := by
  cases isSelect : isSelectKeyword fragment.keyword with
  | false => rw [settled_keyword isSelect]
  | true =>
      have settled : fragment.settled = token "select" := by
        unfold settled
        rw [isSelect]
        rfl
      have word : fragment.keyword = "select" ∨ fragment.keyword = "select distinct" := by
        simpa [isSelectKeyword] using isSelect
      rw [settled]
      rcases word with word | word <;> rw [word] <;> rfl

theorem settled_keyword_ne_from (fragment : Fragment) :
    fragment.settled.keyword ≠ "from" ↔ fragment.keyword ≠ "from" := by
  cases isSelect : isSelectKeyword fragment.keyword with
  | false => rw [settled_keyword isSelect]
  | true =>
      have same := isSelectKeyword_settled fragment
      rw [isSelect] at same
      constructor
      · rintro - word
        rw [word] at isSelect
        cases isSelect
      · rintro - word
        rw [word] at same
        cases same

theorem settled_mergeSelect {keyword : String} (payload : Option Payload) {fragment : Fragment}
    (incoming : isSelectKeyword keyword = true)
    (present : isSelectKeyword fragment.keyword = true) :
    (Query.mergeSelect keyword payload fragment).settled = fragment.settled := by
  have kept : isSelectKeyword (Query.mergeSelect keyword payload fragment).keyword = true := by
    unfold Query.mergeSelect
    dsimp only
    split
    · exact present
    · exact incoming
  unfold settled
  rw [kept, present]
  rfl

theorem settled_withPayload {keyword : String} (payload : Option Payload) {fragment : Fragment}
    (word : keyword ∈ ["limit", "offset"]) (named : fragment.keyword = keyword) :
    { fragment with payload }.settled = fragment.settled := by
  have counted : ["limit", "offset"].contains fragment.keyword = true := by
    rw [named]
    exact List.contains_iff_mem.2 word
  have other : isSelectKeyword fragment.keyword = false := by
    simp only [List.mem_cons, List.not_mem_nil, or_false] at word
    rw [named]
    rcases word with rfl | rfl <;> rfl
  unfold settled
  dsimp only
  rw [other, counted]
  rfl

end Fragment

namespace Query

variable {joins selects : Bool} {place : Nat} {query changed last : Query}

theorem screens_map_settled {front : List Fragment} :
    Screens joins selects (front.map (·.settled)) ↔ Screens joins selects front := by
  constructor
  · rintro ⟨join, select⟩
    refine ⟨fun allowed fragment mem => ?_, fun allowed => ?_⟩
    · exact (Fragment.contains_settled fragment).symm.trans
        (join allowed fragment.settled (List.mem_map_of_mem mem))
    · simpa [Fragment.isSelectKeyword_settled, Fragment.settled_keyword_ne_from] using
        select allowed
  · rintro ⟨join, select⟩
    refine ⟨fun allowed => ?_, fun allowed => ?_⟩
    · refine List.forall_mem_map.2 fun fragment mem => ?_
      exact (Fragment.contains_settled fragment).trans (join allowed fragment mem)
    · simpa [Fragment.isSelectKeyword_settled, Fragment.settled_keyword_ne_from] using
        select allowed

/-- Whether a change takes place behind the opening parenthesis at a place. -/
structure Expands (place : Nat) (query changed : Query) : Prop where
  front : (changed.fragments.take (place + 1)).map (·.settled) =
    (query.fragments.take (place + 1)).map (·.settled)
  grows : query.fragments.length ≤ changed.fragments.length
  cursor : (∀ cursor ∈ query.cursor, place < cursor) → ∀ cursor ∈ changed.cursor, place < cursor

namespace Expands

theorem refl (query : Query) : query.Expands place query := ⟨rfl, Nat.le_refl _, id⟩

theorem trans (first : query.Expands place changed) (second : changed.Expands place last) :
    query.Expands place last :=
  ⟨second.front.trans first.front, Nat.le_trans first.grows second.grows,
    second.cursor ∘ first.cursor⟩

/-- What is neither fragment nor cursor does not matter. -/
theorem of_eq (fragments : changed.fragments = query.fragments)
    (cursor : changed.cursor = query.cursor) : query.Expands place changed :=
  ⟨by rw [fragments], Nat.le_of_eq (by rw [fragments]), by rw [cursor]; exact id⟩

/-- A fragment comes in behind the opening parenthesis. -/
theorem of_insertIdx {target : Nat} {fragment : Fragment} (behind : place < target)
    (inside : target ≤ query.fragments.length)
    (fragments : changed.fragments = query.fragments.insertIdx target fragment)
    (cursor : (∀ cursor ∈ query.cursor, place < cursor) →
      ∀ cursor ∈ changed.cursor, place < cursor) :
    query.Expands place changed where
  front := by rw [fragments, List.take_insertIdx_eq_take_of_le _ _ _ _ behind]
  grows := by
    rw [fragments, List.length_insertIdx_of_le_length inside]
    omega
  cursor := cursor

end Expands

namespace Surrounds

theorem length (surrounds : query.Surrounds joins selects place) :
    place < query.fragments.length := by
  obtain ⟨inside, -⟩ := List.getElem?_eq_some_iff.1 surrounds.opening
  exact inside

theorem insertionPoint (surrounds : query.Surrounds joins selects place) :
    place < query.insertionPoint := by
  unfold Query.insertionPoint
  split
  case h_1 cursor found =>
    split
    · exact surrounds.cursor cursor found
    · exact surrounds.length
  case h_2 => exact surrounds.length

theorem expands (surrounds : query.Surrounds joins selects place)
    (expanded : query.Expands place changed) : changed.Surrounds joins selects place where
  opening := by
    have same := congrArg (·[place]?) expanded.front
    simp only [List.getElem?_map, List.getElem?_take, Nat.lt_succ_self, if_true,
      surrounds.opening, Option.map_some] at same
    obtain ⟨fragment, found, settled⟩ := Option.map_eq_some_iff.1 same
    rw [found, Fragment.eq_opening_of_settled settled]
  cursor := expanded.cursor surrounds.cursor
  screens := by
    have same := congrArg (·.take place) expanded.front
    simp only [← List.map_take, List.take_take, Nat.min_eq_left (Nat.le_succ place)] at same
    have screens := screens_map_settled.2 surrounds.screens
    exact screens_map_settled.1 (same ▸ screens)

/-- A fragment that is found by a keyword that no fragment in front has stands behind. -/
theorem lt_of_findIdx? (surrounds : query.Surrounds joins selects place) {test : Fragment → Bool}
    (front : ∀ fragment ∈ query.fragments.take place, test fragment = false)
    (opening : test (.token "(") = false) {found : Nat}
    (first : query.fragments.findIdx? test = some found) : place < found := by
  obtain ⟨inside, holds, -⟩ := List.findIdx?_eq_some_iff_getElem.1 first
  rcases Nat.lt_trichotomy found place with before | rfl | behind
  · have mem : query.fragments[found] ∈ query.fragments.take place :=
      List.mem_take_iff_getElem.2 ⟨found, by omega, rfl⟩
    rw [front _ mem] at holds
    cases holds
  · obtain ⟨_, same⟩ := List.getElem?_eq_some_iff.1 surrounds.opening
    rw [same, opening] at holds
    cases holds
  · exact behind

end Surrounds

/-! ### Changes inside a group -/

namespace Expands

theorem insert (surrounds : query.Surrounds joins selects place) (fragment : Fragment) :
    query.Expands place (query.insert fragment) := by
  refine of_insertIdx surrounds.insertionPoint query.insertionPoint_le rfl fun behind => ?_
  intro cursor mem
  obtain ⟨old, known, rfl⟩ := Option.map_eq_some_iff.1 mem
  have := behind old known
  unfold Query.advance
  split <;> omega

/-- A fragment is changed in a way that settles nothing anew. -/
theorem modify {target : Nat} {change : Fragment → Fragment}
    (same : ∀ fragment, query.fragments[target]? = some fragment →
      (change fragment).settled = fragment.settled)
    (fragments : changed.fragments = query.fragments.modify target change)
    (cursor : changed.cursor = query.cursor) : query.Expands place changed where
  front := by
    have whole : changed.fragments.map (·.settled) = query.fragments.map (·.settled) := by
      apply List.ext_getElem?
      intro index
      rw [fragments, List.getElem?_map, List.getElem?_map, List.getElem?_modify]
      split
      case isFalse => simp
      case isTrue here =>
        subst here
        cases found : query.fragments[target]? with
        | none => rfl
        | some fragment => exact congrArg some (same fragment found)
    rw [List.map_take, List.map_take, whole]
  grows := Nat.le_of_eq (by rw [fragments, List.length_modify])
  cursor := by
    rw [cursor]
    exact id

theorem add (surrounds : query.Surrounds joins selects place) {fragment : Fragment}
    (allowed : isSelectKeyword fragment.keyword = true → selects = true) :
    query.Expands place (query.add fragment) := by
  unfold Query.add
  split
  case isFalse => exact insert surrounds fragment
  case isTrue isSelect =>
    split
    case h_1 target _ found =>
      refine modify (fun present known => ?_) rfl rfl
      obtain ⟨inside, holds, -⟩ := List.findIdx?_eq_some_iff_getElem.1 found
      obtain ⟨_, rfl⟩ := List.getElem?_eq_some_iff.1 known
      exact Fragment.settled_mergeSelect fragment.payload isSelect holds
    case h_2 target absent found =>
      -- Without a select list in front there is no source in front either.
      have sourceless : ∀ other ∈ query.fragments.take place,
          (other.keyword == "from") = false := by
        rcases surrounds.screens.selects (allowed isSelect) with ⟨other, mem, holds⟩ | none
        · have := List.findIdx?_eq_none_iff.1 absent other (List.mem_of_mem_take mem)
          rw [holds] at this
          cases this
        · exact fun other mem => beq_eq_false_iff_ne.2 (none other mem)
      have behind := surrounds.lt_of_findIdx? sourceless rfl found
      obtain ⟨inside, -⟩ := List.findIdx?_eq_some_iff_getElem.1 found
      refine of_insertIdx behind (Nat.le_of_lt inside) rfl fun kept => ?_
      intro cursor mem
      obtain ⟨old, known, rfl⟩ := Option.map_eq_some_iff.1 mem
      have := kept old known
      split <;> omega
    case h_3 => exact insert surrounds fragment

theorem addText (surrounds : query.Surrounds joins selects place) {keyword : String}
    (other : isSelectKeyword keyword = false) (text : String) :
    query.Expands place (query.addText keyword text) :=
  add surrounds fun isSelect => absurd (other.symm.trans isSelect) Bool.false_ne_true

theorem addTerm (surrounds : query.Surrounds joins selects place) {keyword : String}
    (other : isSelectKeyword keyword = false) (term : String) :
    query.Expands place (query.addTerm keyword term) := by
  unfold Query.addTerm
  split
  · exact addText surrounds rfl term
  · exact addText surrounds other term

theorem setText (surrounds : query.Surrounds joins selects place) {keyword : String}
    (word : keyword ∈ ["limit", "offset"]) (text : String) :
    query.Expands place (query.setText keyword text) := by
  unfold Query.setText
  split
  case h_1 target found =>
    refine modify (fun present known => ?_) rfl rfl
    obtain ⟨inside, holds, -⟩ := List.findIdx?_eq_some_iff_getElem.1 found
    obtain ⟨_, rfl⟩ := List.getElem?_eq_some_iff.1 known
    exact Fragment.settled_withPayload _ word (beq_iff_eq.1 holds)
  case h_2 =>
    refine addText surrounds ?_ text
    simp only [List.mem_cons, List.not_mem_nil, or_false] at word
    rcases word with rfl | rfl <;> rfl

theorem openJoin (surrounds : query.Surrounds joins selects place) (allowed : joins = true)
    (kind : JoinKind) (target : String) : query.Expands place (query.openJoin kind target) := by
  have moved : query.Expands place { query with cursor := query.joinPoint?.or query.cursor } := by
    refine ⟨rfl, Nat.le_refl _, fun kept cursor mem => ?_⟩
    rcases Option.or_eq_some_iff.1 mem with found | ⟨-, old⟩
    · exact surrounds.lt_of_findIdx? (surrounds.screens.joins allowed) rfl found
    · exact kept cursor old
  exact moved.trans ((insert (surrounds.expands moved) _).trans (of_eq rfl rfl))

theorem closeJoin {inside : Query} (filled : query.Expands place inside) :
    query.Expands place (inside.closeJoin query) where
  front := filled.front
  grows := filled.grows
  cursor := by
    intro kept cursor mem
    have grows := filled.grows
    unfold Query.closeJoin at mem
    dsimp only at mem
    split at mem
    case h_2 => exact kept cursor mem
    case h_1 old target known _ =>
      have := kept old known
      split at mem
      · obtain rfl := Option.some.inj mem
        omega
      · exact kept cursor (known.trans mem)

theorem closeGroup {inside : Query} (pull : Bool) (surrounds : query.Surrounds joins selects place)
    (filled : query.Expands place inside) {opening : Nat} (behind : place < opening)
    (reach : opening ≤ query.fragments.length) :
    query.Expands place (inside.closeGroup pull opening (query.fragments.length + 1)) := by
  unfold Query.closeGroup
  split
  case isTrue count =>
    refine ⟨?_, ?_, fun kept cursor mem => ?_⟩
    · refine Eq.trans ?_ filled.front
      exact congrArg _ (List.take_eraseIdx_eq_take_of_le _ _ _ behind)
    · refine Nat.le_of_eq ?_
      refine Eq.trans ?_ (List.length_eraseIdx_of_lt ?_).symm
      · omega
      · omega
    · obtain ⟨old, known, rfl⟩ := Option.map_eq_some_iff.1 mem
      have := filled.cursor kept old known
      split <;> omega
  case isFalse =>
    have pulled : query.Expands place (if pull then inside.pullKeyword opening else inside) := by
      cases pull with
      | false => exact filled
      | true =>
          refine filled.trans ⟨?_, ?_, ?_⟩
          · rw [if_pos rfl, take_pullKeyword inside behind]
          · exact Nat.le_of_eq (by rw [if_pos rfl, length_pullKeyword])
          · intro known
            rw [if_pos rfl, cursor_pullKeyword]
            exact known
    exact pulled.trans (insert (surrounds.expands pulled) _)

end Expands

end Query

/-! ### Callbacks made of builder calls -/

/--
Callbacks that look at the query, work on other queries, and call the builder: conditions without
hooks, groups, terms of lists and limits; joins and select lists where they are allowed.
-/
inductive Edit.Fills (joins selects : Bool) : {α : Type} → Edit α → Prop
  | pure {α : Type} (value : α) : Fills joins selects (Pure.pure value)
  | bind {α β : Type} {action : Edit α} {next : α → Edit β} : Fills joins selects action →
      (∀ value, Fills joins selects (next value)) → Fills joins selects (action >>= next)
  | look : Fills joins selects (get : Edit Query)
  | session {α : Type} (action : Session α) : Fills joins selects (liftM action : Edit α)
  | compiling {α : Type} (action : Connection → Compile α) :
      Fills joins selects (Edit.compiling action)
  | condition (clause : ConditionClause) (connective : Connective)
      {predicate : Predicate Query CustomExpr} : predicate.HookFree →
      Fills joins selects (Edit.condition clause connective predicate)
  | parenthesis {α : Type} (pull : Bool) {body : Edit α} : Fills joins selects body →
      Fills joins selects (Edit.parenthesis pull body)
  | conditionGroup {α : Type} (connective : Connective) {body : Edit α} :
      Fills joins selects body → Fills joins selects (Edit.conditionGroup connective body)
  | join {α : Type} (kind : JoinKind) (table : String) (label : Option String) {body : Edit α} :
      joins = true → Fills joins selects body →
      Fills joins selects (Edit.join kind table label body)
  | select (distinct : Bool) (columns : List Value) : selects = true →
      Fills joins selects (Edit.select distinct columns)
  | selectAs (column : Value) (label : String) : selects = true →
      Fills joins selects (Edit.selectAs column label)
  | selectRaw (sql : String) : selects = true →
      Fills joins selects (modify (·.selectRaw sql) : Edit PUnit)
  | addTerms (clause : ListClause) (columns : List Value) :
      Fills joins selects (Edit.addTerms clause columns)
  | addOrder (column : Value) (descends : Bool) :
      Fills joins selects (Edit.addOrder column descends)
  | addOrderRaw (sql : String) :
      Fills joins selects (modify (·.addTerm "order by" sql) : Edit PUnit)
  | limit (count : Nat) : Fills joins selects (modify (·.limit count) : Edit PUnit)
  | offset (count : Nat) : Fills joins selects (modify (·.offset count) : Edit PUnit)

namespace Edit

variable {α β : Type} {joins selects : Bool}

/-- Whether a callback leaves the opening parenthesis of its group where it is. -/
def Expands (joins selects : Bool) (action : Edit α) : Prop :=
  ∀ (place : Nat) (query : Query) (workspace : Workspace), query.Surrounds joins selects place →
    query.Expands place ((action.run query).run workspace).1.2

namespace Expands

theorem bind {action : Edit α} {next : α → Edit β} (first : Expands joins selects action)
    (second : ∀ value, Expands joins selects (next value)) :
    Expands joins selects (action >>= next) := fun place query workspace surrounds =>
  have expanded := first place query workspace surrounds
  expanded.trans (second _ place _ _ (surrounds.expands expanded))

theorem modify {change : Query → Query}
    (expands : ∀ place (query : Query), query.Surrounds joins selects place →
      query.Expands place (change query)) :
    Expands joins selects (modify change : Edit PUnit) :=
  fun place query _ surrounds => expands place query surrounds

/-- Compiling touches neither fragments nor cursor. -/
theorem compiling (action : Connection → Compile α) :
    Expands joins selects (Edit.compiling action) :=
  fun _ _ _ _ => .of_eq rfl rfl

theorem resolveAll (operands : List Value) : Expands joins selects (Edit.resolveAll operands) := by
  induction operands with
  | nil => exact fun _ query _ _ => .refl query
  | cons operand rest ih =>
      exact (compiling _).bind fun _ => ih.bind fun _ => fun _ query _ _ => .refl query

theorem condition (clause : ConditionClause) (connective : Connective)
    {predicate : Predicate Query CustomExpr} (hookFree : predicate.HookFree) :
    Expands joins selects (Edit.condition clause connective predicate) := by
  intro place query workspace surrounds
  rw [run_condition hookFree]
  have other : isSelectKeyword (query.nextKeyword clause connective).1 = false := by
    unfold Query.nextKeyword
    dsimp only
    split
    · cases query.pending.getD connective <;> rfl
    · cases clause <;> rfl
  have compiled : query.Expands place { (query.nextKeyword clause connective).2 with
      ledger := ((predicate.compile query.connection).run query.ledger).run workspace |>.1.2 } :=
    .of_eq rfl rfl
  exact compiled.trans (.addText (surrounds.expands compiled) other _)

theorem parenthesis (pull : Bool) {body : Edit α} (filled : Expands joins selects body) :
    Expands joins selects (Edit.parenthesis pull body) := by
  intro place query workspace surrounds
  rw [run_parenthesis]
  have opened := Query.Expands.insert surrounds (.token "(")
  have inside := opened.trans (filled place _ workspace (surrounds.expands opened))
  rw [Query.insertToken, Query.length_insert]
  exact .closeGroup pull surrounds inside surrounds.insertionPoint query.insertionPoint_le

theorem conditionGroup (connective : Connective) {body : Edit α}
    (filled : Expands joins selects body) :
    Expands joins selects (Edit.conditionGroup connective body) := by
  intro place query workspace surrounds
  rw [run_conditionGroup]
  have waiting : query.Expands place { query with
      pending := if connective = .or then some .or else query.pending } := .of_eq rfl rfl
  have opened := waiting.trans (.insert (surrounds.expands waiting) (.token "("))
  have inside := opened.trans (filled place _ workspace (surrounds.expands opened))
  have closed := Query.Expands.closeGroup true surrounds inside surrounds.insertionPoint
    query.insertionPoint_le
  unfold Query.closeConditionGroup
  rw [Query.openGroup, Query.insertToken, Query.length_insert]
  exact closed.trans (.of_eq rfl rfl)

theorem join (kind : JoinKind) (table : String) (label : Option String) {body : Edit α}
    (allowed : joins = true) (filled : Expands joins selects body) :
    Expands joins selects (Edit.join kind table label body) := by
  intro place query workspace surrounds
  rw [run_join]
  dsimp only
  split
  · exact .refl query
  · have opened := Query.Expands.openJoin surrounds allowed kind (query.escapeAs table label)
    exact .closeJoin (opened.trans (filled place _ workspace (surrounds.expands opened)))

theorem select (distinct : Bool) (columns : List Value) (allowed : selects = true) :
    Expands joins selects (Edit.select distinct columns) :=
  ((resolveAll columns).bind fun _ => fun _ query _ _ => .refl query).bind fun _ =>
    modify fun _ _ surrounds => .add surrounds fun _ => allowed

theorem addTerms (clause : ListClause) (columns : List Value) :
    Expands joins selects (Edit.addTerms clause columns) := by
  induction columns with
  | nil => exact fun _ query _ _ => .refl query
  | cons column rest ih =>
      refine (compiling _).bind fun _ => (modify fun _ _ surrounds => ?_).bind fun _ => ih
      exact .addTerm surrounds (by cases clause <;> rfl) _

end Expands

/-- Where nothing can come to stand in front, callbacks leave the opening where it is. -/
theorem Fills.expands {body : Edit α} (fills : body.Fills joins selects) :
    Expands joins selects body := by
  induction fills with
  | pure value => exact fun _ query _ _ => .refl query
  | bind _ _ first second => exact first.bind second
  | look => exact fun _ query _ _ => .refl query
  | session action => exact fun _ query _ _ => .refl query
  | compiling action => exact .compiling action
  | condition clause connective hookFree => exact .condition clause connective hookFree
  | parenthesis pull _ ih => exact .parenthesis pull ih
  | conditionGroup connective _ ih => exact .conditionGroup connective ih
  | join kind table label allowed _ ih => exact .join kind table label allowed ih
  | select distinct columns allowed => exact .select distinct columns allowed
  | selectAs column label allowed =>
      exact (Expands.compiling _).bind fun _ =>
        .modify fun _ _ surrounds => .add surrounds fun _ => allowed
  | selectRaw sql allowed => exact .modify fun _ _ surrounds => .add surrounds fun _ => allowed
  | addTerms clause columns => exact .addTerms clause columns
  | addOrder column descends =>
      exact (Expands.compiling _).bind fun _ =>
        .modify fun _ _ surrounds => .addTerm surrounds rfl _
  | addOrderRaw sql => exact .modify fun _ _ surrounds => .addTerm surrounds rfl _
  | limit count => exact .modify fun _ _ surrounds => .setText surrounds (by simp) _
  | offset count => exact .modify fun _ _ surrounds => .setText surrounds (by simp) _

end Edit

/-! ### Closing a group -/

namespace Query

variable {joins selects : Bool} {place : Nat} {query filled closed : Query}

/-- Behind the opening of a group the callback finds its place. -/
theorem surrounds_insertToken (screens : Screens joins selects
    (query.fragments.take query.insertionPoint)) :
    (query.insertToken "(").Surrounds joins selects query.insertionPoint where
  opening := List.getElem?_insertIdx_self.trans (if_pos query.insertionPoint_le)
  cursor := by
    intro cursor mem
    obtain ⟨old, known, rfl⟩ := Option.map_eq_some_iff.1 mem
    unfold Query.advance Query.insertionPoint
    rw [known]
    dsimp only
    split <;> omega
  screens := by
    rw [insertToken, insert, List.take_insertIdx_eq_take_of_le _ _ _ _ (Nat.le_refl _)]
    exact screens

/-- A group is closed around what its callback left behind its opening. -/
theorem closedAt_closeGroup (pull : Bool) (surrounds : filled.Surrounds joins selects place) :
    ClosedAt pull place query filled
      (filled.closeGroup pull place (query.fragments.length + 1)) := by
  refine ⟨surrounds.opening, ?_⟩
  unfold closeGroup
  split
  case isTrue => rfl
  case isFalse =>
    refine ⟨filled.insertionPoint, Nat.lt_succ_of_le filled.insertionPoint_le,
      surrounds.insertionPoint, ?_⟩
    cases pull with
    | false =>
        rw [Fragment.enclose_false, ← (eq_append_of_opening surrounds.opening).1]
        rfl
    | true =>
        have point : (filled.pullKeyword place).insertionPoint = filled.insertionPoint :=
          insertionPoint_congr (filled.cursor_pullKeyword place) (filled.length_pullKeyword place)
        rw [if_pos rfl, insertToken, insert, point, fragments_pullKeyword surrounds.opening]

/-- Closing a group closes one more than it leaves open. -/
theorem ClosedAt.balance {pull : Bool} (closedAt : ClosedAt pull place query filled closed) :
    Fragment.balance closed.fragments + 1 = Fragment.balance filled.fragments := by
  obtain ⟨opening, outcome⟩ := closedAt
  obtain ⟨parts, length⟩ := eq_append_of_opening opening
  generalize filled.fragments.take place = front at parts length outcome
  generalize filled.fragments.drop (place + 1) = behind at parts outcome
  have ended : Fragment.balance [.token ")"] = -1 := rfl
  have opened : Fragment.balance (.token "(" :: behind) = 1 + Fragment.balance behind :=
    Fragment.balance_append [.token "("] behind
  have before : Fragment.balance filled.fragments =
      Fragment.balance front + (1 + Fragment.balance behind) := by
    rw [parts, Fragment.balance_append, opened]
  -- Without anything inside the opening goes; else the closing comes in behind it.
  split at outcome
  case isTrue =>
    rw [outcome, before, parts, List.eraseIdx_append_of_length_le (Nat.le_of_eq length), length,
      Nat.sub_self, List.eraseIdx_zero, List.tail_cons, Fragment.balance_append]
    omega
  case isFalse =>
    obtain ⟨closing, reach, -, result⟩ := outcome
    have inside : closing ≤ (front ++ Fragment.enclose pull behind).length := by
      rw [parts] at reach
      simp only [List.length_append, List.length_cons, Fragment.length_enclose] at reach ⊢
      omega
    rw [result, Fragment.balance_insertIdx _ inside, ended, Fragment.balance_append,
      Fragment.balance_enclose, ← Fragment.balance_append, ← parts]
    omega

/-- What a group does to a query: it encloses what its callback built, and opens as many groups as
it closes. -/
structure Encloses (pull : Bool) (query opened filled closed : Query) : Prop where
  closedAt : ClosedAt pull query.insertionPoint query filled closed
  balance : Fragment.balance closed.fragments - Fragment.balance query.fragments =
    Fragment.balance filled.fragments - Fragment.balance opened.fragments

theorem encloses_closeGroup {opened : Query} (pull : Bool)
    (fragments : opened.fragments = (query.insertToken "(").fragments)
    (surrounds : filled.Surrounds joins selects query.insertionPoint) :
    Encloses pull query opened filled
      (filled.closeGroup pull query.insertionPoint opened.fragments.length) := by
  have count : opened.fragments.length = query.fragments.length + 1 := by
    rw [fragments, insertToken, length_insert]
  have opens : Fragment.balance opened.fragments = 1 + Fragment.balance query.fragments := by
    rw [fragments]
    exact Fragment.balance_insertIdx _ query.insertionPoint_le
  rw [count]
  have closedAt : ClosedAt pull query.insertionPoint query filled _ :=
    closedAt_closeGroup pull surrounds
  have closes := closedAt.balance
  exact ⟨closedAt, by omega⟩

end Query

namespace Edit

variable {α : Type} {joins selects : Bool}

/--
A group never damages what its callback built, as long as nothing can come to stand in front of its
opening parenthesis: then every fragment stays as the callback left it, in its order, save for the
opening, the keyword behind it, and the closing that is added. This holds of parentheses, with and
without the keyword pulled out, and of groups of conditions, and each opening has one closing.
-/
theorem Fills.encloses {body : Edit α} (fills : body.Fills joins selects) {query : Query}
    (screens : Query.Screens joins selects (query.fragments.take query.insertionPoint))
    (workspace : Workspace) :
    (∀ pull, Query.Encloses pull query (query.insertToken "(")
      ((body.run (query.insertToken "(")).run workspace).1.2
      (((Edit.parenthesis pull body).run query).run workspace).1.2) ∧
    ∀ connective, Query.Encloses true query (query.openGroup connective)
      ((body.run (query.openGroup connective)).run workspace).1.2
      (((Edit.conditionGroup connective body).run query).run workspace).1.2 := by
  have inside := Query.surrounds_insertToken screens
  constructor
  · intro pull
    rw [run_parenthesis]
    have filled := inside.expands (fills.expands _ _ workspace inside)
    exact Query.encloses_closeGroup pull rfl filled
  · intro connective
    rw [run_conditionGroup]
    -- The connective that waits changes no fragment and not the cursor.
    have waiting : (query.openGroup connective).Surrounds joins selects query.insertionPoint :=
      inside.expands (.of_eq rfl rfl)
    have filled := waiting.expands (fills.expands _ _ workspace waiting)
    have enclosed : Query.Encloses true query (query.openGroup connective) _ _ :=
      Query.encloses_closeGroup true rfl filled
    exact ⟨enclosed.closedAt, enclosed.balance⟩

/-- A group in front of which there is no condition keeps the join that its callback makes. -/
theorem Fills.encloses_join :
    let query : Query :=
      { connection := .ofConfig {}, ledger := { params := { namespaceId := 1 } },
        fragments := [{ keyword := "select", payload := some (.items ["*"]) },
          .withText "from" "\"a\""] }
    let onKey : Edit Unit :=
      Edit.condition .join .and (.pair (.column "b.id") (.column "a.id"))
    let body : Edit Unit := do
      let _ ← Edit.join .inner "b" none onKey
      filter (.pair (.column "y") (.scalar (.int 2)))
    body.Fills true false ∧
      Query.Screens true false (query.fragments.take query.insertionPoint) ∧
      Query.Encloses true query (query.openGroup .and)
        ((body.run (query.openGroup .and)).run {}).1.2
        (((Edit.conditionGroup .and body).run query).run {}).1.2 := by
  intro query onKey body
  have hookFree (lhs : String) (rhs : Value) (plain : rhs.custom? = none) :
      (Predicate.pair (.column lhs) rhs : Predicate Query CustomExpr).HookFree := by
    have customs :
        (Predicate.pair (.column lhs) rhs : Predicate Query CustomExpr).customs = [] := by
      rw [Predicate.customs, Predicate.operands, List.filterMap_cons_none rfl,
        List.filterMap_cons_none plain, List.filterMap_nil]
    simp [Predicate.HookFree, customs]
  have fills : body.Fills true false :=
    .bind (.join _ _ _ rfl (.condition _ _ (hookFree _ _ rfl))) fun _ =>
      .condition _ _ (hookFree _ _ rfl)
  have screens : Query.Screens true false (query.fragments.take query.insertionPoint) :=
    ⟨by decide, by simp⟩
  exact ⟨fills, screens, (fills.encloses screens {}).2 .and⟩

/--
A join that is made inside a group reaches in front of the group's opening parenthesis if there is a
condition already. Then the group takes the fragment at the remembered place for its opening: the
condition of the join is lost, and the real opening stays without its keyword.
-/
theorem conditionGroup_damages_join :
    let query : Query :=
      { connection := .ofConfig {},
        ledger := { params := (ParamList.push { namespaceId := 1 } (.int 1)).2 },
        fragments := [{ keyword := "select", payload := some (.items ["*"]) },
          .withText "from" "\"a\"", .withText "where" "\"x\" = :p1_0"] }
    let onKey : Edit Unit :=
      condition .join .and (.pair (.column "b.id") (.column "a.id"))
    let body : Edit Unit := do
      let _ ← join .inner "b" none onKey
      filter (.pair (.column "y") (.scalar (.int 2)))
    let filled := ((body.run (query.openGroup .and)).run {}).1.2
    let closed := (((conditionGroup .and body).run query).run {}).1.2
    .withText "on" "\"b\".\"id\" = \"a\".\"id\"" ∈ filled.fragments ∧
      .withText "on" "\"b\".\"id\" = \"a\".\"id\"" ∉ closed.fragments ∧
      ∀ place < filled.fragments.length, ¬Query.ClosedAt true place query filled closed := by
  intro query onKey body filled closed
  refine ⟨by decide +kernel, by decide +kernel, ?_⟩
  unfold Query.ClosedAt
  decide +kernel

end Edit

end SqlBuilder
