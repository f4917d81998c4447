import SqlBuilder.Proofs.Query.Count
import SqlBuilder.Query.Group
import SqlBuilder.Query.Join

/-!
# What placing fragments leaves alone

Adding, moving and removing fragments changes neither the parameters and the fault of a query nor
its connection and its model. `Rearranges` says so once for all these changes.
-/

namespace SqlBuilder.Query

/-! ### What stays -/

/-- Whether nothing but the fragments changes, and with them the cursor and the current clause. -/
def Rearranges (query changed : Query) : Prop :=
  ∃ fragments cursor currentClause, changed = { query with fragments, cursor, currentClause }

namespace Rearranges

variable {query changed last : Query}

theorem refl (query : Query) : query.Rearranges query :=
  ⟨query.fragments, query.cursor, query.currentClause, rfl⟩

theorem trans (first : query.Rearranges changed) (second : changed.Rearranges last) :
    query.Rearranges last := by
  obtain ⟨_, _, _, rfl⟩ := first
  obtain ⟨_, _, _, rfl⟩ := second
  exact ⟨_, _, _, rfl⟩

theorem ledger (rearranges : query.Rearranges changed) : changed.ledger = query.ledger := by
  obtain ⟨_, _, _, rfl⟩ := rearranges
  rfl

theorem connection (rearranges : query.Rearranges changed) :
    changed.connection = query.connection := by
  obtain ⟨_, _, _, rfl⟩ := rearranges
  rfl

theorem model (rearranges : query.Rearranges changed) : changed.model = query.model := by
  obtain ⟨_, _, _, rfl⟩ := rearranges
  rfl

theorem pending (rearranges : query.Rearranges changed) : changed.pending = query.pending := by
  obtain ⟨_, _, _, rfl⟩ := rearranges
  rfl

theorem onDefined (rearranges : query.Rearranges changed) :
    changed.onDefined = query.onDefined := by
  obtain ⟨_, _, _, rfl⟩ := rearranges
  rfl

theorem insert (query : Query) (fragment : Fragment) :
    query.Rearranges (query.insert fragment) := ⟨_, _, _, rfl⟩

theorem foldl_insert (fragments : List Fragment) (query : Query) :
    query.Rearranges (fragments.foldl Query.insert query) := by
  induction fragments generalizing query with
  | nil => exact refl query
  | cons fragment rest ih => exact (insert query fragment).trans (ih _)

theorem add (query : Query) (fragment : Fragment) : query.Rearranges (query.add fragment) := by
  unfold Query.add
  split
  · split
    · exact ⟨_, query.cursor, _, rfl⟩
    · exact ⟨_, _, _, rfl⟩
    · exact insert query fragment
  · exact insert query fragment

theorem setText (query : Query) (keyword text : String) :
    query.Rearranges (query.setText keyword text) := by
  unfold Query.setText
  split
  · exact ⟨_, query.cursor, query.currentClause, rfl⟩
  · exact add query _

theorem removeClause (query : Query) (keyword : String) :
    query.Rearranges (query.removeClause keyword) := by
  unfold Query.removeClause
  split
  · exact refl query
  · exact ⟨_, _, _, rfl⟩

theorem replaceClause {keyword : String} {change : Fragment → Fragment}
    (replaced : query.replaceClause keyword change = .ok changed) : query.Rearranges changed := by
  unfold Query.replaceClause at replaced
  split at replaced
  · cases replaced
  · cases replaced
    exact ⟨_, query.cursor, query.currentClause, rfl⟩

theorem addCommonTable (query : Query) (isRecursive : Bool) (text : String) :
    query.Rearranges (query.addCommonTable isRecursive text) := by
  unfold Query.addCommonTable
  dsimp only
  split <;> exact ⟨_, _, query.currentClause, rfl⟩

theorem pullKeyword (query : Query) (opening : Nat) :
    query.Rearranges (query.pullKeyword opening) := by
  unfold Query.pullKeyword
  split
  · exact refl query
  · split
    · exact refl query
    · exact ⟨_, query.cursor, query.currentClause, rfl⟩

theorem closeGroup (query : Query) (pull : Bool) (opening count : Nat) :
    query.Rearranges (query.closeGroup pull opening count) := by
  unfold Query.closeGroup
  split
  · exact ⟨_, _, query.currentClause, rfl⟩
  · cases pull with
    | false => exact insert query _
    | true => exact (pullKeyword query opening).trans (insert _ _)

end Rearranges

variable (query : Query)

@[simp] theorem ledger_insert (fragment : Fragment) :
    (query.insert fragment).ledger = query.ledger := rfl

@[simp] theorem connection_insert (fragment : Fragment) :
    (query.insert fragment).connection = query.connection := rfl

@[simp] theorem ledger_add (fragment : Fragment) : (query.add fragment).ledger = query.ledger :=
  (Rearranges.add query fragment).ledger

@[simp] theorem connection_add (fragment : Fragment) :
    (query.add fragment).connection = query.connection :=
  (Rearranges.add query fragment).connection

@[simp] theorem ledger_addText (keyword text : String) :
    (query.addText keyword text).ledger = query.ledger :=
  query.ledger_add _

@[simp] theorem connection_addText (keyword text : String) :
    (query.addText keyword text).connection = query.connection :=
  query.connection_add _

@[simp] theorem ledger_addTerm (keyword term : String) :
    (query.addTerm keyword term).ledger = query.ledger :=
  query.ledger_addText _ _

@[simp] theorem ledger_setText (keyword text : String) :
    (query.setText keyword text).ledger = query.ledger :=
  (Rearranges.setText query keyword text).ledger

@[simp] theorem connection_setText (keyword text : String) :
    (query.setText keyword text).connection = query.connection :=
  (Rearranges.setText query keyword text).connection

@[simp] theorem ledger_selectRaw (sql : String) : (query.selectRaw sql).ledger = query.ledger :=
  query.ledger_add _

@[simp] theorem connection_selectRaw (sql : String) :
    (query.selectRaw sql).connection = query.connection :=
  query.connection_add _

@[simp] theorem ledger_source (table : String) (label : Option String) :
    (query.source table label).ledger = query.ledger :=
  query.ledger_setText _ _

@[simp] theorem ledger_removeClause (keyword : String) :
    (query.removeClause keyword).ledger = query.ledger :=
  (Rearranges.removeClause query keyword).ledger

@[simp] theorem ledger_withoutPaging : query.withoutPaging.ledger = query.ledger := by
  simp [withoutPaging]

@[simp] theorem ledger_addCommonTable (isRecursive : Bool) (text : String) :
    (query.addCommonTable isRecursive text).ledger = query.ledger :=
  (Rearranges.addCommonTable query isRecursive text).ledger

theorem ledger_replaceClause {query changed : Query} {keyword : String}
    {change : Fragment → Fragment} (replaced : query.replaceClause keyword change = .ok changed) :
    changed.ledger = query.ledger :=
  (Rearranges.replaceClause replaced).ledger

theorem connection_replaceClause {query changed : Query} {keyword : String}
    {change : Fragment → Fragment} (replaced : query.replaceClause keyword change = .ok changed) :
    changed.connection = query.connection :=
  (Rearranges.replaceClause replaced).connection

theorem ledger_foldl_insert (fragments : List Fragment) :
    (fragments.foldl insert query).ledger = query.ledger :=
  (Rearranges.foldl_insert fragments query).ledger

theorem connection_foldl_insert (fragments : List Fragment) :
    (fragments.foldl insert query).connection = query.connection :=
  (Rearranges.foldl_insert fragments query).connection

@[simp] theorem connection_removeClause (keyword : String) :
    (query.removeClause keyword).connection = query.connection :=
  (Rearranges.removeClause query keyword).connection

@[simp] theorem connection_withoutPaging : query.withoutPaging.connection = query.connection := by
  simp [withoutPaging]

@[simp] theorem ledger_merge (other : Query) :
    (query.merge other).ledger = query.ledger.adopt other.ledger := by
  simp [merge, ledger_foldl_insert]

@[simp] theorem ledger_union (keepsDuplicates : Bool) (other : Query) :
    (query.union keepsDuplicates other).ledger = query.ledger.adopt other.ledger :=
  ledger_merge _ other

@[simp] theorem ledger_countRowsOf (inner : Query) :
    (query.countRowsOf inner).ledger = query.ledger.adopt inner.ledger := by
  simp [countRowsOf, Ledger.embed]

theorem ledger_countedRows {query copy inner : Query} {keyword : String}
    (counted : query.countedRows keyword copy = .ok inner) : inner.ledger = copy.ledger := by
  unfold countedRows at counted
  split at counted
  · exact (ledger_replaceClause counted).trans copy.ledger_withoutPaging
  · cases counted
    exact copy.ledger_withoutPaging

/-- A count by way of a nested query takes over the parameters and the fault of a copy. -/
theorem ledger_totalCountQuery {query count : Query} {workspace : Workspace}
    (counted : (query.totalCountQuery.run workspace).1 = .ok count) :
    ∃ own inner, count.ledger = Ledger.adopt { params := { namespaceId := own } }
      { query.ledger with params := query.ledger.params.fork inner } := by
  obtain ⟨keyword, inner, -, rows, rfl, -⟩ := exists_of_totalCountQuery counted
  rw [ledger_countRowsOf, ledger_countedRows rows]
  exact ⟨_, _, rfl⟩

/-- A count in place is a copy. -/
theorem ledger_resultCountQuery {query count : Query} {workspace : Workspace}
    (counted : (query.resultCountQuery.run workspace).1 = .ok count) :
    (∃ own, count.ledger = { query.ledger with params := query.ledger.params.fork own }) ∨
      ∃ own inner, count.ledger = Ledger.adopt { params := { namespaceId := own } }
        { query.ledger with params := query.ledger.params.fork inner } := by
  obtain ⟨keyword, -, ⟨-, replaced, -⟩ | ⟨-, same⟩⟩ := exists_of_resultCountQuery counted
  · rw [ledger_replaceClause replaced, ledger_withoutPaging]
    exact .inl ⟨_, rfl⟩
  · rw [same] at counted
    exact .inr (ledger_totalCountQuery counted)

/-! ### Groups and joins -/

theorem ledger_closeGroup (pull : Bool) (opening count : Nat) :
    (query.closeGroup pull opening count).ledger = query.ledger :=
  (Rearranges.closeGroup query pull opening count).ledger

theorem cursor_pullKeyword (opening : Nat) : (query.pullKeyword opening).cursor = query.cursor := by
  unfold pullKeyword
  split
  · rfl
  · split <;> rfl

end SqlBuilder.Query
