import SqlBuilder.Query.Count

/-!
# Runs of the counts

What the derived queries do to the namespaces, in one equation each: a copy and a new query take one
namespace, and a count by way of a nested query takes two.
-/

namespace SqlBuilder.Query

variable (query : Query)

/-- The query whose rows are counted, made from a copy of the query. -/
def countedRows (keyword : String) (copy : Query) : Except QueryError Query :=
  if keyword == "select" && !query.isCompound then
    copy.withoutPaging.withSelectList (if copy.withoutPaging.hasClause "having" then "*" else "1")
  else .ok copy.withoutPaging

/-- The new query made to count the rows of a nested one. -/
def countRowsOf (inner : Query) : Query :=
  let count := query.selectRaw "count(*)"
  { count with ledger := (count.ledger.embed inner).2 }.addText "from"
    ("(" ++ inner.sql ++ ") as " ++ count.escapePart "__count")

/-- Whether the rows can be counted in place. -/
def countsInPlace (keyword : String) : Bool :=
  keyword == "select" && !query.isCompound && !query.hasClause "group by" &&
    !query.hasClause "having"

theorem run_totalCountQuery (workspace : Workspace) :
    query.totalCountQuery.run workspace =
      match query.selectKeyword with
      | .error error => (.error error, workspace)
      | .ok keyword =>
        let copied := query.clone.run workspace
        match query.countedRows keyword copied.1 with
        | .error error => (.error error, copied.2)
        | .ok inner =>
          let made := query.fresh.run copied.2
          (.ok (made.1.countRowsOf inner), made.2) := by
  unfold totalCountQuery
  cases query.selectKeyword with
  | error error => rfl
  | ok keyword =>
      change StateT.run (match query.countedRows keyword (query.clone.run workspace).1 with
        | .error error => (return .error error : Session (Except QueryError Query))
        | .ok inner => do
          let made ← query.fresh
          return Except.ok (made.countRowsOf inner)) (query.clone.run workspace).2 = _
      dsimp only
      cases query.countedRows keyword (query.clone.run workspace).1 <;> rfl

theorem run_resultCountQuery (workspace : Workspace) :
    query.resultCountQuery.run workspace =
      match query.selectKeyword with
      | .error error => (.error error, workspace)
      | .ok keyword =>
        if query.countsInPlace keyword then
          let copied := query.clone.run workspace
          (copied.1.withoutPaging.withSelectList "count(*)", copied.2)
        else query.totalCountQuery.run workspace := by
  unfold resultCountQuery
  cases query.selectKeyword with
  | error error => rfl
  | ok keyword =>
      change StateT.run (if query.countsInPlace keyword then do
          let copy ← query.clone
          return copy.withoutPaging.withSelectList "count(*)"
        else query.totalCountQuery) workspace = _
      dsimp only
      cases query.countsInPlace keyword <;> rfl

variable {query : Query} {count : Query} {workspace : Workspace}

/-- How a count by way of a nested query was made, if one was. -/
theorem exists_of_totalCountQuery (counted : (query.totalCountQuery.run workspace).1 = .ok count) :
    ∃ keyword inner, query.selectKeyword = .ok keyword ∧
      query.countedRows keyword (query.clone.run workspace).1 = .ok inner ∧
      count = (query.fresh.run (query.clone.run workspace).2).1.countRowsOf inner ∧
      (query.totalCountQuery.run workspace).2 =
        (query.fresh.run (query.clone.run workspace).2).2 := by
  rw [run_totalCountQuery] at counted ⊢
  cases selected : query.selectKeyword with
  | error error =>
      rw [selected] at counted
      cases counted
  | ok keyword =>
      rw [selected] at counted
      dsimp only at counted ⊢
      cases rows : query.countedRows keyword (query.clone.run workspace).1 with
      | error error =>
          rw [rows] at counted
          cases counted
      | ok inner =>
          rw [rows] at counted
          cases counted
          exact ⟨keyword, inner, rfl, rows, rfl, rfl⟩

/-- A count that was made was made in place or by way of a nested query. -/
theorem exists_of_resultCountQuery
    (counted : (query.resultCountQuery.run workspace).1 = .ok count) :
    ∃ keyword, query.selectKeyword = .ok keyword ∧
      (query.countsInPlace keyword = true ∧
          (query.clone.run workspace).1.withoutPaging.withSelectList "count(*)" = .ok count ∧
          (query.resultCountQuery.run workspace).2 = (query.clone.run workspace).2 ∨
        query.countsInPlace keyword = false ∧
          query.resultCountQuery.run workspace = query.totalCountQuery.run workspace) := by
  rw [run_resultCountQuery] at counted ⊢
  cases selected : query.selectKeyword with
  | error error =>
      rw [selected] at counted
      cases counted
  | ok keyword =>
      rw [selected] at counted
      dsimp only at counted ⊢
      cases inPlace : query.countsInPlace keyword with
      | true =>
          rw [inPlace, if_pos rfl] at counted
          exact ⟨keyword, rfl, .inl ⟨inPlace, counted, rfl⟩⟩
      | false => exact ⟨keyword, rfl, .inr ⟨inPlace, rfl⟩⟩

end SqlBuilder.Query
