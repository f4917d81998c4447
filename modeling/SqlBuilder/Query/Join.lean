import SqlBuilder.Query.Placement

/-!
# Joins

A join goes in front of the clauses that filter, order or limit, whenever it is added. Its
conditions go behind it, and afterwards the cursor is where it was, as seen from the end. A join
whose callback removes more than was added has no number to move the cursor by, and aborts the run.
-/

namespace SqlBuilder

/-- A kind of join. -/
inductive JoinKind where
  | inner
  | left
  | right
  | full
  | cross
  deriving DecidableEq, Repr

/-- The keyword of a join. -/
def JoinKind.keyword : JoinKind → String
  | .inner => "inner join"
  | .left => "left join"
  | .right => "right join"
  | .full => "full outer join"
  | .cross => "cross join"

/-- The clauses that stand behind the joins. -/
def clausesAfterJoins : List String :=
  ["where", "group by", "having", "order by", "limit", "offset", "union", "union all",
    "for update"]

namespace Query

variable (query : Query)

/-- Whether a target is joined already. -/
def isJoined (target : String) : Bool :=
  query.fragments.any fun fragment =>
    "join".toList.isSuffixOf fragment.keyword.toList && fragment.payload == some (.text target)

/-- The first clause that has to stand behind the joins. -/
def joinPoint? : Option Nat :=
  query.fragments.findIdx? (clausesAfterJoins.contains ·.keyword)

/-- Adds a join in its place, with no condition yet. -/
def openJoin (kind : JoinKind) (target : String) : Query :=
  { { query with cursor := query.joinPoint?.or query.cursor }.insert
      (.withText kind.keyword target) with
    onDefined := false }

/-- Whether fragments of `before` are missing: more were removed than added. -/
def lostFragments (before : Query) : Bool :=
  decide (query.fragments.length < before.fragments.length)

theorem lostFragments_eq_false {query before : Query}
    (kept : before.fragments.length ≤ query.fragments.length) :
    query.lostFragments before = false :=
  decide_eq_false (Nat.not_lt.2 kept)

/-- Ends a join that was added to `before`. A cursor behind the join's place is moved by the number
of fragments that were added. -/
def closeJoin (before : Query) : Query :=
  { query with
    onDefined := false
    cursor :=
      match before.cursor, before.joinPoint? with
      | some cursor, some place =>
        if place ≤ cursor then
          some (cursor + (query.fragments.length - before.fragments.length))
        else some cursor
      | cursor, _ => cursor
    currentClause :=
      if before.joinPoint?.isSome then before.currentClause else query.currentClause }

end Query

namespace Edit

/-- Runs a step, and aborts the run if fragments of `before` are missing afterwards. -/
def keeping {α : Type} (before : Query) (body : Edit α) : Edit α := do
  let result ← body
  let inside ← get
  modifyThe Workspace (·.abortIf (inside.lostFragments before))
  return result

/-- Joins a table, with the conditions that `body` adds. A target that is joined already is left
alone, and `body` is not run. The run is aborted if there are fewer fragments afterwards. -/
def join {α : Type} (kind : JoinKind) (table : String) (label : Option String) (body : Edit α) :
    Edit (Option α) := do
  let before ← get
  let target := before.escapeAs table label
  if before.isJoined target then return none
  set (before.openJoin kind target)
  let result ← body.keeping before
  modify (·.closeJoin before)
  return some result

end Edit

end SqlBuilder
