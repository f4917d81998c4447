import SqlBuilder.Query.Placement

/-!
# Groups

Parentheses around what a callback adds. The keyword of the first fragment inside is pulled out in
front of the opening parenthesis, and a group to which nothing was added leaves nothing behind.
-/

namespace SqlBuilder

namespace Query

variable (query : Query)

/-- Pulls the keyword of the fragment behind an opening parenthesis out in front of it. -/
def pullKeyword (opening : Nat) : Query :=
  match query.fragments[opening + 1]? with
  | none => query
  | some first =>
    if ["", "(", ")", ","].contains first.keyword then query
    else
      { query with
        fragments := (query.fragments.modify (opening + 1) fun fragment =>
            { fragment with keyword := "" }).modify opening fun fragment =>
          { fragment with keyword := first.keyword, payload := some (.text "(") } }

/-- Removes an opening parenthesis behind which nothing was added. -/
def dropOpening (opening : Nat) : Query :=
  { query with
    fragments := query.fragments.eraseIdx opening
    cursor := query.cursor.map fun cursor => if opening < cursor then cursor - 1 else cursor }

/-- Ends a group that was opened when the query had `count` fragments, the opening included. -/
def closeGroup (pull : Bool) (opening count : Nat) : Query :=
  if query.fragments.length = count then query.dropOpening opening
  else (if pull then query.pullKeyword opening else query).insertToken ")"

end Query

namespace Edit

variable {α : Type}

/-- Puts parentheses around what `body` adds. -/
def parenthesis (pull : Bool) (body : Edit α) : Edit α := do
  let opening := (← get).insertionPoint
  modify (·.insertToken "(")
  let count := (← get).fragments.length
  let result ← body
  modify (·.closeGroup pull opening count)
  return result

/--
Puts parentheses around the conditions that `body` adds. The first of them takes the connective of
the group; an empty group leaves it to what comes next.
-/
def conditionGroup (connective : Connective) (body : Edit α) : Edit α := do
  let saved := (← get).pending
  let count := (← get).fragments.length
  if connective = .or then
    modify fun query => { query with pending := some .or }
  let result ← parenthesis true body
  modify fun query =>
    { query with pending := if query.fragments.length = count then saved else none }
  return result

end Edit

end SqlBuilder
