import SqlBuilder.Query.Basic

/-!
# Placement of fragments

Where a fragment goes. Fragments are added at the cursor or at the end; the select list is one
fragment that later calls extend, and it stands in front of `from`.
-/

namespace SqlBuilder

/-- The two keywords that start a select list. -/
def isSelectKeyword (keyword : String) : Bool :=
  keyword == "select" || keyword == "select distinct"

namespace Query

variable (query : Query)

/-- Whether a fragment has the keyword. -/
def hasClause (keyword : String) : Bool := query.fragments.any (·.keyword == keyword)

/-- The place of the first fragment with the keyword. -/
def clauseIndex? (keyword : String) : Option Nat :=
  query.fragments.findIdx? (·.keyword == keyword)

/-- The place of the select list. -/
def selectIndex? : Option Nat := query.fragments.findIdx? (isSelectKeyword ·.keyword)

/-- The place of the next fragment. -/
def insertionPoint : Nat :=
  match query.cursor with
  | some place => if place ≤ query.fragments.length then place else query.fragments.length
  | none => query.fragments.length

/-- Moves a cursor within reach behind a fragment that was added at it. -/
def advance (place : Nat) : Nat := if place ≤ query.fragments.length then place + 1 else place

/-- The current clause after a keyword was added. -/
def clauseAfter (keyword : String) : Option String :=
  if 1 < keyword.utf8ByteSize then some keyword else query.currentClause

/-- Adds a fragment at the cursor, or at the end. -/
def insert (fragment : Fragment) : Query :=
  { query with
    fragments := query.fragments.insertIdx query.insertionPoint fragment
    cursor := query.cursor.map query.advance
    currentClause := query.clauseAfter fragment.keyword }

/-- Adds items to a select list. A list of just a star gives way, and no item is added twice. -/
def mergeItems (present incoming : List String) : List String :=
  let present := if present = ["*"] then [] else present
  incoming.foldl (fun items item => if items.contains item then items else items ++ [item]) present

/-- Extends a select list; the plain keyword leaves `select distinct` as it is. -/
def mergeSelect (keyword : String) (payload : Option Payload) (fragment : Fragment) : Fragment :=
  let incoming := (payload.map (·.toItems)).getD []
  let present := (fragment.payload.map (·.toItems)).getD []
  { fragment with
    keyword := if keyword == "select" then fragment.keyword else keyword
    payload :=
      if incoming.isEmpty then fragment.payload else some (.items (mergeItems present incoming)) }

/-- Adds a fragment; a select list extends the one that is there, or goes in front of `from`. -/
def add (fragment : Fragment) : Query :=
  if isSelectKeyword fragment.keyword then
    match query.selectIndex?, query.clauseIndex? "from" with
    | some place, _ =>
      { query with
        fragments := query.fragments.modify place (mergeSelect fragment.keyword fragment.payload)
        currentClause := some fragment.keyword }
    | none, some place =>
      { query with
        fragments := query.fragments.insertIdx place fragment
        cursor := query.cursor.map fun cursor => if place < cursor then cursor + 1 else cursor
        currentClause := some fragment.keyword }
    | none, none => query.insert fragment
  else query.insert fragment

/-- Adds a fragment with a text. -/
def addText (keyword text : String) : Query := query.add (.withText keyword text)

/-- Adds a fragment without payload. -/
def insertToken (keyword : String) : Query := query.insert (.token keyword)

/-- The keyword of the last fragment, marks of one octet apart. -/
def lastClause : Option String :=
  (query.fragments.reverse.find? (1 < ·.keyword.utf8ByteSize)).map (·.keyword)

/-- Removes the first fragment with the keyword and those behind it that go on with it. -/
def removeClause (keyword : String) : Query :=
  match query.clauseIndex? keyword with
  | none => query
  | some place =>
    let behind := query.fragments.drop (place + 1)
    let removed := 1 + (behind.takeWhile (·.isContinuation)).length
    let rest : Query :=
      { query with
        fragments := query.fragments.take place ++ query.fragments.drop (place + removed)
        cursor := query.cursor.map fun cursor =>
          if place < cursor then max (cursor - removed) place else cursor }
    { rest with currentClause := rest.lastClause }

/-- Changes the first fragment with the keyword. -/
def replaceClause (keyword : String) (change : Fragment → Fragment) :
    Except QueryError Query :=
  match query.clauseIndex? keyword with
  | none => .error (.missingClause keyword)
  | some place => .ok { query with fragments := query.fragments.modify place change }

/-- Adds the fragments of another query, and takes over its parameters and fault. -/
def merge (other : Query) : Query :=
  let joined := other.fragments.foldl insert query
  { joined with ledger := joined.ledger.adopt other.ledger }

/-- Sets the text of a clause that there is once, adding it if it is absent. -/
def setText (keyword text : String) : Query :=
  match query.clauseIndex? keyword with
  | some place =>
    { query with
      fragments := query.fragments.modify place fun fragment =>
        { fragment with payload := some (.text text) } }
  | none => query.addText keyword text

/-- Adds a term to a list clause; terms after the first go on with a comma. -/
def addTerm (keyword term : String) : Query :=
  query.addText (if query.hasClause keyword then "," else keyword) term

/-- Moves the cursor behind a fragment that was put in at a place up to it. -/
def shiftCursor (place : Nat) : Query :=
  { query with
    cursor := query.cursor.map fun cursor => if place ≤ cursor then cursor + 1 else cursor }

/-- Puts a fragment at a place, without making it the current clause. -/
def insertAt (place : Nat) (fragment : Fragment) : Query :=
  { query with fragments := query.fragments.insertIdx place fragment }.shiftCursor place

/-- Adds a common table expression: behind those that there are, or in front of all else. -/
def addCommonTable (isRecursive : Bool) (text : String) : Query :=
  let keyword := if isRecursive then "with recursive" else "with"
  let starts (fragment : Fragment) : Bool :=
    fragment.keyword == "with" || fragment.keyword == "with recursive"
  match query.fragments.findIdx? starts with
  | some place =>
    let behind := query.fragments.drop (place + 1)
    let last := place + 1 + (behind.takeWhile (·.keyword == ",")).length
    let marked :=
      if isRecursive then
        query.fragments.modify place fun fragment => { fragment with keyword }
      else query.fragments
    { query with fragments := marked }.insertAt last (.withText "," text)
  | none => query.insertAt 0 (.withText keyword text)

end Query

end SqlBuilder
