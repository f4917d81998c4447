import SqlBuilder.Query.Condition
import SqlBuilder.Query.Selection

/-!
# Keys and relations

Conditions that follow from the model of a query: look-ups by its key, and the existence of related
rows.
-/

namespace SqlBuilder

/-- The key columns of the query's model, each with its table in front. -/
def Query.keyColumns (query : Query) (caller : String) : Except QueryError (List String) :=
  match query.model with
  | none => .error (.missingModel (caller ++ " requires a bound model"))
  | some model =>
    if model.primaryKey.isEmpty then
      .error (.missingModel
        ("model \x60" ++ model.table ++ "\x60 declares no primary key"))
    else .ok (model.primaryKey.map fun key => model.table ++ "." ++ key)

/-- Checks that every row has a value for each key column. -/
def KeyArityError.checkRows (expected : Nat) : List Nat → Except KeyArityError Unit
  | [] => .ok ()
  | got :: rest => do
    check expected got
    checkRows expected rest

/-- A relation, with the columns that it compares. -/
structure RelationLink where
  table : String
  related : String
  own : String
  deriving DecidableEq, Repr

/-- The relation of a name, by the query's model. -/
def Query.relationLink (query : Query) (name : String) : Except QueryError RelationLink :=
  match query.model with
  | none =>
    .error (.missingModel ("where_has(\x60" ++ name ++ "\x60) requires a bound model"))
  | some model =>
    match model.relation? name with
    | none =>
      .error (.missingModel
        ("model \x60" ++ model.table ++ "\x60 has no relation \x60" ++ name ++ "\x60"))
    | some relation =>
      .ok
        { table := relation.table
          related := relation.table ++ "." ++ relation.relatedColumn
          own := model.table ++ "." ++ relation.localColumn }

namespace Edit

/-- Compares key columns with values, one condition each. -/
def keyConditions : List String → List Value → Edit Unit
  | key :: keys, value :: values => do
    filter (.pair (.column key) value)
    keyConditions keys values
  | _, _ => return

/-- Restricts the rows to those with a key. -/
def filterByKey (values : List Value) : Edit (Except QueryError Unit) := do
  match (← get).keyColumns "where_primary_key" with
  | .error error => return .error error
  | .ok columns =>
    match KeyArityError.check columns.length values.length with
    | .error error => return .error (.keyArity error)
    | .ok () =>
      keyConditions columns values
      return .ok ()

/-- The keys after the first, each a group of its own. -/
def furtherKeys (columns : List String) : List (List Value) → Edit Unit
  | [] => return
  | row :: rest => do
    conditionGroup .or (keyConditions columns row)
    furtherKeys columns rest

/-- A group of keys of several columns. -/
def keyGroup (columns : List String) : List (List Value) → Edit Unit
  | [] => return
  | row :: rest => do
    conditionGroup .and (keyConditions columns row)
    furtherKeys columns rest

/--
Restricts the rows to those with one of several keys. Keys of one column are a list, keys of several
columns a group of groups, and no keys match nothing.
-/
def filterByKeys (rows : List (List Value)) : Edit (Except QueryError Unit) := do
  match (← get).keyColumns "where_primary_key_in" with
  | .error error => return .error error
  | .ok columns =>
    match KeyArityError.checkRows columns.length (rows.map List.length) with
    | .error error => return .error (.keyArity error)
    | .ok () =>
      match rows, columns with
      | [], _ => filter (.raw "1 = 0")
      | rows, [column] => filterIn false (.column column) rows.flatten
      | rows, columns => conditionGroup .and (keyGroup columns rows)
      return .ok ()

/-- Restricts the rows to those with related rows, on which `body` adds further conditions. -/
def filterHas {α : Type} (name : String) (body : Edit α) : Edit (Except QueryError α) := do
  let query ← get
  match query.relationLink name with
  | .error error => return .error error
  | .ok link =>
    let related := ((← query.fresh).selectRaw "1").source link.table none
    let correlated : Edit α := do
      filter (.compare (.column link.related) "=" (.column link.own))
      body
    let (result, related) ← correlated.run related
    filter (.hasRows related)
    return .ok result

end Edit

end SqlBuilder
