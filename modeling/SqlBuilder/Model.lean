/-!
# Models

A table with its key columns and its relations to other tables.
-/

namespace SqlBuilder

/-- A link between a model and another table. -/
structure Relation where
  name : String
  /-- The table of the related rows. -/
  table : String
  /-- The column of that table. -/
  relatedColumn : String
  /-- The column of the model's table. -/
  localColumn : String
  deriving DecidableEq, Repr

/-- A table with its keys and relations. -/
structure Model where
  table : String
  /-- The key columns in order. -/
  primaryKey : List String
  relations : List Relation := []
  deriving DecidableEq, Repr

namespace Model

/-- Declares that rows of a table point to this model's first key column. -/
def hasMany (model : Model) (name table foreignKey : String) : Model :=
  { model with
    relations := model.relations ++
      [{ name, table, relatedColumn := foreignKey,
         localColumn := model.primaryKey.head?.getD "id" }] }

/-- Declares that this model's rows point to a column of a table. -/
def belongsTo (model : Model) (name table foreignKey ownerKey : String) : Model :=
  { model with
    relations := model.relations ++
      [{ name, table, relatedColumn := ownerKey, localColumn := foreignKey }] }

/-- The relation of a name. -/
def relation? (model : Model) (name : String) : Option Relation :=
  model.relations.find? (·.name == name)

end Model

end SqlBuilder
