import SqlBuilder.Scalar

/-!
# Parameters

Named values of a query. Every list of parameters has a namespace of its own and counts the values
that it has named, so lists that are later put together never use one name for two values.
-/

namespace SqlBuilder

/-- A named value. -/
structure Param where
  name : String
  value : Scalar

/-- The text that refers to the parameter in SQL. -/
def Param.placeholder (param : Param) : String := ":" ++ param.name

/-- The name of the parameter that a namespace counts as the `index`-th. -/
def paramName (namespaceId index : Nat) : String :=
  "p" ++ Nat.repr namespaceId ++ "_" ++ Nat.repr index

/-- The parameters of a query in the order in which they were added. -/
structure ParamList where
  namespaceId : Nat
  nextIndex : Nat := 0
  entries : List Param := []

namespace ParamList

/-- Adds a value under a new name, and gives its placeholder. -/
def push (params : ParamList) (value : Scalar) : String × ParamList :=
  let param : Param := { name := paramName params.namespaceId params.nextIndex, value }
  (param.placeholder,
    { params with nextIndex := params.nextIndex + 1, entries := params.entries ++ [param] })

/-- Whether a name is taken. -/
def has (params : ParamList) (name : String) : Bool :=
  params.entries.any (·.name == name)

/-- Adds a parameter under the name that it has, unless that name is taken. -/
def adopt (params : ParamList) (param : Param) : ParamList :=
  if params.has param.name then params
  else { params with entries := params.entries ++ [param] }

/-- Adds the parameters of another list under the names that they have. -/
def extend (params other : ParamList) : ParamList :=
  other.entries.foldl adopt params

/-- The same parameters, with further names in another namespace. -/
def fork (params : ParamList) (namespaceId : Nat) : ParamList :=
  { namespaceId, entries := params.entries }

/-- The value of a name. -/
def get? (params : ParamList) (name : String) : Option Scalar :=
  (params.entries.find? (·.name == name)).map (·.value)

/-- The number of parameters. -/
def size (params : ParamList) : Nat := params.entries.length

end ParamList

end SqlBuilder
