/-!
# Features

The constructs that only some dialects can render.
-/

namespace SqlBuilder

/-- A construct that a dialect may lack. -/
inductive Feature where
  | matchAgainst
  | variables
  | groupConcat
  | ifFunctions
  | returning
  | onDuplicateKey
  | onConflict
  | replaceInto
  | lockForUpdate
  deriving DecidableEq, Repr

namespace Feature

/-- All features, in order. -/
def all : List Feature :=
  [.matchAgainst, .variables, .groupConcat, .ifFunctions, .returning, .onDuplicateKey,
    .onConflict, .replaceInto, .lockForUpdate]

/-- The feature in words. -/
def text : Feature → String
  | .matchAgainst => "match against"
  | .variables => "variable assignment"
  | .groupConcat => "group_concat"
  | .ifFunctions => "if functions"
  | .returning => "returning"
  | .onDuplicateKey => "on duplicate key update"
  | .onConflict => "on conflict"
  | .replaceInto => "replace into"
  | .lockForUpdate => "for update"

/-- The feature with the given words. -/
def ofText? (words : String) : Option Feature :=
  all.find? fun feature => feature.text == words

end Feature

end SqlBuilder
