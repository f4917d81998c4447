/-!
# Fragments

A query is a list of fragments, each a keyword with what follows it. Rendering writes the keywords
and payloads as tokens with one blank between two of them; a comma and a closing parenthesis stand
directly behind the token before them, and nothing stands between an opening parenthesis and the
token after it.
-/

namespace SqlBuilder

/-- What follows the keyword of a fragment. -/
inductive Payload where
  | text (value : String)
  /-- Items with a separator between them. -/
  | items (values : List String)
  deriving DecidableEq, Repr

namespace Payload

/-- Whether the payload renders to nothing. -/
def isEmpty : Payload → Bool
  | .text value => value.isEmpty
  | .items values => values.all (·.isEmpty)

/-- The payload as a list of items. -/
def toItems : Payload → List String
  | .text value => [value]
  | .items values => values

/-- The payload as one token. Empty items are skipped. -/
def render (separator : String) : Payload → String
  | .text value => value
  | .items values => String.intercalate separator (values.filter (!·.isEmpty))

end Payload

/-- A unit of a query. -/
structure Fragment where
  /-- The keyword or mark; empty if the fragment only goes on with the one before it. -/
  keyword : String
  payload : Option Payload := none
  /-- Stands between the items of the payload instead of the grammar's separator. -/
  separator : Option String := none
  deriving DecidableEq, Repr

namespace Fragment

/-- A fragment without payload. -/
def token (keyword : String) : Fragment := { keyword }

/-- A fragment with a text. -/
def withText (keyword text : String) : Fragment := { keyword, payload := some (.text text) }

/-- Whether the fragment belongs to the clause before it. -/
def isContinuation (fragment : Fragment) : Bool :=
  fragment.keyword == "" || fragment.keyword == ","

/-- The non-empty tokens of the fragment. -/
def tokens (separator : String) (fragment : Fragment) : List String :=
  let payload := match fragment.payload with
    | none => []
    | some payload => [payload.render (fragment.separator.getD separator)]
  (fragment.keyword :: payload).filter (!·.isEmpty)

end Fragment

/-- Whether a token stands directly behind the one before it. -/
def attaches (token : String) : Bool :=
  token == "," || token.toList.head? == some ')'

/-- What stands between two tokens. -/
def gap (before after : String) : String :=
  if before == "(" || attaches after then "" else " "

/-- Tokens after another token. -/
def renderAfter (before : String) : List String → String
  | [] => ""
  | token :: rest => gap before token ++ (token ++ renderAfter token rest)

/-- Tokens as one text. -/
def renderTokens : List String → String
  | [] => ""
  | token :: rest => token ++ renderAfter token rest

/-- Fragments as SQL text; `separator` stands between items unless a fragment brings its own. -/
def renderFragments (separator : String) (fragments : List Fragment) : String :=
  renderTokens (fragments.flatMap (·.tokens separator))

end SqlBuilder
