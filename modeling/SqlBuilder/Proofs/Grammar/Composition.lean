import SqlBuilder.Grammar.Identifier

/-!
# What escaped names are made of

An escaped name is put together from quoted texts, stars, points and the word in front of a label.
What holds of these, and of two texts in a row if it holds of both, holds of every escaped name.
-/

namespace SqlBuilder.Identifier

variable {holds : List Char → Prop} {quotes : Quotes}

/-- A property that texts in a row have from each of them, and that the parts of escaped names
have. -/
structure Inherits (holds : List Char → Prop) (quotes : Quotes) : Prop where
  nil : holds []
  append : ∀ {front behind : List Char}, holds front → holds behind → holds (front ++ behind)
  star : holds ['*']
  point : holds ['.']
  word : holds [' ', 'a', 's', ' ']
  quote : ∀ body, holds (quote quotes body)

namespace Inherits

variable (inherits : Inherits holds quotes)

include inherits

theorem escapePart (part : List Char) : holds (escapePart quotes part) := by
  unfold Identifier.escapePart
  split
  · rename_i star
    rw [star]
    exact inherits.star
  · split <;> exact inherits.quote _

theorem escapeSegment (segment : Segment) : holds (escapeSegment quotes segment) := by
  unfold Identifier.escapeSegment
  split
  · exact inherits.star
  · exact inherits.quote _
  · exact inherits.quote _

theorem segments (segments : List Segment) :
    holds (List.intercalate ['.'] (segments.map (Identifier.escapeSegment quotes))) := by
  induction segments with
  | nil => exact inherits.nil
  | cons segment rest ih =>
      have first := inherits.escapeSegment segment
      cases rest with
      | nil => simpa using first
      | cons next rest =>
          rw [List.map_cons, List.map_cons, List.intercalate_cons_cons]
          exact inherits.append (inherits.append first inherits.point) ih

theorem escapeQualified (name : List Char) : holds (escapeQualified quotes ['.'] name) := by
  unfold Identifier.escapeQualified
  split
  · exact inherits.quote name
  · exact inherits.segments _

theorem escape (name : List Char) : holds (escape quotes ['.'] name) := by
  fun_induction Identifier.escape quotes ['.'] name with
  | case1 chars name label found ih =>
      exact inherits.append (inherits.append ih inherits.word) (inherits.escapePart label)
  | case2 chars found => exact inherits.escapeQualified _

end Inherits

end SqlBuilder.Identifier
