import SqlBuilder.Proofs.Grammar.Composition
import SqlBuilder.Proofs.Twin.Text

/-!
# Names as SQL text

Escaping writes a name as quoted text and punctuation, whatever the name is. So names look the same
in both runs, and a placeholder cannot be taken for one.
-/

namespace SqlBuilder

/-- Whether names stand between two quotes of one kind, which the scanner knows. -/
structure Quotes.Scanned (quotes : Quotes) : Prop where
  same : quotes.closing = quotes.opening
  mark : quotes.opening ∈ "\"\x60".toList

theorem Dialect.scanned_quotes (dialect : Dialect) : dialect.grammar.quotes.Scanned := by
  cases dialect <;> exact ⟨rfl, by decide⟩

namespace Identifier

open Writing

variable {quotes : Quotes} (scanned : quotes.Scanned)

include scanned

theorem plain_quote (body : List Char) : Plain (quote quotes body) := by
  have text : quote quotes body = (Lexeme.quoted quotes.opening body).text := by
    simp [quote, Lexeme.text, scanned.same]
  rw [text]
  exact .quoted scanned.mark body

theorem plain_inherits : Inherits Plain quotes where
  nil := .nil
  append := .append
  star := .code (by decide)
  point := .code (by decide)
  word := .codes (by decide)
  quote := plain_quote scanned

theorem plain_escapePart (part : List Char) : Plain (escapePart quotes part) :=
  (plain_inherits scanned).escapePart part

/-- A name is written as quoted text and punctuation. -/
theorem plain_escape (name : List Char) : Plain (escape quotes ['.'] name) :=
  (plain_inherits scanned).escape name

end Identifier

end SqlBuilder
