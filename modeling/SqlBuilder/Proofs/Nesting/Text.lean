import SqlBuilder.Expr.Compile
import SqlBuilder.Proofs.Grammar.Composition
import SqlBuilder.Proofs.Statement.Literal
import SqlBuilder.Proofs.Statement.LiteralReader
import SqlBuilder.Statement.Placeholder

/-!
# Texts that close what they open

A reader that tells quoted spans from code and counts the parentheses that are open. A quoted span
ends at the mark that it started with. Where that mark is written twice, the first one ends the span
and the second one starts the next, which leaves the reader in the same place as one that takes the
two for one character. In string literals of MySQL a backslash takes the character behind it along.

A text is closed if a reader that starts in code ends in code, at the depth at which it started, and
on the way never leaves a parenthesis that was open before. What a connection writes for names and
values is closed, whatever the names and values are.
-/

namespace SqlBuilder

namespace Nesting

/-- Where a reader of SQL text stands. -/
inductive Place where
  | code
  | quoted (mark : Char)
  /-- Behind a backslash in a quoted span. -/
  | escaped (mark : Char)
  deriving DecidableEq

/-- Reads a character at a depth. There is no way on from a closing parenthesis at depth zero. -/
def step (backslash : Bool) : Place × Nat → Char → Option (Place × Nat)
  | (.code, depth), c =>
    if Placeholder.isQuote c then some (.quoted c, depth)
    else if c = '(' then some (.code, depth + 1)
    else if c = ')' then
      match depth with
      | 0 => none
      | depth + 1 => some (.code, depth)
    else some (.code, depth)
  | (.quoted mark, depth), c =>
    if c = mark then some (.code, depth)
    else if backslash && c == '\\' && mark != '\x60' then some (.escaped mark, depth)
    else some (.quoted mark, depth)
  | (.escaped mark, depth), _ => some (.quoted mark, depth)

/-- Reads a text. -/
def read (backslash : Bool) (start : Place × Nat) (chars : List Char) : Option (Place × Nat) :=
  chars.foldlM (step backslash) start

/-- Whether all quoted spans of a text end, and its parentheses lead from one depth to another. -/
def Leads (backslash : Bool) (depth : Nat) (text : String) (depth' : Nat) : Prop :=
  read backslash (.code, depth) text.toList = some (.code, depth')

/-- Whether a text closes what it opens, and nothing else. -/
def Closed (backslash : Bool) (text : String) : Prop :=
  ∀ depth, Leads backslash depth text depth

/-- Whether a character is neither a quote nor a parenthesis. -/
def isBare (c : Char) : Bool := !Placeholder.isQuote c && c != '(' && c != ')'

variable {backslash : Bool}

@[simp] theorem read_nil (start : Place × Nat) : read backslash start [] = some start := rfl

theorem read_cons (start : Place × Nat) (c : Char) (rest : List Char) :
    read backslash start (c :: rest) = (step backslash start c).bind (read backslash · rest) := rfl

theorem read_append (start : Place × Nat) (chars more : List Char) :
    read backslash start (chars ++ more) =
      (read backslash start chars).bind (read backslash · more) :=
  List.foldlM_append

theorem Leads.append {depth middle depth' : Nat} {text more : String}
    (first : Leads backslash depth text middle) (second : Leads backslash middle more depth') :
    Leads backslash depth (text ++ more) depth' := by
  unfold Leads at *
  rw [String.toList_append, read_append, first]
  exact second

/-! ### Reading code -/

theorem step_bare {c : Char} (bare : isBare c = true) (depth : Nat) :
    step backslash (.code, depth) c = some (.code, depth) := by
  simp only [isBare, Bool.and_eq_true, Bool.not_eq_true', bne_iff_ne, ne_eq] at bare
  rcases bare with ⟨⟨noQuote, notOpening⟩, notClosing⟩
  simp [step, noQuote, notOpening, notClosing]

theorem leads_opening (depth : Nat) : Leads backslash depth "(" (depth + 1) := rfl

theorem leads_closing (depth : Nat) : Leads backslash (depth + 1) ")" depth := rfl

namespace Closed

theorem of_bare {text : String} (bare : ∀ c ∈ text.toList, isBare c = true) :
    Closed backslash text := by
  intro depth
  unfold Leads
  generalize text.toList = chars at bare
  induction chars with
  | nil => rfl
  | cons c rest ih =>
      simp only [List.mem_cons, forall_eq_or_imp] at bare
      rw [read_cons, step_bare bare.1]
      exact ih bare.2

theorem of_all {text : String} (bare : text.toList.all isBare = true) : Closed backslash text :=
  of_bare (List.all_eq_true.1 bare)

theorem empty : Closed backslash "" := fun _ => rfl

theorem append {text more : String} (first : Closed backslash text)
    (second : Closed backslash more) : Closed backslash (text ++ more) :=
  fun depth => (first depth).append (second depth)

/-- A text between one that opens a parenthesis and one that closes it. -/
theorem between {opening text closing : String}
    (opens : ∀ depth, Leads backslash depth opening (depth + 1)) (inner : Closed backslash text)
    (closes : ∀ depth, Leads backslash (depth + 1) closing depth) :
    Closed backslash (opening ++ text ++ closing) :=
  fun depth => ((opens depth).append (inner (depth + 1))).append (closes depth)

theorem parentheses {text : String} (inner : Closed backslash text) :
    Closed backslash ("(" ++ text ++ ")") :=
  .between leads_opening inner leads_closing

theorem callText {name arguments : String} (word : Closed backslash name)
    (inner : Closed backslash arguments) : Closed backslash (callText name arguments) := by
  have wrapped := word.append inner.parentheses
  simpa [SqlBuilder.callText, String.append_assoc] using wrapped

theorem intercalate {separator : String} (between : Closed backslash separator)
    {texts : List String} (each : ∀ text ∈ texts, Closed backslash text) :
    Closed backslash (String.intercalate separator texts) := by
  induction texts with
  | nil => exact empty
  | cons text rest ih =>
      simp only [List.mem_cons, forall_eq_or_imp] at each
      rcases each with ⟨head, tail⟩
      cases rest with
      | nil => simpa using head
      | cons next rest =>
          rw [String.intercalate_cons_cons]
          exact (head.append between).append (ih tail)

theorem ite {condition : Prop} [Decidable condition] {text other : String}
    (first : Closed backslash text) (second : Closed backslash other) :
    Closed backslash (if condition then text else other) := by
  split
  · exact first
  · exact second

end Closed

theorem isBare_of_isDigit {c : Char} (digit : c.isDigit = true) : isBare c = true := by
  have marks : ∀ mark ∈ "'\"\x60()".toList, (!mark.isDigit) = true :=
    List.all_eq_true.1 (by decide)
  have other : c ∉ "'\"\x60()".toList := by
    intro mem
    have differs := marks c mem
    simp [digit] at differs
  simpa [isBare, Placeholder.isQuote, and_assoc] using other

theorem isBare_of_mem_toDigits {number : Nat} {c : Char} (mem : c ∈ Nat.toDigits 10 number) :
    isBare c = true :=
  isBare_of_isDigit (Nat.isDigit_of_mem_toDigits (by decide) (by decide) mem)

theorem Closed.natural (number : Nat) : Closed backslash (Nat.repr number) := by
  apply Closed.of_bare
  intro c mem
  rw [Nat.toList_repr] at mem
  exact isBare_of_mem_toDigits mem

theorem Closed.integer (number : Int) : Closed backslash (toString number) := by
  cases number with
  | ofNat number => exact Closed.natural number
  | negSucc number =>
      have minus : Closed backslash "-" := .of_all (by decide)
      exact minus.append (.natural (number + 1))

/-! ### Reading quoted spans -/

/-- A quoted span whose inside leaves the reader inside. -/
theorem Closed.span {mark : Char} (quote : Placeholder.isQuote mark = true) {body : List Char}
    (inside : ∀ depth, read backslash (.quoted mark, depth) body = some (.quoted mark, depth)) :
    Closed backslash (String.ofList (mark :: (body ++ [mark]))) := by
  intro depth
  have opened : step backslash (.code, depth) mark = some (.quoted mark, depth) := by
    simp [step, quote]
  unfold Leads
  rw [String.toList_ofList, read_cons, opened, Option.bind_some, read_append, inside depth]
  simp [read_cons, step]

/-- Inside identifiers nothing but the mark counts. -/
theorem read_double {mark : Char} (quote : Placeholder.isQuote mark = true)
    (plain : backslash = false ∨ mark = '\x60') (body : List Char) (depth : Nat) :
    read backslash (.quoted mark, depth) (Identifier.double mark body) =
      some (.quoted mark, depth) := by
  induction body with
  | nil => rfl
  | cons c rest ih =>
      unfold Identifier.double at *
      rw [List.flatMap_cons, read_append]
      split
      · -- The span ends and starts again.
        simp [read_cons, step, quote, ih]
      · rename_i other
        have stays : step backslash (.quoted mark, depth) c = some (.quoted mark, depth) := by
          rcases plain with rfl | rfl
          · simp [step, other]
          · simp [step, other]
        simp [read_cons, stays, ih]

theorem read_escapeLiteralChar (grammar : Grammar) (c : Char) (depth : Nat) :
    read grammar.escapesBackslash (.quoted '\'', depth) (grammar.escapeLiteralChar c) =
      some (.quoted '\'', depth) := by
  unfold Grammar.escapeLiteralChar
  split
  · rfl
  · rename_i notQuote
    split
    · rename_i special
      simp [read_cons, step, special.1]
    · rename_i ordinary
      have stays : step grammar.escapesBackslash (.quoted '\'', depth) c =
          some (.quoted '\'', depth) := by
        cases escapes : grammar.escapesBackslash with
        | false => simp [step, notQuote]
        | true =>
            have notBackslash : c ≠ '\\' := by
              intro same
              exact ordinary ⟨escapes, same⟩
            simp [step, notQuote, notBackslash]
      simp [read_cons, stays]

theorem read_escapeString (grammar : Grammar) (text : List Char) (depth : Nat) :
    read grammar.escapesBackslash (.quoted '\'', depth) (text.flatMap grammar.escapeLiteralChar) =
      some (.quoted '\'', depth) := by
  induction text with
  | nil => rfl
  | cons c rest ih =>
      rw [List.flatMap_cons, read_append, read_escapeLiteralChar]
      exact ih

theorem Closed.stringLiteral (grammar : Grammar) (text : String) :
    Closed grammar.escapesBackslash ("'" ++ grammar.escapeString text ++ "'") := by
  have written : "'" ++ grammar.escapeString text ++ "'" =
      String.ofList ('\'' :: (text.toList.flatMap grammar.escapeLiteralChar ++ ['\''])) := by
    apply String.toList_injective
    simp [Grammar.escapeString]
  rw [written]
  exact .span rfl (read_escapeString grammar text.toList)

/-! ### Names -/

/-- Whether names stand between two marks of one kind, inside which nothing else counts. -/
structure Marks (backslash : Bool) (quotes : Quotes) : Prop where
  same : quotes.closing = quotes.opening
  quote : Placeholder.isQuote quotes.opening = true
  plain : backslash = false ∨ quotes.opening = '\x60'

namespace Marks

variable {quotes : Quotes} (marks : Marks backslash quotes)

include marks

theorem closed_quote (body : List Char) :
    Closed backslash (String.ofList (Identifier.quote quotes body)) := by
  unfold Identifier.quote
  rw [marks.same]
  exact .span marks.quote (read_double marks.quote marks.plain body)

theorem inherits :
    Identifier.Inherits (fun chars => Closed backslash (String.ofList chars)) quotes where
  nil := .empty
  append front behind := by
    rw [String.ofList_append]
    exact front.append behind
  star := .of_all (by decide)
  point := .of_all (by decide)
  word := .of_all (by decide)
  quote := marks.closed_quote

end Marks

end Nesting

/-! ### What a dialect writes -/

namespace Dialect

open Nesting

variable (dialect : Dialect)

/-- Whether a text is closed to a reader of the dialect. -/
abbrev Closed (text : String) : Prop := Nesting.Closed dialect.readsBackslash text

theorem marks_quotes : Marks dialect.readsBackslash dialect.grammar.quotes := by
  cases dialect with
  | mysql => exact ⟨rfl, rfl, .inr rfl⟩
  | postgres => exact ⟨rfl, rfl, .inl rfl⟩
  | sqlite => exact ⟨rfl, rfl, .inl rfl⟩

theorem closed_escapeIdentifier (name : String) :
    dialect.Closed (dialect.grammar.escapeIdentifier name) := by
  have separator : dialect.grammar.tableSeparator.toList = ['.'] := by
    cases dialect <;> rfl
  unfold Grammar.escapeIdentifier
  rw [separator]
  exact dialect.marks_quotes.inherits.escape name.toList

theorem closed_escapePart (name : String) : dialect.Closed (dialect.grammar.escapePart name) :=
  dialect.marks_quotes.inherits.escapePart name.toList

theorem closed_columnSeparator : dialect.Closed dialect.grammar.columnSeparator := by
  cases dialect <;> exact .of_all (by decide)

theorem closed_booleanLiteral (value : Bool) :
    dialect.Closed (dialect.grammar.booleanLiteral value) := by
  cases dialect <;> cases value <;> exact .of_all (by decide)

theorem closed_stringLiteral (text : String) :
    dialect.Closed ("'" ++ dialect.grammar.escapeString text ++ "'") := by
  have literal := Nesting.Closed.stringLiteral dialect.grammar text
  cases dialect <;> exact literal

end Dialect

end SqlBuilder
