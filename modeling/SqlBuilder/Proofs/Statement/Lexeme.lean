import Mathlib.Data.List.Chain
import SqlBuilder.Grammar.Identifier
import SqlBuilder.Statement.Basic

/-!
# Lexemes of SQL text

SQL text as a sequence of units that the scanner of placeholders cannot misread: characters of code,
quoted text with the quote written twice inside, the mark of an assignment, and placeholders. The
only thing to know about two neighbours is that no character of a name follows a placeholder.
-/

namespace SqlBuilder

/-- A unit of SQL text. -/
inductive Lexeme where
  | code (c : Char)
  | quoted (mark : Char) (body : List Char)
  | assign
  | placeholder (param : Param)

/-- Whether a character is code: no quote and no colon. -/
def isCode (c : Char) : Bool := !Placeholder.isQuote c && c != ':'

theorem isCode_of_isDigit {c : Char} (digit : c.isDigit = true) : isCode c = true := by
  have marks : ∀ mark ∈ "'\"\x60:".toList, (!mark.isDigit) = true :=
    List.all_eq_true.1 (by decide)
  have other : c ∉ "'\"\x60:".toList := by
    intro mem
    have differs := marks c mem
    simp [digit] at differs
  simpa [isCode, Placeholder.isQuote, and_assoc] using other

namespace Lexeme

/-- The lexeme as it stands in the text. -/
def text : Lexeme → List Char
  | .code c => [c]
  | .quoted mark body => mark :: (Identifier.double mark body ++ [mark])
  | .assign => [':', '=']
  | .placeholder param => ':' :: param.name.toList

/-- The lexeme with something else written for a placeholder. -/
def written (literal : Param → List Char) : Lexeme → List Char
  | .placeholder param => literal param
  | lexeme => lexeme.text

/-- What the scanner finds. -/
def parts : Lexeme → List Placeholder.Part
  | .placeholder param => [.reference param.name.toList]
  | lexeme => lexeme.text.map .char

/-- Whether the scanner reads the lexeme as what it is. -/
def Legible : Lexeme → Prop
  | .code c => isCode c = true
  | .quoted mark _ => Placeholder.isQuote mark = true
  | .assign => True
  | .placeholder param => param.name.toList ≠ [] ∧ param.name.toList.all Placeholder.isNameChar

/-- Whether a lexeme ends where the next one starts. -/
def Joins : Lexeme → Lexeme → Prop
  | .placeholder _, .code c => Placeholder.isNameChar c = false
  | _, _ => True

theorem written_of_ne (literal : Param → List Char) {lexeme : Lexeme}
    (other : ∀ param, lexeme ≠ .placeholder param) : lexeme.written literal = lexeme.text := by
  cases lexeme with
  | placeholder param => exact absurd rfl (other param)
  | code c => rfl
  | quoted mark body => rfl
  | assign => rfl

theorem text_ne_nil (lexeme : Lexeme) : lexeme.text ≠ [] := by
  cases lexeme <;> simp [text]

/-- A lexeme other than a placeholder can stand in front of anything. -/
theorem joins_of_ne {lexeme : Lexeme} (other : ∀ param, lexeme ≠ .placeholder param)
    (next : Lexeme) : lexeme.Joins next := by
  cases lexeme with
  | placeholder param => exact absurd rfl (other param)
  | code c => trivial
  | quoted mark body => trivial
  | assign => trivial

theorem isChain_of_ne {lexemes : List Lexeme}
    (other : ∀ lexeme ∈ lexemes, ∀ param, lexeme ≠ .placeholder param) :
    lexemes.IsChain Joins := by
  induction lexemes with
  | nil => exact List.isChain_nil
  | cons lexeme rest ih =>
      exact List.isChain_cons.2 ⟨fun next _ => joins_of_ne (other lexeme (by simp)) next,
        ih fun lexeme mem => other lexeme (by simp [mem])⟩

/-- The first character behind a placeholder is not part of its name. -/
theorem isNameChar_head {param : Param} {rest : List Lexeme}
    (chained : (Lexeme.placeholder param :: rest).IsChain Joins)
    (legible : ∀ lexeme ∈ rest, lexeme.Legible) :
    ∀ c ∈ (rest.flatMap text).head?, Placeholder.isNameChar c = false := by
  cases rest with
  | nil => simp
  | cons next rest =>
      have joins := (List.isChain_cons_cons.1 chained).1
      have next_legible := legible next (by simp)
      cases next with
      | code c =>
          simp only [text, List.flatMap_cons, List.singleton_append, List.head?_cons]
          rintro _ ⟨⟩
          exact joins
      | quoted mark body =>
          have quote : Placeholder.isQuote mark = true := next_legible
          simp only [Placeholder.isQuote, Bool.or_eq_true, beq_iff_eq] at quote
          rcases quote with (rfl | rfl) | rfl <;> simp [text] <;> decide
      | assign => simp [text]; decide
      | placeholder other => simp [text]; decide

end Lexeme

namespace Placeholder

/-- Inside quotes everything up to the closing quote is text. -/
theorem scan_double (mark : Char) (body rest : List Char) (afterColon : Bool)
    (quote : isQuote mark = true) :
    scan (some mark) afterColon (Identifier.double mark body ++ mark :: rest) =
      (Identifier.double mark body ++ [mark]).map .char ++ scan none false rest := by
  have notColon : (mark == ':') = false := by
    simp only [isQuote, Bool.or_eq_true, beq_iff_eq] at quote
    rcases quote with (rfl | rfl) | rfl <;> decide
  induction body generalizing afterColon with
  | nil => simp [Identifier.double, scan, notColon]
  | cons c body ih =>
      by_cases same : c = mark
      · subst same
        have step := ih false
        simp only [Identifier.double, List.flatMap_cons, if_true] at step ⊢
        simp [scan, quote, step]
      · have step := ih (c == ':')
        simp only [Identifier.double, List.flatMap_cons, if_neg same] at step ⊢
        simp [scan, same, step]

/-- A placeholder is read to the end of its name. -/
theorem scan_placeholder {name rest : List Char} (nonempty : name ≠ [])
    (named : name.all isNameChar = true) (ends : ∀ c ∈ rest.head?, isNameChar c = false) :
    scan none false (':' :: (name ++ rest)) = .reference name :: scan none false rest := by
  obtain ⟨first, others, rfl⟩ := List.exists_cons_of_ne_nil nonempty
  have first_named : isNameChar first = true := by simp_all
  have stops : rest.takeWhile isNameChar = [] ∧ rest.dropWhile isNameChar = rest := by
    cases rest with
    | nil => simp
    | cons c rest => simp [ends c (by simp)]
  have taken : (first :: others ++ rest).takeWhile isNameChar = first :: others := by
    rw [List.takeWhile_append_of_pos (by simpa using named), stops.1, List.append_nil]
  have dropped : (first :: others ++ rest).dropWhile isNameChar = rest := by
    rw [List.dropWhile_append_of_pos (by simpa using named), stops.2]
  have colon : isQuote ':' = false := by decide
  rw [scan]
  simp only [colon, Bool.false_eq_true, if_false, taken, dropped]
  simp [first_named]

/-- The scanner finds the lexemes of a text. -/
theorem scan_lexemes {lexemes : List Lexeme} (legible : ∀ lexeme ∈ lexemes, lexeme.Legible)
    (chained : lexemes.IsChain Lexeme.Joins) :
    scan none false (lexemes.flatMap Lexeme.text) = lexemes.flatMap Lexeme.parts := by
  induction lexemes with
  | nil => simp [scan]
  | cons lexeme rest ih =>
      have first := legible lexeme (by simp)
      have others : ∀ lexeme ∈ rest, lexeme.Legible := fun lexeme mem =>
        legible lexeme (by simp [mem])
      have step := ih others (List.isChain_of_isChain_cons chained)
      rw [List.flatMap_cons, List.flatMap_cons, ← step]
      cases lexeme with
      | code c =>
          have code : isQuote c = false ∧ (c == ':') = false := by
            simpa [Lexeme.Legible, isCode] using first
          simp [Lexeme.text, Lexeme.parts, scan, code]
      | quoted mark body =>
          have quote : isQuote mark = true := first
          have inside := scan_double mark body (rest.flatMap Lexeme.text) false quote
          simp only [Lexeme.text, Lexeme.parts, List.cons_append, List.append_assoc, List.map_cons]
          rw [scan]
          simpa [quote] using inside
      | assign =>
          have colon : isQuote ':' = false ∧ isQuote '=' = false ∧ isNameChar '=' = false := by
            decide
          simp [Lexeme.text, Lexeme.parts, scan, colon]
      | placeholder param =>
          exact scan_placeholder first.1 first.2 (Lexeme.isNameChar_head chained others)

end Placeholder

end SqlBuilder
