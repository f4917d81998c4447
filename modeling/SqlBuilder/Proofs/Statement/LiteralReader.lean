import SqlBuilder.Connection

/-!
# Reading literals back

How the engines read the literals that a connection writes. A string literal ends at a single quote
that is not followed by another one; two of them stand for one. MySQL gives a backslash a meaning of
its own inside a string literal, PostgreSQL and SQLite do not.

A literal is read back as the value that it was written for, whatever stands behind it, and reading
stops where the literal ends. So no value can reach out of its literal.
-/

namespace SqlBuilder

/-- Whether a backslash inside a string literal has a meaning of its own. -/
def Dialect.readsBackslash : Dialect → Bool
  | .mysql => true
  | .postgres | .sqlite => false

namespace StringLiteral

/-- What a backslash and the character behind it stand for. In front of the wildcards of a pattern
the backslash is kept. -/
def escaped : Char → List Char
  | '0' => ['\x00']
  | 'b' => ['\x08']
  | 'n' => ['\n']
  | 'r' => ['\r']
  | 't' => ['\t']
  | 'Z' => ['\x1a']
  | '%' => ['\\', '%']
  | '_' => ['\\', '_']
  | c => [c]

/-- Reads up to the quote that ends a string literal: what the literal stands for, and what is
behind it. -/
def readBody? (backslash : Bool) : List Char → Option (List Char × List Char)
  | [] => none
  | [c] => if c = '\'' then some ([], []) else none
  | c :: next :: rest =>
    if c = '\'' then
      if next = '\'' then
        (readBody? backslash rest).map fun (body, after) => ('\'' :: body, after)
      else some ([], next :: rest)
    else if backslash && c = '\\' then
      (readBody? backslash rest).map fun (body, after) => (escaped next ++ body, after)
    else (readBody? backslash (next :: rest)).map fun (body, after) => (c :: body, after)

/-- Reads a string literal at the start of a text. -/
def read? (backslash : Bool) : List Char → Option (List Char × List Char)
  | '\'' :: rest => readBody? backslash rest
  | _ => none

theorem readBody?_closing (backslash : Bool) {rest : List Char} (ends : rest.head? ≠ some '\'') :
    readBody? backslash ('\'' :: rest) = some ([], rest) := by
  cases rest with
  | nil => simp [readBody?]
  | cons next rest =>
      have other : next ≠ '\'' := by
        intro same
        simp [same] at ends
      simp [readBody?, other]

end StringLiteral

namespace Grammar

variable (grammar : Grammar)

/-- One character of a literal is read back, and the reader goes on behind it. -/
theorem readBody?_escapeLiteralChar (c : Char) (rest : List Char) :
    StringLiteral.readBody? grammar.escapesBackslash (grammar.escapeLiteralChar c ++ rest) =
      (StringLiteral.readBody? grammar.escapesBackslash rest).map
        fun (body, after) => (c :: body, after) := by
  unfold escapeLiteralChar
  by_cases quote : c = '\''
  · subst quote
    simp [StringLiteral.readBody?]
  · rw [if_neg quote]
    by_cases special : grammar.escapesBackslash = true ∧ c = '\\'
    · rcases special with ⟨escapes, rfl⟩
      simp [StringLiteral.readBody?, StringLiteral.escaped, escapes]
    · rw [if_neg special, List.singleton_append]
      cases rest with
      | nil => simp [StringLiteral.readBody?, quote]
      | cons next rest =>
          rw [StringLiteral.readBody?, if_neg quote, if_neg]
          simpa using special

theorem readBody?_escapeString (text : List Char) {rest : List Char}
    (ends : rest.head? ≠ some '\'') :
    StringLiteral.readBody? grammar.escapesBackslash
        (text.flatMap grammar.escapeLiteralChar ++ '\'' :: rest) = some (text, rest) := by
  induction text with
  | nil => exact StringLiteral.readBody?_closing _ ends
  | cons c text ih =>
      rw [List.flatMap_cons, List.append_assoc, readBody?_escapeLiteralChar, ih]
      rfl

end Grammar

namespace Text

theorem hexValue?_hexDigit {number : Nat} (small : number < 16) :
    hexValue? (hexDigit number) = some number := by
  have every : ∀ number : Fin 16, hexValue? (hexDigit number) = some number.val := by decide
  exact every ⟨number, small⟩

theorem hexValue?_upperHexDigit {number : Nat} (small : number < 16) :
    hexValue? (upperHexDigit number) = some number := by
  have every : ∀ number : Fin 16, hexValue? (upperHexDigit number) = some number.val := by decide
  exact every ⟨number, small⟩

/-- Two digits per octet are read back if one digit is. -/
theorem bytesOfHex?_flatMap {digit : Nat → Char}
    (reads : ∀ number < 16, hexValue? (digit number) = some number) (octets : List UInt8) :
    bytesOfHex? (octets.flatMap fun octet => [digit (octet.toNat / 16), digit (octet.toNat % 16)]) =
      some octets := by
  induction octets with
  | nil => rfl
  | cons octet rest ih =>
      have bound := octet.toNat_lt
      have high := reads (octet.toNat / 16) (by omega)
      have low := reads (octet.toNat % 16) (by omega)
      have whole : 16 * (octet.toNat / 16) + octet.toNat % 16 = octet.toNat := by omega
      simp only [List.flatMap_cons, List.cons_append, List.nil_append, bytesOfHex?, high, low,
        Option.bind_eq_bind, Option.bind_some, ih, whole]
      simp

end Text

/-- The text that a literal of the value stands for, if the literal is one of a string. -/
def Scalar.literalContent? : Scalar → Option String
  | .text value => some value
  | .timestamp value => some value.sqlText
  | .uuid value => some value.text
  | .json value => some value.compact
  | _ => none

/-- How octets are written around their hexadecimal digits. -/
def Dialect.octetLiteral (digits : List Char) : Dialect → String
  | .mysql | .sqlite => "X'" ++ String.ofList digits ++ "'"
  | .postgres => "'\\x" ++ String.ofList digits ++ "'::bytea"

namespace Connection

theorem quote_eq_quoteText {config : Config} {value : Scalar} {content : String}
    (textual : value.literalContent? = some content) :
    (Connection.ofConfig config).quote value = (Connection.ofConfig config).quoteText content := by
  cases value <;> simp only [Scalar.literalContent?, Option.some.injEq, reduceCtorEq] at textual
  all_goals
    subst textual
    rfl

theorem escapesBackslash_ofConfig (config : Config) :
    (Connection.ofConfig config).grammar.escapesBackslash = config.dialect.readsBackslash := by
  unfold ofConfig
  cases config.dialect <;> rfl

theorem quote_bytes (config : Config) (octets : List UInt8) :
    ∃ digits, (Connection.ofConfig config).quote (.bytes octets) =
        .ok (config.dialect.octetLiteral digits) ∧ Text.bytesOfHex? digits = some octets := by
  have lower := Text.bytesOfHex?_flatMap (fun _ => Text.hexValue?_hexDigit) octets
  have upper := Text.bytesOfHex?_flatMap (fun _ => Text.hexValue?_upperHexDigit) octets
  change ∃ digits, Except.ok (config.dialect.grammar.bytesLiteral octets) = _ ∧ _
  cases config.dialect with
  | mysql => exact ⟨_, rfl, upper⟩
  | postgres => exact ⟨_, rfl, lower⟩
  | sqlite => exact ⟨_, rfl, upper⟩

/--
Literals are read back. A text has a literal unless there is a NUL character in it, and a reader of
the dialect finds that text and stops behind the literal, whatever follows it but a single quote.
The digits of a literal of octets are those octets.
-/
theorem quote_read_back (config : Config) :
    (∀ value content, value.literalContent? = some content →
      ((∃ detail, (Connection.ofConfig config).quote value = .error (.quoteRefused detail)) ↔
        '\x00' ∈ content.toList) ∧
      ('\x00' ∉ content.toList →
        ∃ literal, (Connection.ofConfig config).quote value = .ok literal ∧
          ∀ rest, rest.head? ≠ some '\'' →
            StringLiteral.read? config.dialect.readsBackslash (literal.toList ++ rest) =
              some (content.toList, rest))) ∧
    ∀ octets, ∃ digits, (Connection.ofConfig config).quote (.bytes octets) =
        .ok (config.dialect.octetLiteral digits) ∧ Text.bytesOfHex? digits = some octets := by
  refine ⟨?_, quote_bytes config⟩
  intro value content textual
  rw [quote_eq_quoteText textual, ← escapesBackslash_ofConfig]
  -- A NUL character is the one thing that a literal of a text is refused for.
  generalize Connection.ofConfig config = connection
  unfold quoteText
  by_cases null : '\x00' ∈ content.toList
  · have found : content.toList.contains (Char.ofNat 0) = true := by simpa using null
    rw [if_pos found]
    constructor
    · simp [null]
    · intro absent
      exact absurd null absent
  · have missing : ¬content.toList.contains (Char.ofNat 0) = true := by simpa using null
    rw [if_neg missing]
    constructor
    · simp [null]
    · intro _
      refine ⟨_, rfl, ?_⟩
      intro rest ends
      have opened : ("'" ++ connection.grammar.escapeString content ++ "'").toList ++ rest =
          '\'' ::
            (content.toList.flatMap connection.grammar.escapeLiteralChar ++ '\'' :: rest) := by
        simp [Grammar.escapeString]
      rw [opened]
      exact connection.grammar.readBody?_escapeString content.toList ends

/-- A text that ends in a quote and a backslash does not reach what stands behind its literal. -/
theorem quote_read_back_mysql :
    ∃ literal,
      (Connection.ofConfig { dialect := .mysql }).quote (.text "O'Brien'\\") = .ok literal ∧
        StringLiteral.read? true (literal.toList ++ "; drop table t".toList) =
          some ("O'Brien'\\".toList, "; drop table t".toList) := by
  have clean : '\x00' ∉ "O'Brien'\\".toList := by decide
  rcases (quote_read_back { dialect := .mysql }).1 (.text "O'Brien'\\") "O'Brien'\\" rfl with
    ⟨-, readable⟩
  rcases readable clean with ⟨literal, quoted, reads⟩
  exact ⟨literal, quoted, reads "; drop table t".toList (by decide)⟩

end Connection

end SqlBuilder
