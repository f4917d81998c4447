import SqlBuilder.Connection

/-!
# How literals start

No literal starts with punctuation or with a mark that opens a name, so a literal in place of a
placeholder is taken for neither.
-/

namespace SqlBuilder

/-- Whether a text starts with a character that is not punctuation and opens no name. -/
def Distinctive (chars : List Char) : Prop :=
  ∃ c rest, chars = c :: rest ∧ c ∉ "(),*. as\"\x60".toList

theorem Distinctive.cons {c : Char} (other : c ∉ "(),*. as\"\x60".toList) (rest : List Char) :
    Distinctive (c :: rest) := ⟨c, rest, rfl, other⟩

theorem Distinctive.of_isDigit {c : Char} (digit : c.isDigit = true) (rest : List Char) :
    Distinctive (c :: rest) := by
  have marks : ∀ mark ∈ "(),*. as\"\x60".toList, (!mark.isDigit) = true :=
    List.all_eq_true.1 (by decide)
  refine .cons (fun mem => ?_) rest
  have differs := marks c mem
  simp [digit] at differs

theorem Distinctive.toDigits (number : Nat) : Distinctive (Nat.toDigits 10 number) := by
  obtain ⟨c, rest, same⟩ := List.exists_cons_of_ne_nil (Nat.toDigits_ne_nil (b := 10) (n := number))
  have digit := Nat.isDigit_of_mem_toDigits (b := 10) (n := number) (by decide) (by decide)
    (same ▸ List.mem_cons_self)
  rw [same]
  exact .of_isDigit digit rest

namespace Number

/-- The digits of a shortest decimal are digits. -/
theorem isDigit_shortest (tie : Tie) (mantissa : Nat) (exponent : Int) :
    ∀ c ∈ (shortest tie mantissa exponent).digits, c.isDigit = true := by
  intro c mem
  unfold shortest at mem
  dsimp only at mem
  split at mem
  · rename_i places count _
    have inside : c ∈ Nat.toDigits 10 count := by
      have mem := List.mem_reverse.1 mem
      exact List.mem_reverse.1 ((List.dropWhile_sublist _).subset mem)
    exact Nat.isDigit_of_mem_toDigits (by decide) (by decide) inside
  · obtain rfl := List.mem_singleton.1 mem
    decide

/-- Positional notation starts with a digit. -/
theorem Decimal.distinctive_positionalText {decimal : Decimal}
    (digits : ∀ c ∈ decimal.digits, c.isDigit = true) :
    Distinctive (decimal.positionalText false) := by
  have zero (rest : List Char) : Distinctive ('0' :: rest) := .of_isDigit (by decide) rest
  unfold positionalText
  dsimp only
  split
  · exact zero _
  · rename_i positive
    cases same : decimal.digits with
    | nil =>
        obtain ⟨count, point⟩ : ∃ count, decimal.point.toNat = count + 1 :=
          ⟨decimal.point.toNat - 1, by omega⟩
        have within : (0 : Int) ≤ decimal.point := by omega
        simpa [within, point, List.replicate_succ] using zero _
    | cons c rest =>
        have digit := digits c (same ▸ List.mem_cons_self)
        obtain ⟨count, point⟩ : ∃ count, decimal.point.toNat = count + 1 :=
          ⟨decimal.point.toNat - 1, by omega⟩
        split
        · exact .of_isDigit digit _
        · rw [point]
          exact .of_isDigit digit _

/-- A finite number starts with a digit or a minus sign. -/
theorem Layout.distinctive_plain {number : Double} (finite : number.isFinite = true) :
    Distinctive (Layout.plain.text number).toList := by
  have signed {chars : List Char} (head : Distinctive chars) :
      Distinctive ((if number.isNegative then ['-'] else []) ++ chars) := by
    split
    · exact .cons (by decide) chars
    · exact head
  unfold Layout.text
  unfold Double.isFinite at finite
  cases same : number.magnitude with
  | finite mantissa exponent =>
      dsimp only
      split
      · rw [String.toList_ofList]
        exact signed (.of_isDigit (by decide) _)
      · rw [String.toList_ofList]
        exact signed (Decimal.distinctive_positionalText (isDigit_shortest _ _ _))
      · rename_i given
        cases given
      · rename_i given
        cases given
  | infinite =>
      rw [same] at finite
      cases finite
  | undefined payload =>
      rw [same] at finite
      cases finite

end Number

namespace Connection

variable {connection : Connection} {value : Scalar} {literal : String}

theorem distinctive_quoteText {text : String}
    (quoted : connection.quoteText text = .ok literal) : Distinctive literal.toList := by
  unfold quoteText at quoted
  split at quoted
  · cases quoted
  · cases quoted
    rw [String.append_assoc, String.toList_append]
    exact .cons (c := '\'') (by decide) _

/-- Every literal starts with a quote, a digit, a minus sign or a letter that opens no name. -/
theorem distinctive_quote (quoted : connection.quote value = .ok literal) :
    Distinctive literal.toList := by
  unfold quote at quoted
  split at quoted
  · cases quoted
  · cases value with
    | null =>
        cases quoted
        exact .cons (by decide) _
    | bool value =>
        cases quoted
        unfold Grammar.booleanLiteral
        cases connection.grammar.hasBooleans <;> cases value <;> exact .cons (by decide) _
    | int value =>
        cases quoted
        cases value.toInt with
        | ofNat number =>
            change Distinctive (Nat.repr number).toList
            rw [Nat.toList_repr]
            exact .toDigits number
        | negSucc number =>
            change Distinctive ("-" ++ Nat.repr (number + 1)).toList
            rw [String.toList_append]
            exact .cons (c := '-') (by decide) _
    | float value =>
        unfold Connection.literal at quoted
        dsimp only at quoted
        split at quoted
        · rename_i finite
          cases quoted
          exact Number.Layout.distinctive_plain finite
        · cases quoted
    | text value => exact distinctive_quoteText quoted
    | bytes value =>
        cases quoted
        unfold Grammar.bytesLiteral
        cases connection.grammar.octets with
        | hexString =>
            rw [String.append_assoc, String.toList_append]
            exact .cons (c := 'X') (by decide) _
        | byteaCast =>
            simp only [String.toList_append, List.append_assoc]
            exact .cons (c := '\'') (by decide) _
    | timestamp value => exact distinctive_quoteText quoted
    | uuid value => exact distinctive_quoteText quoted
    | json value => exact distinctive_quoteText quoted

end Connection

end SqlBuilder
