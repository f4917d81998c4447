import SqlBuilder.Proofs.Expr.Equation
import SqlBuilder.Proofs.Query.KeyTree
import SqlBuilder.Proofs.Statement.Literal

/-!
# Texts that are no parenthesis

A fragment whose text is just an opening parenthesis opens a group. No text does that by chance:
those of names, values, expressions and predicates hold something else, whatever they are made of.
Only SQL text and user-defined expressions can be anything.
-/

namespace SqlBuilder

open Compile (Yields)

theorem ne_opening {text : String} {c : Char} (mem : c ∈ text.toList) (other : c ≠ '(') :
    text ≠ "(" := by
  rintro rfl
  exact other (List.mem_singleton.1 mem)

theorem ne_opening_of_distinctive {text : String} (distinctive : Distinctive text.toList) :
    text ≠ "(" := by
  obtain ⟨c, rest, shape, other⟩ := distinctive
  refine ne_opening (c := c) (by simp [shape]) ?_
  rintro rfl
  exact other (by decide)

theorem callText_ne_opening (name arguments : String) : callText name arguments ≠ "(" :=
  ne_opening (c := ')') (by simp [callText]) (by decide)

/-! ### Names -/

namespace Identifier

theorem quote_ne_opening (quotes : Quotes) (body : List Char) : quote quotes body ≠ ['('] := by
  intro same
  have length := congrArg List.length same
  simp [quote] at length

theorem escapeSegment_ne (quotes : Quotes) (segment : Segment) :
    escapeSegment quotes segment ≠ ['('] ∧ escapeSegment quotes segment ≠ [] := by
  have quoted (body : List Char) : quote quotes body ≠ ['('] ∧ quote quotes body ≠ [] :=
    ⟨quote_ne_opening quotes body, by simp [quote]⟩
  unfold escapeSegment
  split
  · decide
  · exact quoted _
  · exact quoted _

theorem escapeQualified_ne_opening (quotes : Quotes) (separator name : List Char) :
    escapeQualified quotes separator name ≠ ['('] := by
  unfold escapeQualified
  split
  · exact quote_ne_opening quotes name
  · rename_i segments _
    cases segments with
    | nil => simp [List.intercalate]
    | cons first rest =>
        obtain ⟨other, some⟩ := escapeSegment_ne quotes first
        intro same
        have start : escapeSegment quotes first <+: ['('] := by
          rw [← same, List.map_cons, List.intercalate]
          cases rest <;> simp
        rcases List.prefix_cons_iff.1 start with empty | ⟨tail, shape, short⟩
        · exact some empty
        · rw [List.prefix_nil.1 short] at shape
          exact other shape

theorem escape_ne_opening (quotes : Quotes) (separator chars : List Char) :
    escape quotes separator chars ≠ ['('] := by
  rw [escape]
  split
  · intro same
    have length := congrArg List.length same
    simp at length
    omega
  · exact escapeQualified_ne_opening quotes separator _

end Identifier

theorem Grammar.escapeIdentifier_ne_opening (grammar : Grammar) (name : String) :
    grammar.escapeIdentifier name ≠ "(" := by
  intro same
  have chars := congrArg String.toList same
  rw [escapeIdentifier, String.toList_ofList] at chars
  exact Identifier.escape_ne_opening _ _ _ chars

theorem Query.escapeAs_ne_opening (query : Query) (name : String) (label : Option String) :
    query.escapeAs name label ≠ "(" := by
  cases label with
  | none => exact query.connection.grammar.escapeIdentifier_ne_opening name
  | some label => exact ne_opening (c := ' ') (by simp [escapeAs]) (by decide)

/-! ### Values -/

theorem Ledger.literalOr_ne_opening (connection : Connection) {standIn : String}
    (other : standIn ≠ "(") (value : Scalar) (ledger : Ledger) :
    (ledger.literalOr connection standIn value).1 ≠ "(" := by
  unfold literalOr
  split
  · rename_i quoted
    exact ne_opening_of_distinctive (Connection.distinctive_quote quoted)
  · exact other
  · exact other

theorem Ledger.bind_ne_opening (connection : Connection) (value : Scalar) (ledger : Ledger) :
    (ledger.bind connection value).1 ≠ "(" := by
  unfold bind
  split
  · exact ne_opening (c := ':') (by simp [ParamList.push, Param.placeholder]) (by decide)
  · exact literalOr_ne_opening connection (by decide) value ledger

namespace Compile

variable {α : Type} {property : α → Prop}

theorem Yields.pure {value : α} (holds : property value) :
    Yields (pure value : Compile α) property :=
  fun _ _ => holds

/-- Only the last step matters where it does so for whatever there was before. -/
theorem Yields.after {β : Type} {action : Compile β} {next : β → Compile α}
    (holds : ∀ value, Yields (next value) property) : Yields (action >>= next) property :=
  fun _ _ => holds _ _ _

end Compile

theorem Backing.compile_yields (connection : Connection) (backing : Backing) :
    Yields (backing.compile connection) (· ≠ "(") := by
  cases backing with
  | text literal =>
      exact fun ledger _ =>
        Ledger.literalOr_ne_opening connection (by decide) (.text literal) ledger
  | int number =>
      have quoted : (Connection.ofConfig {}).quote (.int number) =
          .ok (toString number.toInt) := rfl
      exact .pure (ne_opening_of_distinctive (Connection.distinctive_quote quoted))

/-- No expression is a parenthesis. -/
theorem Expr.compile_yields (connection : Connection) (expr : Expr Query CustomExpr) :
    Yields (expr.compile connection) (· ≠ "(") := by
  have called (name arguments : String) : Yields (pure (callText name arguments)) (· ≠ "(") :=
    .pure (callText_ne_opening name arguments)
  have spaced {text : String} (blank : ' ' ∈ text.toList) : Yields (pure text) (· ≠ "(") :=
    .pure (ne_opening blank (by decide))
  -- A construct that the dialect lacks has the empty text.
  have absent : Yields (pure "") (· ≠ "(") := .pure (by decide)
  cases expr with
  | between lower upper =>
      rw [Expr.compile]
      exact .after fun _ => .after fun _ => spaced (by simp)
  | inList values =>
      obtain ⟨action, compiled⟩ := Expr.exists_compile_inList connection values
      rw [compiled, ← bind_pure_comp]
      exact .after fun _ => called _ _
  | isNull =>
      rw [Expr.compile]
      exact .pure (by decide)
  | «exists» nested =>
      rw [Expr.compile]
      exact .after fun _ => called _ _
  | not inner =>
      by_cases null : inner = .isNull
      case pos =>
        rw [null, Expr.compile]
        exact .pure (by decide)
      case neg =>
        rw [Expr.compile_not connection inner null]
        exact .after fun _ => spaced (by simp)
  | call name arguments =>
      rw [Expr.compile]
      exact .after fun _ => called _ _
  | aggregate name arguments distinct =>
      rw [Expr.compile]
      exact .after fun _ => called _ _
  | groupConcat value distinct order separator limit offset =>
      rw [Expr.compile]
      refine .after fun supported => ?_
      cases supported with
      | false => exact absent
      | true => exact .after fun _ => .after fun _ => .after fun _ => called _ _
  | ifElse condition yes no =>
      rw [Expr.compile]
      refine .after fun _ => .after fun _ => .after fun _ => ?_
      split
      · exact called _ _
      · exact spaced (by simp)
  | ifNull value fallback =>
      rw [Expr.compile]
      exact .after fun _ => .after fun _ => called _ _
  | nullIf value other =>
      rw [Expr.compile]
      exact .after fun _ => .after fun _ => called _ _
  | matchAgainst fields search booleanMode queryExpansion =>
      rw [Expr.compile]
      refine .after fun supported => ?_
      cases supported with
      | false => exact absent
      | true => exact .after fun _ => .after fun _ => spaced (by simp [callText])
  | operation lhs operator rhs =>
      rw [Expr.compile]
      exact .after fun _ => .after fun _ => called _ _
  | nested nested =>
      rw [Expr.compile]
      exact .after fun _ => called _ _
  | assign name nested =>
      rw [Expr.compile]
      exact .after fun _ => .after fun _ => spaced (by simp [callText])
  | cast value type =>
      rw [Expr.compile]
      exact .after fun _ => called _ _

/-! ### Operands and predicates -/

/-- Whether an operand is SQL text or a user-defined expression. -/
def Operand.isVerbatim : Value → Bool
  | .raw _ | .custom _ => true
  | _ => false

/-- Whether no side of a predicate is SQL text or a user-defined expression. -/
def Predicate.IsPlain (predicate : Predicate Query CustomExpr) : Prop :=
  ∀ operand ∈ predicate.operands, operand.isVerbatim = false

/-- No operand is a parenthesis, unless it can be anything. -/
theorem Operand.resolve_yields (connection : Connection) {operand : Value}
    (plain : operand.isVerbatim = false) : Yields (operand.resolve connection) (· ≠ "(") := by
  cases operand with
  | raw sql => cases plain
  | custom own => cases plain
  | scalar value => exact fun ledger _ => Ledger.bind_ne_opening connection value ledger
  | column name =>
      change Yields (Operand.compile connection _) _
      rw [Operand.compile]
      exact .pure (connection.grammar.escapeIdentifier_ne_opening name)
  | backing value =>
      change Yields (Operand.compile connection _) _
      rw [Operand.compile]
      exact value.compile_yields connection
  | expr expr =>
      change Yields (Operand.compile connection _) _
      rw [Operand.compile]
      exact expr.compile_yields connection
  | query nested =>
      change Yields (Operand.compile connection _) _
      rw [Operand.compile]
      exact .after fun _ => .pure (callText_ne_opening _ _)

/-- No predicate is a parenthesis: two operands have a blank between them. -/
theorem Predicate.compile_yields (connection : Connection)
    {predicate : Predicate Query CustomExpr} (plain : predicate.IsPlain) :
    Yields (predicate.compile connection) (· ≠ "(") := by
  have spaced {text : String} (blank : ' ' ∈ text.toList) : Yields (pure text) (· ≠ "(") :=
    .pure (ne_opening blank (by decide))
  cases predicate with
  | single operand => exact Operand.resolve_yields connection (plain operand (by simp [operands]))
  | pair lhs rhs =>
      unfold compile
      refine .after fun _ => ?_
      split
      · exact .after fun _ => spaced (by simp)
      · split
        · exact spaced (by simp)
        · exact .after fun _ => spaced (by simp)
  | compare lhs comparator rhs =>
      unfold compile
      exact .after fun _ => .after fun _ => spaced (by simp)

theorem Predicate.hasRows_isPlain (nested : Query) :
    (hasRows nested : Predicate Query CustomExpr).IsPlain :=
  List.forall_mem_singleton.2 rfl

/-- Nothing that a predicate without user-defined expressions adds runs steps of its own. -/
theorem Predicate.IsPlain.hookFree {predicate : Predicate Query CustomExpr}
    (plain : predicate.IsPlain) : predicate.HookFree := by
  intro custom mem
  obtain ⟨operand, present, found⟩ := List.mem_filterMap.1 mem
  have calm := plain operand present
  cases operand with
  | custom own => cases calm
  | column _ | raw _ | scalar _ | backing _ | expr _ | query _ => cases found

/-- Membership in no values at all is a text of its own. -/
theorem Predicate.membership_yields (connection : Connection) (negated : Bool) {lhs : Value}
    (plain : lhs.isVerbatim = false) (values : List Value) :
    Yields ((membership negated lhs values).compile connection) (· ≠ "(") := by
  unfold membership
  split
  · cases negated <;> exact .pure (by decide)
  · refine compile_yields connection fun operand mem => ?_
    rcases List.mem_pair.1 mem with rfl | rfl
    · exact plain
    · rfl

theorem Predicate.membership_hookFree (negated : Bool) {lhs : Value}
    (plain : lhs.isVerbatim = false) (values : List Value) :
    (membership negated lhs values).HookFree := by
  unfold membership
  split
  · simp [HookFree, raw, customs, operands, Operand.custom?]
  · refine IsPlain.hookFree fun operand mem => ?_
    rcases List.mem_pair.1 mem with rfl | rfl
    · exact plain
    · rfl

end SqlBuilder
