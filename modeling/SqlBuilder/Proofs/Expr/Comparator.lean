import SqlBuilder.Proofs.Expr.Equation
import SqlBuilder.Query.Condition
import SqlBuilder.Query.Selection

/-!
# Comparators

An expression that brings its own comparator stands behind a column without an equals sign. It is
made of bounds, of a list or a query, or of the test for null, under any number of negations.

Compiling looks at one negation at a time and knows one special case, the negated test for null.
So a single negation gives the opposite comparator, but negations do not cancel: every further one
puts another word in front, and the text is no comparator any more although the expression still
says that it brings one.
-/

namespace SqlBuilder

/-- The texts that can stand behind a column as its comparator, and whether they are negated. -/
inductive ComparatorText : Bool → String → Prop
  | isNull : ComparatorText false "is null"
  | isNotNull : ComparatorText true "is not null"
  | inList (list : String) : ComparatorText false (callText "in " list)
  | notInList (list : String) : ComparatorText true ("not " ++ callText "in " list)
  | between (lower upper : String) :
      ComparatorText false ("between " ++ lower ++ " and " ++ upper)
  | notBetween (lower upper : String) :
      ComparatorText true ("not " ++ ("between " ++ lower ++ " and " ++ upper))

/-- Whether a text that starts like a comparator starts like a negated one. -/
def comparatorSign? : List Char → Option Bool
  | 'i' :: 's' :: ' ' :: 'n' :: c :: _ => some (c == 'o')
  | 'i' :: 'n' :: _ | 'b' :: _ => some false
  | 'n' :: 'o' :: 't' :: ' ' :: 'i' :: 'n' :: _ | 'n' :: 'o' :: 't' :: ' ' :: 'b' :: _ => some true
  | _ => none

namespace ComparatorText

variable {negated : Bool} {text : String}

/-- Whether a comparator is negated can be read off its first letters. -/
theorem sign (comparator : ComparatorText negated text) :
    comparatorSign? text.toList = some negated := by
  cases comparator <;> simp [comparatorSign?, callText]

theorem unique {negated' : Bool} (comparator : ComparatorText negated text)
    (comparator' : ComparatorText negated' text) : negated = negated' :=
  Option.some.inj (comparator.sign.symm.trans comparator'.sign)

end ComparatorText

namespace Expr

variable {Nested Custom : Type}

/-- The number of negations around the expression. -/
def negations : Expr Nested Custom → Nat
  | .not inner => inner.negations + 1
  | _ => 0

/-- The expression without the negations around it. -/
def base : Expr Nested Custom → Expr Nested Custom
  | .not inner => inner.base
  | expr => expr

/-- Whether the expression is the test for null. -/
def testsNull : Expr Nested Custom → Bool
  | .isNull => true
  | _ => false

theorem base_of_negations_eq_zero {expr : Expr Nested Custom} (plain : expr.negations = 0) :
    expr.base = expr := by
  cases expr <;> first | rfl | simp [negations] at plain

theorem exists_not_of_negations {expr : Expr Nested Custom} {count : Nat}
    (more : expr.negations = count + 1) : ∃ inner, expr = .not inner ∧ inner.negations = count := by
  cases expr with
  | not inner => exact ⟨inner, rfl, Nat.succ.inj more⟩
  | _ => cases more

theorem base_ne_not (expr inner : Expr Nested Custom) : expr.base ≠ .not inner := by
  induction count : expr.negations generalizing expr with
  | zero =>
      rw [base_of_negations_eq_zero count]
      rintro rfl
      cases count
  | succ less ih =>
      obtain ⟨under, rfl, fewer⟩ := exists_not_of_negations count
      exact ih under fewer

theorem suppliesComparator_base (expr : Expr Nested Custom) :
    expr.base.suppliesComparator = expr.suppliesComparator := by
  induction count : expr.negations generalizing expr with
  | zero => rw [base_of_negations_eq_zero count]
  | succ less ih =>
      obtain ⟨inner, rfl, fewer⟩ := exists_not_of_negations count
      exact ih inner fewer

/-- The text of an expression under a number of negations. They are put in front one by one. -/
def negatedText (testsNull : Bool) (plain : String) : Nat → String
  | 0 => plain
  | 1 => if testsNull then "is not null" else "not " ++ plain
  | count + 2 => "not " ++ negatedText testsNull plain (count + 1)

variable {connection : Connection}

/-- Compiling puts the words of the negations in front of what is under them. -/
theorem compile_eq (expr : Expr Query CustomExpr) :
    expr.compile connection =
      (negatedText expr.base.testsNull · expr.negations) <$> expr.base.compile connection := by
  induction count : expr.negations generalizing expr with
  | zero =>
      rw [base_of_negations_eq_zero count]
      exact (id_map _).symm
  | succ less ih =>
      obtain ⟨inner, rfl, fewer⟩ := exists_not_of_negations count
      have known : (Expr.not inner).base = inner.base := rfl
      cases null : inner.testsNull with
      | true =>
          cases inner with
          | isNull =>
              subst less
              rfl
          | _ => cases null
      | false =>
          have other : inner ≠ .isNull := by
            rintro rfl
            cases null
          rw [compile_not connection inner other, bind_pure_comp, ih inner fewer, known,
            Functor.map_map]
          cases less with
          | zero =>
              rw [base_of_negations_eq_zero fewer, null]
              rfl
          | succ less => rfl

theorem base_cases (connection : Connection) {expr : Expr Query CustomExpr}
    (supplies : expr.suppliesComparator = true) :
    expr.base = .isNull ∨ expr.base.testsNull = false ∧
      ∀ ledger workspace, (∃ list,
        (((expr.base.compile connection).run ledger).run workspace).1.1 = callText "in " list) ∨
        ∃ lower upper, (((expr.base.compile connection).run ledger).run workspace).1.1 =
          "between " ++ lower ++ " and " ++ upper := by
  rw [← suppliesComparator_base] at supplies
  cases shape : expr.base with
  | isNull => exact .inl rfl
  | not inner => exact absurd shape (expr.base_ne_not inner)
  | between lower upper => exact .inr ⟨rfl, fun ledger workspace => .inr ⟨_, _, rfl⟩⟩
  | inList values =>
      refine .inr ⟨rfl, fun ledger workspace => .inl ?_⟩
      obtain ⟨action, compiled⟩ := exists_compile_inList connection values
      rw [compiled]
      exact ⟨_, rfl⟩
  | _ =>
      rw [shape] at supplies
      cases supplies

/-- The text of an expression. -/
def textFor (expr : Expr Query CustomExpr) (connection : Connection) (ledger : Ledger)
    (workspace : Workspace) : String :=
  (((expr.compile connection).run ledger).run workspace).1.1

theorem textFor_eq (expr : Expr Query CustomExpr) (ledger : Ledger) (workspace : Workspace) :
    expr.textFor connection ledger workspace = negatedText expr.base.testsNull
      (expr.base.textFor connection ledger workspace) expr.negations := by
  rw [textFor, compile_eq]
  rfl

/-- Two negations in front of each other are no comparator. -/
theorem not_comparator_of_negations (testsNull : Bool) (plain : String) (count : Nat)
    (negated : Bool) : ¬ComparatorText negated (negatedText testsNull plain (count + 2)) := by
  intro comparator
  have sign := comparator.sign
  cases count with
  | zero =>
      cases testsNull with
      | true => simp [negatedText, comparatorSign?] at sign
      | false => simp [negatedText, comparatorSign?] at sign
  | succ count => simp [negatedText, comparatorSign?] at sign

/-- Without negations the text is a comparator, and one negation gives the opposite one. -/
theorem comparator_of_negations {expr : Expr Query CustomExpr}
    (supplies : expr.suppliesComparator = true) (connection : Connection) (ledger : Ledger)
    (workspace : Workspace) (negated : Bool) :
    ComparatorText negated (negatedText expr.base.testsNull
      (expr.base.textFor connection ledger workspace) negated.toNat) := by
  rcases base_cases connection supplies with null | ⟨other, texts⟩
  · rw [null]
    cases negated with
    | false => exact .isNull
    | true => exact .isNotNull
  · rw [other]
    rcases texts ledger workspace with ⟨list, text⟩ | ⟨lower, upper, text⟩
    · rw [textFor, text]
      cases negated with
      | false => exact .inList list
      | true => exact .notInList list
    · rw [textFor, text]
      cases negated with
      | false => exact .between lower upper
      | true => exact .notBetween lower upper

/-- The sign that a comparator shows is what its number of negations stands for. -/
theorem negations_of_comparator {expr : Expr Query CustomExpr}
    (supplies : expr.suppliesComparator = true) {ledger : Ledger} {workspace : Workspace}
    {negated : Bool} {count : Nat} (comparator : ComparatorText negated (negatedText
      expr.base.testsNull (expr.base.textFor connection ledger workspace) count)) :
    count = negated.toNat := by
  have signed := comparator_of_negations supplies connection ledger workspace
  -- No text is a comparator of both signs, so the sign of the text tells the count.
  match count with
  | 0 => rw [comparator.unique (signed false), Bool.toNat_false]
  | 1 => rw [comparator.unique (signed true), Bool.toNat_true]
  | more + 2 => exact absurd comparator (not_comparator_of_negations _ _ more negated)

/--
An expression that supplies a comparator renders as one exactly if it is negated at most once, and
then as the negated one exactly if it is negated. The words of further negations are put in front,
whatever their number; the parameters are those of what is under them. Behind a column the text
stands as it is.
-/
theorem compile_comparator {expr : Expr Query CustomExpr}
    (supplies : expr.suppliesComparator = true) (connection : Connection) (ledger : Ledger)
    (workspace : Workspace) :
    let text := expr.textFor connection ledger workspace
    let plain := expr.base.textFor connection ledger workspace
    ComparatorText false plain ∧
    (∀ negated, ComparatorText negated text ↔ expr.negations = negated.toNat) ∧
    text = negatedText expr.base.testsNull plain expr.negations ∧
    (((expr.compile connection).run ledger).run workspace).1.2 =
      (((expr.base.compile connection).run ledger).run workspace).1.2 ∧
    (((expr.compile connection).run ledger).run workspace).2 =
      (((expr.base.compile connection).run ledger).run workspace).2 ∧
    ∀ lhs : Value, (Predicate.pair lhs (.expr expr)).compile connection = (do
      let lhs ← lhs.resolve connection
      return lhs ++ " " ++ (← expr.compile connection)) := by
  intro text plain
  have text_eq : text = negatedText expr.base.testsNull plain expr.negations :=
    expr.textFor_eq ledger workspace
  have signed := comparator_of_negations supplies connection ledger workspace
  refine ⟨signed false, fun negated => ⟨fun comparator => ?_, fun count => ?_⟩, text_eq, ?_, ?_, ?_⟩
  · rw [text_eq] at comparator
    exact negations_of_comparator supplies comparator
  · rw [text_eq, count]
    exact signed negated
  · rw [compile_eq]
    rfl
  · rw [compile_eq]
    rfl
  · intro lhs
    have known : (Operand.expr expr : Value).suppliesComparator = true := supplies
    simp only [Predicate.compile, known, if_true]
    rfl

/-- Membership in the rows of a query, negated once, is the opposite comparator. -/
theorem compile_comparator_query :
    let connection : Connection := .ofConfig {}
    let ledger : Ledger := { params := { namespaceId := 1 } }
    let nested : Query :=
      { (((Query.table connection "b").run {}).1) with
        ledger := { params := (({ namespaceId := 2 } : ParamList).push (.int 5)).2 } }
    let expr : Expr Query CustomExpr := .not (.inQuery nested)
    expr.suppliesComparator = true ∧
      expr.textFor connection ledger {} = "not in (select * from \"b\")" ∧
      ComparatorText true (expr.textFor connection ledger {}) ∧
      ¬ComparatorText false (expr.textFor connection ledger {}) := by
  intro connection ledger nested expr
  have supplies : expr.suppliesComparator = true := rfl
  obtain ⟨-, signs, text, -⟩ := compile_comparator supplies connection ledger {}
  refine ⟨supplies, ?_, (signs true).2 rfl, fun plain => ?_⟩
  · rw [text]
    decide +kernel
  · cases (signs false).1 plain

/-- The negated test for null, negated once more, says that it is a comparator and is none. -/
theorem compile_comparator_doubled :
    let connection : Connection := .ofConfig {}
    let ledger : Ledger := { params := { namespaceId := 1 } }
    let expr : Expr Query CustomExpr := .not (.not .isNull)
    expr.suppliesComparator = true ∧
      expr.textFor connection ledger {} = "not is not null" ∧
      (∀ negated, ¬ComparatorText negated (expr.textFor connection ledger {})) ∧
      (((Edit.filter (.pair (.column "x") (.expr expr))).run
        ((Query.table connection "a").run {}).1).run {}).1.2.sql =
        "select * from \"a\" where \"x\" not is not null" := by
  intro connection ledger expr
  refine ⟨rfl, rfl, fun negated comparator => ?_, by decide +kernel⟩
  have sign := comparator.sign
  have unread : comparatorSign? (expr.textFor connection ledger {}).toList = none := by
    decide +kernel
  rw [unread] at sign
  cases sign

end Expr

end SqlBuilder
