import SqlBuilder.Expr.Compile

/-!
# Lists, negations and inline values

Compiling treats one nested query in a list and the negated test for null apart. These are the
equations of the other lists and negations, and what all lists have in common. A value is a parameter
where statements are prepared, and a literal elsewhere.
-/

namespace SqlBuilder

/-- Where statements are prepared, a value is a parameter. -/
theorem Ledger.bind_of_prepared {connection : Connection}
    (prepared : connection.config.prepared = true) (value : Scalar) (ledger : Ledger) :
    ledger.bind connection value =
      ((ledger.params.push value).1, { ledger with params := (ledger.params.push value).2 }) :=
  if_pos prepared

/-- Where statements are not prepared, a value is written as a literal. -/
theorem Ledger.bind_of_inline {connection : Connection}
    (inline : connection.config.prepared = false) (value : Scalar) :
    Ledger.bind connection value = Ledger.literalOr connection "null" value := by
  funext ledger
  rw [Ledger.bind, inline, if_neg Bool.false_ne_true]

/-- A list of values that is not one nested query is compiled item by item. -/
theorem Expr.compile_inList (connection : Connection) (first : Value) (rest : List Value)
    (other : ∀ nested, first :: rest ≠ [.query nested]) :
    Expr.compile connection (.inList (first :: rest)) = (do
      let values ← Operand.compileAll connection (first :: rest)
      return callText "in "
        (String.intercalate connection.grammar.columnSeparator values) : Compile String) := by
  rw [Expr.compile]
  · simp
  · exact other

/-- Whatever it is made of, a list stands in parentheses. -/
theorem Expr.exists_compile_inList (connection : Connection) (values : List Value) :
    ∃ action : Compile String,
      (Expr.inList values).compile connection = callText "in " <$> action := by
  match values with
  | [] => exact ⟨pure "null", rfl⟩
  | first :: rest =>
      by_cases single : ∃ nested, first :: rest = [.query nested]
      case pos =>
        obtain ⟨nested, rfl, rfl⟩ := single
        exact ⟨modifyGet (Ledger.embed nested), by simp only [Expr.compile, bind_pure_comp]⟩
      case neg =>
        rw [compile_inList connection first rest fun nested same => single ⟨nested, same⟩]
        refine ⟨String.intercalate connection.grammar.columnSeparator <$>
          Operand.compileAll connection (first :: rest), ?_⟩
        rw [Functor.map_map, bind_pure_comp]

/-- A negation writes `not`, unless it negates the test for null. -/
theorem Expr.compile_not (connection : Connection) (inner : Expr Query CustomExpr)
    (other : inner ≠ .isNull) :
    Expr.compile connection (.not inner) = (do
      return "not " ++ (← inner.compile connection) : Compile String) := by
  rw [Expr.compile]
  exact other

end SqlBuilder
