import SqlBuilder.Proofs.Query.Formula

/-!
# Related rows

The existence of related rows asks for rows of another table whose column has the value of the row
at hand. That correlation is the first condition of the nested query, and what the callback asks for
stands behind it in the same clause, without parentheses around it. So the correlation holds of all
rows that the nested query finds as long as the callback only adds to it; one `or` outside of a
group makes an alternative to it, and then any row of the table will do.
-/

namespace SqlBuilder

/-- Whether a chain has one alternative, in which a predicate holds. -/
structure Chain.Guarded (text : String) (chain : Chain) : Prop where
  single : chain.before = none
  guard : ∀ truth, chain.last.holds truth = true → truth text = true

namespace TextTree

/-- Whether one of the items that have a condition is an alternative to what stands in front. -/
def anyAlternative (items : List TextTree) : Bool :=
  items.any fun item => item.survives && decide (item.connective = .or)

variable {items : List TextTree} {text : String} {chain : Chain}

/-- A guard stays where everything behind it goes on with the alternative in which it stands. -/
theorem guarded_chainAll (conjoined : anyAlternative items = false)
    (guarded : chain.Guarded text) :
    ∃ result, chainAll (some chain) items = some result ∧ result.Guarded text := by
  induction items generalizing chain with
  | nil => exact ⟨chain, rfl, guarded⟩
  | cons item rest ih =>
      rw [anyAlternative, List.any_cons, Bool.or_eq_false_iff, ← isSome_formula?] at conjoined
      obtain ⟨own, others⟩ := conjoined
      rw [chainAll]
      cases said : item.formula? with
      | none => exact ih others guarded
      | some formula =>
          have conjunct : item.connective = .and := by
            cases connective : item.connective with
            | and => rfl
            | or => simp [said, connective] at own
          refine ih others ⟨?_, fun truth holds => ?_⟩
          · rw [conjunct]
            exact guarded.single
          · rw [conjunct] at holds
            exact guarded.guard truth (Bool.and_eq_true_iff.1 holds).1

/-- Behind an alternative, the last alternative has only predicates from there on. -/
theorem free_chainAll (absent : text ∉ textsAll items)
    (free : anyAlternative items = true ∨ text ∉ chain.last.texts) :
    ∃ result, chainAll (some chain) items = some result ∧ text ∉ result.last.texts := by
  induction items generalizing chain with
  | nil => exact ⟨chain, rfl, free.resolve_left (by simp [anyAlternative])⟩
  | cons item rest ih =>
      rw [textsAll, List.mem_append, not_or] at absent
      rw [anyAlternative, List.any_cons, Bool.or_eq_true, ← isSome_formula?] at free
      rw [chainAll]
      cases said : item.formula? with
      | none =>
          rw [said] at free
          exact ih absent.2 (free.imp_left fun or => or.resolve_left (by simp))
      | some formula =>
          have new : text ∉ formula.texts := fun mem =>
            absent.1 (mem_texts_of_formula? item said mem)
          refine ih absent.2 ?_
          cases connective : item.connective with
          | or => exact .inr new
          | and =>
              rw [connective] at free
              refine (free.imp_left fun or => or.resolve_left (by simp)).imp_right fun front => ?_
              rw [Chain.extend, Formula.texts, List.mem_append, not_or]
              exact ⟨front, new⟩

end TextTree

/-- The formula that the conditions on the rows say. -/
def Query.filterFormula? (query : Query) : Option Formula :=
  Formula.read? (query.fragments.dropWhile (·.keyword != "where"))

/-- The condition by which rows are related to the row at hand. -/
def Query.correlation (query : Query) (link : RelationLink) : String :=
  query.escape link.related ++ " = " ++ query.escape link.own

/-- The chain that starts with the correlation. -/
def Query.correlated (query : Query) (link : RelationLink) : Chain :=
  { before := none, last := .predicate (query.correlation link) }

namespace Query

variable (query : Query) (link : RelationLink) (items : List ConditionTree) (workspace : Workspace)

/-- The query of the related rows when the calls of a callback are made, and what is left to the
calls after it. -/
def foundRows : Query × Workspace :=
  let related := (query.relatedRows link).run workspace
  let inside := ((ConditionTree.runAll items).run related.1).run related.2
  (inside.1.2, inside.2)

/-- What a callback asks for, compiled on the query of the related rows. -/
def askedTexts : List TextTree :=
  let related := (query.relatedRows link).run workspace
  (((ConditionTree.compileAll query.connection items).run related.1.ledger).run related.2).1.1

/-- The callback of an existence condition finds a query with the correlation alone. -/
theorem fragments_relatedRows : ((query.relatedRows link).run workspace).1.fragments =
    [{ keyword := "select", payload := some (.items ["1"]) },
      .withText "from" (query.escape link.table), .withText "where" (query.correlation link)] := by
  have text : query.escape link.related ++ " " ++ "=" ++ " " ++ query.escape link.own =
      query.correlation link := by
    have blanks : " " ++ ("=" ++ " ") = " = " := rfl
    rw [correlation, ← blanks, ← String.append_assoc, ← String.append_assoc]
  rw [run_relatedRows, ← text]
  rfl

theorem atRest_relatedRows : ((query.relatedRows link).run workspace).1.AtRest := by
  rw [run_relatedRows]
  exact ⟨rfl, rfl⟩

theorem connection_relatedRows :
    ((query.relatedRows link).run workspace).1.connection = query.connection := by
  rw [run_relatedRows]
  rfl

variable {items}

/-- What a callback asks for stands behind the correlation, each item under its connective. -/
theorem fragments_foundRows
    (hookFree : ∀ predicate ∈ ConditionTree.predicatesAll items, predicate.HookFree) :
    (query.foundRows link items workspace).1.fragments =
      [{ keyword := "select", payload := some (.items ["1"]) },
        .withText "from" (query.escape link.table),
        .withText "where" (query.correlation link)] ++
      TextTree.fragmentsAll none (query.askedTexts link items workspace) := by
  have rest := query.atRest_relatedRows link workspace
  have own := query.fragments_relatedRows link workspace
  obtain ⟨clause, ran⟩ := ConditionTree.runAll_eq items hookFree rest.cursor
    (by simp [rest.pending]) ((query.relatedRows link).run workspace).2
  have first : ((query.relatedRows link).run workspace).1.firstKeyword = none := by
    have filtered : ((query.relatedRows link).run workspace).1.hasClause "where" = true := by
      rw [hasClause, own]
      rfl
    rw [firstKeyword, filtered, if_pos rfl, rest.pending]
    rfl
  rw [foundRows]
  dsimp only
  rw [ran, connection_relatedRows]
  dsimp only [withConditions]
  rw [first, own]
  rfl

/-- The correlation starts the formula, and what the callback asks for goes on with it. -/
theorem filterFormula?_foundRows
    (hookFree : ∀ predicate ∈ ConditionTree.predicatesAll items, predicate.HookFree)
    (plain : "(" ∉ TextTree.textsAll (query.askedTexts link items workspace)) :
    (query.foundRows link items workspace).1.filterFormula? =
      (TextTree.chainAll (some (query.correlated link))
        (query.askedTexts link items workspace)).map (·.value) := by
  have correlated : query.correlation link ≠ "(" := by
    intro same
    have length := congrArg String.length same
    rw [correlation, String.length_append, String.length_append] at length
    have three : " = ".length = 3 := rfl
    have one : "(".length = 1 := rfl
    omega
  have starts : ({} : Reading).connective? "where" = some .and := rfl
  have read := TextTree.foldlM_fragmentsAll _ plain (some (query.correlated link)) [] none rfl
  rw [filterFormula?, fragments_foundRows query link workspace hookFree]
  change Formula.read? (.withText "where" (query.correlation link) ::
    TextTree.fragmentsAll none (query.askedTexts link items workspace)) = _
  rw [Formula.read?, List.foldlM_cons, Reading.step_predicate starts correlated]
  exact congrArg (Option.bind · _) read

end Query

/--
An existence condition asks for the rows that its callback leaves of the related ones. Whatever
values the predicates have, the rows are related if no condition of the callback stands as an
alternative outside of all groups. If one does, and the callback does not repeat the correlation,
there are values for which the conditions are met and the rows are not related.
-/
theorem Edit.filterHas_correlates {query : Query} {name : String} {link : RelationLink}
    (declared : query.relationLink name = .ok link) {items : List ConditionTree}
    (hookFree : ∀ predicate ∈ ConditionTree.predicatesAll items, predicate.HookFree)
    (workspace : Workspace)
    (plain : "(" ∉ TextTree.textsAll (query.askedTexts link items workspace)) :
    ((filterHas name (ConditionTree.runAll items)).run query).run workspace =
        (let rows := query.foundRows link items workspace
        let out := ((filter (.hasRows rows.1)).run query).run rows.2
        ((.ok (), out.1.2), out.2)) ∧
      ∃ formula, (query.foundRows link items workspace).1.filterFormula? = some formula ∧
        (TextTree.anyAlternative (query.askedTexts link items workspace) = false →
          ∀ truth, formula.holds truth = true → truth (query.correlation link) = true) ∧
        (TextTree.anyAlternative (query.askedTexts link items workspace) = true →
          query.correlation link ∉ TextTree.textsAll (query.askedTexts link items workspace) →
          ∃ truth, formula.holds truth = true ∧ truth (query.correlation link) = false) := by
  refine ⟨by rw [run_filterHas, declared]; rfl, ?_⟩
  rw [query.filterFormula?_foundRows link workspace hookFree plain]
  generalize query.askedTexts link items workspace = texts
  have said : (TextTree.chainAll (some (query.correlated link)) texts).isSome = true := by
    rw [TextTree.isSome_chainAll]
    rfl
  obtain ⟨result, chained⟩ := Option.isSome_iff_exists.1 said
  rw [chained]
  refine ⟨result.value, rfl, fun conjoined truth holds => ?_, fun alternative absent => ?_⟩
  · -- Without alternatives every step of the chain keeps the correlation as a conjunct.
    have guarded : (query.correlated link).Guarded (query.correlation link) :=
      ⟨rfl, fun _ holds => holds⟩
    obtain ⟨same, chained', guard⟩ := TextTree.guarded_chainAll conjoined guarded
    obtain rfl : result = same := Option.some.inj (chained.symm.trans chained')
    rw [Chain.value, guard.single] at holds
    exact guard.guard truth holds
  · -- The last alternative does not mention the correlation, so it holds where that one fails.
    have free : TextTree.anyAlternative texts = true ∨
        query.correlation link ∉ (query.correlated link).last.texts := .inl alternative
    obtain ⟨same, chained', free⟩ := TextTree.free_chainAll absent free
    obtain rfl : result = same := Option.some.inj (chained.symm.trans chained')
    refine ⟨(· != query.correlation link), result.holds_value ?_, by simp⟩
    exact Formula.holds_of_notMem free

/-- An alternative in a group of its own leaves the correlation alone. -/
theorem Edit.filterHas_correlates_grouped :
    let model : Model := Model.hasMany { table := "u", primaryKey := ["id"] } "posts" "p" "uid"
    let made := (Query.forModel (.ofConfig {}) model).run {}
    let link : RelationLink := { table := "p", related := "p.uid", own := "u.id" }
    let items : List ConditionTree :=
      [.group .and [.condition .and (.pair (.column "a") (.scalar (.int 1))),
        .condition .or (.pair (.column "b") (.scalar (.int 2)))]]
    let rows := (made.1.foundRows link items made.2).1
    made.1.relationLink "posts" = .ok link ∧
      rows.sql = "select 1 from \"p\" where \"p\".\"uid\" = \"u\".\"id\"" ++
        " and (\"a\" = :p2_0 or \"b\" = :p2_1)" ∧
      ∃ formula, rows.filterFormula? = some formula ∧
        ∀ truth, formula.holds truth = true → truth (made.1.correlation link) = true := by
  intro model made link items rows
  have hookFree : ∀ predicate ∈ ConditionTree.predicatesAll items, predicate.HookFree := by
    simp [items, ConditionTree.predicatesAll, ConditionTree.predicates, Predicate.HookFree,
      Predicate.customs, Predicate.operands, Operand.custom?]
  obtain ⟨-, formula, read, correlated, -⟩ := filterHas_correlates
    (rfl : made.1.relationLink "posts" = .ok link) hookFree made.2 (by decide +kernel)
  exact ⟨rfl, by decide +kernel, formula, read, correlated (by decide +kernel)⟩

/--
An alternative outside of groups is an alternative to the correlation: a row that meets it counts as
related, whatever its columns say.
-/
theorem Edit.filterHas_loses_correlation :
    let model : Model := Model.hasMany { table := "u", primaryKey := ["id"] } "posts" "p" "uid"
    let made := (Query.forModel (.ofConfig {}) model).run {}
    let link : RelationLink := { table := "p", related := "p.uid", own := "u.id" }
    let items : List ConditionTree :=
      [.condition .and (.pair (.column "a") (.scalar (.int 1))),
        .condition .or (.pair (.column "b") (.scalar (.int 2)))]
    let rows := (made.1.foundRows link items made.2).1
    made.1.relationLink "posts" = .ok link ∧
      rows.sql = "select 1 from \"p\" where \"p\".\"uid\" = \"u\".\"id\"" ++
        " and \"a\" = :p2_0 or \"b\" = :p2_1" ∧
      ∃ formula, rows.filterFormula? = some formula ∧
        ∃ truth, formula.holds truth = true ∧ truth (made.1.correlation link) = false := by
  intro model made link items rows
  refine ⟨rfl, by decide +kernel, .or (.and (.predicate (made.1.correlation link))
    (.predicate "\"a\" = :p2_0")) (.predicate "\"b\" = :p2_1"), by decide +kernel,
    (· == "\"b\" = :p2_1"), by decide +kernel, by decide +kernel⟩

end SqlBuilder
