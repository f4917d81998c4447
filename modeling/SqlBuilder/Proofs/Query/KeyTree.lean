import SqlBuilder.Proofs.Param.Appends
import SqlBuilder.Proofs.Query.Formula

/-!
# Look-ups by several keys

Rows are looked up by keys of several columns with a group of groups: one inner group for each key,
separated by `or`, of one predicate for each column, joined by `and`. The group is a tree of
conditions. Read as a formula it holds of the rows that have one of the keys.

Compiling the tree gives a text for each column of each key, and binds the scalars among the values
one key after the other.
-/

namespace SqlBuilder

/-! ### The group of a look-up -/

namespace Fragment

/-- Parentheses under a keyword. -/
def parenthesized (keyword : String) (inside : List Fragment) : List Fragment :=
  .withText keyword "(" :: (inside ++ [.token ")"])

/-- Predicates that are joined by `and`, at the start of a group. -/
def conjunction : List String → List Fragment
  | [] => []
  | first :: rest => .withText "" first :: rest.map (.withText "and")

/-- Groups of predicates that are separated by `or`, at the start of a group. -/
def disjunction : List (List String) → List Fragment
  | [] => []
  | first :: rest =>
    parenthesized "" (conjunction first) ++
      rest.flatMap fun texts => parenthesized "or" (conjunction texts)

/-- The group that looks up rows by keys, given the predicates of each key. -/
def keyLookup (keyword : String) (texts : List (List String)) : List Fragment :=
  parenthesized keyword (disjunction texts)

end Fragment

namespace TextTree

/-- The predicates of a key, as a group. -/
def ofKey (connective : Connective) (texts : List String) : TextTree :=
  .group connective (texts.map (.leaf .and))

/-- The groups of a look-up. -/
def ofKeys : List (List String) → List TextTree
  | [] => []
  | first :: rest => ofKey .and first :: rest.map (ofKey .or)

/-- A look-up by keys. -/
def keyLookup (texts : List (List String)) : TextTree := .group .and (ofKeys texts)

variable {texts : List String} {rows : List (List String)} {connective : Connective}

theorem fragmentsAll_leaves (texts : List String) :
    fragmentsAll none (texts.map (.leaf .and)) = texts.map (.withText "and") := by
  induction texts with
  | nil => rfl
  | cons text rest ih =>
      rw [List.map_cons, List.map_cons, fragmentsAll, ih]
      rfl

theorem survives_ofKey (some : texts ≠ []) : (ofKey connective texts).survives = true := by
  obtain ⟨first, rest, rfl⟩ := List.exists_cons_of_ne_nil some
  rfl

theorem connective_ofKey (some : texts ≠ []) :
    (ofKey connective texts).connective = connective := by
  obtain ⟨first, rest, rfl⟩ := List.exists_cons_of_ne_nil some
  cases connective <;> rfl

theorem fragments_ofKey (some : texts ≠ []) (keyword : String) :
    (ofKey connective texts).fragments keyword =
      Fragment.parenthesized keyword (Fragment.conjunction texts) := by
  obtain ⟨first, rest, rfl⟩ := List.exists_cons_of_ne_nil some
  rw [ofKey, fragments, List.map_cons, fragmentsAll, fragmentsAll_leaves]
  rfl

theorem fragmentsAll_further (some : ∀ texts ∈ rows, texts ≠ []) :
    fragmentsAll none (rows.map (ofKey .or)) =
      rows.flatMap fun texts => Fragment.parenthesized "or" (Fragment.conjunction texts) := by
  induction rows with
  | nil => rfl
  | cons first rest ih =>
      rw [List.forall_mem_cons] at some
      rw [List.map_cons, fragmentsAll, if_pos (survives_ofKey some.1), ih some.2,
        fragments_ofKey some.1, List.flatMap_cons]
      rfl

/-- The fragments of a look-up are those of its tree. -/
theorem fragments_keyLookup (some : ∀ texts ∈ rows, texts ≠ []) (keyword : String) :
    (keyLookup rows).fragments keyword = Fragment.keyLookup keyword rows := by
  cases rows with
  | nil => rfl
  | cons first rest =>
      rw [List.forall_mem_cons] at some
      rw [keyLookup, fragments, ofKeys, fragmentsAll, if_pos (survives_ofKey some.1),
        fragments_ofKey some.1, fragmentsAll_further some.2]
      rfl

theorem survives_keyLookup (some : ∀ texts ∈ rows, texts ≠ []) (keys : rows ≠ []) :
    (keyLookup rows).survives = true := by
  obtain ⟨first, rest, rfl⟩ := List.exists_cons_of_ne_nil keys
  rw [keyLookup, survives, ofKeys, anySurvives, survives_ofKey (some first List.mem_cons_self)]
  rfl

theorem connective_keyLookup (some : ∀ texts ∈ rows, texts ≠ []) :
    (keyLookup rows).connective = .and := by
  cases rows with
  | nil => rfl
  | cons first rest =>
      rw [List.forall_mem_cons] at some
      rw [keyLookup, connective, ofKeys, firstConnective, if_pos (survives_ofKey some.1),
        connective_ofKey some.1]

/-! ### The formula of a look-up -/

theorem chainAll_leaves (chain : Chain) (texts : List String) :
    ∃ last : Formula, chainAll (some chain) (texts.map (.leaf .and)) = some { chain with last } ∧
      ∀ truth, last.holds truth = (chain.last.holds truth && texts.all truth) := by
  induction texts generalizing chain with
  | nil => exact ⟨chain.last, rfl, fun truth => (Bool.and_true _).symm⟩
  | cons text rest ih =>
      obtain ⟨last, read, holds⟩ := ih { chain with last := .and chain.last (.predicate text) }
      refine ⟨last, read, fun truth => ?_⟩
      rw [holds, Formula.holds, Formula.holds, List.all_cons, Bool.and_assoc]

/-- A key is found where all its predicates hold. -/
theorem formula?_ofKey (connective : Connective) (some : texts ≠ []) : ∃ formula : Formula,
    (ofKey connective texts).formula? = .some formula ∧
      ∀ truth, formula.holds truth = texts.all truth := by
  obtain ⟨first, rest, rfl⟩ := List.exists_cons_of_ne_nil some
  obtain ⟨last, read, holds⟩ := chainAll_leaves { before := none, last := .predicate first } rest
  refine ⟨last, ?_, holds⟩
  rw [ofKey, formula?, List.map_cons, chainAll]
  exact congrArg (Option.map Chain.value) read

theorem chainAll_further (some : ∀ texts ∈ rows, texts ≠ []) (chain : Chain) :
    ∃ result : Chain, chainAll (.some chain) (rows.map (ofKey .or)) = .some result ∧
      ∀ truth, result.value.holds truth =
        (chain.value.holds truth || rows.any fun texts => texts.all truth) := by
  induction rows generalizing chain with
  | nil => exact ⟨chain, rfl, fun truth => (Bool.or_false _).symm⟩
  | cons first rest ih =>
      rw [List.forall_mem_cons] at some
      obtain ⟨formula, said, own⟩ := formula?_ofKey .or some.1
      obtain ⟨result, read, holds⟩ := ih some.2 { before := .some chain.value, last := formula }
      refine ⟨result, ?_, fun truth => ?_⟩
      · rw [List.map_cons, chainAll, said]
        exact read
      · rw [holds, Chain.value, Formula.holds, own, List.any_cons, Bool.or_assoc]

/-- Rows are found where one of the keys is. -/
theorem formula?_keyLookup (some : ∀ texts ∈ rows, texts ≠ []) (keys : rows ≠ []) :
    ∃ formula : Formula, (keyLookup rows).formula? = .some formula ∧
      ∀ truth, formula.holds truth = rows.any fun texts => texts.all truth := by
  obtain ⟨first, rest, rfl⟩ := List.exists_cons_of_ne_nil keys
  rw [List.forall_mem_cons] at some
  obtain ⟨formula, said, own⟩ := formula?_ofKey .and some.1
  obtain ⟨result, read, holds⟩ := chainAll_further some.2 { before := none, last := formula }
  refine ⟨result.value, ?_, fun truth => ?_⟩
  · rw [keyLookup, formula?, ofKeys, chainAll, said]
    exact congrArg (Option.map Chain.value) read
  · rw [holds, List.any_cons, ← own]
    rfl

theorem texts_ofKey (connective : Connective) (texts : List String) :
    (ofKey connective texts).texts = texts := by
  rw [ofKey, TextTree.texts]
  induction texts with
  | nil => rfl
  | cons first rest ih =>
      rw [List.map_cons, textsAll, ih]
      rfl

theorem texts_keyLookup (rows : List (List String)) : (keyLookup rows).texts = rows.flatten := by
  have further (rows : List (List String)) :
      textsAll (rows.map (ofKey .or)) = rows.flatten := by
    induction rows with
    | nil => rfl
    | cons first rest ih => rw [List.map_cons, textsAll, texts_ofKey, ih, List.flatten_cons]
  cases rows with
  | nil => rfl
  | cons first rest =>
      rw [keyLookup, TextTree.texts, ofKeys, textsAll, texts_ofKey, further, List.flatten_cons]

/-- Wherever a look-up is read, it says that all predicates of some key hold. -/
theorem read_keyLookup (some : ∀ texts ∈ rows, texts ≠ []) (keys : rows ≠ [])
    (closed : ∀ texts ∈ rows, "(" ∉ texts) : ∃ formula : Formula,
    (∀ truth, formula.holds truth = rows.any fun texts => texts.all truth) ∧
    ∀ reading keyword connective, Reading.connective? reading keyword = .some connective →
      (Fragment.keyLookup keyword rows).foldlM Reading.step reading =
        .some (reading.add connective formula) := by
  obtain ⟨formula, said, holds⟩ := formula?_keyLookup some keys
  refine ⟨formula, holds, fun reading keyword connective stands => ?_⟩
  rw [← fragments_keyLookup some]
  refine foldlM_fragments _ said ?_ stands
  rw [texts_keyLookup, List.mem_flatten]
  rintro ⟨texts, mem, opening⟩
  exact closed texts mem opening

end TextTree

/-! ### Compiling a look-up -/

/-- The predicate of a key column. -/
def keyText (connection : Connection) (column : String) : Value → Compile String
  | .scalar .null => return column ++ " is null"
  | .scalar value => return column ++ " = " ++ (← modifyGet (Ledger.bind connection value))
  | value => do
    let text ← value.resolve connection
    return if value.suppliesComparator then column ++ " " ++ text else column ++ " = " ++ text

/-- The predicates of a key, from the first column to the last. -/
def rowTexts (connection : Connection) : List String → List Value → Compile (List String)
  | column :: columns, value :: values => do
    let text ← keyText connection column value
    return text :: (← rowTexts connection columns values)
  | _, _ => return []

/-- The predicates of keys, one key after the other. -/
def keyTexts (connection : Connection) (columns : List String) :
    List (List Value) → Compile (List (List String))
  | [] => return []
  | row :: rest => do
    let texts ← rowTexts connection columns row
    return texts :: (← keyTexts connection columns rest)

namespace ConditionTree

/-- The conditions of a key. -/
def ofKey : List String → List Value → List ConditionTree
  | key :: keys, value :: values => .condition .and (.pair (.column key) value) :: ofKey keys values
  | _, _ => []

/-- The groups of a look-up. -/
def ofKeys (keys : List String) : List (List Value) → List ConditionTree
  | [] => []
  | row :: rest => .group .and (ofKey keys row) :: rest.map fun row => .group .or (ofKey keys row)

variable {connection : Connection} {keys : List String}

theorem compile_pair (connection : Connection) (key : String) (value : Value) :
    (Predicate.pair (.column key) value).compile connection =
      keyText connection (connection.grammar.escapeIdentifier key) value := by
  have other (value : Value) (notNull : value.isNullScalar = false) :
      (Predicate.pair (.column key) value).compile connection = (do
        let column := connection.grammar.escapeIdentifier key
        let text ← value.resolve connection
        return if value.suppliesComparator then column ++ " " ++ text
          else column ++ " = " ++ text) := by
    rw [Predicate.compile, notNull]
    cases value.suppliesComparator <;> rfl
  cases value with
  | scalar value => cases value <;> rfl
  | column _ | raw _ | backing _ | expr _ | query _ | custom _ => exact other _ rfl

theorem compileAll_ofKey (connection : Connection) (keys : List String) (values : List Value) :
    compileAll connection (ofKey keys values) = (do
      let texts ← rowTexts connection (keys.map connection.grammar.escapeIdentifier) values
      return texts.map (.leaf .and)) := by
  induction keys generalizing values with
  | nil => rfl
  | cons key keys ih =>
      cases values with
      | nil => rfl
      | cons value values =>
          rw [ofKey, compileAll, compile, compile_pair, ih, List.map_cons, rowTexts]
          simp only [bind_assoc, pure_bind]
          rfl

theorem compileAll_further (connection : Connection) (keys : List String)
    (rows : List (List Value)) :
    compileAll connection (rows.map fun row => .group .or (ofKey keys row)) = (do
      let texts ← keyTexts connection (keys.map connection.grammar.escapeIdentifier) rows
      return texts.map (TextTree.ofKey .or)) := by
  induction rows with
  | nil => rfl
  | cons row rest ih =>
      rw [List.map_cons, compileAll, compile, compileAll_ofKey, ih, keyTexts]
      simp only [bind_assoc, pure_bind, List.map_cons]
      rfl

/-- Compiling the tree of a look-up compiles its predicates one key after the other. -/
theorem compileAll_ofKeys (connection : Connection) (keys : List String)
    (rows : List (List Value)) :
    compileAll connection (ofKeys keys rows) = (do
      let texts ← keyTexts connection (keys.map connection.grammar.escapeIdentifier) rows
      return TextTree.ofKeys texts) := by
  cases rows with
  | nil => rfl
  | cons row rest =>
      rw [ofKeys, compileAll, compile, compileAll_ofKey, compileAll_further, keyTexts]
      simp only [bind_assoc, pure_bind]
      rfl

theorem predicatesAll_ofKey {values : List Value} {predicate : Predicate Query CustomExpr}
    (mem : predicate ∈ predicatesAll (ofKey keys values)) :
    ∃ key, ∃ value ∈ values, predicate = .pair (.column key) value := by
  induction keys generalizing values with
  | nil => cases mem
  | cons key keys ih =>
      cases values with
      | nil => cases mem
      | cons value values =>
          rcases List.mem_append.1 mem with own | others
          · exact ⟨key, value, List.mem_cons_self, List.mem_singleton.1 own⟩
          · obtain ⟨key, value, inside, same⟩ := ih others
            exact ⟨key, value, List.mem_cons_of_mem _ inside, same⟩

theorem predicatesAll_ofKeys {rows : List (List Value)} {predicate : Predicate Query CustomExpr}
    (mem : predicate ∈ predicatesAll (ofKeys keys rows)) :
    ∃ key, ∃ row ∈ rows, ∃ value ∈ row, predicate = .pair (.column key) value := by
  have further {rows : List (List Value)}
      (mem : predicate ∈ predicatesAll (rows.map fun row => .group .or (ofKey keys row))) :
      ∃ key, ∃ row ∈ rows, ∃ value ∈ row, predicate = .pair (.column key) value := by
    induction rows with
    | nil => cases mem
    | cons row rest ih =>
        rcases List.mem_append.1 mem with own | others
        · obtain ⟨key, found⟩ := predicatesAll_ofKey own
          exact ⟨key, row, List.mem_cons_self, found⟩
        · obtain ⟨key, row, inside, found⟩ := ih others
          exact ⟨key, row, List.mem_cons_of_mem _ inside, found⟩
  cases rows with
  | nil => cases mem
  | cons row rest =>
      rcases List.mem_append.1 mem with own | others
      · obtain ⟨key, found⟩ := predicatesAll_ofKey own
        exact ⟨key, row, List.mem_cons_self, found⟩
      · obtain ⟨key, row, inside, found⟩ := further others
        exact ⟨key, row, List.mem_cons_of_mem _ inside, found⟩

end ConditionTree

/-! ### The texts of a look-up -/

namespace Compile

variable {α β : Type} {property : α → Prop}

/-- Whether all results of compiling have a property. -/
def Yields (action : Compile α) (property : α → Prop) : Prop :=
  ∀ ledger workspace, property ((action.run ledger).run workspace).1.1

theorem Yields.bind {action : Compile α} {next : α → Compile β} {other : β → Prop}
    (first : Yields action property)
    (second : ∀ value, property value → Yields (next value) other) :
    Yields (action >>= next) other := fun ledger workspace =>
  second _ (first ledger workspace) _ _

end Compile

open Compile (Yields)

section Texts

variable {connection : Connection} {columns : List String}

/-- A predicate of a key is no parenthesis: it has a blank behind the column. -/
theorem keyText_yields (connection : Connection) (column : String) (value : Value) :
    Yields (keyText connection column value) (· ≠ "(") := by
  have apart (text : String) (blank : ' ' ∈ text.toList) : text ≠ "(" := by
    rintro rfl
    exact absurd blank (by decide)
  have plain {next : Compile String} {word : String} (blank : ' ' ∈ word.toList) :
      Yields (do return column ++ word ++ (← next)) (· ≠ "(") := fun _ _ =>
    apart _ (by
      change ' ' ∈ (column ++ word ++ _).toList
      simp [blank])
  have other (value : Value) : Yields (do
      let text ← value.resolve connection
      return if value.suppliesComparator then column ++ " " ++ text
        else column ++ " = " ++ text) (· ≠ "(") := by
    cases value.suppliesComparator with
    | true => exact plain (by decide)
    | false => exact plain (by decide)
  cases value with
  | scalar value =>
      cases value with
      | null => exact fun _ _ => apart (column ++ " is null") (by simp)
      | _ => exact plain (by decide)
  | column _ | raw _ | backing _ | expr _ | query _ | custom _ => exact other _

theorem rowTexts_yields {values : List Value} (arity : values.length = columns.length) :
    Yields (rowTexts connection columns values) fun texts =>
      texts.length = columns.length ∧ "(" ∉ texts := by
  induction columns generalizing values with
  | nil => exact fun _ _ => by cases values <;> exact ⟨rfl, List.not_mem_nil⟩
  | cons column columns ih =>
      obtain ⟨value, values, rfl⟩ := List.exists_cons_of_length_eq_add_one arity
      refine (keyText_yields connection column value).bind fun text apart => ?_
      refine (ih (Nat.succ.inj arity)).bind fun texts shape => fun _ _ => ?_
      exact ⟨congrArg (· + 1) shape.1, List.not_mem_cons_of_ne_of_not_mem (Ne.symm apart) shape.2⟩

/-- There is a text for each column of each key, and none is a parenthesis. -/
theorem keyTexts_yields {rows : List (List Value)}
    (arity : ∀ row ∈ rows, row.length = columns.length) :
    Yields (keyTexts connection columns rows) fun texts =>
      texts.length = rows.length ∧ ∀ row ∈ texts, row.length = columns.length ∧ "(" ∉ row := by
  induction rows with
  | nil => exact fun _ _ => ⟨rfl, List.forall_mem_nil _⟩
  | cons row rest ih =>
      rw [List.forall_mem_cons] at arity
      refine (rowTexts_yields arity.1).bind fun texts own => ?_
      refine (ih arity.2).bind fun more shape => fun _ _ => ?_
      exact ⟨congrArg (· + 1) shape.1, List.forall_mem_cons.2 ⟨own, shape.2⟩⟩

end Texts

/-! ### The parameters of a look-up -/

/-- The value that is bound for an operand on the right of an equality. -/
def Operand.bound? : Value → Option Scalar
  | .scalar .null => none
  | .scalar value => some value
  | _ => none

namespace Compile

variable {α β : Type} {scalars more : List Scalar} {only : Prop}

/-- Whether compiling binds scalars in order, maybe among other values, unless nothing but scalars
is bound. -/
def Binds (only : Prop) (action : Compile α) (scalars : List Scalar) : Prop :=
  ∀ ledger workspace, ∃ added : List Param,
    ((action.run ledger).run workspace).1.2.params.entries = ledger.params.entries ++ added ∧
      scalars.Sublist (added.map (·.value)) ∧ (only → added.map (·.value) = scalars)

namespace Binds

theorem pure (value : α) : Binds only (pure value) [] := fun _ _ =>
  ⟨[], (List.append_nil _).symm, List.Sublist.refl _, fun _ => rfl⟩

theorem bind {action : Compile α} {next : α → Compile β} (first : Binds only action scalars)
    (second : ∀ value, Binds only (next value) more) :
    Binds only (action >>= next) (scalars ++ more) := by
  intro ledger workspace
  obtain ⟨added, front, among, alone⟩ := first ledger workspace
  obtain ⟨others, behind, amongOthers, aloneOthers⟩ := second _
    ((action.run ledger).run workspace).1.2 ((action.run ledger).run workspace).2
  refine ⟨added ++ others, ?_, ?_, fun scalar => ?_⟩
  · rw [← List.append_assoc, ← front]
    exact behind
  · rw [List.map_append]
    exact among.append amongOthers
  · rw [List.map_append, alone scalar, aloneOthers scalar]

theorem map {action : Compile α} (binds : Binds only action scalars) (change : α → β) :
    Binds only (do return change (← action)) scalars := by
  have whole := binds.bind fun value => pure (change value)
  rwa [List.append_nil] at whole

end Binds

end Compile

open Compile (Binds)

section Parameters

variable {connection : Connection} {columns : List String} {only : Prop}

/-- A value that is a scalar is bound, unless it is null. -/
theorem keyText_binds (prepared : connection.config.prepared = true) (column : String)
    (value : Value) (customs : CustomsAppend connection value.leaves)
    (scalar : only → ∃ scalar, value = .scalar scalar) :
    Binds only (keyText connection column value) value.bound?.toList := by
  have other (noScalar : ¬only) : Binds only (do
      let text ← value.resolve connection
      return if value.suppliesComparator then column ++ " " ++ text
        else column ++ " = " ++ text) [] := by
    refine .map (fun ledger workspace => ?_) _
    obtain ⟨added, same⟩ := value.resolve_appends connection customs ledger workspace
    exact ⟨added, same.symm, List.nil_sublist _, fun is => absurd is noScalar⟩
  cases value with
  | scalar value =>
      have pushed : Binds only (modifyGet (Ledger.bind connection value)) [value] := by
        intro ledger workspace
        refine ⟨[{ name := ledger.params.nextName, value }], ?_, List.Sublist.refl _, fun _ => rfl⟩
        change (ledger.bind connection value).2.params.entries = _
        rw [Ledger.bind_of_prepared prepared]
        rfl
      cases value with
      | null => exact .pure _
      | _ => exact pushed.map _
  | column _ | raw _ | backing _ | expr _ | query _ | custom _ =>
      exact other fun is => by
        obtain ⟨scalar, same⟩ := scalar is
        cases same

theorem rowTexts_binds (prepared : connection.config.prepared = true) {values : List Value}
    (arity : values.length = columns.length)
    (customs : ∀ value ∈ values, CustomsAppend connection value.leaves)
    (scalars : only → ∀ value ∈ values, ∃ scalar, value = .scalar scalar) :
    Binds only (rowTexts connection columns values) (values.filterMap Operand.bound?) := by
  induction columns generalizing values with
  | nil =>
      rw [List.eq_nil_of_length_eq_zero arity]
      exact .pure _
  | cons column columns ih =>
      obtain ⟨value, values, rfl⟩ := List.exists_cons_of_length_eq_add_one arity
      rw [List.forall_mem_cons] at customs
      have first := keyText_binds prepared column value customs.1 fun is =>
        scalars is value List.mem_cons_self
      have others := ih (Nat.succ.inj arity) customs.2 fun is value mem =>
        scalars is value (List.mem_cons_of_mem _ mem)
      rw [List.filterMap_cons]
      have both := first.bind fun text => others.map (text :: ·)
      cases bound : value.bound? with
      | none =>
          rw [bound] at both
          exact both
      | some scalar =>
          rw [bound] at both
          exact both

/-- The scalars of keys are bound one key after the other. -/
theorem keyTexts_binds (prepared : connection.config.prepared = true) {rows : List (List Value)}
    (arity : ∀ row ∈ rows, row.length = columns.length)
    (customs : ∀ row ∈ rows, ∀ value ∈ row, CustomsAppend connection value.leaves)
    (scalars : only → ∀ row ∈ rows, ∀ value ∈ row, ∃ scalar, value = .scalar scalar) :
    Binds only (keyTexts connection columns rows) (rows.flatten.filterMap Operand.bound?) := by
  induction rows with
  | nil => exact .pure _
  | cons row rest ih =>
      rw [List.forall_mem_cons] at arity customs
      have first := rowTexts_binds prepared arity.1 customs.1 fun is =>
        scalars is row List.mem_cons_self
      have others := ih arity.2 customs.2 fun is row mem =>
        scalars is row (List.mem_cons_of_mem _ mem)
      rw [List.flatten_cons, List.filterMap_append]
      exact first.bind fun texts => others.map (texts :: ·)

end Parameters

end SqlBuilder
