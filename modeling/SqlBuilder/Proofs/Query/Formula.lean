import SqlBuilder.Proofs.Query.ConditionTree

/-!
# Conditions as formulas

What the fragments of a clause of conditions say. They are one flat sequence of connectives,
predicates and parentheses, and a database reads it as a boolean formula in which `and` binds
tighter than `or`. Reading goes from left to right and keeps one chain for each open parenthesis:
the alternatives that are complete, and the last one, which `and` goes on with.

A tree of texts has a formula of its own, in which the items of a group are put together in the same
way. Reading the fragments of the tree gives that formula, provided that no text is an opening
parenthesis: that fragment could not be told from the start of a group.
-/

namespace SqlBuilder

/-- A boolean formula over predicates, each of which is its text. -/
inductive Formula where
  | predicate (text : String)
  | and (left right : Formula)
  | or (left right : Formula)
  deriving DecidableEq, Repr

namespace Formula

/-- The value of a formula under values of its predicates. -/
def holds (truth : String → Bool) : Formula → Bool
  | .predicate text => truth text
  | .and left right => left.holds truth && right.holds truth
  | .or left right => left.holds truth || right.holds truth

/-- The predicates of a formula from left to right. -/
def texts : Formula → List String
  | .predicate text => [text]
  | .and left right => left.texts ++ right.texts
  | .or left right => left.texts ++ right.texts

/-- A formula needs no predicate that it does not have. -/
theorem holds_of_notMem {text : String} {formula : Formula} (absent : text ∉ formula.texts) :
    formula.holds (· != text) = true := by
  induction formula with
  | predicate other =>
      rw [texts, List.mem_singleton] at absent
      exact bne_iff_ne.2 fun same => absent same.symm
  | and left right first second =>
      rw [texts, List.mem_append, not_or] at absent
      rw [holds, first absent.1, second absent.2, Bool.and_self]
  | or left right first _ =>
      rw [texts, List.mem_append, not_or] at absent
      rw [holds, first absent.1, Bool.true_or]

end Formula

/-- Alternatives, the last of which goes on. -/
structure Chain where
  /-- The disjunction of the alternatives that are complete. -/
  before : Option Formula
  last : Formula
  deriving DecidableEq, Repr

namespace Chain

/-- The disjunction of all alternatives. -/
def value (chain : Chain) : Formula :=
  match chain.before with
  | none => chain.last
  | some before => .or before chain.last

/-- One more formula: `and` goes on with the last alternative, `or` starts another. -/
def extend (connective : Connective) (formula : Formula) : Option Chain → Chain
  | none => { before := none, last := formula }
  | some chain =>
    match connective with
    | .and => { chain with last := .and chain.last formula }
    | .or => { before := some chain.value, last := formula }

/-- A chain holds where its last alternative does. -/
theorem holds_value (chain : Chain) {truth : String → Bool}
    (holds : chain.last.holds truth = true) : chain.value.holds truth = true := by
  unfold value
  split
  · exact holds
  · rw [Formula.holds, holds, Bool.or_true]

/-- Going on with a chain brings no predicates but those of the formula. -/
theorem mem_texts_extend {connective : Connective} {formula : Formula} {chain : Option Chain}
    {text : String} (mem : text ∈ (extend connective formula chain).value.texts) :
    (∃ before, chain = some before ∧ text ∈ before.value.texts) ∨ text ∈ formula.texts := by
  match chain, connective with
  | none, _ => exact .inr mem
  | some ⟨none, last⟩, .and => simpa [extend, value, Formula.texts] using mem
  | some ⟨some before, last⟩, .and =>
      simpa [extend, value, Formula.texts, or_assoc] using mem
  | some chain, .or => simpa [extend, value, Formula.texts] using mem

end Chain

/-- How far a clause is read. -/
structure Reading where
  /-- What was read behind the innermost open parenthesis. -/
  chain : Option Chain := none
  /-- What was read in front of the open parentheses, with the connectives that they have. -/
  around : List (Option Chain × Connective) := []
  deriving DecidableEq, Repr

namespace Reading

/-- The connective that a keyword stands for. The first predicate of the clause has the keyword of
the clause, the first one behind a parenthesis none. -/
def connective? (reading : Reading) (keyword : String) : Option Connective :=
  match reading.chain with
  | none => if keyword = (if reading.around.isEmpty then "where" else "") then some .and else none
  | some _ => if keyword = "and" then some .and else if keyword = "or" then some .or else none

/-- One more formula behind what was read. -/
def add (reading : Reading) (connective : Connective) (formula : Formula) : Reading :=
  { reading with chain := some (Chain.extend connective formula reading.chain) }

/-- Reads a fragment, if it may stand here. -/
def step (reading : Reading) (fragment : Fragment) : Option Reading :=
  match fragment.payload with
  | some (.text text) => do
    let connective ← reading.connective? fragment.keyword
    if text = "(" then
      return { chain := none, around := (reading.chain, connective) :: reading.around }
    else return reading.add connective (.predicate text)
  | some (.items _) => none
  | none =>
    match reading.chain, reading.around with
    | some inside, (chain, connective) :: around =>
      if fragment.keyword = ")" then
        some { chain := some (Chain.extend connective inside.value chain), around }
      else none
    | _, _ => none

section

variable {reading : Reading} {keyword : String} {connective : Connective}
  (stands : reading.connective? keyword = some connective)

include stands

theorem step_predicate {text : String} (plain : text ≠ "(") :
    reading.step (.withText keyword text) = some (reading.add connective (.predicate text)) := by
  simp [step, Fragment.withText, stands, plain]

theorem step_opening : reading.step (.withText keyword "(") =
    some { chain := none, around := (reading.chain, connective) :: reading.around } := by
  simp [step, Fragment.withText, stands]

end

theorem step_closing (inside : Chain) (chain : Option Chain) (connective : Connective)
    (around : List (Option Chain × Connective)) :
    step { chain := some inside, around := (chain, connective) :: around } (.token ")") =
      some { chain := some (Chain.extend connective inside.value chain), around } := rfl

/-- Behind what was read an item has its own connective, in front of all else the keyword of the
clause or none. -/
theorem connective?_eq (chain : Option Chain) (around : List (Option Chain × Connective))
    (own : Connective) :
    ({ chain, around } : Reading).connective?
      (if chain.isSome then own.keyword else if around.isEmpty then "where" else "") =
      some (if chain.isSome then own else .and) := by
  cases chain with
  | none => simp [connective?]
  | some chain => cases own <;> rfl

end Reading

/-- The formula that the fragments of a clause say. -/
def Formula.read? (fragments : List Fragment) : Option Formula := do
  let reading ← fragments.foldlM Reading.step {}
  if reading.around.isEmpty then reading.chain.map (·.value) else none

namespace TextTree

mutual

/-- The formula of an item, if it has a condition. -/
def formula? : TextTree → Option Formula
  | .leaf _ text => some (.predicate text)
  | .group _ items => (chainAll none items).map (·.value)

/-- The formulas of items behind a chain, each with the connective of the item. -/
def chainAll (chain : Option Chain) : List TextTree → Option Chain
  | [] => chain
  | item :: rest =>
    match item.formula? with
    | none => chainAll chain rest
    | some formula => chainAll (some (Chain.extend item.connective formula chain)) rest

end

mutual

/-- The texts of an item from left to right. -/
def texts : TextTree → List String
  | .leaf _ text => [text]
  | .group _ items => textsAll items

/-- The texts of items from left to right. -/
def textsAll : List TextTree → List String
  | [] => []
  | item :: rest => item.texts ++ textsAll rest

end

mutual

/-- An item has a formula if it has a condition. -/
theorem isSome_formula? (tree : TextTree) : tree.formula?.isSome = tree.survives := by
  match tree with
  | .leaf _ _ => rfl
  | .group _ items =>
      rw [formula?, survives, Option.isSome_map, isSome_chainAll none items]
      rfl

theorem isSome_chainAll (chain : Option Chain) (items : List TextTree) :
    (chainAll chain items).isSome = (chain.isSome || anySurvives items) := by
  match items with
  | [] => simp [chainAll, anySurvives]
  | item :: rest =>
      have own := isSome_formula? item
      rw [chainAll, anySurvives, ← own]
      cases item.formula? with
      | none => exact isSome_chainAll chain rest
      | some formula => simp [isSome_chainAll _ rest]

end

mutual

/-- The formula of an item has the texts of the item for predicates. -/
theorem mem_texts_of_formula? (tree : TextTree) {formula : Formula}
    (said : tree.formula? = some formula) {text : String} (mem : text ∈ formula.texts) :
    text ∈ tree.texts := by
  match tree with
  | .leaf _ _ =>
      cases said
      exact mem
  | .group _ items =>
      obtain ⟨inside, chained, rfl⟩ := Option.map_eq_some_iff.1 said
      rcases mem_texts_of_chainAll items chained mem with ⟨before, none, -⟩ | inner
      · cases none
      · exact inner

theorem mem_texts_of_chainAll (items : List TextTree) {chain : Option Chain} {result : Chain}
    (chained : chainAll chain items = some result) {text : String}
    (mem : text ∈ result.value.texts) :
    (∃ before, chain = some before ∧ text ∈ before.value.texts) ∨ text ∈ textsAll items := by
  match items with
  | [] => exact .inl ⟨result, chained, mem⟩
  | item :: rest =>
      rw [chainAll] at chained
      rw [textsAll, List.mem_append]
      cases said : item.formula? with
      | none =>
          rw [said] at chained
          rcases mem_texts_of_chainAll rest chained mem with front | inner
          · exact .inl front
          · exact .inr (.inr inner)
      | some formula =>
          rw [said] at chained
          rcases mem_texts_of_chainAll rest chained mem with ⟨before, own, inside⟩ | inner
          · cases own
            rcases Chain.mem_texts_extend inside with front | own
            · exact .inl front
            · exact .inr (.inl (mem_texts_of_formula? item said own))
          · exact .inr (.inr inner)

end

/-! ### Reading the fragments of a tree -/

mutual

/-- The fragments of an item read as its formula, under the connective of its keyword. -/
theorem foldlM_fragments (tree : TextTree) {formula : Formula} (said : tree.formula? = some formula)
    (plain : "(" ∉ tree.texts) {reading : Reading} {keyword : String} {connective : Connective}
    (stands : reading.connective? keyword = some connective) :
    (tree.fragments keyword).foldlM Reading.step reading =
      some (reading.add connective formula) := by
  match tree with
  | .leaf _ text =>
      obtain rfl : Formula.predicate text = formula := Option.some.inj said
      rw [texts, List.mem_singleton, eq_comm] at plain
      rw [fragments, List.foldlM_cons, Reading.step_predicate stands plain]
      rfl
  | .group _ items =>
      obtain ⟨inside, chained, rfl⟩ := Option.map_eq_some_iff.1 said
      have read := foldlM_fragmentsAll items plain none
        ((reading.chain, connective) :: reading.around) (some "") rfl
      rw [chained] at read
      rw [fragments, List.foldlM_cons, Reading.step_opening stands, Option.bind_eq_bind,
        Option.bind_some, List.foldlM_append, read, Option.bind_eq_bind, Option.bind_some,
        List.foldlM_cons, Reading.step_closing]
      rfl

/-- The fragments of items go on with the chain that was read in front of them. -/
theorem foldlM_fragmentsAll (items : List TextTree) (plain : "(" ∉ textsAll items)
    (chain : Option Chain) (around : List (Option Chain × Connective)) (first : Option String)
    (starts : first = if chain.isSome then none else
      some (if around.isEmpty then "where" else "")) :
    (fragmentsAll first items).foldlM Reading.step { chain, around } =
      some { chain := chainAll chain items, around } := by
  match items with
  | [] => rfl
  | item :: rest =>
      rw [textsAll, List.mem_append, not_or] at plain
      have survives := isSome_formula? item
      rw [fragmentsAll, chainAll, ← survives]
      cases said : item.formula? with
      | none => exact foldlM_fragmentsAll rest plain.2 chain around first starts
      | some formula =>
          have keyword : first.getD item.connective.keyword =
              if chain.isSome then item.connective.keyword
              else if around.isEmpty then "where" else "" := by
            rw [starts]
            cases chain <;> rfl
          have own := foldlM_fragments item said plain.1
            (Reading.connective?_eq chain around item.connective)
          have added : (Reading.mk chain around).add
              (if chain.isSome then item.connective else .and) formula =
              { chain := some (Chain.extend item.connective formula chain), around } := by
            cases chain <;> rfl
          rw [added, ← keyword] at own
          rw [if_pos Option.isSome_some, List.foldlM_append, own, Option.bind_eq_bind,
            Option.bind_some]
          exact foldlM_fragmentsAll rest plain.2 _ around none rfl

end

end TextTree

end SqlBuilder
