import SqlBuilder.Proofs.Query.Remnant

/-!
# How conditions are led in

The first condition of a clause has the keyword of the clause, later ones a connective. A join has a
clause of its own; conditions on rows and on groups of rows have one each. When keywords are pulled
out in front of parentheses they stay in their order, so the words of the fragments are those of the
conditions one by one.

A removal takes the first word that is equal to the keyword. The words that are left lead their
conditions in as before, unless the word was that of a clause with further conditions: then the
first of these has a connective and nothing in front of it.
-/

namespace SqlBuilder

/-- What a condition belongs to. -/
inductive Owner where
  | filter
  | groupFilter
  /-- The join with a number, in the order of the calls. -/
  | join (index : Nat)
  deriving DecidableEq

/-- The clause of a condition. -/
def Owner.clause : Owner → ConditionClause
  | .filter => .filter
  | .groupFilter => .groupFilter
  | .join _ => .join

/-- What a condition of a clause belongs to, if it is a join's that of the join with the number. -/
def ConditionClause.owner (index : Nat) : ConditionClause → Owner
  | .filter => .filter
  | .groupFilter => .groupFilter
  | .join => .join index

@[simp] theorem ConditionClause.clause_owner (index : Nat) (clause : ConditionClause) :
    (clause.owner index).clause = clause := by
  cases clause <;> rfl

theorem ConditionClause.owner_injective (index : Nat) : Function.Injective (owner index) :=
  Function.LeftInverse.injective (clause_owner index)

/-- The keyword of the first condition. -/
def Owner.keyword (owner : Owner) : String := owner.clause.keyword

theorem ConditionClause.keyword_owner (index : Nat) (clause : ConditionClause) :
    (clause.owner index).keyword = clause.keyword := by
  rw [Owner.keyword, clause_owner]

/-- Joins share their keyword; the other clauses have keywords of their own. -/
theorem ConditionClause.eq_owner_of_keyword {clause : ConditionClause} (rows : clause ≠ .join)
    {owner : Owner} (same : owner.keyword = clause.keyword) (index : Nat) :
    owner = clause.owner index := by
  cases clause <;> cases owner <;>
    simp_all [Owner.keyword, Owner.clause, ConditionClause.keyword, ConditionClause.owner]

theorem ConditionClause.keyword_mem_conditionKeywords (clause : ConditionClause) :
    clause.keyword ∈ Fragment.conditionKeywords := by
  cases clause <;> decide

theorem Connective.keyword_mem_conditionKeywords (connective : Connective) :
    connective.keyword ∈ Fragment.conditionKeywords := by
  cases connective <;> decide

theorem Connective.keyword_ne (connective : Connective) (owner : Owner) :
    connective.keyword ≠ owner.keyword := by
  cases connective <;> cases owner <;>
    simp [keyword, Owner.keyword, Owner.clause, ConditionClause.keyword]

/-- The words of conditions among the keywords of fragments. -/
def Fragment.words (fragments : List Fragment) : List String :=
  (fragments.map (·.keyword)).filter (conditionKeywords.contains ·)

/-- Whether words lead in conditions: the first of an owner with its keyword, unless there were
earlier ones, and all others with a connective. -/
inductive Led : List Owner → List Owner → List String → Prop
  | nil (earlier : List Owner) : Led earlier [] []
  | first {earlier owners : List Owner} {words : List String} {owner : Owner} :
      owner ∉ earlier → Led (owner :: earlier) owners words →
        Led earlier (owner :: owners) (owner.keyword :: words)
  | next {earlier owners : List Owner} {words : List String} {owner : Owner}
      (connective : Connective) :
      owner ∈ earlier → Led (owner :: earlier) owners words →
        Led earlier (owner :: owners) (connective.keyword :: words)

namespace Led

variable {earlier earlier' owners owners' : List Owner} {words words' : List String}

theorem length (led : Led earlier owners words) : owners.length = words.length := by
  induction led with
  | nil => rfl
  | first _ _ ih => exact congrArg (· + 1) ih
  | next _ _ _ ih => exact congrArg (· + 1) ih

theorem tail {owner : Owner} {word : String}
    (led : Led earlier (owner :: owners) (word :: words)) :
    Led (owner :: earlier) owners words := by
  cases led with
  | first _ led => exact led
  | next _ _ led => exact led

/-- Of what was earlier only the owners that come again matter. -/
theorem congr (led : Led earlier owners words)
    (same : ∀ owner ∈ owners, owner ∈ earlier ↔ owner ∈ earlier') : Led earlier' owners words := by
  induction led generalizing earlier' with
  | nil => exact .nil _
  | @first earlier owners words owner new _ ih =>
      rw [List.forall_mem_cons] at same
      refine .first (same.1.not.1 new) (ih fun other mem => ?_)
      rw [List.mem_cons, List.mem_cons, same.2 other mem]
  | @next earlier owners words owner connective known _ ih =>
      rw [List.forall_mem_cons] at same
      refine .next connective (same.1.1 known) (ih fun other mem => ?_)
      rw [List.mem_cons, List.mem_cons, same.2 other mem]

theorem append (first : Led earlier owners words)
    (second : Led (owners ++ earlier) owners' words') :
    Led earlier (owners ++ owners') (words ++ words') := by
  induction first with
  | nil => exact second
  | @first earlier owners words owner new _ ih =>
      refine .first new (ih (second.congr fun other _ => ?_))
      simp [or_left_comm]
  | @next earlier owners words owner connective known _ ih =>
      refine .next connective known (ih (second.congr fun other _ => ?_))
      simp [or_left_comm]

/-- The words of the first owners, and those behind. -/
theorem split {front behind : List String} (led : Led earlier owners (front ++ behind)) :
    ∃ first second, owners = first ++ second ∧ first.length = front.length ∧
      Led earlier first front ∧ Led (first ++ earlier) second behind := by
  induction front generalizing earlier owners with
  | nil => exact ⟨[], owners, rfl, rfl, .nil _, led⟩
  | cons word front ih =>
      cases led with
      | @first _ owners _ owner new led =>
          obtain ⟨first, second, rfl, length, early, late⟩ := ih led
          refine ⟨owner :: first, second, rfl, congrArg (· + 1) length, .first new early, ?_⟩
          exact late.congr fun other _ => by simp [or_left_comm]
      | @next _ owners _ owner connective known led =>
          obtain ⟨first, second, rfl, length, early, late⟩ := ih led
          refine ⟨owner :: first, second, rfl, congrArg (· + 1) length,
            .next connective known early, ?_⟩
          exact late.congr fun other _ => by simp [or_left_comm]

/-- Where the clause is the only one with its keyword, its keyword shows whether it has started. -/
theorem keyword_mem_iff (led : Led earlier owners words) {owner : Owner}
    (single : ∀ other : Owner, other.keyword = owner.keyword → other = owner) :
    owner.keyword ∈ words ↔ owner ∈ owners ∧ owner ∉ earlier := by
  induction led with
  | nil => simp
  | @first earlier owners words other new _ ih =>
      by_cases same : other = owner
      · subst same
        simp [new]
      · have word : owner.keyword ≠ other.keyword := fun equal => same (single other equal.symm)
        simp [word, ih, Ne.symm same]
  | @next earlier owners words other connective known _ ih =>
      have word : owner.keyword ≠ connective.keyword := (connective.keyword_ne owner).symm
      by_cases same : other = owner
      · subst same
        simp [word, ih, known]
      · simp [word, ih, Ne.symm same]

/-- A connective is no keyword, so what leads conditions in shows whether their owner is new. -/
theorem notMem_of_both {owner : Owner} (known : Led (owner :: earlier) owners words)
    (fresh : Led earlier owners words) (new : owner ∉ earlier) : owner ∉ owners := by
  induction owners generalizing earlier words with
  | nil => simp
  | cons other owners ih =>
      have apart : owner ≠ other := by
        rintro rfl
        cases known with
        | first absent _ => exact absurd List.mem_cons_self absent
        | next connective _ _ =>
            generalize word : connective.keyword = text at fresh
            cases fresh with
            | first _ _ => exact connective.keyword_ne _ word
            | next _ present _ => exact new present
      obtain ⟨word, rest, rfl⟩ : ∃ word rest, words = word :: rest :=
        List.exists_cons_of_length_eq_add_one fresh.length.symm
      have swapped : Led (owner :: other :: earlier) owners rest :=
        known.tail.congr fun third _ => by simp [or_left_comm]
      have behind := ih swapped fresh.tail (by simp [apart, new])
      simp [apart, behind]

/-- Without one of the words the others lead their conditions in as before, unless it was the first
of several words of its owner. -/
theorem eraseIdx_iff (led : Led [] owners words) (place : Nat) :
    Led [] (owners.eraseIdx place) (words.eraseIdx place) ↔
      ∀ owner ∈ owners[place]?, words[place]? = some owner.keyword → owners.count owner = 1 := by
  by_cases reach : place < owners.length
  case neg =>
    rw [Nat.not_lt] at reach
    rw [List.eraseIdx_of_length_le reach, List.eraseIdx_of_length_le (led.length ▸ reach),
      List.getElem?_eq_none reach]
    exact iff_of_true led (by simp)
  case pos =>
    obtain ⟨front, word, behind, rfl, rfl⟩ :
        ∃ front word behind, words = front ++ word :: behind ∧ front.length = place := by
      have inside : place < words.length := led.length ▸ reach
      refine ⟨words.take place, words[place], words.drop (place + 1), ?_, ?_⟩
      · rw [List.getElem_cons_drop, List.take_append_drop]
      · exact List.length_take_of_le inside.le
    obtain ⟨first, second, rfl, length, early, late⟩ := led.split
    rw [List.append_nil] at late
    cases second with
    | nil => simp [length] at reach
    | cons owner second =>
        have word_eq : (front ++ word :: behind)[front.length]? = some word := by simp
        have owner_eq : (first ++ owner :: second)[front.length]? = some owner := by
          simp [← length]
        have left : (first ++ owner :: second).eraseIdx front.length = first ++ second := by
          rw [← length, eraseIdx_append_length]
        rw [word_eq, owner_eq, left, eraseIdx_append_length]
        simp only [Option.mem_some_iff, forall_eq', Option.some.injEq]
        have known (again : owner ∈ first ∨ owner ∉ second) : Led [] (first ++ second)
            (front ++ behind) := by
          refine early.append (late.tail.congr fun other mem => ?_)
          rw [List.append_nil, List.mem_cons, or_iff_right_of_imp]
          rintro rfl
          exact again.resolve_right (not_not_intro mem)
        cases late with
        | next connective present _ =>
            exact iff_of_true (known (.inl present)) fun same =>
              absurd same (connective.keyword_ne owner)
        | first new behind_led =>
            have count : (first ++ owner :: second).count owner = 1 ↔ owner ∉ second := by
              rw [List.count_append, List.count_cons_self, List.count_eq_zero.2 new,
                ← List.count_eq_zero]
              omega
            rw [count]
            refine ⟨fun rest _ => ?_, fun absent => known (.inr (absent rfl))⟩
            obtain ⟨first', second', shape, length', -, late⟩ := rest.split
            obtain ⟨rfl, rfl⟩ := List.append_inj shape (length.trans length'.symm)
            rw [List.append_nil] at late
            exact notMem_of_both behind_led late new

end Led

namespace Fragment

variable {front behind block : List Fragment} {keyword : String}

theorem words_append : words (front ++ behind) = words front ++ words behind := by
  simp [words]

theorem words_cons_of_mem {fragment : Fragment} (mem : fragment.keyword ∈ conditionKeywords) :
    words (fragment :: behind) = fragment.keyword :: words behind := by
  simp [words, mem]

theorem words_cons_of_notMem {fragment : Fragment} (other : fragment.keyword ∉ conditionKeywords) :
    words (fragment :: behind) = words behind := by
  simp [words, other]

theorem words_eq_nil (others : ∀ fragment ∈ front, fragment.keyword ∉ conditionKeywords) :
    words front = [] := by
  simpa [words] using others

/-- The keyword in front of the parentheses is that of the first condition inside. -/
theorem words_group (pulled : ∀ fragment ∈ block.head?, fragment.keyword ∈ conditionKeywords) :
    words (group true block) = words block := by
  cases block with
  | nil => rfl
  | cons first rest =>
      have own := pulled first rfl
      have closing : words [token ")"] = [] := rfl
      have inner : words ({ first with keyword := "" } :: rest) = words rest :=
        words_cons_of_notMem (by decide : "" ∉ conditionKeywords)
      have opening : (withText first.keyword "(").keyword ∈ conditionKeywords := own
      rw [group_cons own, words_cons_of_mem own, words_cons_of_mem opening, words_append, inner,
        closing, List.append_nil]
      rfl

theorem any_keyword_iff (mem : keyword ∈ conditionKeywords) :
    front.any (·.keyword == keyword) = true ↔ keyword ∈ words front := by
  simp [words, mem]

/-- Parentheses around conditions bring no keyword and hide none. -/
theorem any_keyword_group (mem : keyword ∈ conditionKeywords)
    (pulled : ∀ fragment ∈ block.head?, fragment.keyword ∈ conditionKeywords) :
    (group true block).any (·.keyword == keyword) = block.any (·.keyword == keyword) := by
  rw [Bool.eq_iff_iff, any_keyword_iff mem, any_keyword_iff mem, words_group pulled]

end Fragment

namespace Query

variable {query : Query} {keyword : String}

theorem hasClause_iff_mem_words (mem : keyword ∈ Fragment.conditionKeywords) :
    query.hasClause keyword = true ↔ keyword ∈ Fragment.words query.fragments :=
  Fragment.any_keyword_iff mem

/-- A removal takes the first word that is equal to the keyword. -/
theorem words_removeClause (query : Query) (keyword : String) :
    Fragment.words (query.removeClause keyword).fragments =
      (Fragment.words query.fragments).erase keyword := by
  cases found : query.clauseIndex? keyword with
  | none =>
      have absent : keyword ∉ Fragment.words query.fragments := by
        intro mem
        obtain ⟨fragment, present, same⟩ := List.mem_map.1 (List.mem_filter.1 mem).1
        have other := List.findIdx?_eq_none_iff.1 found fragment present
        simp [same] at other
      rw [removeClause_eq_self found, List.erase_of_not_mem absent]
  | some place =>
      obtain ⟨front, fragment, behind, shape, -, rfl, absent⟩ :=
        Gathers.exists_append_of_clauseIndex? found
      rw [Gathers.fragments_removeClause shape absent, shape, Fragment.words_append,
        Fragment.words_append]
      have early : fragment.keyword ∉ Fragment.words front := by
        intro mem
        obtain ⟨other, present, same⟩ := List.mem_map.1 (List.mem_filter.1 mem).1
        exact absent other present same
      have run : Fragment.words (behind.takeWhile Fragment.isContinuation) = [] := by
        refine Fragment.words_eq_nil fun other mem word => ?_
        have marks : other.keyword = "" ∨ other.keyword = "," := by
          simpa [Fragment.isContinuation] using List.mem_takeWhile_imp mem
        have mark := Fragment.notMem_of_mem_conditionKeywords word
        rcases marks with same | same <;> simp [same] at mark
      have rest : Fragment.words (behind.dropWhile Fragment.isContinuation) =
          Fragment.words behind := by
        conv_rhs => rw [← List.takeWhile_append_dropWhile (p := Fragment.isContinuation)
          (l := behind), Fragment.words_append, run, List.nil_append]
      rw [rest, List.erase_append_right _ early]
      by_cases word : fragment.keyword ∈ Fragment.conditionKeywords
      · rw [Fragment.words_cons_of_mem word, List.erase_cons_head]
      · have late : fragment.keyword ∉ Fragment.words behind := fun mem =>
          word (by simpa using (List.mem_filter.1 mem).2)
        rw [Fragment.words_cons_of_notMem word, List.erase_of_not_mem late]

end Query

end SqlBuilder
