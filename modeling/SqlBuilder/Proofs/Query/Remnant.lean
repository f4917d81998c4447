import SqlBuilder.Proofs.Query.Listing
import SqlBuilder.Proofs.Query.Splice

/-!
# What a removal leaves

A removal takes the first fragment with a keyword and those that go on with it. A group keeps its
keyword at its opening parenthesis, and the first condition inside goes on with that. So what a
removal does to the parentheses depends on whether the fragment that it takes is one itself.

Where every fragment without keyword stands directly behind an opening parenthesis, removals leave
parentheses well nested unless they take one.
-/

namespace SqlBuilder

namespace Fragment

/-- Whether a fragment ends a group. -/
def closes (fragment : Fragment) : Bool := !fragment.opens && fragment.keyword == ")"

/-- Whether a fragment is an opening or closing parenthesis, with a keyword or without. -/
def isParenthesis (fragment : Fragment) : Bool := fragment.opens || fragment.closes

/-- The number of groups that are open behind fragments, unless one is closed that is not open. -/
def depth? : Nat → List Fragment → Option Nat
  | depth, [] => some depth
  | depth, fragment :: rest =>
    if fragment.opens then depth? (depth + 1) rest
    else if fragment.closes then
      match depth with
      | 0 => none
      | depth + 1 => depth? depth rest
    else depth? depth rest

/-- Whether parentheses are balanced and properly nested. -/
def WellNested (fragments : List Fragment) : Prop := depth? 0 fragments = some 0

instance (fragments : List Fragment) : Decidable (WellNested fragments) :=
  inferInstanceAs (Decidable (depth? 0 fragments = some 0))

/-- Whether all fragments without keyword stand directly behind an opening parenthesis. -/
def Attached : Bool → List Fragment → Prop
  | _, [] => True
  | opened, fragment :: rest =>
    (fragment.keyword = "" → opened = true) ∧ Attached fragment.opens rest

/-- Whether parentheses are well nested, groups are groups of conditions, and no fragment without
keyword goes on with anything but an opening. -/
structure Formed (fragments : List Fragment) : Prop where
  nested : WellNested fragments
  attached : Attached false fragments
  openings : ∀ fragment ∈ fragments, fragment.opens = true →
    fragment.keyword ∈ "" :: conditionKeywords

/-- Whether a fragment is no parenthesis and starts something of its own. -/
structure Plain (fragment : Fragment) : Prop where
  calm : fragment.isParenthesis = false
  keyword : fragment.keyword ≠ ""

theorem Plain.opens {fragment : Fragment} (plain : fragment.Plain) : fragment.opens = false :=
  (Bool.or_eq_false_iff.1 plain.calm).1

theorem Plain.not_opens {fragment : Fragment} (plain : fragment.Plain) : ¬fragment.opens = true :=
  Bool.eq_false_iff.1 plain.opens

/-- The keyword of a condition is no mark. -/
theorem notMem_of_mem_conditionKeywords {keyword : String} (mem : keyword ∈ conditionKeywords) :
    keyword ∉ ["", "(", ")", ","] := by
  have words : ∀ word ∈ conditionKeywords, word ∉ ["", "(", ")", ","] := by decide
  exact words keyword mem

/-- The opening of a group of conditions takes the keyword of the first one. -/
theorem group_cons {first : Fragment} (word : first.keyword ∈ conditionKeywords)
    (rest : List Fragment) :
    group true (first :: rest) = withText first.keyword "(" ::
      ({ first with keyword := "" } :: rest ++ [token ")"]) := by
  have mark := notMem_of_mem_conditionKeywords word
  rw [group, enclose, if_pos (by simpa [Classical.not_imp] using mark)]
  rfl

theorem keyword_mem_of_group {block : List Fragment}
    (pulled : ∀ fragment ∈ block.head?, fragment.keyword ∈ conditionKeywords) :
    ∀ fragment ∈ (group true block).head?, fragment.keyword ∈ conditionKeywords := by
  cases block with
  | nil => simp [group]
  | cons first rest =>
      rw [group_cons (pulled first rfl)]
      rintro _ ⟨⟩
      exact pulled first rfl

/-! ### Depths -/

variable {front behind block : List Fragment} {fragment : Fragment} {depth depth' : Nat}

theorem depth?_append (depth : Nat) (front behind : List Fragment) :
    depth? depth (front ++ behind) = (depth? depth front).bind (depth? · behind) := by
  induction front generalizing depth with
  | nil => rfl
  | cons fragment rest ih =>
      simp only [List.cons_append, depth?]
      split
      · exact ih _
      · split
        · cases depth with
          | zero => rfl
          | succ depth => exact ih _
        · exact ih _

theorem not_opens_of_closes (closing : fragment.closes = true) : ¬fragment.opens = true := by
  intro opens
  simp [closes, opens] at closing

theorem depth?_cons_of_opens (opens : fragment.opens = true) (depth : Nat) (rest : List Fragment) :
    depth? depth (fragment :: rest) = depth? (depth + 1) rest := by
  simp [depth?, opens]

theorem depth?_cons_of_closes (closing : fragment.closes = true) (depth : Nat)
    (rest : List Fragment) : depth? (depth + 1) (fragment :: rest) = depth? depth rest := by
  simp [depth?, not_opens_of_closes closing, closing]

theorem depth?_cons_of_calm (calm : fragment.isParenthesis = false) (depth : Nat)
    (rest : List Fragment) : depth? depth (fragment :: rest) = depth? depth rest := by
  rw [isParenthesis, Bool.or_eq_false_iff] at calm
  simp [depth?, calm.1, calm.2]

/-- A fragment begins a group, ends one that is open, or leaves the depth as it is. -/
theorem depth?_cons_cases {rest : List Fragment}
    (inside : depth? depth (fragment :: rest) = some depth') :
    (fragment.opens = true ∧ depth? (depth + 1) rest = some depth') ∨
      (fragment.closes = true ∧ ∃ outer, depth = outer + 1 ∧ depth? outer rest = some depth') ∨
      (fragment.isParenthesis = false ∧ depth? depth rest = some depth') := by
  cases begins : fragment.opens with
  | true => exact .inl ⟨rfl, by rwa [depth?_cons_of_opens begins] at inside⟩
  | false =>
      cases ends : fragment.closes with
      | true =>
          cases depth with
          | zero => simp [depth?, begins, ends] at inside
          | succ outer => exact .inr (.inl ⟨rfl, outer, rfl, by
              rwa [depth?_cons_of_closes ends] at inside⟩)
      | false =>
          have calm : fragment.isParenthesis = false := by rw [isParenthesis, begins, ends]; rfl
          exact .inr (.inr ⟨calm, by rwa [depth?_cons_of_calm calm] at inside⟩)

/-- Further groups around fragments do not matter. -/
theorem depth?_add (inside : depth? depth front = some depth') (more : Nat) :
    depth? (depth + more) front = some (depth' + more) := by
  induction front generalizing depth with
  | nil =>
      cases inside
      rfl
  | cons fragment rest ih =>
      rcases depth?_cons_cases inside with ⟨begins, after⟩ | ⟨ends, outer, rfl, after⟩ |
        ⟨calm, after⟩
      · rw [depth?_cons_of_opens begins, Nat.add_right_comm]
        exact ih after
      · rw [Nat.add_right_comm, depth?_cons_of_closes ends]
        exact ih after
      · rw [depth?_cons_of_calm calm]
        exact ih after

theorem depth?_of_calm (calm : ∀ fragment ∈ front, fragment.isParenthesis = false) (depth : Nat) :
    depth? depth front = some depth := by
  induction front with
  | nil => rfl
  | cons fragment rest ih =>
      rw [List.forall_mem_cons] at calm
      rw [depth?_cons_of_calm calm.1, ih calm.2]

/-- Where all groups are closed there are as many ends as beginnings. -/
theorem countP_of_depth? (inside : depth? depth front = some depth') :
    depth' + front.countP closes = depth + front.countP opens := by
  induction front generalizing depth with
  | nil =>
      cases inside
      rfl
  | cons fragment rest ih =>
      rcases depth?_cons_cases inside with ⟨begins, after⟩ | ⟨ends, outer, rfl, after⟩ |
        ⟨calm, after⟩
      · have other : ¬fragment.closes = true := fun ends => not_opens_of_closes ends begins
        have counted := ih after
        rw [List.countP_cons_of_neg other, List.countP_cons_of_pos begins]
        omega
      · have counted := ih after
        rw [List.countP_cons_of_pos ends, List.countP_cons_of_neg (not_opens_of_closes ends)]
        omega
      · rw [isParenthesis, Bool.or_eq_false_iff] at calm
        rw [List.countP_cons_of_neg (Bool.eq_false_iff.1 calm.2),
          List.countP_cons_of_neg (Bool.eq_false_iff.1 calm.1)]
        exact ih after

/-- A well nested block can be put in anywhere. -/
theorem WellNested.insert (whole : WellNested (front ++ behind)) (nested : WellNested block) :
    WellNested (front ++ (block ++ behind)) := by
  unfold WellNested at *
  rw [depth?_append] at whole ⊢
  cases inside : depth? 0 front with
  | none =>
      rw [inside] at whole
      cases whole
  | some depth =>
      rw [inside] at whole
      have deeper := depth?_add nested depth
      rw [Nat.zero_add] at deeper
      change depth? depth (block ++ behind) = some 0
      rw [depth?_append, deeper]
      exact whole

/-! ### What stands behind an opening -/

theorem Attached.of_calm {opened : Bool} (attached : Attached false front) :
    Attached opened front := by
  cases front with
  | nil => trivial
  | cons fragment rest =>
      exact ⟨fun empty => absurd (attached.1 empty) Bool.false_ne_true, attached.2⟩

/-- Only the first fragment cares for what is in front. -/
theorem Attached.of_keyword {opened opened' : Bool} (attached : Attached opened front)
    (keyword : ∀ fragment ∈ front.head?, fragment.keyword ≠ "") : Attached opened' front := by
  cases front with
  | nil => trivial
  | cons fragment rest => exact ⟨fun empty => absurd empty (keyword fragment rfl), attached.2⟩

/-- Whether the last fragment opens a group, or what is in front of all does. -/
def opensLast (opened : Bool) (fragments : List Fragment) : Bool :=
  (fragments.getLast?.map opens).getD opened

theorem attached_append {opened : Bool} :
    Attached opened (front ++ behind) ↔
      Attached opened front ∧ Attached (opensLast opened front) behind := by
  induction front generalizing opened with
  | nil => simp [Attached, opensLast]
  | cons fragment rest ih =>
      have last : opensLast opened (fragment :: rest) = opensLast fragment.opens rest := by
        cases rest with
        | nil => rfl
        | cons next rest => simp [opensLast, List.getLast?_cons]
      rw [List.cons_append, Attached, Attached, ih, last, and_assoc]

/-- Behind a fragment that opens no group only commas go on with it. -/
theorem keyword_of_attached (attached : Attached false behind)
    (openings : ∀ fragment ∈ behind, fragment.opens = true →
      fragment.keyword ∈ "" :: conditionKeywords) :
    ∀ fragment ∈ behind.takeWhile isContinuation,
      fragment.keyword = "," ∧ fragment.opens = false := by
  induction behind with
  | nil => simp
  | cons fragment rest ih =>
      rw [List.forall_mem_cons] at openings
      obtain ⟨own, others⟩ := attached
      rw [List.takeWhile_cons]
      split
      · rename_i continues
        have comma : fragment.keyword = "," := by
          have either : fragment.keyword = "" ∨ fragment.keyword = "," := by
            simpa [isContinuation] using continues
          exact either.resolve_left fun empty => absurd (own empty) Bool.false_ne_true
        have calm : fragment.opens = false := Bool.eq_false_iff.2 fun opens =>
          absurd (comma ▸ openings.1 opens) (by decide)
        rw [calm] at others
        exact List.forall_mem_cons.2 ⟨⟨comma, calm⟩, ih others openings.2⟩
      · simp

/-! ### Forms that are kept -/

namespace Formed

theorem nil : Formed [] := ⟨rfl, trivial, by simp⟩

theorem of_plain (plain : fragment.Plain) : Formed [fragment] where
  nested := depth?_of_calm (by simpa using plain.calm) 0
  attached := ⟨fun empty => absurd empty plain.keyword, trivial⟩
  openings := List.forall_mem_singleton.2 fun opens => absurd opens plain.not_opens

/-- A block goes anywhere but between an opening and what stands behind it. -/
theorem insert (whole : Formed (front ++ behind)) (formed : Formed block)
    (apart : ∀ fragment ∈ behind.head?, fragment.keyword ≠ "") :
    Formed (front ++ (block ++ behind)) where
  nested := whole.nested.insert formed.nested
  attached := by
    obtain ⟨first, second⟩ := attached_append.1 whole.attached
    rw [attached_append, attached_append]
    exact ⟨first, formed.attached.of_calm, second.of_keyword apart⟩
  openings := by
    obtain ⟨early, late⟩ := List.forall_mem_append.1 whole.openings
    exact List.forall_mem_append.2 ⟨early, List.forall_mem_append.2 ⟨formed.openings, late⟩⟩

theorem append (first : Formed front) (second : Formed behind) : Formed (front ++ behind) := by
  have whole : Formed (front ++ []) := by rwa [List.append_nil]
  have joined := whole.insert second (by simp)
  rwa [List.append_nil] at joined

/-- A fragment changes into another that is no parenthesis either. -/
theorem replace {changed : Fragment} (whole : Formed (front ++ fragment :: behind))
    (plain : fragment.Plain) (plain' : changed.Plain) :
    Formed (front ++ changed :: behind) where
  nested := by
    have nested := whole.nested
    unfold WellNested at *
    rw [depth?_append] at nested ⊢
    simpa only [depth?_cons_of_calm plain.calm, depth?_cons_of_calm plain'.calm] using nested
  attached := by
    obtain ⟨first, -, second⟩ := attached_append.1 whole.attached
    rw [plain.opens] at second
    rw [attached_append]
    exact ⟨first, fun empty => absurd empty plain'.keyword, by rwa [plain'.opens]⟩
  openings := by
    obtain ⟨early, late⟩ := List.forall_mem_append.1 whole.openings
    exact List.forall_mem_append.2 ⟨early, List.forall_mem_cons.2
      ⟨fun opens => absurd opens plain'.not_opens, (List.forall_mem_cons.1 late).2⟩⟩

/-- A group of a formed block is formed. -/
theorem group (formed : Formed block)
    (pulled : ∀ fragment ∈ block.head?, fragment.keyword ∈ conditionKeywords) :
    Formed (Fragment.group true block) := by
  cases block with
  | nil => exact nil
  | cons first rest =>
      have word := notMem_of_mem_conditionKeywords (pulled first rfl)
      simp only [List.mem_cons, List.not_mem_nil, or_false, not_or] at word
      obtain ⟨notEmpty, notOpening, notClosing, -⟩ := word
      let inner : Fragment := { first with keyword := "" }
      let opening := withText first.keyword "("
      have shape : Fragment.group true (first :: rest) =
          opening :: ((inner :: rest) ++ [token ")"]) := group_cons (pulled first rfl) rest
      have opens : opening.opens = true := by simp [opening, Fragment.opens, withText]
      have inner_opens : inner.opens = first.opens := by
        simp [inner, Fragment.opens, notOpening]
      have inner_closes : inner.closes = first.closes := by
        rw [Fragment.closes, inner_opens, Fragment.closes]
        simp [inner, notClosing]
      have same : depth? 0 (inner :: rest) = depth? 0 (first :: rest) := by
        rw [depth?, depth?, inner_opens, inner_closes]
      have nested := depth?_add (same.trans formed.nested) 1
      rw [shape]
      constructor
      · change depth? 0 (opening :: ((inner :: rest) ++ [token ")"])) = some 0
        rw [depth?, if_pos opens, depth?_append, nested]
        rfl
      · obtain ⟨-, others⟩ := formed.attached
        refine ⟨fun empty => absurd empty notEmpty, fun _ => opens, ?_⟩
        rw [inner_opens]
        exact attached_append.2 ⟨others, fun empty => absurd empty (by decide), trivial⟩
      · refine List.forall_mem_cons.2
          ⟨fun _ => List.mem_cons_of_mem _ (pulled first rfl), List.forall_mem_append.2 ⟨?_, ?_⟩⟩
        · exact List.forall_mem_cons.2
            ⟨fun _ => List.mem_cons_self, (List.forall_mem_cons.1 formed.openings).2⟩
        · exact List.forall_mem_singleton.2 fun opens => absurd opens (by decide)

end Formed

/-! ### Removals -/

/-- A removal that takes no parenthesis leaves them well nested; one that takes a parenthesis leaves
more of one sort than of the other. -/
theorem Formed.removal_iff (whole : Formed (front ++ fragment :: behind)) :
    WellNested (front ++ behind.dropWhile isContinuation) ↔ fragment.isParenthesis = false := by
  have split := List.takeWhile_append_dropWhile (p := isContinuation) (l := behind)
  generalize run_eq : behind.takeWhile isContinuation = run at split
  generalize behind.dropWhile isContinuation = rest at split ⊢
  obtain ⟨nested, attached, openings⟩ := whole
  have attached := (attached_append.1 attached).2.2
  -- Only an opening has its first predicate attached; else what goes on with it is commas.
  have further : fragment.opens = false →
      ∀ other ∈ run, other.keyword = "," ∧ other.opens = false := by
    intro calm
    rw [calm] at attached
    rw [← run_eq]
    exact keyword_of_attached attached fun other mem =>
      openings other (List.mem_append_right _ (List.mem_cons_of_mem _ mem))
  have ends : ∀ other ∈ run, other.closes = false := by
    intro other mem
    rw [← run_eq] at mem
    have continues : other.keyword = "" ∨ other.keyword = "," := by
      simpa [isContinuation] using List.mem_takeWhile_imp mem
    have other_word : other.keyword ≠ ")" := by
      rcases continues with empty | comma
      · rw [empty]
        decide
      · rw [comma]
        decide
    simp [closes, other_word]
  rw [← split] at nested
  cases calm : fragment.isParenthesis with
  | false =>
      refine iff_of_true ?_ rfl
      have opens := (Bool.or_eq_false_iff.1 calm).1
      have run_calm : ∀ other ∈ run, other.isParenthesis = false := fun other mem =>
        Bool.or_eq_false_iff.2 ⟨(further opens other mem).2, ends other mem⟩
      unfold WellNested at *
      rw [depth?_append] at nested ⊢
      simpa only [depth?_cons_of_calm calm, depth?_append, depth?_of_calm run_calm,
        Option.bind_some] using nested
  | true =>
      refine iff_of_false (fun left => ?_) (by decide)
      -- Both lists would have as many openings as closings, but they differ by one parenthesis.
      have counted := countP_of_depth? nested
      have counted' := countP_of_depth? left
      have run_ends : run.countP closes = 0 :=
        List.countP_eq_zero.2 fun other mem => by simp [ends other mem]
      simp only [List.countP_append, List.countP_cons, run_ends] at counted counted'
      rcases Bool.or_eq_true_iff.1 calm with opens | closing
      · have notClosing : fragment.closes = false := by simp [closes, opens]
        simp only [opens, notClosing, if_true, Bool.false_eq_true, if_false] at counted
        omega
      · have notOpening := Bool.eq_false_iff.2 (not_opens_of_closes closing)
        have run_begins : run.countP Fragment.opens = 0 :=
          List.countP_eq_zero.2 fun other mem => by simp [(further notOpening other mem).2]
        simp only [closing, notOpening, run_begins, if_true, Bool.false_eq_true, if_false]
          at counted
        omega

end Fragment

end SqlBuilder
