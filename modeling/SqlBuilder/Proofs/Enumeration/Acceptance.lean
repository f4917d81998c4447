import Mathlib.Data.List.Forall2
import Mathlib.Tactic.SplitIfs
import SqlBuilder.Enumeration

/-!
# Which declarations are accepted

A declaration may say that its variants stand for numbers, or name a convention for their texts, but
not both, and a variant may ask for a text of its own unless it stands for a number. A declaration
that keeps to this is accepted, and each variant stands for the number that the declaration gives
it, for its own text or for its name under the convention.

Of the items of a variant only the first is looked at. What stands behind it is accepted whatever it
is, and so more declarations are accepted than those that keep to the rules.
-/

namespace SqlBuilder.Enumeration

/-! ### The rules -/

/-- The item by which variants stand for numbers. -/
def Item.numbers : Item := ⟨"int", .flag⟩

/-- The item that names the convention for texts. -/
def Item.convention (name : String) : Item := ⟨"rename_all", .text name⟩

/-- The item by which a variant asks for a text. -/
def Item.rename (text : String) : Item := ⟨"rename", .text text⟩

/-- Whether an item can stand at a declaration. -/
def Item.IsOption (item : Item) : Prop := item = .numbers ∨ ∃ name, item = .convention name

/-- Whether an item can stand at a variant. -/
def Item.IsRename (item : Item) : Prop := ∃ text, item = .rename text

/-- Whether variants stand for numbers. -/
def HasNumbers (attributes : List Attribute) : Prop := Item.numbers ∈ items attributes

/-- The name of the convention that an item names. -/
def Item.conventionName? (item : Item) : Option String :=
  match item.setting with
  | .text name => if item.key = "rename_all" then some name else none
  | _ => none

/-- The convention in force: the one that was named last. -/
def conventionName (attributes : List Attribute) : String :=
  ((items attributes).filterMap Item.conventionName?).getLast?.getD "snake_case"

/-- Whether a variant asks for a text. -/
def Variant.IsRenamed (variant : Variant) : Prop :=
  ∃ text, Item.rename text ∈ items variant.attributes

/-- What is checked of one variant. -/
structure Variant.Accepted (attributes : List Attribute) (variant : Variant) : Prop where
  plain : variant.hasFields = false
  /-- The first item is a text that the variant asks for. -/
  leading : ∀ item ∈ (items variant.attributes).head?, item.IsRename
  unnamed : HasNumbers attributes → ¬variant.IsRenamed
  known : ¬HasNumbers attributes → ¬variant.IsRenamed →
    ∃ convention, Text.Convention.ofName? (conventionName attributes) = some convention

/-- What is checked of a declaration. -/
structure Accepted (attributes : List Attribute) (variants : List Variant) : Prop where
  options : ∀ item ∈ items attributes, item.IsOption
  oneKind : ¬(HasNumbers attributes ∧ ∃ name, .convention name ∈ items attributes)
  each : ∀ variant ∈ variants, variant.Accepted attributes

/-- What the rules ask of a declaration: every item of a variant is a text that it asks for. -/
structure Documented (attributes : List Attribute) (variants : List Variant) : Prop
    extends Accepted attributes variants where
  every : ∀ variant ∈ variants, ∀ item ∈ items variant.attributes, item.IsRename

/-- What stands for a variant of a declaration. -/
inductive StandsFor (attributes : List Attribute) (variant : Variant) : VariantValue → Prop where
  | number (numbers : HasNumbers attributes) : StandsFor attributes variant .number
  | renamed {text : String} (texts : ¬HasNumbers attributes)
      (first : (items variant.attributes).head? = some (.rename text)) :
      StandsFor attributes variant (.text text)
  | converted {convention : Text.Convention} (texts : ¬HasNumbers attributes)
      (unnamed : ¬variant.IsRenamed)
      (known : Text.Convention.ofName? (conventionName attributes) = some convention) :
      StandsFor attributes variant (.text (convention.apply variant.name))

/-- Whether each variant is given, by its name and in order, with what stands for it. -/
def Stand (attributes : List Attribute) (variants : List Variant)
    (arms : List (String × VariantValue)) : Prop :=
  List.Forall₂ (fun variant arm => arm.1 = variant.name ∧ StandsFor attributes variant arm.2)
    variants arms

/-! ### The items of a declaration -/

theorem Options.add_eq_ok_iff (options result : Options) (item : Item) :
    options.add item = .ok result ↔
      item = .numbers ∧ result = { options with hasNumbers := true } ∨
        ∃ name, item = .convention name ∧ result = { options with convention := some name } := by
  obtain ⟨key, setting⟩ := item
  cases setting with
  | flag =>
      by_cases known : key = "int"
      · simp [add, known, Item.numbers, Item.convention, eq_comm]
      · simp [add, known, Item.numbers, Item.convention]
  | group => simp [add, Item.numbers, Item.convention]
  | text name =>
      by_cases known : key = "rename_all"
      · simp [add, known, Item.numbers, Item.convention, Setting.toText, eq_comm, bind,
          Except.bind, pure, Except.pure]
      · simp [add, known, Item.numbers, Item.convention]
  | other =>
      by_cases known : key = "rename_all"
      · simp [add, known, Item.numbers, Item.convention, Setting.toText, bind, Except.bind]
      · simp [add, known, Item.numbers, Item.convention]

@[simp] theorem Item.conventionName?_numbers : Item.numbers.conventionName? = none := rfl

@[simp] theorem Item.conventionName?_convention (name : String) :
    (Item.convention name).conventionName? = some name := rfl

/-- The options after some items. -/
def Options.after (options : Options) (found : List Item) : Options :=
  { hasNumbers := options.hasNumbers || decide (Item.numbers ∈ found)
    convention := (found.filterMap Item.conventionName?).getLast?.or options.convention }

theorem Options.after_numbers (options : Options) (rest : List Item) :
    options.after (.numbers :: rest) = { options with hasNumbers := true }.after rest := by
  simp [after]

theorem Options.after_convention (options : Options) (name : String) (rest : List Item) :
    options.after (.convention name :: rest) =
      { options with convention := some name }.after rest := by
  have other : Item.numbers ≠ .convention name := by simp [Item.numbers, Item.convention]
  cases last : (rest.filterMap Item.conventionName?).getLast? with
  | none => simp [after, other, List.getLast?_cons, last]
  | some later => simp [after, other, List.getLast?_cons, last]

theorem bind_eq_ok_iff {α β : Type} {run : Except DeclarationError α}
    {next : α → Except DeclarationError β} {result : β} :
    (run >>= next) = .ok result ↔ ∃ value, run = .ok value ∧ next value = .ok result := by
  cases run <;> simp [bind, Except.bind]

theorem Options.addAll_eq_ok_iff (options result : Options) (found : List Item) :
    options.addAll found = .ok result ↔
      (∀ item ∈ found, item.IsOption) ∧ result = options.after found := by
  induction found generalizing options with
  | nil => simp [addAll, after, eq_comm]
  | cons item rest ih =>
      rw [addAll, bind_eq_ok_iff, List.forall_mem_cons]
      constructor
      · rintro ⟨middle, first, others⟩
        obtain ⟨known, rfl⟩ := (ih middle).1 others
        rcases (add_eq_ok_iff options middle item).1 first with ⟨rfl, rfl⟩ | ⟨name, rfl, rfl⟩
        · exact ⟨⟨.inl rfl, known⟩, (options.after_numbers rest).symm⟩
        · exact ⟨⟨.inr ⟨name, rfl⟩, known⟩, (options.after_convention name rest).symm⟩
      · rintro ⟨⟨rfl | ⟨name, rfl⟩, known⟩, rfl⟩
        · exact ⟨_, (add_eq_ok_iff _ _ _).2 (.inl ⟨rfl, rfl⟩),
            (ih _).2 ⟨known, options.after_numbers rest⟩⟩
        · exact ⟨_, (add_eq_ok_iff _ _ _).2 (.inr ⟨name, rfl, rfl⟩),
            (ih _).2 ⟨known, options.after_convention name rest⟩⟩

theorem Item.conventionName?_eq_some_iff (item : Item) (name : String) :
    item.conventionName? = some name ↔ item = .convention name := by
  obtain ⟨key, setting⟩ := item
  cases setting <;> simp [conventionName?, Item.convention]

/-- There is a convention in force exactly if one was named. -/
theorem isSome_getLast?_conventionName? (found : List Item) :
    (found.filterMap Item.conventionName?).getLast?.isSome = true ↔
      ∃ name, .convention name ∈ found := by
  rw [List.getLast?_isSome]
  constructor
  · intro nonempty
    obtain ⟨name, member⟩ := List.exists_mem_of_ne_nil _ nonempty
    obtain ⟨item, among, named⟩ := List.mem_filterMap.1 member
    exact ⟨name, (item.conventionName?_eq_some_iff name).1 named ▸ among⟩
  · rintro ⟨name, among⟩
    exact List.ne_nil_of_mem (List.mem_filterMap.2 ⟨_, among, rfl⟩)

/-- The options that a declaration amounts to. -/
def Options.asked (attributes : List Attribute) : Options :=
  ({} : Options).after (items attributes)

variable {attributes : List Attribute}

theorem Options.hasNumbers_asked : (asked attributes).hasNumbers = true ↔ HasNumbers attributes := by
  simp [asked, after, HasNumbers]

theorem Options.convention_asked :
    (asked attributes).convention.getD "snake_case" = conventionName attributes := by
  simp [asked, after, conventionName]

/-- The options of a declaration are known, and not of both kinds. -/
theorem Options.ofAttributes_eq_ok_iff (options : Options) :
    ofAttributes attributes = .ok options ↔
      (∀ item ∈ items attributes, item.IsOption) ∧
        ¬(HasNumbers attributes ∧ ∃ name, .convention name ∈ items attributes) ∧
        options = asked attributes := by
  have both : (asked attributes).hasNumbers && (asked attributes).convention.isSome ↔
      HasNumbers attributes ∧ ∃ name, .convention name ∈ items attributes := by
    rw [Bool.and_eq_true, hasNumbers_asked, ← isSome_getLast?_conventionName?]
    simp [asked, after]
  rw [ofAttributes, bind_eq_ok_iff]
  constructor
  · rintro ⟨found, read, checked⟩
    obtain ⟨known, rfl⟩ := (addAll_eq_ok_iff _ _ _).1 read
    split_ifs at checked with mixed
    · cases checked
    · cases checked
      exact ⟨known, fun kinds => mixed (both.2 kinds), rfl⟩
  · rintro ⟨known, oneKind, rfl⟩
    refine ⟨_, (addAll_eq_ok_iff _ _ _).2 ⟨known, rfl⟩, ?_⟩
    exact if_neg fun mixed => oneKind (both.1 mixed)

/-! ### One variant -/

/-- Only the first item is looked at. -/
theorem Variant.rename_eq_ok_iff (variant : Variant) (asked : Option String) :
    variant.rename = .ok asked ↔
      items variant.attributes = [] ∧ asked = none ∨
        ∃ text, (items variant.attributes).head? = some (.rename text) ∧ asked = some text := by
  unfold rename
  split
  case h_1 empty =>
    simp only [empty, Except.ok.injEq, List.head?_nil, true_and, reduceCtorEq, false_and,
      exists_false, or_false]
    exact eq_comm
  case h_2 item rest shape =>
    obtain ⟨key, setting⟩ := item
    rw [shape, List.head?_cons]
    by_cases known : key = "rename"
    · cases setting with
      | text value =>
          simp only [known, Item.rename, Setting.toText, Except.map, beq_self_eq_true, if_true,
            Except.ok.injEq, reduceCtorEq, false_and, false_or, Option.some.injEq,
            Item.mk.injEq, Setting.text.injEq, true_and, exists_eq_left']
          exact eq_comm
      | _ => simp [known, Item.rename, Setting.toText, Except.map]
    · cases setting <;> simp [known, Item.rename]

theorem applyConvention_eq_ok_iff (convention : Option String) (name text : String) :
    applyConvention convention name = .ok text ↔
      ∃ chosen, Text.Convention.ofName? (convention.getD "snake_case") = some chosen ∧
        text = chosen.apply name := by
  unfold applyConvention
  dsimp only
  split
  case h_1 chosen known => simp [known, eq_comm]
  case h_2 unknown => simp [unknown]

/-- With a text that it asks for first, a variant asks for one exactly if it has items. -/
theorem Variant.isRenamed_iff {variant : Variant}
    (leading : ∀ item ∈ (items variant.attributes).head?, item.IsRename) :
    variant.IsRenamed ↔ items variant.attributes ≠ [] := by
  constructor
  · rintro ⟨text, member⟩
    exact List.ne_nil_of_mem member
  · intro nonempty
    obtain ⟨item, rest, shape⟩ := List.exists_cons_of_ne_nil nonempty
    obtain ⟨text, rfl⟩ := leading item (by simp [shape])
    exact ⟨text, by simp [shape]⟩

/-- A variant without fields that asks for nothing. -/
theorem Variant.value_of_unnamed {variant : Variant} (plain : variant.hasFields = false)
    (empty : items variant.attributes = []) (options : Options) :
    variant.value options =
      if options.hasNumbers then .ok .number
      else (applyConvention options.convention variant.name).map .text := by
  simp only [value, plain, rename, empty, bind, Except.bind]
  cases options.hasNumbers
  · cases applyConvention options.convention variant.name <;> rfl
  · rfl

/-- A variant without fields that asks for a text. -/
theorem Variant.value_of_renamed {variant : Variant} {text : String}
    (plain : variant.hasFields = false)
    (first : (items variant.attributes).head? = some (.rename text)) (options : Options) :
    variant.value options =
      if options.hasNumbers then .error .renameOnNumbers else .ok (.text text) := by
  have read : variant.rename = .ok (some text) :=
    (variant.rename_eq_ok_iff _).2 (.inr ⟨text, first, rfl⟩)
  simp only [value, plain, read, bind, Except.bind]
  cases options.hasNumbers <;> rfl

theorem Variant.rename_of_value {variant : Variant} {options : Options} {value : VariantValue}
    (made : variant.value options = .ok value) :
    variant.hasFields = false ∧
      (items variant.attributes = [] ∨
        ∃ text, (items variant.attributes).head? = some (.rename text)) := by
  unfold Variant.value at made
  split at made
  case isTrue => cases made
  case isFalse plain =>
    obtain ⟨asked, read, -⟩ := bind_eq_ok_iff.1 made
    refine ⟨by simpa using plain, ?_⟩
    rcases (variant.rename_eq_ok_iff asked).1 read with ⟨empty, -⟩ | ⟨text, first, -⟩
    · exact .inl empty
    · exact .inr ⟨text, first⟩

theorem Variant.value_eq_ok_of_standsFor {variant : Variant} {value : VariantValue}
    (accepted : variant.Accepted attributes) (stands : StandsFor attributes variant value) :
    variant.value (Options.asked attributes) = .ok value := by
  cases stands with
  | number numbers =>
      -- If there is an item, the first one is a text, and a number has none.
      have empty : items variant.attributes = [] := by
        by_contra nonempty
        exact accepted.unnamed numbers ((isRenamed_iff accepted.leading).2 nonempty)
      rw [value_of_unnamed accepted.plain empty, if_pos (Options.hasNumbers_asked.2 numbers)]
  | renamed texts first =>
      rw [value_of_renamed accepted.plain first, if_neg (Options.hasNumbers_asked.not.2 texts)]
  | converted texts unnamed known =>
      have empty : items variant.attributes = [] := by
        by_contra nonempty
        exact unnamed ((isRenamed_iff accepted.leading).2 nonempty)
      rw [value_of_unnamed accepted.plain empty, if_neg (Options.hasNumbers_asked.not.2 texts)]
      rw [← Options.convention_asked] at known
      rw [(applyConvention_eq_ok_iff _ _ _).2 ⟨_, known, rfl⟩]
      rfl

theorem Variant.standsFor_of_value_eq_ok {variant : Variant} {value : VariantValue}
    (made : variant.value (Options.asked attributes) = .ok value) :
    variant.Accepted attributes ∧ StandsFor attributes variant value := by
  obtain ⟨plain, empty | ⟨text, first⟩⟩ := rename_of_value made
  · have unnamed : ¬variant.IsRenamed := by simp [IsRenamed, empty]
    have leading : ∀ item ∈ (items variant.attributes).head?, item.IsRename := by
      simp [empty]
    rw [value_of_unnamed plain empty] at made
    split at made
    case isTrue numbers =>
      rw [Options.hasNumbers_asked] at numbers
      cases made
      exact ⟨⟨plain, leading, fun _ => unnamed, fun texts => absurd numbers texts⟩,
        .number numbers⟩
    case isFalse texts =>
      rw [Options.hasNumbers_asked] at texts
      cases applied : applyConvention (Options.asked attributes).convention variant.name with
      | error failure =>
          rw [applied] at made
          cases made
      | ok text =>
          rw [applied] at made
          cases made
          obtain ⟨chosen, known, rfl⟩ := (applyConvention_eq_ok_iff _ _ _).1 applied
          rw [Options.convention_asked] at known
          exact ⟨⟨plain, leading, fun _ => unnamed, fun _ _ => ⟨chosen, known⟩⟩,
            .converted texts unnamed known⟩
  · have renamed : variant.IsRenamed := ⟨text, List.mem_of_head? first⟩
    have leading : ∀ item ∈ (items variant.attributes).head?, item.IsRename := by
      intro item member
      rw [first, Option.mem_some_iff] at member
      exact ⟨text, member.symm⟩
    rw [value_of_renamed plain first] at made
    split at made
    case isTrue => cases made
    case isFalse texts =>
      rw [Options.hasNumbers_asked] at texts
      cases made
      exact ⟨⟨plain, leading, fun numbers => absurd numbers texts,
        fun _ unnamed => absurd renamed unnamed⟩, .renamed texts first⟩

/-! ### All variants -/

/-- The variants have their values one by one. -/
theorem values_eq_ok_iff (options : Options) (variants : List Variant)
    (arms : List (String × VariantValue)) :
    values options variants = .ok arms ↔
      List.Forall₂ (fun variant arm => arm.1 = variant.name ∧ variant.value options = .ok arm.2)
        variants arms := by
  induction variants generalizing arms with
  | nil => simp [values, eq_comm]
  | cons variant rest ih =>
      rw [values, bind_eq_ok_iff, List.forall₂_cons_left_iff]
      constructor
      · rintro ⟨value, made, others⟩
        obtain ⟨more, run, same⟩ := bind_eq_ok_iff.1 others
        cases same
        exact ⟨_, more, ⟨rfl, made⟩, (ih more).1 run, rfl⟩
      · rintro ⟨arm, more, ⟨name, made⟩, run, rfl⟩
        refine ⟨arm.2, made, bind_eq_ok_iff.2 ⟨more, (ih more).2 run, ?_⟩⟩
        rw [← name]
        rfl

theorem Variant.Accepted.exists_standsFor {variant : Variant}
    (accepted : variant.Accepted attributes) : ∃ value, StandsFor attributes variant value := by
  by_cases numbers : HasNumbers attributes
  · exact ⟨_, .number numbers⟩
  · by_cases renamed : variant.IsRenamed
    · obtain ⟨first, rest, shape⟩ :=
        List.exists_cons_of_ne_nil ((isRenamed_iff accepted.leading).1 renamed)
      obtain ⟨text, rfl⟩ := accepted.leading first (by simp [shape])
      exact ⟨_, .renamed numbers (by rw [shape, List.head?_cons])⟩
    · obtain ⟨convention, known⟩ := accepted.known numbers renamed
      exact ⟨_, .converted numbers renamed known⟩

theorem exists_arms {variants : List Variant}
    (each : ∀ variant ∈ variants, variant.Accepted attributes) :
    ∃ arms, Stand attributes variants arms := by
  induction variants with
  | nil => exact ⟨[], .nil⟩
  | cons variant rest ih =>
      rw [List.forall_mem_cons] at each
      obtain ⟨value, stands⟩ := each.1.exists_standsFor
      obtain ⟨arms, others⟩ := ih each.2
      exact ⟨(variant.name, value) :: arms, .cons ⟨rfl, stands⟩ others⟩

/-- A declaration that is accepted gives one value per variant, in order. -/
theorem Declaration.values_eq_ok_iff_standsFor (variants : List Variant)
    (arms : List (String × VariantValue)) :
    (Declaration.enumeration attributes variants).values = .ok arms ↔
      Accepted attributes variants ∧ Stand attributes variants arms := by
  rw [Declaration.values, bind_eq_ok_iff]
  constructor
  · rintro ⟨options, read, run⟩
    obtain ⟨known, oneKind, rfl⟩ := (Options.ofAttributes_eq_ok_iff options).1 read
    have both : List.Forall₂ (fun variant arm => variant.Accepted attributes ∧
        arm.1 = variant.name ∧ StandsFor attributes variant arm.2) variants arms := by
      refine ((values_eq_ok_iff _ variants arms).1 run).imp fun variant arm made => ?_
      obtain ⟨accepted, stands⟩ := Variant.standsFor_of_value_eq_ok made.2
      exact ⟨accepted, made.1, stands⟩
    obtain ⟨each, stand⟩ := (List.forall₂_and_left _ _).1 both
    exact ⟨⟨known, oneKind, each⟩, stand⟩
  · rintro ⟨⟨known, oneKind, each⟩, stand⟩
    refine ⟨_, (Options.ofAttributes_eq_ok_iff _).2 ⟨known, oneKind, rfl⟩, ?_⟩
    have both := (List.forall₂_and_left _ _).2 ⟨each, stand⟩
    refine (values_eq_ok_iff _ variants arms).2 (both.imp fun variant arm made => ?_)
    exact ⟨made.2.1, Variant.value_eq_ok_of_standsFor made.1 made.2.2⟩

/--
A declaration gives values exactly if what is checked of it holds, and then it gives one for each
variant, in order. The rules hold exactly if in addition the items that are not looked at, those behind
the first one of a variant, are texts that the variant asks for.
-/
theorem Declaration.values_accepts (attributes : List Attribute) (variants : List Variant) :
    ((∃ arms, (Declaration.enumeration attributes variants).values = .ok arms) ↔
      Accepted attributes variants) ∧
    (∀ arms, (Declaration.enumeration attributes variants).values = .ok arms ↔
      Accepted attributes variants ∧ Stand attributes variants arms) ∧
    (Documented attributes variants ↔
      Accepted attributes variants ∧
        ∀ variant ∈ variants, ∀ item ∈ (items variant.attributes).tail, item.IsRename) := by
  refine ⟨⟨?_, fun accepted => ?_⟩, values_eq_ok_iff_standsFor variants, ?_, ?_⟩
  · rintro ⟨arms, made⟩
    exact ((values_eq_ok_iff_standsFor variants arms).1 made).1
  · obtain ⟨arms, stand⟩ := exists_arms accepted.each
    exact ⟨arms, (values_eq_ok_iff_standsFor variants arms).2 ⟨accepted, stand⟩⟩
  · intro documented
    refine ⟨documented.toAccepted, fun variant member item behind => ?_⟩
    exact documented.every variant member item (List.mem_of_mem_tail behind)
  · rintro ⟨accepted, behind⟩
    refine ⟨accepted, fun variant member item among => ?_⟩
    cases shape : items variant.attributes with
    | nil => simp [shape] at among
    | cons first rest =>
        rcases List.mem_cons.1 (shape ▸ among) with rfl | later
        · exact (accepted.each variant member).leading item (by simp [shape])
        · exact behind variant member item (by simpa [shape] using later)

/-- An unknown item behind the text that a variant asks for is not refused. -/
theorem Declaration.values_accepts_unknown :
    ¬∀ (attributes : List Attribute) (variants : List Variant),
      (∃ arms, (Declaration.enumeration attributes variants).values = .ok arms) ↔
        Documented attributes variants := by
  intro rules
  let variant : Variant := ⟨"A", [⟨"piece", [.rename "a", ⟨"bogus", .flag⟩]⟩], false⟩
  have made : (Declaration.enumeration [] [variant]).values = .ok [("A", .text "a")] := by decide
  obtain ⟨text, same⟩ := ((rules [] [variant]).1 ⟨_, made⟩).every variant
    (List.mem_singleton.2 rfl) ⟨"bogus", .flag⟩ (by decide)
  simp [Item.rename] at same

end SqlBuilder.Enumeration
