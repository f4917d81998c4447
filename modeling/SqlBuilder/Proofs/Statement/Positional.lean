import Mathlib.Data.List.Nodup
import SqlBuilder.Proofs.Statement.Lexeme

/-!
# Numbered placeholders

What numbering does to a statement whose text is a sequence of lexemes and whose placeholders are
its parameters: every placeholder becomes the number of its value, everything else is copied, and
the values are those that the text refers to, each of them once.
-/

namespace SqlBuilder

/-- Whether the text of a statement is a sequence of lexemes, with parameters for placeholders. -/
structure Statement.ReadAs (statement : Statement) (lexemes : List Lexeme) : Prop where
  text : statement.sql.toList = lexemes.flatMap Lexeme.text
  legible : ∀ lexeme ∈ lexemes, lexeme.Legible
  chained : lexemes.IsChain Lexeme.Joins
  bound : ∀ param, .placeholder param ∈ lexemes → param ∈ statement.params
  distinct : (statement.params.map (·.name)).Nodup

/-- The number of a parameter as it is written. -/
def Param.numbered (order : List Param) (param : Param) : List Char :=
  '$' :: (Nat.repr (order.findIdx (·.name == param.name) + 1)).toList

/-- Whether the form of a statement with numbers refers to parameters in a certain order: each of
them at least once in the text, and only once among the values. -/
structure Statement.Numbered (statement : Statement) (lexemes : List Lexeme)
    (order : List Param) : Prop where
  distinct : (order.map (·.name)).Nodup
  exactly : ∀ param, param ∈ order ↔ .placeholder param ∈ lexemes
  text : statement.positional.1.toList = lexemes.flatMap (Lexeme.written (Param.numbered order))
  values : statement.positional.2 = order.map (·.value)
  numbers : ∀ index param, order[index]? = some param →
    param.numbered order = '$' :: (Nat.repr (index + 1)).toList
  settled : ∀ name, .reference name ∉
    Placeholder.scan none false statement.positional.1.toList

namespace Placeholder

/-- One step of the search for names. -/
def collect (known : List Char → Bool) (seen : List (List Char)) : Part → List (List Char)
  | .char _ => seen
  | .reference name => if known name && !seen.contains name then seen ++ [name] else seen

variable {known : List Char → Bool}

theorem names_eq_foldl (parts : List Part) :
    names known parts = parts.foldl (collect known) [] := by
  unfold names
  congr

theorem mem_collect {seen : List (List Char)} {part : Part} {name : List Char} :
    name ∈ collect known seen part ↔ name ∈ seen ∨ part = .reference name ∧ known name = true := by
  cases part with
  | char c => simp [collect]
  | reference other =>
      by_cases new : (known other && !seen.contains other) = true
      · rw [collect, if_pos new, List.mem_append, List.mem_singleton, Part.reference.injEq]
        simp only [Bool.and_eq_true] at new
        constructor
        · rintro (mem | rfl)
          · exact .inl mem
          · exact .inr ⟨rfl, new.1⟩
        · rintro (mem | ⟨rfl, -⟩)
          · exact .inl mem
          · exact .inr rfl
      · rw [collect, if_neg new, Part.reference.injEq]
        refine ⟨.inl, ?_⟩
        rintro (mem | ⟨rfl, held⟩)
        · exact mem
        · simpa [held] using new

theorem mem_foldl_collect {parts : List Part} {seen : List (List Char)} {name : List Char} :
    name ∈ parts.foldl (collect known) seen ↔
      name ∈ seen ∨ .reference name ∈ parts ∧ known name = true := by
  induction parts generalizing seen with
  | nil => simp
  | cons part rest ih =>
      rw [List.foldl_cons, ih, mem_collect, List.mem_cons, or_assoc, ← or_and_right,
        eq_comm (a := part)]

theorem mem_names {parts : List Part} {name : List Char} :
    name ∈ names known parts ↔ .reference name ∈ parts ∧ known name = true := by
  simp [names_eq_foldl, mem_foldl_collect]

theorem nodup_collect {seen : List (List Char)} (nodup : seen.Nodup) (part : Part) :
    (collect known seen part).Nodup := by
  cases part with
  | char c => exact nodup
  | reference name =>
      by_cases new : (known name && !seen.contains name) = true
      · rw [collect, if_pos new]
        simp only [Bool.and_eq_true, Bool.not_eq_true', List.contains_eq_mem,
          decide_eq_false_iff_not] at new
        rw [← List.concat_eq_append]
        exact List.Nodup.concat new.2 nodup
      · rwa [collect, if_neg new]

theorem nodup_foldl_collect {parts : List Part} {seen : List (List Char)} (nodup : seen.Nodup) :
    (parts.foldl (collect known) seen).Nodup := by
  induction parts generalizing seen with
  | nil => exact nodup
  | cons part rest ih => exact ih (nodup_collect nodup part)

theorem names_nodup (parts : List Part) : (names known parts).Nodup := by
  rw [names_eq_foldl]
  exact nodup_foldl_collect List.nodup_nil

end Placeholder

namespace Lexeme

/-- The lexemes that are left when a placeholder is written as something else. -/
def settle (literal : Param → List Char) : Lexeme → List Lexeme
  | .placeholder param => (literal param).map .code
  | lexeme => [lexeme]

theorem flatMap_settle (literal : Param → List Char) (lexemes : List Lexeme) :
    (lexemes.flatMap (settle literal)).flatMap text = lexemes.flatMap (written literal) := by
  rw [List.flatMap_assoc]
  refine List.flatMap_congr fun lexeme _ => ?_
  cases lexeme with
  | placeholder param => simp [settle, written, List.flatMap_map, text]
  | code c => simp [settle, written]
  | quoted mark body => simp [settle, written]
  | assign => simp [settle, written]

/-- The scanner finds nothing but characters if codes are written for placeholders. -/
theorem scan_settled {lexemes : List Lexeme} (legible : ∀ lexeme ∈ lexemes, lexeme.Legible)
    {literal : Param → List Char} (codes : ∀ param, ∀ c ∈ literal param, isCode c = true)
    (name : List Char) :
    .reference name ∉
      Placeholder.scan none false (lexemes.flatMap (written literal)) := by
  have other : ∀ lexeme ∈ lexemes.flatMap (settle literal),
      lexeme.Legible ∧ ∀ param, lexeme ≠ .placeholder param := by
    intro lexeme mem
    obtain ⟨before, before_mem, mem⟩ := List.mem_flatMap.1 mem
    cases before with
    | placeholder param =>
        obtain ⟨c, c_mem, rfl⟩ := List.mem_map.1 mem
        exact ⟨codes param c c_mem, by simp⟩
    | code c =>
        obtain rfl := List.mem_singleton.1 mem
        exact ⟨legible _ before_mem, by simp⟩
    | quoted mark body =>
        obtain rfl := List.mem_singleton.1 mem
        exact ⟨legible _ before_mem, by simp⟩
    | assign =>
        obtain rfl := List.mem_singleton.1 mem
        exact ⟨legible _ before_mem, by simp⟩
  rw [← flatMap_settle, Placeholder.scan_lexemes (fun lexeme mem => (other lexeme mem).1)
    (isChain_of_ne fun lexeme mem => (other lexeme mem).2)]
  intro mem
  obtain ⟨lexeme, lexeme_mem, part⟩ := List.mem_flatMap.1 mem
  have notPlaceholder := (other lexeme lexeme_mem).2
  cases lexeme with
  | placeholder param => exact notPlaceholder param rfl
  | code c => simp [parts, text] at part
  | quoted mark body => simp [parts, text] at part
  | assign => simp [parts, text] at part

end Lexeme

/-- If names are different, a name has the value of its parameter. -/
theorem Statement.value?_of_mem {statement : Statement}
    (distinct : (statement.params.map (·.name)).Nodup) {param : Param}
    (mem : param ∈ statement.params) :
    statement.value? param.name.toList = some param.value := by
  unfold value?
  cases found : statement.params.reverse.find? (·.name.toList == param.name.toList) with
  | none =>
      have absent := List.find?_eq_none.1 found param (List.mem_reverse.2 mem)
      simp at absent
  | some other =>
      have named := List.find?_some found
      have other_mem := List.mem_reverse.1 (List.mem_of_find?_eq_some found)
      simp only [beq_iff_eq, String.toList_inj] at named
      rw [List.inj_on_of_nodup_map distinct other_mem mem named]
      rfl

namespace Statement.ReadAs

variable {statement : Statement} {lexemes : List Lexeme}

theorem scan (read : statement.ReadAs lexemes) :
    Placeholder.scan none false statement.sql.toList = lexemes.flatMap Lexeme.parts := by
  rw [read.text]
  exact Placeholder.scan_lexemes read.legible read.chained

/-- What the scanner finds is a placeholder. -/
theorem mem_scan (read : statement.ReadAs lexemes) {name : List Char} :
    .reference name ∈ Placeholder.scan none false statement.sql.toList ↔
      ∃ param, .placeholder param ∈ lexemes ∧ param.name.toList = name := by
  rw [read.scan, List.mem_flatMap]
  constructor
  · rintro ⟨lexeme, mem, part⟩
    cases lexeme with
    | placeholder param =>
        simp only [Lexeme.parts, List.mem_singleton, Placeholder.Part.reference.injEq] at part
        exact ⟨param, mem, part.symm⟩
    | code c => simp [Lexeme.parts, Lexeme.text] at part
    | quoted mark body => simp [Lexeme.parts, Lexeme.text] at part
    | assign => simp [Lexeme.parts, Lexeme.text] at part
  · rintro ⟨param, mem, rfl⟩
    exact ⟨.placeholder param, mem, by simp [Lexeme.parts]⟩

/-- Parameters with one name are one. -/
theorem eq_of_name (read : statement.ReadAs lexemes) {param other : Param}
    (mem : param ∈ statement.params) (other_mem : other ∈ statement.params)
    (name : param.name = other.name) : param = other :=
  List.inj_on_of_nodup_map read.distinct mem other_mem name

theorem value? (read : statement.ReadAs lexemes) {param : Param} (mem : param ∈ statement.params) :
    statement.value? param.name.toList = some param.value :=
  value?_of_mem read.distinct mem

/-- The names that are numbered are those of placeholders. -/
theorem exists_order (read : statement.ReadAs lexemes) :
    ∃ order : List Param, (∀ param ∈ order, .placeholder param ∈ lexemes) ∧
      Placeholder.names (fun name => (statement.value? name).isSome)
        (Placeholder.scan none false statement.sql.toList) = order.map (·.name.toList) := by
  have named : ∀ name ∈ Placeholder.names (fun name => (statement.value? name).isSome)
      (Placeholder.scan none false statement.sql.toList),
      ∃ param, .placeholder param ∈ lexemes ∧ param.name.toList = name :=
    fun name mem => read.mem_scan.1 (Placeholder.mem_names.1 mem).1
  revert named
  generalize Placeholder.names _ _ = names
  intro named
  induction names with
  | nil => exact ⟨[], by simp, rfl⟩
  | cons name rest ih =>
      obtain ⟨param, mem, rfl⟩ := named name List.mem_cons_self
      obtain ⟨order, all, rfl⟩ := ih fun name mem => named name (List.mem_cons_of_mem _ mem)
      refine ⟨param :: order, fun other other_mem => ?_, rfl⟩
      rcases List.mem_cons.1 other_mem with rfl | other_mem
      · exact mem
      · exact all other other_mem

theorem isCode_numbered (order : List Param) (param : Param) :
    ∀ c ∈ param.numbered order, isCode c = true := by
  intro c mem
  rcases List.mem_cons.1 mem with rfl | mem
  · decide
  · rw [Nat.toList_repr] at mem
    exact isCode_of_isDigit (Nat.isDigit_of_mem_toDigits (by decide) (by decide) mem)

theorem numbered_chars (names : List (List Char)) (chars : List Char) :
    (chars.map Placeholder.Part.char).flatMap (·.numbered names) = chars := by
  induction chars with
  | nil => rfl
  | cons c rest ih => simpa [Placeholder.Part.numbered] using ih

theorem numbered_placeholder {order : List Param} {param : Param} (mem : param ∈ order) :
    (Lexeme.placeholder param).parts.flatMap (·.numbered (order.map (·.name.toList))) =
      param.numbered order := by
  have place : (order.map (·.name.toList)).idxOf? param.name.toList =
      some (order.findIdx (·.name == param.name)) := by
    have same : ((· == param.name.toList) ∘ fun other : Param => other.name.toList) =
        fun other => other.name == param.name := by
      funext other
      rw [Bool.eq_iff_iff]
      simp [String.toList_inj]
    rw [List.idxOf?, List.findIdx?_map, same]
    exact List.findIdx?_eq_some_of_exists ⟨param, mem, by simp⟩
  simp [Lexeme.parts, Placeholder.Part.numbered, place, Param.numbered]

/-- Numbering keeps everything but placeholders, which become the numbers of their values. -/
theorem numbered (read : statement.ReadAs lexemes) :
    ∃ order, statement.Numbered lexemes order := by
  obtain ⟨order, all, names⟩ := read.exists_order
  have known : ∀ param ∈ order, param ∈ statement.params := fun param mem =>
    read.bound param (all param mem)
  have distinct : (order.map (·.name)).Nodup := by
    have nodup : (Placeholder.names (fun name => (statement.value? name).isSome)
        (Placeholder.scan none false statement.sql.toList)).Nodup := Placeholder.names_nodup _
    rw [names] at nodup
    refine .of_map String.toList ?_
    rwa [List.map_map]
  have exactly (param : Param) : param ∈ order ↔ .placeholder param ∈ lexemes := by
    refine ⟨all param, fun mem => ?_⟩
    have value := read.value? (read.bound param mem)
    have found : param.name.toList ∈ order.map (·.name.toList) := by
      rw [← names]
      exact Placeholder.mem_names.2 ⟨read.mem_scan.2 ⟨param, mem, rfl⟩, by simp [value]⟩
    obtain ⟨other, other_mem, same⟩ := List.mem_map.1 found
    rwa [← read.eq_of_name (known other other_mem) (read.bound param mem)
      (String.toList_inj.1 same)]
  have text : statement.positional.1.toList =
      lexemes.flatMap (Lexeme.written (Param.numbered order)) := by
    change (String.ofList ((Placeholder.scan none false statement.sql.toList).flatMap
      (·.numbered (Placeholder.names (fun name => (statement.value? name).isSome)
        (Placeholder.scan none false statement.sql.toList))))).toList = _
    rw [names, read.scan, String.toList_ofList, List.flatMap_assoc]
    refine List.flatMap_congr fun lexeme mem => ?_
    cases lexeme with
    | placeholder param => exact numbered_placeholder ((exactly param).2 mem)
    | code c => rfl
    | quoted mark body => exact numbered_chars _ _
    | assign => rfl
  have values : statement.positional.2 = order.map (·.value) := by
    change (Placeholder.names _ _).filterMap statement.value? = _
    rw [names, List.filterMap_map, ← List.filterMap_eq_map]
    exact List.filterMap_congr fun param mem => read.value? (known param mem)
  refine ⟨order, distinct, exactly, text, values, fun index param place => ?_, ?_⟩
  · obtain ⟨inside, rfl⟩ := List.getElem?_eq_some_iff.1 place
    have first : order.findIdx (·.name == order[index].name) = index := by
      refine (List.findIdx_eq inside).2 ⟨by simp, fun other before => ?_⟩
      have differs := List.nodup_iff_getElem?_ne_getElem?.1 distinct other index before
        (by simpa using inside)
      simpa [inside, Nat.lt_trans before inside] using differs
    rw [Param.numbered, first]
  · rw [text]
    exact Lexeme.scan_settled read.legible (isCode_numbered order)

end Statement.ReadAs

end SqlBuilder
