import SqlBuilder.Expr.Compile
import SqlBuilder.Proofs.Statement.Lexeme
import SqlBuilder.Proofs.Statement.Literal

/-!
# Twin texts

Two runs of one program write the same texts but for the values that they bind: one run has a
placeholder where the other one has something else, such as a literal. A pair of texts is twin if
one sequence of lexemes is behind both, and its placeholders are among the parameters of the first
run.

Texts are put together from pieces by a handful of rules. The one thing to look after is that a
piece behind a placeholder does not go on with a character of a name.
-/

namespace SqlBuilder

/-- How the second run writes what the first run binds. -/
structure Writing where
  /-- Whether code has no dollar sign. -/
  strict : Bool
  literal : Param → String
  /-- What is written in place of a placeholder is not mistaken for punctuation. -/
  distinctive : ∀ param, Distinctive (literal param).toList

namespace Writing

variable (writing : Writing)

/-- Whether a character is code. -/
def isCode (c : Char) : Bool := SqlBuilder.isCode c && (!writing.strict || c != '$')

/-- Whether a text is written verbatim without being misread. -/
def Verbatim (text : String) : Prop := ∀ c ∈ text.toList, writing.isCode c = true

/-- Whether a lexeme is read as what it is, with its parameter among those that are known. -/
def Legible (known : List Param) : Lexeme → Prop
  | .code c => writing.isCode c = true
  | .placeholder param => param ∈ known ∧ (Lexeme.placeholder param).Legible
  | lexeme => lexeme.Legible

/-- Whether one sequence of lexemes is behind two lists of characters. -/
def Chars (known : List Param) (chars chars' : List Char) : Prop :=
  ∃ lexemes : List Lexeme, (∀ lexeme ∈ lexemes, writing.Legible known lexeme) ∧
    lexemes.IsChain Lexeme.Joins ∧ chars = lexemes.flatMap Lexeme.text ∧
    chars' = lexemes.flatMap (Lexeme.written fun param => (writing.literal param).toList)

/-- Whether two texts are twin. -/
def Text (known : List Param) (text text' : String) : Prop :=
  writing.Chars known text.toList text'.toList

/-- Whether a text can stand behind a placeholder. -/
def Ends (chars : List Char) : Prop := ∀ c ∈ chars.head?, Placeholder.isNameChar c = false

variable {writing} {known known' : List Param}

theorem Legible.legible {lexeme : Lexeme} (legible : writing.Legible known lexeme) :
    lexeme.Legible := by
  cases lexeme with
  | code c =>
      have code : writing.isCode c = true := legible
      simp only [isCode, Bool.and_eq_true] at code
      exact code.1
  | placeholder param => exact legible.2
  | quoted mark body => exact legible
  | assign => trivial

theorem Legible.mono {lexeme : Lexeme} (legible : writing.Legible known lexeme)
    (grown : known ⊆ known') : writing.Legible known' lexeme := by
  cases lexeme with
  | placeholder param => exact ⟨grown legible.1, legible.2⟩
  | code c => exact legible
  | quoted mark body => exact legible
  | assign => exact legible

namespace Chars

variable {chars chars' more more' : List Char}

theorem mono (twin : writing.Chars known chars chars') (grown : known ⊆ known') :
    writing.Chars known' chars chars' := by
  obtain ⟨lexemes, legible, chained, written, written'⟩ := twin
  exact ⟨lexemes, fun lexeme mem => (legible lexeme mem).mono grown, chained, written, written'⟩

theorem nil : writing.Chars known [] [] := ⟨[], by simp, List.isChain_nil, rfl, rfl⟩

/-- Lexemes without placeholder are written alike. -/
theorem single (lexeme : Lexeme) (legible : writing.Legible [] lexeme) :
    writing.Chars known lexeme.text lexeme.text := by
  refine ⟨[lexeme], ?_, List.isChain_singleton _, by simp, ?_⟩
  · intro other mem
    obtain rfl := List.mem_singleton.1 mem
    exact legible.mono (List.nil_subset _)
  · have other : ∀ param, lexeme ≠ .placeholder param := by
      rintro param rfl
      simp [Legible] at legible
    simp [Lexeme.written_of_ne _ other]

/-- A list ends where its first character says so. -/
theorem joins_head {lexemes : List Lexeme} (ends : Ends (lexemes.flatMap Lexeme.text))
    (lexeme : Lexeme) : ∀ next ∈ lexemes.head?, lexeme.Joins next := by
  intro next mem
  obtain ⟨rest, rfl⟩ := List.head?_eq_some_iff.1 mem
  cases lexeme with
  | placeholder param =>
      cases next with
      | code c => exact ends c (by simp [Lexeme.text])
      | quoted mark body => trivial
      | assign => trivial
      | placeholder other => trivial
  | code c => trivial
  | quoted mark body => trivial
  | assign => trivial

theorem append (twin : writing.Chars known chars chars')
    (more_twin : writing.Chars known more more') (ends : Ends more) :
    writing.Chars known (chars ++ more) (chars' ++ more') := by
  obtain ⟨lexemes, legible, chained, rfl, rfl⟩ := twin
  obtain ⟨others, others_legible, others_chained, rfl, rfl⟩ := more_twin
  refine ⟨lexemes ++ others, ?_, ?_, by simp, by simp⟩
  · intro lexeme mem
    rcases List.mem_append.1 mem with mem | mem
    · exact legible lexeme mem
    · exact others_legible lexeme mem
  · exact List.isChain_append.2 ⟨chained, others_chained, fun lexeme _ => joins_head ends lexeme⟩

/-- A lexeme other than a placeholder can stand in front of anything. -/
theorem cons (lexeme : Lexeme) (legible : writing.Legible [] lexeme)
    (twin : writing.Chars known chars chars') :
    writing.Chars known (lexeme.text ++ chars) (lexeme.text ++ chars') := by
  obtain ⟨lexemes, others_legible, chained, rfl, rfl⟩ := twin
  have other : ∀ param, lexeme ≠ .placeholder param := by
    rintro param rfl
    simp [Legible] at legible
  refine ⟨lexeme :: lexemes, ?_, ?_, by simp, by simp [Lexeme.written_of_ne _ other]⟩
  · intro next mem
    rcases List.mem_cons.1 mem with rfl | mem
    · exact legible.mono (List.nil_subset _)
    · exact others_legible next mem
  · exact List.isChain_cons.2 ⟨fun next _ => Lexeme.joins_of_ne other next, chained⟩

theorem code {code : List Char} (verbatim : ∀ c ∈ code, writing.isCode c = true)
    (twin : writing.Chars known chars chars') :
    writing.Chars known (code ++ chars) (code ++ chars') := by
  induction code with
  | nil => exact twin
  | cons c rest ih =>
      simp only [List.mem_cons, forall_eq_or_imp] at verbatim
      exact cons (.code c) verbatim.1 (ih verbatim.2)

theorem placeholder {param : Param} (mem : param ∈ known)
    (named : (Lexeme.placeholder param).Legible) :
    writing.Chars known (':' :: param.name.toList) (writing.literal param).toList :=
  ⟨[.placeholder param], by simp [Legible, mem, named], List.isChain_singleton _,
    by simp [Lexeme.text], by simp [Lexeme.written]⟩

/-- Without known parameters there is no placeholder, and both texts are one. -/
theorem eq_of_known_eq_nil (twin : writing.Chars [] chars chars') : chars = chars' := by
  obtain ⟨lexemes, legible, -, rfl, rfl⟩ := twin
  refine List.flatMap_congr fun lexeme mem => ?_
  refine (Lexeme.written_of_ne _ ?_).symm
  rintro param rfl
  simpa [Legible] using legible _ mem

/-- If placeholders are written as such, both texts are one. -/
theorem eq_of_literal (same : ∀ param, writing.literal param = param.placeholder)
    (twin : writing.Chars known chars chars') : chars = chars' := by
  obtain ⟨lexemes, -, -, rfl, rfl⟩ := twin
  refine List.flatMap_congr fun lexeme _ => ?_
  cases lexeme with
  | placeholder param => simp [Lexeme.text, Lexeme.written, same, Param.placeholder]
  | code c => rfl
  | quoted mark body => rfl
  | assign => rfl

/-- How twin texts start: both are empty, or both start with the same lexeme, or with a placeholder
and what is written for it. -/
theorem cases (twin : writing.Chars known chars chars') :
    (chars = [] ∧ chars' = []) ∨
      (∃ lexeme rest rest', writing.Legible [] lexeme ∧ writing.Chars known rest rest' ∧
        chars = lexeme.text ++ rest ∧ chars' = lexeme.text ++ rest') ∨
      ∃ param rest rest', writing.Chars known rest rest' ∧
        chars = ':' :: (param.name.toList ++ rest) ∧
        chars' = (writing.literal param).toList ++ rest' := by
  obtain ⟨lexemes, legible, chained, rfl, rfl⟩ := twin
  cases lexemes with
  | nil => exact .inl ⟨rfl, rfl⟩
  | cons lexeme rest =>
      have others : writing.Chars known (rest.flatMap Lexeme.text)
          (rest.flatMap (Lexeme.written fun param => (writing.literal param).toList)) :=
        ⟨rest, fun lexeme mem => legible lexeme (by simp [mem]),
          List.isChain_of_isChain_cons chained, rfl, rfl⟩
      have first := legible lexeme (by simp)
      cases lexeme with
      | placeholder param =>
          exact .inr (.inr ⟨param, _, _, others, by simp [Lexeme.text], by simp [Lexeme.written]⟩)
      | code c => exact .inr (.inl ⟨.code c, _, _, first, others, by simp, by simp; rfl⟩)
      | quoted mark body =>
          exact .inr (.inl ⟨.quoted mark body, _, _, first, others, by simp, by simp; rfl⟩)
      | assign => exact .inr (.inl ⟨.assign, _, _, first, others, by simp, by simp; rfl⟩)

theorem eq_nil_iff (twin : writing.Chars known chars chars') : chars = [] ↔ chars' = [] := by
  rcases twin.cases with ⟨rfl, rfl⟩ | ⟨lexeme, rest, rest', -, -, rfl, rfl⟩ |
    ⟨param, rest, rest', -, rfl, rfl⟩
  · rfl
  · simp [lexeme.text_ne_nil]
  · obtain ⟨c, others, literal, -⟩ := writing.distinctive param
    simp [literal]

/-- Twin texts start with the same punctuation. -/
theorem head?_eq_iff (twin : writing.Chars known chars chars') {c : Char}
    (mark : c ∈ "(),*. as\"\x60".toList) : chars.head? = some c ↔ chars'.head? = some c := by
  rcases twin.cases with ⟨rfl, rfl⟩ | ⟨lexeme, rest, rest', -, -, rfl, rfl⟩ |
    ⟨param, rest, rest', -, rfl, rfl⟩
  · rfl
  · obtain ⟨first, others, same⟩ := List.exists_cons_of_ne_nil lexeme.text_ne_nil
    simp [same]
  · obtain ⟨first, others, literal, other⟩ := writing.distinctive param
    have colon : ':' ∉ "(),*. as\"\x60".toList := by decide
    have differs : first ≠ c := by
      rintro rfl
      exact other mark
    have differs' : ':' ≠ c := by
      rintro rfl
      exact colon mark
    simp [literal, differs, differs']

end Chars

/-! ### Names among twin texts -/

/-- The characters outside quoted text, with the quotes that open it. -/
def outside (quote : Option Char) : List Char → List Char
  | [] => []
  | c :: rest =>
    match quote with
    | some closing => outside (if c = closing then none else quote) rest
    | none => c :: outside (if Placeholder.isQuote c then some c else none) rest

/-- Whether a text consists of quoted text and punctuation only, as names do. -/
def Plain (chars : List Char) : Prop :=
  ∃ lexemes : List Lexeme, chars = lexemes.flatMap Lexeme.text ∧
    ∀ lexeme ∈ lexemes, lexeme.Legible ∧
      ∃ c ∈ "(),*. as\"\x60".toList, lexeme = .code c ∨ ∃ body, lexeme = .quoted c body

theorem Plain.nil : Plain [] := ⟨[], rfl, by simp⟩

theorem Plain.append {chars more : List Char} (plain : Plain chars) (more_plain : Plain more) :
    Plain (chars ++ more) := by
  obtain ⟨lexemes, rfl, each⟩ := plain
  obtain ⟨others, rfl, others_each⟩ := more_plain
  refine ⟨lexemes ++ others, by simp, fun lexeme mem => ?_⟩
  rcases List.mem_append.1 mem with mem | mem
  · exact each lexeme mem
  · exact others_each lexeme mem

theorem Plain.code {c : Char} (mark : c ∈ "(),*. as".toList) : Plain [c] := by
  refine ⟨[.code c], rfl, fun lexeme mem => ?_⟩
  obtain rfl := List.mem_singleton.1 mem
  have code : ∀ c ∈ "(),*. as".toList, SqlBuilder.isCode c = true :=
    List.all_eq_true.1 (by decide)
  have wider : "(),*. as".toList ⊆ "(),*. as\"\x60".toList := by decide
  exact ⟨code c mark, c, wider mark, .inl rfl⟩

theorem Plain.codes {chars : List Char} (marks : chars ⊆ "(),*. as".toList) : Plain chars := by
  induction chars with
  | nil => exact .nil
  | cons c rest ih =>
      obtain ⟨mark, marks⟩ := List.cons_subset.1 marks
      exact (Plain.code mark).append (ih marks)

theorem Plain.quoted {mark : Char} (quote : mark ∈ "\"\x60".toList) (body : List Char) :
    Plain (Lexeme.quoted mark body).text := by
  refine ⟨[.quoted mark body], by simp, fun lexeme mem => ?_⟩
  obtain rfl := List.mem_singleton.1 mem
  have quotes : ∀ c ∈ "\"\x60".toList, Placeholder.isQuote c = true :=
    List.all_eq_true.1 (by decide)
  have wider : "\"\x60".toList ⊆ "(),*. as\"\x60".toList := by decide
  exact ⟨quotes mark quote, mark, wider quote, .inr ⟨body, rfl⟩⟩

/-- Names are written alike in both runs. -/
theorem Plain.chars {chars : List Char} (plain : Plain chars) :
    writing.Chars known chars chars := by
  obtain ⟨lexemes, rfl, each⟩ := plain
  induction lexemes with
  | nil => exact .nil
  | cons lexeme rest ih =>
      have rest_twin := ih fun lexeme mem => each lexeme (by simp [mem])
      obtain ⟨legible, c, mark, rfl | ⟨body, rfl⟩⟩ := each lexeme (by simp)
      · have undollared : ∀ c ∈ "(),*. as\"\x60".toList, (c != '$') = true :=
          List.all_eq_true.1 (by decide)
        have code : SqlBuilder.isCode c = true := legible
        exact Chars.cons (.code c)
          (by simp [Legible, isCode, code, undollared c mark]) rest_twin
      · exact Chars.cons (.quoted c body) legible rest_twin

theorem outside_double (mark : Char) (body rest : List Char)
    (quote : Placeholder.isQuote mark = true) :
    ∃ marks, (∀ c ∈ marks, c = mark) ∧
      outside (some mark) (Identifier.double mark body ++ mark :: rest) =
        marks ++ outside none rest := by
  induction body with
  | nil => exact ⟨[], by simp, by simp [Identifier.double, outside]⟩
  | cons c body ih =>
      obtain ⟨marks, all, inside⟩ := ih
      by_cases same : c = mark
      · subst same
        refine ⟨c :: marks, by simpa using all, ?_⟩
        simp only [Identifier.double, List.flatMap_cons, if_true] at inside ⊢
        simp [outside, quote, inside]
      · refine ⟨marks, all, ?_⟩
        simp only [Identifier.double, List.flatMap_cons, if_neg same] at inside ⊢
        simp [outside, same, inside]

/-- What is outside quotes in a lexeme, other than a placeholder, and in what follows it. -/
theorem outside_text {lexeme : Lexeme} (legible : lexeme.Legible)
    (other : ∀ param, lexeme ≠ .placeholder param) (rest : List Char) :
    ∃ marks, (∀ c mark body, lexeme = .code mark ∨ lexeme = .quoted mark body → c ∈ marks →
      c = mark) ∧ outside none (lexeme.text ++ rest) = marks ++ outside none rest := by
  cases lexeme with
  | code c =>
      have code : Placeholder.isQuote c = false := by
        have code : SqlBuilder.isCode c = true := legible
        simp only [SqlBuilder.isCode, Bool.and_eq_true, Bool.not_eq_true'] at code
        exact code.1
      refine ⟨[c], ?_, by simp [Lexeme.text, outside, code]⟩
      rintro d mark body (⟨⟨⟩⟩ | ⟨⟨⟩⟩) mem
      exact List.mem_singleton.1 mem
  | quoted mark body =>
      have quote : Placeholder.isQuote mark = true := legible
      obtain ⟨marks, all, inside⟩ := outside_double mark body rest quote
      refine ⟨mark :: marks, ?_, by simp [Lexeme.text, outside, quote, inside]⟩
      rintro d other body' (⟨⟨⟩⟩ | ⟨⟨⟩⟩) mem
      rcases List.mem_cons.1 mem with rfl | mem
      · rfl
      · exact all d mem
  | assign =>
      refine ⟨[':', '='], ?_, by
        have quotes : Placeholder.isQuote ':' = false ∧ Placeholder.isQuote '=' = false := by decide
        simp [Lexeme.text, outside, quotes]⟩
      rintro d mark body (⟨⟨⟩⟩ | ⟨⟨⟩⟩)
  | placeholder param => exact absurd rfl (other param)

theorem Plain.mem_outside {chars : List Char} (plain : Plain chars) :
    ∀ c ∈ outside none chars, c ∈ "(),*. as\"\x60".toList := by
  obtain ⟨lexemes, rfl, each⟩ := plain
  induction lexemes with
  | nil => simp [outside]
  | cons lexeme rest ih =>
      obtain ⟨legible, mark, mark_mem, form⟩ := each lexeme (by simp)
      have other : ∀ param, lexeme ≠ .placeholder param := by
        rintro param rfl
        rcases form with ⟨⟨⟩⟩ | ⟨_, ⟨⟩⟩
      obtain ⟨marks, all, same⟩ := outside_text legible other (rest.flatMap Lexeme.text)
      rw [List.flatMap_cons, same]
      intro c mem
      rcases List.mem_append.1 mem with mem | mem
      · rcases form with rfl | ⟨body, rfl⟩
        · rwa [all c mark [] (.inl rfl) mem]
        · rwa [all c mark body (.inr rfl) mem]
      · exact ih (fun lexeme mem => each lexeme (by simp [mem])) c mem

/-- A placeholder is outside quotes, and what is written for it starts there. -/
theorem exists_mem_outside {lexemes : List Lexeme}
    (legible : ∀ lexeme ∈ lexemes, writing.Legible known lexeme) {param : Param}
    (mem : .placeholder param ∈ lexemes) :
    ∃ c ∈ outside none (lexemes.flatMap
      (Lexeme.written fun param => (writing.literal param).toList)),
      c ∉ "(),*. as\"\x60".toList := by
  induction lexemes with
  | nil => simp at mem
  | cons lexeme rest ih =>
      rw [List.flatMap_cons]
      by_cases first : ∃ param, lexeme = .placeholder param
      · obtain ⟨param, rfl⟩ := first
        obtain ⟨c, others, literal, other⟩ := writing.distinctive param
        exact ⟨c, by simp [Lexeme.written, literal, outside], other⟩
      · have other : ∀ param, lexeme ≠ .placeholder param := fun param same => first ⟨param, same⟩
        have mem : Lexeme.placeholder param ∈ rest := by
          rcases List.mem_cons.1 mem with rfl | mem
          · exact absurd rfl (other param)
          · exact mem
        obtain ⟨c, inside, distinct⟩ := ih (fun lexeme mem => legible lexeme (by simp [mem])) mem
        obtain ⟨marks, -, same⟩ := outside_text (legible lexeme (by simp)).legible other
          (rest.flatMap (Lexeme.written fun param => (writing.literal param).toList))
        rw [Lexeme.written_of_ne _ other, same]
        exact ⟨c, List.mem_append_right _ inside, distinct⟩

/-- If one of two twin texts is a certain name, so is the other one. -/
theorem Chars.eq_plain_iff {chars chars' plain : List Char}
    (twin : writing.Chars known chars chars') (isPlain : Plain plain) :
    chars = plain ↔ chars' = plain := by
  obtain ⟨lexemes, legible, chained, rfl, rfl⟩ := twin
  have same (none : ∀ param, .placeholder param ∉ lexemes) :
      lexemes.flatMap Lexeme.text =
        lexemes.flatMap (Lexeme.written fun param => (writing.literal param).toList) := by
    refine List.flatMap_congr fun lexeme mem => (Lexeme.written_of_ne _ ?_).symm
    rintro param rfl
    exact none param mem
  constructor
  · intro eq
    refine (same fun param mem => ?_).symm.trans eq
    obtain ⟨names, rfl, each⟩ := isPlain
    have joined : names.IsChain Lexeme.Joins := Lexeme.isChain_of_ne fun lexeme mem param same => by
      obtain ⟨-, c, -, rfl | ⟨body, rfl⟩⟩ := each lexeme mem <;> cases same
    have scanned :=
      Placeholder.scan_lexemes (fun lexeme mem => (legible lexeme mem).legible) chained
    rw [eq, Placeholder.scan_lexemes (fun lexeme mem => (each lexeme mem).1) joined] at scanned
    have found : Placeholder.Part.reference param.name.toList ∈ names.flatMap Lexeme.parts := by
      rw [scanned]
      exact List.mem_flatMap.2 ⟨_, mem, by simp [Lexeme.parts]⟩
    obtain ⟨lexeme, lexeme_mem, part⟩ := List.mem_flatMap.1 found
    obtain ⟨-, c, -, rfl | ⟨body, rfl⟩⟩ := each lexeme lexeme_mem <;>
      simp [Lexeme.parts] at part
  · intro eq
    refine (same fun param mem => ?_).trans eq
    obtain ⟨c, inside, distinct⟩ := exists_mem_outside legible mem
    rw [eq] at inside
    exact distinct (isPlain.mem_outside c inside)

end Writing

end SqlBuilder
