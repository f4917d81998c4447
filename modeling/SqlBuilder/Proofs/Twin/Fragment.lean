import Mathlib.Data.List.Forall2
import SqlBuilder.Proofs.Twin.Name
import SqlBuilder.Query.Placement

/-!
# Twin fragments

Fragments of two runs with the same keywords and twin payloads. They render to twin texts: whether a
blank stands between two tokens depends on punctuation only, and twin texts start and end with the
same punctuation.
-/

namespace SqlBuilder

/-- Characters that are code for every way of writing. -/
def isPlainCode (c : Char) : Bool := isCode c && c != '$'

namespace Writing

variable {writing : Writing} {known known' : List Param} {text text' more more' : String}

theorem verbatim_of_all {text : String} (all : text.toList.all isPlainCode = true) :
    writing.Verbatim text := by
  intro c mem
  have plain := List.all_eq_true.1 all c mem
  simp only [isPlainCode, Bool.and_eq_true] at plain
  simp [isCode, plain.1, plain.2]

theorem Verbatim.append (verbatim : writing.Verbatim text) (verbatim' : writing.Verbatim more) :
    writing.Verbatim (text ++ more) := by
  intro c mem
  rw [String.toList_append] at mem
  rcases List.mem_append.1 mem with mem | mem
  · exact verbatim c mem
  · exact verbatim' c mem

/-- Whether a text can stand behind a placeholder. -/
def EndsText (text : String) : Prop := Ends text.toList

instance (text : String) : Decidable (EndsText text) :=
  decidable_of_iff (text.toList.head?.all (!Placeholder.isNameChar ·) = true) (by
    simp [EndsText, Ends, Option.all_eq_true])

theorem EndsText.empty : EndsText "" := by decide

theorem EndsText.append (ends : EndsText text) (nonempty : text.toList ≠ []) :
    EndsText (text ++ more) := by
  obtain ⟨c, rest, same⟩ := List.exists_cons_of_ne_nil nonempty
  have first := ends c (by simp [same])
  simpa [EndsText, Ends, same] using first

namespace Text

theorem mono (twin : writing.Text known text text') (grown : known ⊆ known') :
    writing.Text known' text text' :=
  Chars.mono twin grown

theorem plain {text : String} (plain : Plain text.toList) : writing.Text known text text :=
  plain.chars

theorem verbatim (verbatim : writing.Verbatim text) : writing.Text known text text := by
  have twin : writing.Chars known (text.toList ++ []) (text.toList ++ []) := .code verbatim .nil
  simpa [Text] using twin

theorem empty : writing.Text known "" "" := Chars.nil

theorem append (twin : writing.Text known text text') (twin' : writing.Text known more more')
    (ends : EndsText more) : writing.Text known (text ++ more) (text' ++ more') := by
  simpa [Text] using Chars.append twin twin' ends

theorem prepend (verbatim : writing.Verbatim text) (twin : writing.Text known more more') :
    writing.Text known (text ++ more) (text ++ more') := by
  simpa [Text] using Chars.code verbatim twin

theorem between {middle : String} (twin : writing.Text known text text')
    (verbatim : writing.Verbatim middle) (ends : EndsText middle) (nonempty : middle.toList ≠ [])
    (twin' : writing.Text known more more') :
    writing.Text known (text ++ middle ++ more) (text' ++ middle ++ more') := by
  rw [String.append_assoc, String.append_assoc]
  exact twin.append (prepend verbatim twin') (ends.append nonempty)

theorem eq_of_known_eq_nil (twin : writing.Text [] text text') : text = text' :=
  String.toList_inj.1 (Chars.eq_of_known_eq_nil twin)

theorem eq_of_literal (same : ∀ param, writing.literal param = param.placeholder)
    (twin : writing.Text known text text') : text = text' :=
  String.toList_inj.1 (Chars.eq_of_literal same twin)

theorem isEmpty_eq (twin : writing.Text known text text') : text.isEmpty = text'.isEmpty := by
  have nil := Chars.eq_nil_iff twin
  rw [Bool.eq_iff_iff]
  simpa using nil

theorem eq_plain_iff {plain : String} (twin : writing.Text known text text')
    (isPlain : Plain plain.toList) : text = plain ↔ text' = plain := by
  have same := Chars.eq_plain_iff twin isPlain
  simpa [String.toList_inj] using same

/-- The gap between two tokens depends on punctuation only. -/
theorem gap_eq (before : writing.Text known text text') (after : writing.Text known more more') :
    gap text more = gap text' more' := by
  have opening : text = "(" ↔ text' = "(" := before.eq_plain_iff (.codes (by decide))
  have comma : more = "," ↔ more' = "," := after.eq_plain_iff (.codes (by decide))
  have closing : more.toList.head? = some ')' ↔ more'.toList.head? = some ')' :=
    Chars.head?_eq_iff after (by decide)
  simp [gap, attaches, opening, comma, closing]

theorem endsText_of_attaches {token : String} (attached : attaches token = true) :
    EndsText (token ++ more) := by
  have name : Placeholder.isNameChar ',' = false ∧ Placeholder.isNameChar ')' = false := by decide
  simp only [attaches, Bool.or_eq_true, beq_iff_eq] at attached
  rcases attached with rfl | closing
  · simp [EndsText, Ends, name]
  · obtain ⟨rest, same⟩ := List.head?_eq_some_iff.1 closing
    simp [EndsText, Ends, same, name]

/-- Twin tokens render to twin texts. -/
theorem renderAfter {tokens tokens' : List String}
    (twins : List.Forall₂ (writing.Text known) tokens tokens')
    (twin : writing.Text known text text') :
    writing.Text known (text ++ SqlBuilder.renderAfter text tokens)
      (text' ++ SqlBuilder.renderAfter text' tokens') := by
  induction twins generalizing text text' with
  | nil => simpa [SqlBuilder.renderAfter] using twin
  | @cons token token' rest rest' first _ ih =>
      have step := ih first
      have opening : text = "(" ↔ text' = "(" := twin.eq_plain_iff (.codes (by decide))
      rw [SqlBuilder.renderAfter, SqlBuilder.renderAfter, ← twin.gap_eq first]
      by_cases opened : text = "("
      · obtain rfl := opening.1 opened
        subst opened
        have bare : gap "(" token = "" := by simp [gap]
        rw [bare, String.empty_append, String.empty_append]
        exact prepend (verbatim_of_all (by decide)) step
      · cases attached : attaches token with
        | true =>
            have bare : gap text token = "" := by simp [gap, attached]
            rw [bare, String.empty_append, String.empty_append]
            exact twin.append step (endsText_of_attaches attached)
        | false =>
            have blank : gap text token = " " := by simp [gap, attached, opened]
            have joined := twin.between (verbatim_of_all (by decide))
              (by decide : EndsText " ") (by decide) step
            rw [blank]
            simpa only [String.append_assoc] using joined

theorem renderTokens {tokens tokens' : List String}
    (twins : List.Forall₂ (writing.Text known) tokens tokens') :
    writing.Text known (SqlBuilder.renderTokens tokens) (SqlBuilder.renderTokens tokens') := by
  cases twins with
  | nil => exact verbatim (verbatim_of_all (by decide))
  | cons first rest => exact renderAfter rest first

/-- Twin items make twin lists. -/
theorem intercalate {separator : String} (verbatim : writing.Verbatim separator)
    (ends : EndsText separator) (nonempty : separator.toList ≠ []) {items items' : List String}
    (twins : List.Forall₂ (writing.Text known) items items') :
    writing.Text known (String.intercalate separator items)
      (String.intercalate separator items') := by
  unfold Text
  rw [String.toList_intercalate, String.toList_intercalate]
  induction twins with
  | nil => exact .nil
  | @cons item item' rest rest' first others ih =>
      cases others with
      | nil =>
          have single : writing.Chars known item.toList item'.toList := first
          simpa using single
      | cons second others =>
          simp only [List.map_cons, List.intercalate_cons_cons] at ih ⊢
          rw [List.append_assoc, List.append_assoc]
          refine Chars.append first (Chars.code verbatim ih) ?_
          obtain ⟨c, chars, same⟩ := List.exists_cons_of_ne_nil nonempty
          have head := ends c (by simp [same])
          simpa [Ends, same] using head

end Text

/-- Payloads of twin texts. -/
inductive PayloadTwin (writing : Writing) (known : List Param) :
    Option Payload → Option Payload → Prop
  | none : PayloadTwin writing known none none
  | text {text text' : String} : writing.Text known text text' →
      PayloadTwin writing known (some (.text text)) (some (.text text'))
  | items {items items' : List String} : List.Forall₂ (writing.Text known) items items' →
      PayloadTwin writing known (some (.items items)) (some (.items items'))

/-- Fragments with one keyword and twin payloads. A select list is the same in both. -/
structure FragmentTwin (writing : Writing) (known : List Param) (fragment fragment' : Fragment) :
    Prop where
  keyword : fragment'.keyword = fragment.keyword
  verbatim : writing.Verbatim fragment.keyword
  separator : fragment.separator = none
  separator' : fragment'.separator = none
  payload : writing.PayloadTwin known fragment.payload fragment'.payload
  listed : isSelectKeyword fragment.keyword = true → fragment'.payload = fragment.payload

/-- Lists of twin fragments. -/
abbrev FragmentTwins (writing : Writing) (known : List Param) :
    List Fragment → List Fragment → Prop :=
  List.Forall₂ (writing.FragmentTwin known)

theorem forall₂_mono {items items' : List String}
    (twins : List.Forall₂ (writing.Text known) items items') (grown : known ⊆ known') :
    List.Forall₂ (writing.Text known') items items' :=
  twins.imp fun _ _ twin => twin.mono grown

theorem PayloadTwin.mono {payload payload' : Option Payload}
    (twin : writing.PayloadTwin known payload payload') (grown : known ⊆ known') :
    writing.PayloadTwin known' payload payload' := by
  cases twin with
  | none => exact .none
  | text twin => exact .text (twin.mono grown)
  | items twins => exact .items (forall₂_mono twins grown)

theorem FragmentTwin.mono {fragment fragment' : Fragment}
    (twin : writing.FragmentTwin known fragment fragment') (grown : known ⊆ known') :
    writing.FragmentTwin known' fragment fragment' :=
  ⟨twin.keyword, twin.verbatim, twin.separator, twin.separator', twin.payload.mono grown,
    twin.listed⟩

theorem FragmentTwins.mono {fragments fragments' : List Fragment}
    (twins : writing.FragmentTwins known fragments fragments') (grown : known ⊆ known') :
    writing.FragmentTwins known' fragments fragments' :=
  twins.imp fun _ _ twin => twin.mono grown

theorem forall₂_filter {tokens tokens' : List String}
    (twins : List.Forall₂ (writing.Text known) tokens tokens') :
    List.Forall₂ (writing.Text known) (tokens.filter (!·.isEmpty))
      (tokens'.filter (!·.isEmpty)) := by
  induction twins with
  | nil => exact .nil
  | cons first _ ih =>
      rw [List.filter_cons, List.filter_cons, first.isEmpty_eq]
      split
      · exact .cons first ih
      · exact ih

theorem FragmentTwin.tokens {separator : String} (verbatim : writing.Verbatim separator)
    (ends : EndsText separator) (nonempty : separator.toList ≠ []) {fragment fragment' : Fragment}
    (twin : writing.FragmentTwin known fragment fragment') :
    List.Forall₂ (writing.Text known) (fragment.tokens separator) (fragment'.tokens separator) := by
  unfold Fragment.tokens
  rw [twin.keyword, twin.separator, twin.separator']
  have keyword : writing.Text known fragment.keyword fragment.keyword := .verbatim twin.verbatim
  refine forall₂_filter (.cons keyword ?_)
  have payload := twin.payload
  revert payload
  generalize fragment.payload = first
  generalize fragment'.payload = second
  intro payload
  cases payload with
  | none => exact .nil
  | text twin => exact .cons twin .nil
  | items twins => exact .cons (.intercalate verbatim ends nonempty (forall₂_filter twins)) .nil

/-- Twin fragments render to twin texts. -/
theorem FragmentTwins.render {separator : String} (verbatim : writing.Verbatim separator)
    (ends : EndsText separator) (nonempty : separator.toList ≠ [])
    {fragments fragments' : List Fragment}
    (twins : writing.FragmentTwins known fragments fragments') :
    writing.Text known (renderFragments separator fragments)
      (renderFragments separator fragments') := by
  refine Text.renderTokens ?_
  induction twins with
  | nil => exact .nil
  | cons first _ ih =>
      rw [List.flatMap_cons, List.flatMap_cons]
      exact List.rel_append (first.tokens verbatim ends nonempty) ih

end Writing

end SqlBuilder
