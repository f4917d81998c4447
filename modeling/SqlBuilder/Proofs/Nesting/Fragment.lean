import Mathlib.Data.List.Chain
import SqlBuilder.Fragment
import SqlBuilder.Proofs.Nesting.Text

/-!
# Balanced fragments

The fragments of a query open and close groups. Apart from these, a fragment closes what it opens,
so parentheses are balanced in the text as they are among the fragments.

Groups leave the keyword of their opening parenthesis to the group around them. An opening without a
keyword goes on with the fragment before it, and a clause is removed with what goes on with it. That
no removal takes an opening along is why such an opening stands directly behind another opening.
-/

namespace SqlBuilder

open Nesting

namespace Fragment

variable {dialect : Dialect} {fragment : Fragment}

/-- The keywords of conditions. -/
def conditionKeywords : List String := ["where", "having", "on", "and", "or"]

/-- Whether a fragment opens a group. -/
inductive Opens : Fragment → Prop
  | token : Opens (.token "(")
  | under {keyword : String} : keyword ∈ "" :: conditionKeywords → Opens (.withText keyword "(")

/-- Opens a group whose keyword went to the group around it. -/
def inner : Fragment := .withText "" "("

/-- Whether every part of a fragment closes what it opens. -/
structure Closed (dialect : Dialect) (fragment : Fragment) : Prop where
  keyword : dialect.Closed fragment.keyword
  items : ∀ payload ∈ fragment.payload, ∀ item ∈ payload.toItems, dialect.Closed item
  separator : ∀ separator ∈ fragment.separator, dialect.Closed separator

theorem Closed.token {keyword : String} (closed : dialect.Closed keyword) :
    (Fragment.token keyword).Closed dialect where
  keyword := closed
  items := by simp [Fragment.token]
  separator := by simp [Fragment.token]

theorem Closed.withItems {keyword : String} (closed : dialect.Closed keyword) {items : List String}
    (each : ∀ item ∈ items, dialect.Closed item) :
    Fragment.Closed dialect { keyword, payload := some (.items items) } where
  keyword := closed
  items := by
    rintro _ ⟨⟩
    exact each
  separator := by simp

theorem Closed.withText {keyword text : String} (closed : dialect.Closed keyword)
    (body : dialect.Closed text) : (Fragment.withText keyword text).Closed dialect where
  keyword := closed
  items := by
    rintro _ ⟨⟩ item mem
    rw [List.mem_singleton.1 mem]
    exact body
  separator := by simp [Fragment.withText]

theorem not_closed_opening (dialect : Dialect) : ¬dialect.Closed "(" := by
  intro closed
  have same : some (Place.code, 1) = some (Place.code, 0) := closed 0
  cases same

theorem not_closed_closing (dialect : Dialect) : ¬dialect.Closed ")" := by
  intro closed
  have same : none = some (Place.code, 0) := closed 0
  cases same

theorem Closed.not_opens (closed : fragment.Closed dialect) : ¬fragment.Opens := by
  intro opens
  cases opens with
  | token => exact not_closed_opening dialect closed.keyword
  | under mem =>
      exact not_closed_opening dialect (closed.items _ rfl "(" (by simp [Payload.toItems]))

theorem Closed.ne_inner (closed : fragment.Closed dialect) : fragment ≠ inner := by
  rintro rfl
  exact closed.not_opens (.under (by simp))

theorem Closed.ne_closing (closed : fragment.Closed dialect) : fragment ≠ .token ")" := by
  rintro rfl
  exact not_closed_closing dialect closed.keyword

/-- Openings are no clauses of their own. -/
theorem Opens.keyword_mem (opens : fragment.Opens) :
    fragment.keyword ∈ "(" :: "" :: conditionKeywords := by
  cases opens with
  | token => simp [Fragment.token]
  | under mem => exact List.mem_cons_of_mem _ mem

end Fragment

variable {dialect : Dialect}

/-- Whether fragments lead from one depth to another, closing no group that was open before. -/
inductive Levels (dialect : Dialect) : Nat → List Fragment → Nat → Prop
  | nil {depth : Nat} : Levels dialect depth [] depth
  | closed {depth depth' : Nat} {fragment : Fragment} {rest : List Fragment} :
      fragment.Closed dialect → Levels dialect depth rest depth' →
      Levels dialect depth (fragment :: rest) depth'
  | opening {depth depth' : Nat} {fragment : Fragment} {rest : List Fragment} :
      fragment.Opens → Levels dialect (depth + 1) rest depth' →
      Levels dialect depth (fragment :: rest) depth'
  | closing {depth depth' : Nat} {rest : List Fragment} : Levels dialect depth rest depth' →
      Levels dialect (depth + 1) (.token ")" :: rest) depth'

namespace Levels

variable {depth middle depth' : Nat} {fragments more : List Fragment}

theorem append (first : Levels dialect depth fragments middle)
    (second : Levels dialect middle more depth') :
    Levels dialect depth (fragments ++ more) depth' := by
  induction first with
  | nil => exact second
  | closed closed _ ih => exact .closed closed (ih second)
  | opening opens _ ih => exact .opening opens (ih second)
  | closing _ ih => exact .closing (ih second)

theorem split (all : Levels dialect depth (fragments ++ more) depth') :
    ∃ middle, Levels dialect depth fragments middle ∧ Levels dialect middle more depth' := by
  induction fragments generalizing depth with
  | nil => exact ⟨depth, .nil, all⟩
  | cons fragment rest ih =>
      rw [List.cons_append] at all
      cases all with
      | closed closed tail =>
          rcases ih tail with ⟨middle, first, second⟩
          exact ⟨middle, .closed closed first, second⟩
      | opening opens tail =>
          rcases ih tail with ⟨middle, first, second⟩
          exact ⟨middle, .opening opens first, second⟩
      | closing tail =>
          rcases ih tail with ⟨middle, first, second⟩
          exact ⟨middle, .closing first, second⟩

theorem shift (levels : Levels dialect depth fragments depth') (offset : Nat) :
    Levels dialect (depth + offset) fragments (depth' + offset) := by
  induction levels with
  | nil => exact .nil
  | closed closed _ ih => exact .closed closed ih
  | opening opens _ ih =>
      rw [Nat.add_right_comm] at ih
      exact .opening opens ih
  | closing _ ih =>
      rw [Nat.add_right_comm]
      exact .closing ih

theorem of_closed (each : ∀ fragment ∈ fragments, fragment.Closed dialect) :
    Levels dialect depth fragments depth := by
  induction fragments with
  | nil => exact .nil
  | cons fragment rest ih =>
      simp only [List.mem_cons, forall_eq_or_imp] at each
      exact .closed each.1 (ih each.2)

theorem eq_of_closed (levels : Levels dialect depth fragments depth')
    (each : ∀ fragment ∈ fragments, fragment.Closed dialect) : depth = depth' := by
  induction levels with
  | nil => rfl
  | closed _ _ ih => exact ih fun fragment mem => each fragment (List.mem_cons_of_mem _ mem)
  | opening opens _ _ => exact absurd opens (each _ List.mem_cons_self).not_opens
  | closing _ _ => exact absurd rfl (each _ List.mem_cons_self).ne_closing

/-- A fragment is a parenthesis, or closes what it opens. -/
theorem cases_of_mem (levels : Levels dialect depth fragments depth') {fragment : Fragment}
    (mem : fragment ∈ fragments) :
    fragment.Closed dialect ∨ fragment.Opens ∨ fragment = .token ")" := by
  induction levels with
  | nil => cases mem
  | closed closed _ ih =>
      rcases List.mem_cons.1 mem with rfl | mem
      · exact .inl closed
      · exact ih mem
  | opening opens _ ih =>
      rcases List.mem_cons.1 mem with rfl | mem
      · exact .inr (.inl opens)
      · exact ih mem
  | closing _ ih =>
      rcases List.mem_cons.1 mem with rfl | mem
      · exact .inr (.inr rfl)
      · exact ih mem

end Levels

/-- Whether a fragment may stand behind another one. -/
def MayFollow (fragment next : Fragment) : Prop := next = .inner → fragment.Opens

/-- Whether the groups of fragments are balanced, with openings that have no keyword behind others
only. -/
structure Balanced (dialect : Dialect) (fragments : List Fragment) : Prop where
  levels : Levels dialect 0 fragments 0
  starts : fragments.head? ≠ some .inner
  linked : List.IsChain MayFollow fragments

namespace Balanced

variable {before new after fragments : List Fragment}

theorem nil : Balanced dialect [] := ⟨.nil, by simp, .nil⟩

theorem of_closed (each : ∀ fragment ∈ fragments, fragment.Closed dialect) :
    Balanced dialect fragments := by
  refine ⟨.of_closed each, ?_, ?_⟩
  · intro starts
    exact (each _ (List.mem_of_mem_head? starts)).ne_inner rfl
  · induction fragments with
    | nil => exact .nil
    | cons fragment rest ih =>
        simp only [List.mem_cons, forall_eq_or_imp] at each
        refine List.isChain_cons.2 ⟨?_, ih each.2⟩
        rintro next mem rfl
        exact absurd rfl (each.2 _ (List.mem_of_mem_head? mem)).ne_inner

theorem singleton {fragment : Fragment} (closed : fragment.Closed dialect) :
    Balanced dialect [fragment] := by
  apply of_closed
  intro other mem
  rw [List.mem_singleton.1 mem]
  exact closed

/-- Balanced fragments take the place of fragments that belong to no group. -/
theorem splice {old : List Fragment} (balanced : Balanced dialect (before ++ (old ++ after)))
    (each : ∀ fragment ∈ old, fragment.Closed dialect) (block : Balanced dialect new)
    (ends : after.head? ≠ some .inner) : Balanced dialect (before ++ (new ++ after)) := by
  rcases balanced.levels.split with ⟨depth, first, others⟩
  rcases others.split with ⟨depth', middle, last⟩
  obtain rfl := middle.eq_of_closed each
  have inserted := block.levels.shift depth
  rw [Nat.zero_add] at inserted
  rcases List.isChain_append.1 balanced.linked with ⟨linkedBefore, linkedRest, -⟩
  have linkedAfter := (List.isChain_append.1 linkedRest).2.1
  have behind : ∀ fragment, ∀ next ∈ after.head?, MayFollow fragment next := by
    rintro fragment next mem rfl
    exact absurd mem ends
  have inside : ∀ fragment, ∀ next ∈ (new ++ after).head?, MayFollow fragment next := by
    intro fragment next mem
    cases new with
    | nil => exact behind fragment next mem
    | cons start rest =>
        rintro rfl
        exact absurd mem block.starts
  refine ⟨first.append (inserted.append last), ?_, ?_⟩
  · cases before with
    | nil =>
        intro starts
        cases new with
        | nil => exact ends starts
        | cons start rest => exact block.starts starts
    | cons start rest => exact balanced.starts
  · refine List.isChain_append.2 ⟨linkedBefore, ?_, fun fragment _ => inside fragment⟩
    exact List.isChain_append.2 ⟨block.linked, linkedAfter, fun fragment _ => behind fragment⟩

theorem insert (balanced : Balanced dialect (before ++ after)) (block : Balanced dialect new)
    (ends : after.head? ≠ some .inner) : Balanced dialect (before ++ (new ++ after)) := by
  have nothing : Balanced dialect (before ++ ([] ++ after)) := balanced
  exact nothing.splice (by simp) block ends

theorem append (balanced : Balanced dialect before) (block : Balanced dialect new) :
    Balanced dialect (before ++ new) := by
  have front : Balanced dialect (before ++ []) := by simpa using balanced
  have whole := front.insert block (by simp)
  simpa using whole

/-- What stands behind a fragment that opens no group has a keyword, or belongs to no group. -/
theorem head?_ne_inner {fragment : Fragment}
    (balanced : Balanced dialect (before ++ fragment :: after)) (none : ¬fragment.Opens) :
    after.head? ≠ some .inner := by
  intro same
  have linked := (List.isChain_append.1 balanced.linked).2.1
  exact none ((List.isChain_cons.1 linked).1 _ same rfl)

/-- A group around balanced fragments. -/
theorem group {opening : Fragment} (opens : opening.Opens) (keyword : opening ≠ .inner)
    (levels : Levels dialect 0 fragments 0)
    (linked : List.IsChain MayFollow (opening :: fragments)) :
    Balanced dialect (opening :: (fragments ++ [.token ")"])) := by
  have inside := levels.shift 1
  rw [Nat.zero_add] at inside
  refine ⟨.opening opens (inside.append (.closing .nil)), by simpa using keyword, ?_⟩
  rw [← List.cons_append]
  refine List.isChain_append.2 ⟨linked, .singleton _, ?_⟩
  intro fragment _ next mem same
  cases mem
  exact absurd same (by decide)

end Balanced

/-! ### Rendering -/

/-- Whether tokens in a row lead from one depth to another. -/
def LeadsAll (backslash : Bool) : Nat → List String → Nat → Prop
  | depth, [], depth' => depth = depth'
  | depth, token :: rest, depth' =>
    ∃ middle, Leads backslash depth token middle ∧ LeadsAll backslash middle rest depth'

namespace LeadsAll

variable {backslash : Bool} {depth middle depth' : Nat} {tokens more : List String}

theorem append (first : LeadsAll backslash depth tokens middle)
    (second : LeadsAll backslash middle more depth') :
    LeadsAll backslash depth (tokens ++ more) depth' := by
  induction tokens generalizing depth with
  | nil =>
      cases first
      exact second
  | cons token rest ih =>
      rcases first with ⟨next, read, others⟩
      exact ⟨next, read, ih others⟩

theorem of_closed (each : ∀ token ∈ tokens, Nesting.Closed backslash token) :
    LeadsAll backslash depth tokens depth := by
  induction tokens with
  | nil => rfl
  | cons token rest ih =>
      simp only [List.mem_cons, forall_eq_or_imp] at each
      exact ⟨depth, each.1 depth, ih each.2⟩

theorem renderAfter (leads : LeadsAll backslash depth tokens depth') (before : String) :
    Leads backslash depth (renderAfter before tokens) depth' := by
  induction tokens generalizing depth before with
  | nil =>
      cases leads
      rfl
  | cons token rest ih =>
      rcases leads with ⟨next, read, others⟩
      have blank : Nesting.Closed backslash (gap before token) := by
        unfold gap
        exact .ite .empty (.of_all (by decide))
      exact (blank depth).append (read.append (ih others token))

theorem renderTokens (leads : LeadsAll backslash depth tokens depth') :
    Leads backslash depth (renderTokens tokens) depth' := by
  cases tokens with
  | nil =>
      cases leads
      rfl
  | cons token rest =>
      rcases leads with ⟨next, read, others⟩
      exact read.append (others.renderAfter token)

end LeadsAll

theorem Fragment.Closed.tokens {fragment : Fragment} (closed : fragment.Closed dialect)
    {separator : String} (between : dialect.Closed separator) :
    ∀ token ∈ fragment.tokens separator, dialect.Closed token := by
  intro token mem
  unfold Fragment.tokens at mem
  rcases List.mem_cons.1 (List.mem_filter.1 mem).1 with rfl | mem
  · exact closed.keyword
  · split at mem
    · cases mem
    · rename_i payload same
      rw [List.mem_singleton.1 mem]
      have items := closed.items payload same
      cases payload with
      | text value => exact items value (by simp [Payload.toItems])
      | items values =>
          refine Nesting.Closed.intercalate ?_ ?_
          · cases own : fragment.separator with
            | none => exact between
            | some separator => exact closed.separator separator own
          · intro item mem
            exact items item (List.mem_filter.1 mem).1

theorem Fragment.Opens.tokens {fragment : Fragment} (opens : fragment.Opens) (separator : String)
    (depth : Nat) :
    LeadsAll dialect.readsBackslash depth (fragment.tokens separator) (depth + 1) := by
  have parenthesis : LeadsAll dialect.readsBackslash depth ["("] (depth + 1) :=
    ⟨depth + 1, leads_opening depth, rfl⟩
  cases opens with
  | token => exact parenthesis
  | under mem =>
      simp only [conditionKeywords, List.mem_cons, List.not_mem_nil, or_false] at mem
      have word {keyword : String} (bare : keyword.toList.all isBare = true) :
          LeadsAll dialect.readsBackslash depth [keyword, "("] (depth + 1) :=
        ⟨depth, Nesting.Closed.of_all bare depth, parenthesis⟩
      rcases mem with rfl | rfl | rfl | rfl | rfl | rfl
      · exact parenthesis
      · exact word (by decide)
      · exact word (by decide)
      · exact word (by decide)
      · exact word (by decide)
      · exact word (by decide)

theorem Levels.tokens {separator : String} (between : dialect.Closed separator) {depth depth' : Nat}
    {fragments : List Fragment} (levels : Levels dialect depth fragments depth') :
    LeadsAll dialect.readsBackslash depth (fragments.flatMap (·.tokens separator)) depth' := by
  induction levels with
  | nil => rfl
  | closed closed _ ih =>
      rw [List.flatMap_cons]
      exact (LeadsAll.of_closed (closed.tokens between)).append ih
  | opening opens _ ih =>
      rw [List.flatMap_cons]
      exact (opens.tokens separator _).append ih
  | closing _ ih =>
      rw [List.flatMap_cons]
      have parenthesis (depth : Nat) : LeadsAll dialect.readsBackslash (depth + 1)
          ((Fragment.token ")").tokens separator) depth :=
        ⟨depth, leads_closing depth, rfl⟩
      exact (parenthesis _).append ih

/-- Balanced fragments render to a text that closes what it opens. -/
theorem Balanced.render {separator : String} (between : dialect.Closed separator)
    {fragments : List Fragment} (balanced : Balanced dialect fragments) :
    dialect.Closed (renderFragments separator fragments) := by
  intro depth
  have levels := balanced.levels.shift depth
  rw [Nat.zero_add] at levels
  exact (levels.tokens between).renderTokens

end SqlBuilder
