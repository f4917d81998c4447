import SqlBuilder.Proofs.Expr.Inherits
import SqlBuilder.Proofs.Param.Workspace

/-!
# Compiling beside further parameters

An operand is compiled twice: for a query that has parameters of other calls as well, and for one
that has not. Both runs give one text. The names of the second query stay among those of the first
one, and the first one takes over nothing that neither the second one nor the other calls have.

Where values are named both queries have to count alike. Where none is named it does not matter how
far they have counted. On a connection that writes values inline none is ever named.
-/

namespace SqlBuilder

namespace ParamList

variable {registry : Registry} {naming : Prop} {others : Param → Prop}
  {params own other : ParamList}

/-- Whether a list has the names of another one, and otherwise only parameters of other calls. The
other list is on an extension of the record. -/
structure Covers (registry : Registry) (naming : Prop) (others : Param → Prop)
    (params own : ParamList) : Prop where
  namespaceId : params.namespaceId = own.namespaceId
  nextIndex : naming → params.nextIndex = own.nextIndex
  named : ∀ param ∈ own.entries, params.has param.name = true
  known : ∀ param ∈ params.entries, param ∈ own.entries ∨ others param
  onRecord : ∃ later, registry.Extends later ∧ (¬naming → later = registry) ∧
    own.Follows later ∧ own.Owns later

/-- Whether a list was only added to, without counting where nothing is named. -/
structure Passes (naming : Prop) (params later : ParamList) : Prop where
  namespaceId : later.namespaceId = params.namespaceId
  nextIndex : ¬naming → later.nextIndex = params.nextIndex
  kept : params.entries ⊆ later.entries

theorem Passes.refl (naming : Prop) (params : ParamList) : params.Passes naming params :=
  ⟨rfl, fun _ => rfl, List.Subset.refl _⟩

theorem Passes.trans {later last : ParamList} (first : params.Passes naming later)
    (second : later.Passes naming last) : params.Passes naming last where
  namespaceId := second.namespaceId.trans first.namespaceId
  nextIndex silent := (second.nextIndex silent).trans (first.nextIndex silent)
  kept := List.Subset.trans first.kept second.kept

theorem has_mono {name : String} (kept : params.entries ⊆ other.entries)
    (present : params.has name = true) : other.has name = true := by
  rw [has_iff] at present ⊢
  exact List.map_subset _ kept present

theorem has_of_mem {param : Param} (mem : param ∈ params.entries) :
    params.has param.name = true :=
  (has_iff _).2 (List.mem_map_of_mem mem)

/-- A parameter that is adopted has its name taken. -/
theorem has_adopt (params : ParamList) (param : Param) :
    (params.adopt param).has param.name = true := by
  unfold adopt
  split
  · assumption
  · exact has_of_mem (List.mem_append_right _ (List.mem_singleton_self param))

namespace Covers

/-- A name that is free in the larger list is free in the smaller one. -/
theorem adopt (covers : params.Covers registry naming others own) {param : Param}
    (recorded : param.Recorded registry) :
    (params.adopt param).Covers registry naming others (own.adopt param) where
  namespaceId := by rw [namespaceId_adopt, namespaceId_adopt, covers.namespaceId]
  nextIndex named := by rw [nextIndex_adopt, nextIndex_adopt, covers.nextIndex named]
  named := by
    intro found mem
    have either : found ∈ own.entries ∨ found = param := by
      unfold ParamList.adopt at mem
      split at mem
      · exact .inl mem
      · simpa using mem
    rcases either with mem | rfl
    · exact has_mono (params.subset_adopt param) (covers.named found mem)
    · exact has_adopt params found
  known := by
    intro found mem
    unfold ParamList.adopt at mem
    split at mem
    · rcases covers.known found mem with mine | other
      · exact .inl (own.subset_adopt param mine)
      · exact .inr other
    · rename_i free
      rcases List.mem_append.1 mem with mem | mem
      · rcases covers.known found mem with mine | other
        · exact .inl (own.subset_adopt param mine)
        · exact .inr other
      · rw [List.mem_singleton.1 mem]
        have ownFree : ¬own.has param.name = true := by
          intro present
          rcases List.mem_map.1 ((has_iff _).1 present) with ⟨taken, taken_mem, name⟩
          rw [← name] at free
          exact free (covers.named taken taken_mem)
        left
        unfold ParamList.adopt
        rw [if_neg ownFree]
        exact List.mem_append_right _ (List.mem_singleton_self param)
  onRecord := by
    rcases covers.onRecord with ⟨later, extended, silent, follows, owns⟩
    refine ⟨later, extended, silent, follows.adopt (recorded.mono extended), ?_⟩
    unfold Owns at owns ⊢
    rw [nextIndex_adopt, namespaceId_adopt, owns]

/-- The parameters of a nested query are taken over in both runs. -/
theorem extend (covers : params.Covers registry naming others own)
    (follows : other.Follows registry) :
    (params.extend other).Covers registry naming others (own.extend other) := by
  obtain ⟨namespaceId, nextIndex, entries⟩ := other
  have recorded := follows.recorded
  clear follows
  induction entries generalizing params own with
  | nil => exact covers
  | cons param rest ih =>
      simp only [List.mem_cons, forall_eq_or_imp] at recorded
      rw [extend_cons, extend_cons]
      exact ih (covers.adopt recorded.1) recorded.2

/-- A value gets one name in both runs. -/
theorem push (covers : params.Covers registry naming others own) (named : naming)
    (value : Scalar) :
    (params.push value).1 = (own.push value).1 ∧
      (params.push value).2.Covers registry naming others (own.push value).2 := by
  have name : params.nextName = own.nextName := by
    unfold nextName
    rw [covers.namespaceId, covers.nextIndex named]
  have placeholder : (params.push value).1 = ":" ++ params.nextName := rfl
  refine ⟨?_, covers.namespaceId, ?_, ?_, ?_, ?_⟩
  · rw [placeholder, name]
    rfl
  · intro _
    exact congrArg (· + 1) (covers.nextIndex named)
  · intro found mem
    rw [entries_push] at mem
    rcases List.mem_append.1 mem with mem | mem
    · have kept : params.entries ⊆ (params.push value).2.entries := by
        simp [entries_push]
      exact has_mono kept (covers.named found mem)
    · have added : ⟨params.nextName, value⟩ ∈ (params.push value).2.entries := by
        simp [entries_push]
      rw [List.mem_singleton.1 mem, ← name]
      exact has_of_mem added
  · intro found mem
    rw [entries_push] at mem ⊢
    rcases List.mem_append.1 mem with mem | mem
    · rcases covers.known found mem with mine | other
      · exact .inl (List.mem_append_left _ mine)
      · exact .inr other
    · left
      rw [List.mem_singleton.1 mem, name]
      exact List.mem_append_right _ (List.mem_singleton_self _)
  · rcases covers.onRecord with ⟨later, extended, -, follows, owns⟩
    refine ⟨later.push own.namespaceId value, ?_, fun silent => absurd named silent, ?_, ?_⟩
    · exact extended.trans (later.extends_push own.namespaceId value)
    · exact follows.push owns value
    · exact owns.push value

end Covers

end ParamList

/-! ### Compiling -/

/-- Whether a leaf is no user-defined expression, has its parameters on record, and names a value
only where that is allowed. -/
def Leaf.Plain (registry : Registry) (naming : Prop) : Leaf Query CustomExpr → Prop
  | .verbatim _ | .literal _ => True
  | .bound _ => naming
  | .nested query => query.ledger.params.Follows registry
  | .custom _ => False

/-- Whether values may be written: as placeholders they need names. -/
def Connection.Writes (connection : Connection) (naming : Prop) : Prop :=
  connection.config.prepared = true → naming

/-- Whether all leaves are plain. -/
abbrev PlainLeaves (registry : Registry) (naming : Prop) (leaves : List (Leaf Query CustomExpr)) :
    Prop :=
  ∀ leaf ∈ leaves, leaf.Plain registry naming

variable {registry : Registry} {naming : Prop}

namespace Compile

variable {α β : Type}

/-- Whether compiling does to a ledger what it does to one that it covers. -/
def Agrees (registry : Registry) (naming : Prop) (action : Compile α) : Prop :=
  ∀ (others : Param → Prop) (ledger own : Ledger),
    ledger.params.Covers registry naming others own.params →
    ∃ value ledger' own', action.run ledger = pure (value, ledger') ∧
      action.run own = pure (value, own') ∧
      ledger'.params.Covers registry naming others own'.params ∧
      ledger.params.Passes naming ledger'.params

namespace Agrees

theorem pure (value : α) : Agrees registry naming (pure value : Compile α) := by
  intro others ledger own covers
  exact ⟨value, ledger, own, rfl, rfl, covers, .refl naming _⟩

theorem bind {action : Compile α} {next : α → Compile β} (first : Agrees registry naming action)
    (second : ∀ value, Agrees registry naming (next value)) :
    Agrees registry naming (action >>= next) := by
  intro others ledger own covers
  rcases first others ledger own covers with ⟨value, between, between', ran, ran', covered, passed⟩
  rcases second value others between between' covered with
    ⟨result, last, last', went, went', covers', passed'⟩
  refine ⟨result, last, last', ?_, ?_, covers', passed.trans passed'⟩
  · rw [StateT.run_bind, ran, pure_bind, went]
  · rw [StateT.run_bind, ran', pure_bind, went']

/-- A text that is made without touching parameters. -/
theorem untouched {change : Ledger → α × Ledger}
    (text : ∀ ledger own, (change ledger).1 = (change own).1)
    (params : ∀ ledger, (change ledger).2.params = ledger.params) :
    Agrees registry naming (modifyGet change : Compile α) := by
  intro others ledger own covers
  refine ⟨(change ledger).1, (change ledger).2, (change own).2, rfl, ?_, ?_, ?_⟩
  · rw [text ledger own]
    rfl
  · rw [params, params]
    exact covers
  · rw [params]
    exact .refl naming _

theorem literalOr (connection : Connection) (standIn : String) (value : Scalar) :
    Agrees registry naming
      (modifyGet (Ledger.literalOr connection standIn value) : Compile String) := by
  refine .untouched (fun ledger own => ?_) fun ledger => ?_
  all_goals
    unfold Ledger.literalOr
    split <;> rfl

theorem require (connection : Connection) (feature : Feature) :
    Agrees registry naming (modifyGet (Ledger.require connection feature) : Compile Bool) := by
  refine .untouched (fun ledger own => ?_) fun ledger => ?_
  all_goals
    unfold Ledger.require
    split <;> rfl

theorem bindScalar {connection : Connection} (writes : connection.Writes naming) (value : Scalar) :
    Agrees registry naming (modifyGet (Ledger.bind connection value) : Compile String) := by
  cases prepared : connection.config.prepared with
  | false =>
      rw [Ledger.bind_of_inline prepared]
      exact .literalOr connection "null" value
  | true =>
      have named : naming := writes prepared
      intro others ledger own covers
      have ran (ledger : Ledger) :
          (modifyGet (Ledger.bind connection value) : Compile String).run ledger =
            Pure.pure ((ledger.params.push value).1,
              { ledger with params := (ledger.params.push value).2 }) := by
        rw [← Ledger.bind_of_prepared prepared]
        rfl
      rcases covers.push named value with ⟨placeholder, covers'⟩
      have kept : ledger.params.Passes naming (ledger.params.push value).2 :=
        ⟨rfl, fun silent => absurd named silent, List.subset_append_left _ _⟩
      have same := ran own
      rw [← placeholder] at same
      exact ⟨_, _, _, ran ledger, same, covers', kept⟩

theorem embed {nested : Query} (follows : nested.ledger.params.Follows registry) :
    Agrees registry naming (modifyGet (Ledger.embed nested) : Compile String) := by
  intro others ledger own covers
  refine ⟨nested.sql, ledger.adopt nested.ledger, own.adopt nested.ledger, rfl, rfl,
    covers.extend follows, ?_⟩
  exact ⟨ParamList.namespaceId_extend _ _, fun _ => ParamList.nextIndex_extend _ _,
    ParamList.subset_extend _ _⟩

/-- Compiling agrees if it does for the leaves. -/
theorem inherits (connection : Connection) :
    Inherits (fun {_} action => Agrees registry naming action) connection where
  pure := pure
  bind := bind
  quoteText text := literalOr connection "''" (.text text)
  require := require connection

end Agrees

end Compile

open Compile (Agrees LeavesHold)

namespace PlainLeaves

variable {leaves : List (Leaf Query CustomExpr)}

/-- Where values are named, they may be written on every connection. -/
theorem writes (plain : PlainLeaves registry True leaves) (connection : Connection) :
    PlainLeaves registry (connection.Writes True) leaves := by
  have allowed : connection.Writes True = True := eq_true fun _ => trivial
  rwa [allowed]

theorem agree {connection : Connection}
    (plain : PlainLeaves registry (connection.Writes naming) leaves) :
    LeavesHold (fun {_} action => Agrees registry naming action) connection leaves := by
  intro leaf mem
  have plain := plain leaf mem
  cases leaf with
  | verbatim text => trivial
  | literal value => trivial
  | bound value => exact .bindScalar plain value
  | nested nested => exact .embed plain
  | custom custom => exact plain.elim

end PlainLeaves

theorem Operand.resolve_agrees (connection : Connection) (operand : Value)
    (plain : PlainLeaves registry (connection.Writes naming) operand.resolvedLeaves) :
    Agrees registry naming (operand.resolve connection) :=
  Operand.resolve_inherits (Agrees.inherits connection) operand plain.agree

theorem Predicate.compile_agrees (connection : Connection) (predicate : Predicate Query CustomExpr)
    (plain : PlainLeaves registry (connection.Writes naming) predicate.leaves) :
    Agrees registry naming (predicate.compile connection) :=
  Predicate.compile_inherits (Agrees.inherits connection) predicate plain.agree

end SqlBuilder
