import SqlBuilder.Proofs.Expr.Inherits
import SqlBuilder.Proofs.Param.Registry

/-!
# Compiling adds parameters

Whatever is compiled, the parameters that are there stay where they are, and new ones come behind
them. So the order of the parameters is the order in which operands are compiled. For user-defined
expressions, which may do with the parameters what they like, this is an assumption.
-/

namespace SqlBuilder

namespace ParamList

variable {params other : ParamList}

theorem prefix_adopt (params : ParamList) (param : Param) :
    params.entries <+: (params.adopt param).entries := by
  unfold adopt
  split
  · exact List.prefix_refl _
  · exact List.prefix_append _ _

theorem prefix_extend (params other : ParamList) :
    params.entries <+: (params.extend other).entries := by
  obtain ⟨namespaceId, nextIndex, entries⟩ := other
  induction entries generalizing params with
  | nil => exact List.prefix_refl _
  | cons param rest ih =>
      rw [extend_cons]
      exact (params.prefix_adopt param).trans (ih _)

/-- What is new in the other list comes behind, in order, and every name once. -/
theorem entries_extend (params other : ParamList) :
    (params.extend other).entries = params.entries ++
      (other.entries.filter (!params.has ·.name)).eraseDupsBy (·.name == ·.name) := by
  obtain ⟨namespaceId, nextIndex, entries⟩ := other
  induction entries generalizing params with
  | nil => exact (List.append_nil _).symm
  | cons param rest ih =>
      rw [extend_cons, ih]
      cases known : params.has param.name with
      | true => simp [adopt, known]
      | false =>
          have added : (params.adopt param).entries = params.entries ++ [param] := by
            simp [adopt, known]
          have taken : ∀ later : Param, (!(params.adopt param).has later.name) =
              (decide ((later.name == param.name) = false) && !params.has later.name) := by
            intro later
            have flip : (param.name == later.name) = (later.name == param.name) := BEq.comm
            rw [has, added, List.any_append, ← has, Bool.not_or, Bool.and_comm]
            simp only [List.any_cons, List.any_nil, Bool.or_false, flip, Bool.decide_eq_false]
          rw [added, List.filter_cons_of_pos (by simp [known]), List.eraseDupsBy_cons,
            List.filter_filter, List.append_assoc, List.singleton_append]
          simp only [taken]

/-- A list that has every name once is left as it is. -/
theorem eraseDupsBy_of_distinct {entries : List Param}
    (distinct : (entries.map (·.name)).Nodup) :
    entries.eraseDupsBy (·.name == ·.name) = entries := by
  induction entries with
  | nil => rfl
  | cons param rest ih =>
      rw [List.map_cons, List.nodup_cons] at distinct
      have others : rest.filter (fun later => decide ((later.name == param.name) = false)) =
          rest := by
        refine List.filter_eq_self.2 fun later present => ?_
        have different : later.name ≠ param.name := fun same =>
          distinct.1 (List.mem_map.2 ⟨later, present, same⟩)
        simpa using different
      rw [List.eraseDupsBy_cons, others, ih distinct.2]

end ParamList

namespace Compile

variable {α β : Type}

/-- Whether compiling only adds parameters behind those that are there. -/
def Appends (action : Compile α) : Prop :=
  ∀ ledger workspace,
    ledger.params.entries <+: ((action.run ledger).run workspace).1.2.params.entries

namespace Appends

theorem pure (value : α) : Appends (pure value) := fun _ _ => List.prefix_refl _

theorem bind {action : Compile α} {next : α → Compile β} (first : Appends action)
    (second : ∀ value, Appends (next value)) : Appends (action >>= next) := fun ledger workspace =>
  (first ledger workspace).trans
    (second _ ((action.run ledger).run workspace).1.2 ((action.run ledger).run workspace).2)

theorem modifyGet {change : Ledger → α × Ledger}
    (adds : ∀ ledger, ledger.params.entries <+: (change ledger).2.params.entries) :
    Appends (modifyGet change : Compile α) :=
  fun ledger _ => adds ledger

theorem literalOr (connection : Connection) (standIn : String) (value : Scalar) :
    Appends (MonadState.modifyGet (Ledger.literalOr connection standIn value)) := by
  refine modifyGet fun ledger => ?_
  unfold Ledger.literalOr
  split <;> exact List.prefix_refl _

theorem bindValue (connection : Connection) (value : Scalar) :
    Appends (MonadState.modifyGet (Ledger.bind connection value)) := by
  cases prepared : connection.config.prepared with
  | true =>
      refine modifyGet fun ledger => ?_
      rw [Ledger.bind_of_prepared prepared]
      exact List.prefix_append _ _
  | false =>
      rw [Ledger.bind_of_inline prepared]
      exact literalOr connection "null" value

theorem embed (nested : Query) : Appends (MonadState.modifyGet (Ledger.embed nested)) :=
  modifyGet fun ledger => ledger.params.prefix_extend nested.ledger.params

theorem require (connection : Connection) (feature : Feature) :
    Appends (MonadState.modifyGet (Ledger.require connection feature)) := by
  refine modifyGet fun ledger => ?_
  unfold Ledger.require
  split <;> exact List.prefix_refl _

/-- What is compiled only adds parameters if the user-defined expressions in it do. -/
theorem inherits (connection : Connection) : Inherits Appends connection where
  pure := pure
  bind := bind
  quoteText text := literalOr connection "''" (.text text)
  require := require connection

end Appends

end Compile

open Compile (Appends LeavesHold)

/-- Whether the user-defined expressions among leaves only add parameters. -/
def CustomsAppend (connection : Connection) (leaves : List (Leaf Query CustomExpr)) : Prop :=
  ∀ custom, .custom custom ∈ leaves → Appends (custom.render connection)

theorem CustomsAppend.leaves {connection : Connection} {leaves : List (Leaf Query CustomExpr)}
    (customs : CustomsAppend connection leaves) : LeavesHold Appends connection leaves := by
  intro leaf mem
  cases leaf with
  | verbatim text => trivial
  | literal value => trivial
  | bound value => exact .bindValue connection value
  | nested nested => exact .embed nested
  | custom custom => exact customs custom mem

theorem Operand.resolve_appends (connection : Connection) (operand : Value)
    (customs : CustomsAppend connection operand.leaves) : Appends (operand.resolve connection) := by
  have resolved : CustomsAppend connection operand.resolvedLeaves := by
    cases operand with
    | scalar value => simp [CustomsAppend, Operand.resolvedLeaves]
    | _ => exact customs
  exact Operand.resolve_inherits (Appends.inherits connection) operand resolved.leaves

end SqlBuilder
