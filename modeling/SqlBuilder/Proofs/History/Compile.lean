import SqlBuilder.Proofs.Expr.Equation
import SqlBuilder.Proofs.History.Event
import SqlBuilder.Proofs.Query.Condition
import SqlBuilder.Proofs.Query.Placement

/-!
# Events of compiled operands

What happens where operands are compiled: values are bound, a connection refuses to write a value,
a dialect lacks a construct, and nested queries bring the faults that they have. All of it is listed
in the order in which it happens.
-/

namespace SqlBuilder

/-- The place of an operand, on which it depends how a value there is written. -/
inductive Slot where
  /-- Inside an expression, where texts, truth values and null are literals. -/
  | inside
  /-- An item, a term or a side of a predicate, where every value is bound. -/
  | item
  /-- The right side of an equality, where null is a test. -/
  | side

namespace Connection

variable (connection : Connection)

/-- The fault of a value that is written inline. -/
def refusals (value : Scalar) : List Event :=
  match connection.quote value with
  | .ok _ => []
  | .error (.quoteRefused detail) => [.fault (.quoteRefused detail)]
  | .error other => [.fault (.quoteRefused other.message)]

/-- The event of a value that is to be bound: that it is, or else the fault of writing it inline. -/
def bindings (value : Scalar) : List Event :=
  if connection.config.prepared then [.bound value] else connection.refusals value

/-- The fault of a construct. -/
def lacks (feature : Feature) : List Event :=
  if connection.grammar.supports feature then []
  else [.fault (.unsupported connection.grammar.name feature)]

end Connection

/-- The event of a value in its place. -/
def Slot.events (connection : Connection) : Slot → Scalar → List Event
  | .inside, .text text => connection.refusals (.text text)
  | .inside, .bool _ | .inside, .null | .side, .null => []
  | _, value => connection.bindings value

/-- The fault of a backing value. -/
def Backing.refusals (connection : Connection) : Backing → List Event
  | .text literal => connection.refusals (.text literal)
  | .int _ => []

/-- Compiles an operand in its place. -/
def Slot.compile (connection : Connection) (operand : Value) : Slot → Compile String
  | .inside => operand.compile connection
  | .item => operand.resolve connection
  | .side => if operand.isNullScalar then return "" else operand.resolve connection

/-! ### Compiling -/

namespace Compile

variable {α β : Type} {known : Param → Prop} {events more history : List Event}

/-- Whether compiling lists events, which lead from the ledger before to the one behind, and does
nothing to the workspace. -/
def Records (known : Param → Prop) (action : Compile α) (events : List Event) : Prop :=
  ∀ ledger workspace, ledger.Gains known ((action.run ledger).run workspace).1.2 events ∧
    ((action.run ledger).run workspace).2 = workspace

namespace Records

theorem pure (value : α) : Records known (pure value) [] :=
  fun ledger _ => ⟨.refl known ledger, rfl⟩

/-- What happens later is listed later. -/
theorem bind {action : Compile α} {next : α → Compile β} (first : Records known action events)
    (second : ∀ value, Records known (next value) more) :
    Records known (action >>= next) (events ++ more) := by
  intro ledger workspace
  obtain ⟨gains, same⟩ := first ledger workspace
  obtain ⟨later, still⟩ := second ((action.run ledger).run workspace).1.1
    ((action.run ledger).run workspace).1.2 ((action.run ledger).run workspace).2
  exact ⟨gains.trans later, still.trans same⟩

/-- What is made of a result records nothing. -/
theorem map {action : Compile α} (records : Records known action events) (change : α → β) :
    Records known (do return change (← action)) events := by
  have whole := records.bind fun value => pure (change value)
  rwa [List.append_nil] at whole

theorem modifyGet {change : Ledger → α × Ledger}
    (changes : ∀ ledger : Ledger, ledger.Gains known (change ledger).2 events) :
    Records known (modifyGet change : Compile α) events :=
  fun ledger _ => ⟨changes ledger, rfl⟩

/-- Two parts in a row. -/
theorem two {action next : Compile String} (first : Records known action events)
    (second : Records known next more) (build : String → String → α) :
    Records known (do let text ← action; return build text (← next)) (events ++ more) :=
  first.bind fun text => second.map (build text)

theorem literalOr (connection : Connection) (standIn : String) (value : Scalar) :
    Records known (MonadState.modifyGet (Ledger.literalOr connection standIn value))
      (connection.refusals value) := by
  refine modifyGet fun ledger => ?_
  unfold Ledger.literalOr Connection.refusals
  match connection.quote value with
  | .ok text => exact .refl known ledger
  | .error error => cases error <;> exact .record known ledger _

theorem bindValue (connection : Connection) (value : Scalar) :
    Records known (MonadState.modifyGet (Ledger.bind connection value))
      (connection.bindings value) := by
  cases prepared : connection.config.prepared with
  | true =>
      refine modifyGet fun ledger => ?_
      rw [Ledger.bind_of_prepared prepared, Connection.bindings, if_pos prepared]
      exact .push known ledger value
  | false =>
      rw [Connection.bindings, prepared, if_neg Bool.false_ne_true,
        Ledger.bind_of_inline prepared]
      exact literalOr connection "null" value

theorem quoteText (connection : Connection) (text : String) :
    Records known (MonadState.modifyGet (Ledger.quoteText connection text))
      (connection.refusals (.text text)) :=
  literalOr connection "''" (.text text)

theorem embed {nested : Query} (settles : nested.ledger.Settles known history) :
    Records known (MonadState.modifyGet (Ledger.embed nested)) (Event.carried history) :=
  modifyGet fun _ => .adopt settles

theorem callNested {nested : Query} (settles : nested.ledger.Settles known history)
    (name : String) :
    Records known (do return callText name (← MonadState.modifyGet (Ledger.embed nested)))
      (Event.carried history) :=
  (embed settles).map (callText name)

/-- Asking for a construct that is lacking is a fault. -/
theorem require (connection : Connection) (feature : Feature) :
    Records known (MonadState.modifyGet (Ledger.require connection feature))
      (connection.lacks feature) := by
  refine modifyGet fun ledger => ?_
  unfold Ledger.require Connection.lacks
  split
  · exact .refl known ledger
  · exact .record known ledger _

/-- A construct that is lacking is a fault, and its parts are not compiled. -/
theorem requiring (connection : Connection) (feature : Feature) {action other : Compile α}
    (records : Records known action events) (nothing : Records known other []) :
    Records known (do
        if ← MonadState.modifyGet (Ledger.require connection feature) then action else other)
      (if connection.grammar.supports feature then events else connection.lacks feature) := by
  intro ledger workspace
  change ledger.Gains known (((if (ledger.require connection feature).1 then action else other).run
    (ledger.require connection feature).2).run workspace).1.2 _ ∧
    (((if (ledger.require connection feature).1 then action else other).run
    (ledger.require connection feature).2).run workspace).2 = _
  unfold Ledger.require
  split
  · exact records ledger workspace
  · obtain ⟨gains, same⟩ := nothing
      (ledger.record (.unsupported connection.grammar.name feature)) workspace
    have whole := (Ledger.Gains.record known ledger _).trans gains
    refine ⟨?_, same⟩
    rwa [Connection.lacks, if_neg ‹¬connection.grammar.supports feature = true›]

end Records

end Compile

variable {known : Param → Prop} {connection : Connection} {slot : Slot}
  {events more history : List Event}

/-! ### Operands -/

/-- Whether compiling an operand in its place lists events. User-defined expressions do not
count. -/
structure Operand.Records (known : Param → Prop) (connection : Connection) (slot : Slot)
    (operand : Value) (events : List Event) : Prop where
  compiles : Compile.Records known (slot.compile connection operand) events
  plain : operand.custom? = none

namespace Operand.Records

/-- But for values, operands are compiled alike in all places. -/
theorem of_compile {operand : Value}
    (records : Compile.Records known (operand.compile connection) events)
    (resolve : operand.resolve connection = operand.compile connection)
    (notNull : operand.isNullScalar = false) (plain : operand.custom? = none) :
    Operand.Records known connection slot operand events := by
  refine ⟨?_, plain⟩
  cases slot with
  | inside => exact records
  | item =>
      change Compile.Records known (operand.resolve connection) events
      rwa [resolve]
  | side =>
      change Compile.Records known
        (if operand.isNullScalar then _ else operand.resolve connection) events
      rwa [notNull, if_neg Bool.false_ne_true, resolve]

theorem column (name : String) : Operand.Records known connection slot (.column name) [] :=
  .of_compile (.pure _) rfl rfl rfl

theorem raw (sql : String) : Operand.Records known connection slot (.raw sql) [] :=
  .of_compile (.pure _) rfl rfl rfl

theorem scalar (value : Scalar) :
    Operand.Records known connection slot (.scalar value) (slot.events connection value) := by
  have bound : Compile.Records known _ _ := .bindValue connection value
  refine ⟨?_, rfl⟩
  cases slot with
  | item => exact bound
  | inside =>
      cases value with
      | text text => exact .quoteText connection text
      | bool value => exact .pure _
      | null => exact .pure _
      | int _ | float _ | bytes _ | timestamp _ | uuid _ | json _ => exact bound
  | side =>
      cases value with
      | null => exact .pure _
      | text _ | bool _ | int _ | float _ | bytes _ | timestamp _ | uuid _ | json _ => exact bound

theorem backing (value : Backing) :
    Operand.Records known connection slot (.backing value) (value.refusals connection) := by
  refine .of_compile ?_ rfl rfl rfl
  cases value with
  | text literal => exact .quoteText connection literal
  | int number => exact .pure _

theorem expr {expr : Expr Query CustomExpr}
    (records : Compile.Records known (expr.compile connection) events) :
    Operand.Records known connection slot (.expr expr) events :=
  .of_compile records rfl rfl rfl

theorem query {nested : Query} (settles : nested.ledger.Settles known history) :
    Operand.Records known connection slot (.query nested) (Event.carried history) :=
  .of_compile (.callNested settles "") rfl rfl rfl

end Operand.Records

/-- Whether compiling operands in their places from left to right lists events. -/
inductive Operand.RecordsAll (known : Param → Prop) (connection : Connection) (slot : Slot) :
    List Value → List Event → Prop
  | nil : RecordsAll known connection slot [] []
  | cons {operand : Value} {rest : List Value} {events more : List Event} :
      operand.Records known connection slot events → RecordsAll known connection slot rest more →
      RecordsAll known connection slot (operand :: rest) (events ++ more)

/-- Whether compiling the terms of an order lists events. -/
inductive Operand.RecordsOrder (known : Param → Prop) (connection : Connection) :
    List (Value × Bool) → List Event → Prop
  | nil : RecordsOrder known connection [] []
  | cons {operand : Value} {descends : Bool} {rest : List (Value × Bool)}
      {events more : List Event} :
      operand.Records known connection .inside events → RecordsOrder known connection rest more →
      RecordsOrder known connection ((operand, descends) :: rest) (events ++ more)

/-- Whether compiling an operand that may be absent lists events. -/
inductive Operand.RecordsOption (known : Param → Prop) (connection : Connection) (slot : Slot) :
    Option Value → List Event → Prop
  | none : RecordsOption known connection slot none []
  | some {operand : Value} {events : List Event} :
      operand.Records known connection slot events →
      RecordsOption known connection slot (some operand) events

namespace Operand

theorem RecordsAll.append {operands others : List Value}
    (all : RecordsAll known connection slot operands events)
    (rest : RecordsAll known connection slot others more) :
    RecordsAll known connection slot (operands ++ others) (events ++ more) := by
  induction all with
  | nil => exact rest
  | cons first _ ih =>
      rw [List.append_assoc]
      exact .cons first ih

theorem RecordsAll.compileAll {operands : List Value}
    (all : RecordsAll known connection .inside operands events) :
    Compile.Records known (compileAll connection operands) events := by
  induction all with
  | nil => exact .pure _
  | cons first _ ih => exact first.compiles.bind fun text => ih.map (text :: ·)

theorem RecordsOrder.compileOrder {terms : List (Value × Bool)}
    (all : RecordsOrder known connection terms events) :
    Compile.Records known (compileOrder connection terms) events := by
  induction all with
  | nil => exact .pure _
  | cons first _ ih => exact first.compiles.bind fun text => ih.map (_ :: ·)

end Operand

/-! ### Expressions -/

namespace Expr

open Compile (Records)
open Operand (RecordsAll RecordsOrder)

variable {lhs rhs : Value} {values : List Value}

theorem records_between (first : lhs.Records known connection .inside events)
    (second : rhs.Records known connection .inside more) :
    Records known ((Expr.between lhs rhs).compile connection) (events ++ more) :=
  first.compiles.two second.compiles _

/-- No value at all and a nested query have texts of their own, but record the same. -/
theorem records_inList (all : RecordsAll known connection .inside values events) :
    Records known ((Expr.inList values).compile connection) events := by
  have compiled := all.compileAll
  match values with
  | [] => exact fun ledger workspace => compiled ledger workspace
  | [.query inner] => exact fun ledger workspace => compiled ledger workspace
  | [.column _] | [.raw _] | [.scalar _] | [.backing _] | [.expr _] | [.custom _] =>
    exact compiled.map _
  | first :: second :: rest => cases first <;> exact compiled.map _

theorem records_not {inner : Expr Query CustomExpr}
    (records : Records known (inner.compile connection) events) :
    Records known ((Expr.not inner).compile connection) events := by
  match inner with
  | .isNull => exact fun ledger workspace => records ledger workspace
  | .between .. | .inList .. | .exists .. | .not .. | .call .. | .aggregate .. | .groupConcat ..
  | .ifElse .. | .ifNull .. | .nullIf .. | .matchAgainst .. | .operation .. | .nested ..
  | .assign .. | .cast .. => exact records.map _

theorem records_call (name : String) (all : RecordsAll known connection .inside values events) :
    Records known ((Expr.call name values).compile connection) events :=
  all.compileAll.map _

theorem records_aggregate (name : String) (distinct : Bool)
    (all : RecordsAll known connection .inside values events) :
    Records known ((Expr.aggregate name values distinct).compile connection) events :=
  all.compileAll.map _

/-- The fault of a separator. -/
def separatorRefusals (connection : Connection) : Option String → List Event
  | none => []
  | some separator => connection.refusals (.text separator)

theorem records_separatorText (separator : Option String) :
    Records known (separatorText connection separator)
      (separatorRefusals connection separator) := by
  cases separator with
  | none => exact .pure _
  | some separator => exact (Records.quoteText connection separator).map _

theorem records_groupConcat (value : lhs.Records known connection .inside events) (distinct : Bool)
    {order : List (Value × Bool)} (terms : RecordsOrder known connection order more)
    (separator : Option String) (limit offset : Option Nat) :
    Records known ((Expr.groupConcat lhs distinct order separator limit offset).compile connection)
      (if connection.grammar.supports .groupConcat then
        events ++ (more ++ separatorRefusals connection separator)
      else connection.lacks .groupConcat) := by
  refine .requiring connection .groupConcat ?_ (.pure _)
  refine value.compiles.bind fun text => ?_
  exact terms.compileOrder.bind fun terms => (records_separatorText separator).map _

theorem records_ifElse {condition : Value} {first second third : List Event}
    (test : condition.Records known connection .inside first)
    (yes : lhs.Records known connection .inside second)
    (no : rhs.Records known connection .inside third) :
    Records known ((Expr.ifElse condition lhs rhs).compile connection)
      (first ++ (second ++ third)) := by
  refine test.compiles.bind fun condition => yes.compiles.bind fun yes => ?_
  have last := no.compiles.bind fun no => show Records known
      (if connection.grammar.supports .ifFunctions
      then return callText "if" (condition ++ ", " ++ yes ++ ", " ++ no)
      else return "case when " ++ condition ++ " then " ++ yes ++ " else " ++ no ++ " end") [] by
    split <;> exact .pure _
  rwa [List.append_nil] at last

theorem records_ifNull (first : lhs.Records known connection .inside events)
    (second : rhs.Records known connection .inside more) :
    Records known ((Expr.ifNull lhs rhs).compile connection) (events ++ more) :=
  first.compiles.two second.compiles _

theorem records_nullIf (first : lhs.Records known connection .inside events)
    (second : rhs.Records known connection .inside more) :
    Records known ((Expr.nullIf lhs rhs).compile connection) (events ++ more) :=
  first.compiles.two second.compiles _

theorem records_matchAgainst (fields : RecordsAll known connection .inside values events)
    (search : rhs.Records known connection .inside more) (booleanMode queryExpansion : Bool) :
    Records known ((Expr.matchAgainst values rhs booleanMode queryExpansion).compile connection)
      (if connection.grammar.supports .matchAgainst then events ++ more
      else connection.lacks .matchAgainst) := by
  refine .requiring connection .matchAgainst ?_ (.pure _)
  exact fields.compileAll.bind fun fields => search.compiles.map _

theorem records_operation (operator : String) (first : lhs.Records known connection .inside events)
    (second : rhs.Records known connection .inside more) :
    Records known ((Expr.operation lhs operator rhs).compile connection) (events ++ more) :=
  first.compiles.two second.compiles _

theorem records_assign (name : String) {nested : Query}
    (settles : nested.ledger.Settles known history) :
    Records known ((Expr.assign name nested).compile connection)
      (connection.lacks .variables ++ Event.carried history) :=
  (Records.require connection .variables).bind fun _ => (Records.embed settles).map _

theorem records_cast (type : String) (value : lhs.Records known connection .inside events) :
    Records known ((Expr.cast lhs type).compile connection) events :=
  value.compiles.map _

end Expr

/-! ### Predicates -/

/-- Whether compiling a predicate lists events. User-defined expressions do not count. -/
structure Predicate.Records (known : Param → Prop) (connection : Connection)
    (predicate : Predicate Query CustomExpr) (events : List Event) : Prop where
  compiles : Compile.Records known (predicate.compile connection) events
  hookFree : predicate.HookFree

namespace Predicate.Records

theorem single {operand : Value} (records : operand.Records known connection .item events) :
    Predicate.Records known connection (.single operand) events where
  compiles := records.compiles
  hookFree custom mem := by
    rw [customs, operands, List.filterMap_cons_none records.plain] at mem
    cases mem

theorem hookFree_two {predicate : Predicate Query CustomExpr} {lhs rhs : Value}
    (both : predicate.operands = [lhs, rhs]) (plain : lhs.custom? = none)
    (other : rhs.custom? = none) : predicate.HookFree := by
  intro custom mem
  rw [customs, both, List.filterMap_cons_none plain, List.filterMap_cons_none other] at mem
  cases mem

variable {lhs rhs : Value}

/-- The right side of an equality is compiled unless it is null. -/
theorem pair (first : lhs.Records known connection .item events)
    (second : rhs.Records known connection .side more) :
    Predicate.Records known connection (.pair lhs rhs) (events ++ more) where
  compiles := by
    have side : Compile.Records known
        (if rhs.isNullScalar then return "" else rhs.resolve connection) more := second.compiles
    refine first.compiles.bind fun text => ?_
    cases null : rhs.isNullScalar with
    | true =>
        rw [null, if_pos rfl] at side
        have silent : rhs.suppliesComparator = false := by
          cases rhs with
          | scalar _ => rfl
          | column _ | raw _ | backing _ | expr _ | query _ | custom _ => cases null
        rw [silent, if_neg Bool.false_ne_true, if_pos rfl]
        exact fun ledger workspace => side ledger workspace
    | false =>
        rw [null, if_neg Bool.false_ne_true] at side
        rw [if_neg Bool.false_ne_true]
        split <;> exact side.map _
  hookFree := hookFree_two rfl first.plain second.plain

theorem compare (first : lhs.Records known connection .item events) (comparator : String)
    (second : rhs.Records known connection .item more) :
    Predicate.Records known connection (.compare lhs comparator rhs) (events ++ more) where
  compiles := first.compiles.two second.compiles _
  hookFree := hookFree_two rfl first.plain second.plain

end Predicate.Records

end SqlBuilder
