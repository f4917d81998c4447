import SqlBuilder.Proofs.History.Recall

/-!
# Annals are complete

Every builder call of a script, in callbacks and nested queries as well, has one chapter in the
annals. A chapter is written when its call is over, so the calls that it makes in turn come first.
-/

namespace SqlBuilder.Script

/-- The calls that have chapters. -/
def Annals.calls (annals : Annals) : List Call := annals.chapters.map Chapter.call

namespace Recall

variable {α β γ : Type} {calls more : List Call}

/-- Whether chapters are written about certain calls, one about each. -/
def Covers (telling : Recall α) (calls : List Call) : Prop :=
  ∀ annals, (telling.run annals).2.calls.Perm (annals.calls ++ calls)

namespace Covers

variable {telling : Recall α}

theorem perm (covers : telling.Covers calls) (same : calls.Perm more) : telling.Covers more :=
  fun annals => (covers annals).trans (same.append_left _)

/-- Reading and naming histories writes no chapter. -/
theorem silent (same : ∀ annals, (telling.run annals).2.chapters = annals.chapters) :
    telling.Covers [] := by
  intro annals
  rw [List.append_nil, Annals.calls, same]
  exact .rfl

theorem pure (value : α) : Covers (pure value) [] := silent fun _ => rfl

theorem get_bind {next : Annals → Recall α} (covers : ∀ annals, (next annals).Covers calls) :
    Covers (get >>= next) calls :=
  fun annals => covers annals annals

theorem add (chapter : Chapter) : Covers (modify (·.add chapter)) [chapter.call] := by
  intro annals
  change (List.map Chapter.call (annals.chapters ++ [chapter])).Perm _
  rw [List.map_append]
  exact .rfl

theorem bind {next : α → Recall β} (first : telling.Covers calls)
    (second : ∀ value, (next value).Covers more) : Covers (telling >>= next) (calls ++ more) := by
  intro annals
  refine (second _ _).trans ?_
  rw [← List.append_assoc]
  exact (first annals).append_right more

theorem map (covers : telling.Covers calls) (list : α → β) :
    Covers (do return list (← telling)) calls :=
  (covers.bind fun value => pure (list value)).perm (by rw [List.append_nil])

theorem two {next : Recall β} (first : telling.Covers calls) (second : next.Covers more)
    (list : α → β → γ) :
    Covers (do let told ← telling; return list told (← next)) (calls ++ more) :=
  first.bind fun told => second.map (list told)

/-- The chapter of a call comes after those of the calls that it makes in turn. -/
theorem step {next : α → Recall β} (inner : telling.Covers calls) (chapter : α → Chapter)
    {call : Call} (about : ∀ told, (chapter told).call = call)
    (rest : ∀ told, (next told).Covers more) :
    Covers (do let told ← telling; modify (·.add (chapter told)); next told)
      (call :: (calls ++ more)) := by
  have whole : Covers _ (calls ++ ([call] ++ more)) :=
    inner.bind fun told => (about told ▸ add (chapter told)).bind fun _ => rest told
  exact whole.perm List.perm_middle

end Covers

end Recall

variable {home : Connection}

mutual

theorem operandEvents_covers {host : Connection} {slot : Slot} (draft : Draft)
    {workspace : Workspace} :
    (operandEvents home host slot draft workspace).Covers (operandCalls home draft workspace) := by
  match draft with
  | .column _ | .raw _ | .scalar _ | .backing _ | .custom _ => exact .pure _
  | .expr expr => exact exprEvents_covers expr
  | .query draft => exact queryHistory_covers draft

theorem allEvents_covers {host : Connection} {slot : Slot} (drafts : List Draft)
    {workspace : Workspace} :
    (allEvents home host slot drafts workspace).Covers (allCalls home drafts workspace) := by
  match drafts with
  | [] => exact .pure _
  | draft :: rest => exact (operandEvents_covers draft).two (allEvents_covers rest) _

theorem rowsEvents_covers {host : Connection} {slot : Slot} (rows : List (List Draft))
    {workspace : Workspace} :
    (rowsEvents home host slot rows workspace).Covers (rowsCalls home rows workspace) := by
  match rows with
  | [] => exact .pure _
  | row :: rest => exact (allEvents_covers row).two (rowsEvents_covers rest) _

theorem orderEvents_covers {host : Connection} (terms : List (Draft × Bool))
    {workspace : Workspace} :
    (orderEvents home host terms workspace).Covers (orderCalls home terms workspace) := by
  match terms with
  | [] => exact .pure _
  | (draft, _) :: rest => exact (operandEvents_covers draft).two (orderEvents_covers rest) _

theorem optionEvents_covers {host : Connection} {slot : Slot} (draft : Option Draft)
    {workspace : Workspace} :
    (optionEvents home host slot draft workspace).Covers (optionCalls home draft workspace) := by
  match draft with
  | none => exact .pure _
  | some draft => exact operandEvents_covers draft

theorem exprEvents_covers {host : Connection} (draft : ExprDraft) {workspace : Workspace} :
    (exprEvents home host draft workspace).Covers (exprCalls home draft workspace) := by
  match draft with
  | .between lower upper => exact (operandEvents_covers lower).two (operandEvents_covers upper) _
  | .inList values => exact allEvents_covers values
  | .isNull => exact .pure _
  | .exists draft => exact queryHistory_covers draft
  | .not inner => exact exprEvents_covers inner
  | .call _ arguments => exact allEvents_covers arguments
  | .aggregate _ arguments _ => exact allEvents_covers arguments
  | .groupConcat value _ order separator _ _ =>
      exact (operandEvents_covers value).two (orderEvents_covers order) _
  | .ifElse condition yes no =>
      exact (operandEvents_covers condition).bind fun _ =>
        (operandEvents_covers yes).two (operandEvents_covers no) _
  | .ifNull value fallback =>
      exact (operandEvents_covers value).two (operandEvents_covers fallback) _
  | .nullIf value other => exact (operandEvents_covers value).two (operandEvents_covers other) _
  | .matchAgainst fields search _ _ =>
      exact (allEvents_covers fields).two (operandEvents_covers search) _
  | .operation lhs _ rhs => exact (operandEvents_covers lhs).two (operandEvents_covers rhs) _
  | .nested draft => exact queryHistory_covers draft
  | .assign _ draft => exact (queryHistory_covers draft).map _
  | .cast value _ => exact operandEvents_covers value

theorem predicateEvents_covers {host : Connection} (draft : PredicateDraft)
    {workspace : Workspace} :
    (predicateEvents home host draft workspace).Covers (predicateCalls home draft workspace) := by
  match draft with
  | .single operand => exact operandEvents_covers operand
  | .pair lhs rhs => exact (operandEvents_covers lhs).two (operandEvents_covers rhs) _
  | .compare lhs _ rhs => exact (operandEvents_covers lhs).two (operandEvents_covers rhs) _

theorem queryHistory_covers (draft : QueryDraft) {workspace : Workspace} :
    (queryHistory home draft workspace).Covers (queryCalls home draft workspace) := by
  match draft with
  | .recipe _ _ _ steps => exact stepsHistory_covers steps
  | .take _ | .clone _ => exact .silent fun _ => rfl

theorem stepHistory_covers (step : Step) {query : Query} {workspace : Workspace}
    {history : List Event} :
    (stepHistory home step query workspace history).Covers
      (innerCalls home step query workspace) := by
  match step with
  | .merge draft => exact (queryHistory_covers draft).map _
  | .parenthesis _ body => exact stepsHistory_covers body
  | .compileOperand draft => exact (operandEvents_covers draft).map _
  | .compileExpr draft => exact (exprEvents_covers draft).map _
  | .copy kind name =>
      refine .silent fun annals => ?_
      unfold stepHistory
      cases ((kind.make query).run workspace).1 <;> rfl
  | .select _ columns => exact (allEvents_covers columns).map _
  | .selectAs column _ => exact (operandEvents_covers column).map _
  | .sourceQuery draft _ => exact (queryHistory_covers draft).map _
  | .join kind table label (some body) =>
      unfold stepHistory innerCalls
      dsimp only
      split
      · exact .pure _
      · exact stepsHistory_covers body
  | .addTerms _ columns => exact (allEvents_covers columns).map _
  | .addOrder column _ => exact (operandEvents_covers column).map _
  | .union _ draft => exact (queryHistory_covers draft).map _
  | .addCommonTable _ _ draft => exact (queryHistory_covers draft).map _
  | .condition _ _ predicate => exact (predicateEvents_covers predicate).map _
  | .filterIn _ lhs values => exact (operandEvents_covers lhs).two (allEvents_covers values) _
  | .conditionGroup connective body => exact stepsHistory_covers body
  | .addExpression _ lhs _ rhs => exact (optionEvents_covers lhs).two (optionEvents_covers rhs) _
  | .addPredicate _ predicate => exact (predicateEvents_covers predicate).map _
  | .filterByKey values => exact (allEvents_covers values).map _
  | .filterByKeys rows => exact (rowsEvents_covers rows).map _
  | .filterHas relation body =>
      unfold stepHistory innerCalls
      dsimp only
      cases query.relationLink relation with
      | error error => exact .pure _
      | ok link => exact (stepsHistory_covers body).map _
  | .values row => exact (allEvents_covers row).map _
  | .assign column value => exact (operandEvents_covers column).two (operandEvents_covers value) _
  | .returning columns => exact (allEvents_covers columns).map _
  | .add _ | .removeClause _ | .replaceClause _ _ | .raw _ | .bindModel _ | .view _
  | .bindScalar _ | .selectRaw _ | .source _ _ | .join _ _ _ none | .addOrderRaw _ | .limit _
  | .offset _ | .paginate _ | .lockForUpdate | .insertInto _ _ _ | .update _ | .assignRaw _ _
  | .deleteFrom _ | .onConflictUpdate _ _ | .onConflictDoNothing _ | .fetch _ _ => exact .pure _

theorem stepsHistory_covers (steps : List Step) {query : Query} {workspace : Workspace}
    {history : List Event} :
    (stepsHistory home steps query workspace history).Covers
      (stepsCalls home steps query workspace) := by
  match steps with
  | [] => exact .pure _
  | step :: rest =>
      exact (stepHistory_covers step).step _ (fun _ => rfl) fun _ => stepsHistory_covers rest

end

theorem Command.tell_covers (command : Command) (workspace : Workspace) :
    (command.tell home workspace).Covers (command.calls home workspace) := by
  match command with
  | .create name _ => exact .silent fun _ => rfl
  | .on name step =>
      refine .get_bind fun annals => ?_
      have named (after : List Event) : Recall.Covers (modify (·.name name after)) [] :=
        .silent fun _ => rfl
      rw [Command.calls, ← List.append_nil (innerCalls _ _ _ _)]
      exact (stepHistory_covers step).step _ (fun _ => rfl) named

theorem tellCommands_covers (commands : List Command) (workspace : Workspace) :
    (tellCommands home commands workspace).Covers (commandsCalls home commands workspace) := by
  induction commands generalizing workspace with
  | nil => exact .pure _
  | cons command rest ih => exact (command.tell_covers workspace).bind fun _ => ih _

/-- The annals of a program have one chapter about each of its builder calls. -/
theorem Program.calls_annals (program : Program) : program.annals.calls.Perm program.calls :=
  tellCommands_covers program.commands program.start {}

end SqlBuilder.Script
