import SqlBuilder.Proofs.Twin.Fetch

/-!
# Editing in both runs

Every operation on a query runs alike on twin queries, given operands that are projections of one
tree. Nothing here depends on what a bound value is rendered to: operations look at keywords, at
names and at whether there are operands, all of which both runs agree on.
-/

namespace SqlBuilder

open Script

/-- Every value of an item is bound, which is allowed unless the item has to be quiet. -/
theorem Coupling.AdmitsAll.resolved {coupling : Coupling} {registry : Registry}
    {operand : TwinOperand} (admits : coupling.AdmitsAll registry false operand.leaves) :
    coupling.AdmitsAll registry false operand.resolvedLeaves := by
  cases operand with
  | scalar value =>
      intro leaf mem
      obtain rfl := List.mem_singleton.1 mem
      rw [Operand.leaves] at admits
      rcases value.leaves_eq with same | same <;> rw [same] at admits
      · exact ⟨rfl, admits (.literal value) (List.mem_singleton_self _)⟩
      · exact admits (.bound value) (List.mem_singleton_self _)
  | column name => exact admits
  | raw sql => exact admits
  | backing value => exact admits
  | expr expr => exact admits
  | query twins => exact admits
  | custom own => exact own.elim

theorem Query.Twin.ensure {coupling : Coupling} {known : List Param} {query query' : Query}
    (twin : query.Twin coupling known query') (feature : Feature) :
    query'.ensure feature = query.ensure feature := by
  unfold Query.ensure Query.supports
  rw [coupling.grammar twin.connection]

/-- Whether a call changed both queries alike and left their ledgers alone, or failed for both. -/
def Coupling.Attempted (coupling : Coupling) (query query' : Query)
    (result result' : Except QueryError Query) : Prop :=
  (∃ changed changed', result = .ok changed ∧ result' = .ok changed' ∧
    changed.ledger = query.ledger ∧ changed'.ledger = query'.ledger ∧
    changed.Twin coupling query.params changed') ∨
  ∃ error, result = .error error ∧ result' = .error error

namespace Query.Twin

variable {coupling : Coupling} {known : List Param} {query query' : Query}

theorem limit (twin : query.Twin coupling known query') (count : Nat) :
    (query.limit count).Twin coupling known (query'.limit count) :=
  twin.setText (Writing.verbatim_of_all (by decide)) (.verbatim (Writing.verbatim_repr count))
    (by decide)

theorem offset (twin : query.Twin coupling known query') (count : Nat) :
    (query.offset count).Twin coupling known (query'.offset count) :=
  twin.setText (Writing.verbatim_of_all (by decide)) (.verbatim (Writing.verbatim_repr count))
    (by decide)

theorem update (twin : query.Twin coupling known query') (table : String) :
    (query.update table).Twin coupling known (query'.update table) := by
  unfold Query.update
  rw [twin.escape]
  exact twin.addText (Writing.verbatim_of_all (by decide)) (.plain (twin.plain_escape table))
    (by simp [isSelectKeyword])

theorem deleteFrom (twin : query.Twin coupling known query') (table : String) :
    (query.deleteFrom table).Twin coupling known (query'.deleteFrom table) := by
  unfold Query.deleteFrom
  rw [twin.escape]
  exact twin.addText (Writing.verbatim_of_all (by decide)) (.plain (twin.plain_escape table))
    (by simp [isSelectKeyword])

theorem setRaw (twin : query.Twin coupling known query') (column : String) {sql : String}
    (verbatim : coupling.Verbatim sql) :
    (query.setRaw column sql).Twin coupling known (query'.setRaw column sql) := by
  unfold Query.setRaw
  rw [twin.escape]
  have name : coupling.Text known (query.escape column) (query.escape column) :=
    .plain (twin.plain_escape column)
  exact twin.addTerm (Writing.verbatim_of_all (by decide))
    (name.joined " = " (by decide) (by decide) (by decide) (.verbatim verbatim)) (by decide)

theorem text_nameList (twin : query.Twin coupling known query') (names : List String) :
    coupling.Text known (query.nameList names) (query'.nameList names) := by
  refine Coupling.text_intercalate twin.connection ?_
  rw [List.forall₂_map_left_iff, List.forall₂_map_right_iff]
  refine List.forall₂_same.2 fun name _ => ?_
  rw [twin.escape]
  exact .plain (twin.plain_escape name)

/-- Adding a text changes both queries alike. -/
theorem attempted_addText (twin : query.Twin coupling query.params query')
    {keyword text text' : String}
    (plain : keyword.toList.all isPlainCode = true) (notSelect : isSelectKeyword keyword = false)
    (written : coupling.Text query.params text text') :
    coupling.Attempted query query' (.ok (query.addText keyword text))
      (.ok (query'.addText keyword text')) :=
  .inl ⟨_, _, rfl, rfl, query.ledger_addText _ _, query'.ledger_addText _ _,
    twin.addText (Writing.verbatim_of_all plain) written (by simp [notSelect])⟩

theorem attempted_insertHead (twin : query.Twin coupling query.params query') {keyword : String}
    (plain : keyword.toList.all isPlainCode = true) (notSelect : isSelectKeyword keyword = false)
    (table : String) (columns : List String) :
    coupling.Attempted query query' (query.insertHead keyword table columns)
      (query'.insertHead keyword table columns) := by
  unfold Query.insertHead
  split
  · exact .inr ⟨_, rfl, rfl⟩
  · rw [twin.escape]
    have name : coupling.Text query.params (query.escape table) (query.escape table) :=
      .plain (twin.plain_escape table)
    exact twin.attempted_addText plain notSelect
      ((name.joined " (" (by decide) (by decide) (by decide) (twin.text_nameList columns)).before
        ")" (by decide) (by decide))

theorem attempted_replaceInto (twin : query.Twin coupling query.params query') (table : String)
    (columns : List String) :
    coupling.Attempted query query' (query.replaceInto table columns)
      (query'.replaceInto table columns) := by
  unfold Query.replaceInto
  rw [twin.ensure]
  cases query.ensure .replaceInto with
  | error error => exact .inr ⟨error, rfl, rfl⟩
  | ok => exact twin.attempted_insertHead (by decide) (by decide) table columns

theorem attempted_onConflictDoNothing (twin : query.Twin coupling query.params query')
    (conflict : List String) :
    coupling.Attempted query query' (query.onConflictDoNothing conflict)
      (query'.onConflictDoNothing conflict) := by
  unfold Query.onConflictDoNothing
  rw [twin.ensure]
  cases query.ensure .onConflict with
  | error error => exact .inr ⟨error, rfl, rfl⟩
  | ok =>
      refine twin.attempted_addText (by decide) (by decide) ?_
      split
      · exact .verbatim (Writing.verbatim_of_all (by decide))
      · exact ((twin.text_nameList conflict).after "(" (by decide)).before ") do nothing"
          (by decide) (by decide)

/-- Assignments of new values, each of them made of the name of its column. -/
theorem text_assignments (twin : query.Twin coupling known query') (value : String → String)
    (written : ∀ name, Writing.Plain name.toList → coupling.Text known (value name) (value name))
    (columns : List String) :
    coupling.Text known
      (String.intercalate query.columnSeparator
        (columns.map fun column => query.escape column ++ " = " ++ value (query.escape column)))
      (String.intercalate query'.columnSeparator
        (columns.map fun column => query'.escape column ++ " = " ++ value (query'.escape column)))
    := by
  refine Coupling.text_intercalate twin.connection ?_
  rw [List.forall₂_map_left_iff, List.forall₂_map_right_iff]
  refine List.forall₂_same.2 fun column _ => ?_
  rw [twin.escape]
  have name : coupling.Text known (query.escape column) (query.escape column) :=
    .plain (twin.plain_escape column)
  exact name.joined " = " (by decide) (by decide) (by decide)
    (written _ (twin.plain_escape column))

theorem attempted_onConflictUpdate (twin : query.Twin coupling query.params query')
    (conflict columns : List String) :
    coupling.Attempted query query' (query.onConflictUpdate conflict columns)
      (query'.onConflictUpdate conflict columns) := by
  have duplicate : query'.supports .onDuplicateKey = query.supports .onDuplicateKey := by
    simp only [Query.supports, coupling.grammar twin.connection]
  unfold Query.onConflictUpdate
  dsimp only
  rw [duplicate, twin.ensure]
  split
  · exact .inr ⟨_, rfl, rfl⟩
  · split
    · refine twin.attempted_addText (by decide) (by decide)
        (twin.text_assignments (fun name => "values(" ++ name ++ ")") (fun name isPlain => ?_)
          columns)
      have text : coupling.Text query.params name name := .plain isPlain
      exact (text.after "values(" (by decide)).before ")" (by decide) (by decide)
    · cases query.ensure .onConflict with
      | error error => exact .inr ⟨error, rfl, rfl⟩
      | ok =>
          simp only [bind, Except.bind]
          split
          · exact .inr ⟨_, rfl, rfl⟩
          · refine twin.attempted_addText (by decide) (by decide) ?_
            have list := (twin.text_nameList conflict).after "(" (by decide)
            refine list.joined ") do update set " (by decide) (by decide) (by decide)
              (twin.text_assignments (fun name => "excluded." ++ name) (fun name isPlain => ?_)
                columns)
            have text : coupling.Text query.params name name := .plain isPlain
            exact text.after "excluded." (by decide)

end Query.Twin

/-- No items stand for all columns in both runs. -/
theorem forall₂_orStar {writing : Writing} {known : List Param} {texts texts' : List String}
    (all : List.Forall₂ (writing.Text known) texts texts') :
    List.Forall₂ (writing.Text known) (if texts.isEmpty then ["*"] else texts)
      (if texts'.isEmpty then ["*"] else texts') := by
  cases all with
  | nil => exact .cons (.verbatim (Writing.verbatim_of_all (by decide))) .nil
  | cons first rest => exact .cons first rest

namespace Coupling.Edits

variable {coupling : Coupling} {registry : Registry} {query query' : Query}
  {workspace workspace' : Workspace} {calls calls' : List Call} {quiet : Bool} {α β : Type}

/-- Twin changes that leave the ledger alone. -/
theorem placed {change change' : Query → Query} (same : (change query).ledger = query.ledger)
    (same' : (change' query').ledger = query'.ledger)
    (twin : query.Twin coupling query.params query' →
      (change query).Twin coupling query.params (change' query')) :
    coupling.Edits registry query query' workspace workspace' [] [] (modify change)
      (modify change') fun _ _ _ => True :=
  .place same same' fun before => ⟨twin before, trivial⟩

/-- Something that is built before it is returned. -/
theorem returned {γ δ : Type} {action : Edit α} {action' : Edit β} {build : α → γ} {build' : β → δ}
    {post : World → α → β → Prop} {goal : World → γ → δ → Prop}
    (first : coupling.Edits registry query query' workspace workspace' calls calls' action action'
      post)
    (holds : ∀ world value value', post world value value' →
      goal world (build value) (build' value')) :
    coupling.Edits registry query query' workspace workspace' calls calls'
      (do return build (← action)) (do return build' (← action')) goal :=
  .bind_idle first fun _ _ held => .pure (holds _ _ _ held)

/-- Something that is built without editing the query at hand. -/
theorem built {action : Session α} {action' : Session β} {post : Registry → α → β → Prop}
    (first : coupling.Builds registry workspace workspace' calls calls' action action' post) :
    coupling.Edits registry query query' workspace workspace' calls calls' (liftM action)
      (liftM action') fun _ _ _ => True :=
  .of_run_eq (.build_bind_idle first fun _ _ _ => .pure trivial) rfl rfl

/-! ### Items and terms -/

theorem resolve {operand : TwinOperand}
    (admits : coupling.AdmitsAll registry quiet operand.resolvedLeaves) :
    coupling.Edits registry query query' workspace workspace' [] []
      (Edit.resolve (operand.project Prod.fst)) (Edit.resolve (operand.project Prod.snd))
      fun world text text' => coupling.Text (world.visible quiet) text text' :=
  .compiling fun connections => Operand.resolve_twin connections operand admits

theorem resolveAll {operands : List TwinOperand}
    (admits : coupling.AdmitsAll registry quiet (operands.flatMap Operand.resolvedLeaves)) :
    coupling.Edits registry query query' workspace workspace' [] []
      (Edit.resolveAll (Operand.projectAll Prod.fst operands))
      (Edit.resolveAll (Operand.projectAll Prod.snd operands))
      fun world texts texts' =>
        List.Forall₂ (coupling.Text (world.visible quiet)) texts texts' := by
  induction operands generalizing registry query query' workspace workspace' with
  | nil => exact .pure .nil
  | cons operand rest ih =>
      rw [List.flatMap_cons] at admits
      refine .bind_idle (.resolve admits.left) fun later grown written => ?_
      refine .bind_idle (ih (admits.right.mono grown.registry)) fun last further all => ?_
      exact .pure (.cons (written.mono (further.visible quiet)) all)

/-- An item of a select list is the same in both runs if it binds nothing, or if both runs are. -/
theorem resolveItem {operand : TwinOperand}
    (admits : coupling.AdmitsAll registry false operand.leaves)
    (silent : coupling.identical ∨ coupling.AdmitsAll registry true operand.resolvedLeaves) :
    coupling.Edits registry query query' workspace workspace' [] []
      (Edit.resolve (operand.project Prod.fst)) (Edit.resolve (operand.project Prod.snd))
      fun world text text' => coupling.Text world.known text text' ∧ text' = text := by
  rcases silent with identical | silent
  · have literal := (coupling.alike identical).2.2.2
    exact (resolve admits.resolved).consequence fun world text text' written =>
      ⟨written, (written.eq_of_literal literal).symm⟩
  · exact (resolve silent).consequence fun world text text' written =>
      ⟨written.mono (List.nil_subset _), written.eq_of_known_eq_nil.symm⟩

theorem resolveItems {operands : List TwinOperand}
    (admits : coupling.AdmitsAll registry false (Operand.leavesAll operands))
    (silent : coupling.identical ∨
      coupling.AdmitsAll registry true (operands.flatMap Operand.resolvedLeaves)) :
    coupling.Edits registry query query' workspace workspace' [] []
      (Edit.resolveAll (Operand.projectAll Prod.fst operands))
      (Edit.resolveAll (Operand.projectAll Prod.snd operands))
      fun world texts texts' =>
        List.Forall₂ (coupling.Text world.known) texts texts' ∧ texts' = texts := by
  induction operands generalizing registry query query' workspace workspace' with
  | nil => exact .pure ⟨.nil, rfl⟩
  | cons operand rest ih =>
      have first : coupling.identical ∨
          coupling.AdmitsAll registry true operand.resolvedLeaves :=
        silent.imp id fun silent => silent.left
      have others : coupling.identical ∨
          coupling.AdmitsAll registry true (rest.flatMap Operand.resolvedLeaves) :=
        silent.imp id fun silent => silent.right
      refine .bind_idle (.resolveItem admits.left first) fun later grown written => ?_
      refine .bind_idle (ih (admits.right.mono grown.registry)
        (others.imp id fun silent => silent.mono grown.registry)) fun last further all => ?_
      refine .pure ⟨.cons (written.1.mono further.known) all.1, ?_⟩
      rw [written.2, all.2]

theorem items {operands : List TwinOperand}
    (admits : coupling.AdmitsAll registry false (Operand.leavesAll operands))
    (silent : coupling.identical ∨
      coupling.AdmitsAll registry true (operands.flatMap Operand.resolvedLeaves)) :
    coupling.Edits registry query query' workspace workspace' [] []
      (Edit.items (Operand.projectAll Prod.fst operands))
      (Edit.items (Operand.projectAll Prod.snd operands))
      fun world texts texts' =>
        List.Forall₂ (coupling.Text world.known) texts texts' ∧ texts' = texts := by
  refine (resolveItems admits silent).returned fun world texts texts' ⟨all, same⟩ => ?_
  refine ⟨forall₂_orStar all, ?_⟩
  rw [same]

theorem select {operands : List TwinOperand} (distinct : Bool)
    (admits : coupling.AdmitsAll registry false (Operand.leavesAll operands))
    (silent : coupling.identical ∨
      coupling.AdmitsAll registry true (operands.flatMap Operand.resolvedLeaves)) :
    coupling.Edits registry query query' workspace workspace' [] []
      (Edit.select distinct (Operand.projectAll Prod.fst operands))
      (Edit.select distinct (Operand.projectAll Prod.snd operands)) fun _ _ _ => True := by
  refine .bind_idle (.items admits silent) fun later grown ⟨all, same⟩ => ?_
  refine .placed (Query.ledger_add _ _) (Query.ledger_add _ _) fun twin => ?_
  refine twin.add (.items ?_ all fun _ => same)
  cases distinct <;> exact Writing.verbatim_of_all (by decide)

theorem selectAs {operand : TwinOperand} (label : String)
    (admits : coupling.AdmitsAll registry false operand.leaves)
    (silent : coupling.identical ∨ coupling.AdmitsAll registry true operand.resolvedLeaves) :
    coupling.Edits registry query query' workspace workspace' [] []
      (Edit.selectAs (operand.project Prod.fst) label)
      (Edit.selectAs (operand.project Prod.snd) label) fun _ _ _ => True := by
  refine .bind_idle (.resolveItem admits silent) fun later grown ⟨written, same⟩ => ?_
  refine .placed (Query.ledger_selectRaw _ _) (Query.ledger_selectRaw _ _) fun twin => ?_
  rw [twin.escapePart]
  rw [same] at written ⊢
  exact twin.selectRaw (written.joined " as " (by decide) (by decide) (by decide)
    (.plain (twin.plain_escapePart label)))

theorem addTerms (clause : ListClause) {operands : List TwinOperand}
    (admits : coupling.AdmitsAll registry false (Operand.leavesAll operands)) :
    coupling.Edits registry query query' workspace workspace' [] []
      (Edit.addTerms clause (Operand.projectAll Prod.fst operands))
      (Edit.addTerms clause (Operand.projectAll Prod.snd operands)) fun _ _ _ => True := by
  induction operands generalizing registry query query' workspace workspace' with
  | nil => exact .pure trivial
  | cons operand rest ih =>
      refine .bind_idle (.resolve admits.left.resolved) fun later grown written => ?_
      refine .bind_idle (.placed (Query.ledger_addTerm _ _ _) (Query.ledger_addTerm _ _ _)
        fun twin => ?_) fun last further _ => ?_
      · refine twin.addTerm ?_ written ?_
        · cases clause <;> exact Writing.verbatim_of_all (by decide)
        · cases clause <;> decide
      · exact ih (admits.right.mono (grown.trans further).registry)

theorem addOrder {operand : TwinOperand} (descends : Bool)
    (admits : coupling.AdmitsAll registry false operand.leaves) :
    coupling.Edits registry query query' workspace workspace' [] []
      (Edit.addOrder (operand.project Prod.fst) descends)
      (Edit.addOrder (operand.project Prod.snd) descends) fun _ _ _ => True := by
  refine .bind_idle (.resolve admits.resolved) fun later grown written => ?_
  refine .placed (Query.ledger_addTerm _ _ _) (Query.ledger_addTerm _ _ _) fun twin => ?_
  refine twin.addTerm (Writing.verbatim_of_all (by decide)) ?_ (by decide)
  cases descends with
  | true => exact written.before " desc" (by decide) (by decide)
  | false => exact written.before " asc" (by decide) (by decide)

/-! ### Nested queries -/

theorem embed {nested nested' : Query} (twins : coupling.Nested registry false nested nested') :
    coupling.Edits registry query query' workspace workspace' [] [] (Edit.embed nested)
      (Edit.embed nested') fun world text text' => coupling.Text world.known text text' := by
  have embeds : coupling.CompilesText false ⟨registry, query.params⟩
      (modifyGet (Ledger.embed nested)) (modifyGet (Ledger.embed nested')) := .embed twins
  exact .compiling fun _ => embeds

theorem sourceQuery {nested nested' : Query} (label : String)
    (twins : coupling.Nested registry false nested nested') :
    coupling.Edits registry query query' workspace workspace' [] []
      (Edit.sourceQuery nested label) (Edit.sourceQuery nested' label) fun _ _ _ => True := by
  refine .bind_idle (.embed twins) fun later grown written => ?_
  refine .placed (Query.ledger_setText _ _ _) (Query.ledger_setText _ _ _) fun twin => ?_
  rw [twin.escapePart]
  refine twin.setText (Writing.verbatim_of_all (by decide)) ?_ (by decide)
  exact (Writing.Text.callText (Writing.verbatim_of_all (by decide)) written).joined " as "
    (by decide) (by decide) (by decide) (.plain (twin.plain_escapePart label))

theorem addCommonTable (isRecursive : Bool) (name : String) {nested nested' : Query}
    (twins : coupling.Nested registry false nested nested') :
    coupling.Edits registry query query' workspace workspace' [] []
      (Edit.addCommonTable isRecursive name nested)
      (Edit.addCommonTable isRecursive name nested') fun _ _ _ => True := by
  refine .bind_idle (.embed twins) fun later grown written => ?_
  refine .placed (Query.ledger_addCommonTable _ _ _) (Query.ledger_addCommonTable _ _ _)
    fun twin => ?_
  rw [twin.escapePart]
  refine twin.addCommonTable isRecursive ?_
  have body := Writing.Text.callText
    (Writing.verbatim_of_all (by decide : " as ".toList.all isPlainCode = true)) written
  exact (Writing.Text.plain (twin.plain_escapePart name)).append body
    ((Writing.EndsText.append (by decide) (by decide)).append (by simp))

theorem lockForUpdate : coupling.Edits registry query query' workspace workspace' [] []
    Edit.lockForUpdate Edit.lockForUpdate fun _ _ _ => True := by
  have requires (connections : coupling.connections query.connection query'.connection) :
      coupling.Compiles false ⟨registry, query.params⟩
        (modifyGet (Ledger.require query.connection .lockForUpdate))
        (modifyGet (Ledger.require query'.connection .lockForUpdate))
        fun _ supported supported' => supported' = supported := .require connections _
  refine .bind_idle (.compiling requires) fun later grown same => ?_
  rw [same]
  split
  · exact .placed rfl rfl fun twin => twin.insertToken (Writing.verbatim_of_all (by decide))
  · exact .pure trivial

/-! ### Rows and assignments -/

theorem values {operands : List TwinOperand}
    (admits : coupling.AdmitsAll registry false (operands.flatMap Operand.resolvedLeaves)) :
    coupling.Edits registry query query' workspace workspace' [] []
      (Edit.values (Operand.projectAll Prod.fst operands))
      (Edit.values (Operand.projectAll Prod.snd operands)) fun _ _ _ => True := by
  cases operands with
  | nil => exact .pure trivial
  | cons operand rest =>
      refine .bind_idle (.resolveAll admits) fun later grown all => ?_
      refine .bind_idle (.placed (Query.ledger_addTerm _ _ _) (Query.ledger_addTerm _ _ _)
        fun twin => ?_) fun last further _ => .pure trivial
      refine twin.addTerm (Writing.verbatim_of_all (by decide)) ?_ (by decide)
      exact ((text_intercalate twin.connection all).after "(" (by decide)).before ")" (by decide)
        (by decide)

theorem assign {column value : TwinOperand}
    (admits : coupling.AdmitsAll registry false column.leaves)
    (admits' : coupling.AdmitsAll registry false value.leaves) :
    coupling.Edits registry query query' workspace workspace' [] []
      (Edit.assign (column.project Prod.fst) (value.project Prod.fst))
      (Edit.assign (column.project Prod.snd) (value.project Prod.snd)) fun _ _ _ => True := by
  refine .bind_idle (.resolve admits.resolved) fun later grown written => ?_
  refine .bind_idle (.resolve (admits'.mono grown.registry).resolved) fun last further more => ?_
  refine .placed (Query.ledger_addTerm _ _ _) (Query.ledger_addTerm _ _ _) fun twin => ?_
  refine twin.addTerm (Writing.verbatim_of_all (by decide)) ?_ (by decide)
  exact (written.mono further.known).joined " = " (by decide) (by decide) (by decide) more

theorem returning {operands : List TwinOperand}
    (admits : coupling.AdmitsAll registry false (operands.flatMap Operand.resolvedLeaves)) :
    coupling.Edits registry query query' workspace workspace' [] []
      (Edit.returning (Operand.projectAll Prod.fst operands))
      (Edit.returning (Operand.projectAll Prod.snd operands)) fun _ _ _ => True := by
  refine .of_hand fun hand => .get_bind ?_
  rw [hand.twin.ensure]
  cases query.ensure .returning with
  | error error => exact .pure trivial
  | ok =>
      refine .bind_idle (.resolveAll admits) fun later grown all => ?_
      refine .bind_idle (.placed rfl rfl fun twin => ?_) fun last further _ => .pure trivial
      exact twin.insert (.items (Writing.verbatim_of_all (by decide)) (forall₂_orStar all)
        (by simp [isSelectKeyword]))

/-- A call that succeeds or fails for both queries alike. -/
theorem attempt {change : Query → Except QueryError Query}
    (twin : query.Twin coupling query.params query' →
      coupling.Attempted query query' (change query) (change query')) :
    coupling.Edits registry query query' workspace workspace' [] [] (Edit.attempt change)
      (Edit.attempt change) fun _ _ _ => True := by
  refine .of_hand fun hand => .get_bind ?_
  rcases twin hand.twin with ⟨changed, changed', done, done', same, same', twin⟩ |
    ⟨error, failed, failed'⟩
  · rw [done, done']
    exact .bind_idle (.placed same same' fun _ => twin) fun later grown _ => .pure trivial
  · rw [failed, failed']
    exact .pure trivial

end Coupling.Edits

end SqlBuilder
