import SqlBuilder.Proofs.Script.Insertion

/-!
# Calls that keep lists in one piece

A query is made, changed by calls and copied, and the terms that its list clauses are given are
noted call by call. As long as each term comes in time, the lists hold exactly what was noted,
whatever other calls come between: conditions and groups of them, joins, sources, limits, common
table expressions, mutations and removals.

Callbacks of groups and joins add fragments where fragments go. What the hooks of user-defined
expressions do outside of groups is as free as any other call.
-/

namespace SqlBuilder

/-! ### Calls in a row -/

/--
Calls in a row from a query on, with the terms noted before and after them. The terms of lists come
in time, and apart from them nothing is put into a list.
-/
inductive Edit.Enlists : {α : Type} → Edit α → Query → Workspace → Listing → Listing → Prop
  | bind {α β : Type} {action : Edit α} {next : α → Edit β} {query : Query} {workspace : Workspace}
      {listing between last : Listing} : Enlists action query workspace listing between →
      Enlists (next ((action.run query).run workspace).1.1) ((action.run query).run workspace).1.2
        ((action.run query).run workspace).2 between last →
      Enlists (action >>= next) query workspace listing last
  | adds {α : Type} {action : Edit α} {query : Query} {workspace : Workspace} {listing : Listing} :
      action.Adds → Enlists action query workspace listing listing
  | alters {α : Type} (change : Query → α × Query) {query : Query} {workspace : Workspace}
      {listing : Listing} : query.Alters (change query).2 →
      Enlists (modifyGet change) query workspace listing listing
  | attempt {call : Query → Except QueryError Query} {query : Query} {workspace : Workspace}
      {listing : Listing} : (∀ changed, call query = .ok changed → query.Alters changed) →
      Enlists (Edit.attempt call) query workspace listing listing
  | join {α : Type} (kind : JoinKind) (table : String) (label : Option String) {body : Edit α}
      {query : Query} {workspace : Workspace} {listing : Listing} : body.Adds →
      Enlists (Edit.join kind table label body) query workspace listing listing
  | term {change : Query → Query} {keyword term : String} {query : Query} {workspace : Workspace}
      {listing : Listing} : keyword ∈ listKeywords → query.isTimely keyword = true →
      change query = query.addTerm keyword term →
      Enlists (modify change : Edit PUnit) query workspace listing (listing.add keyword term)
  | removal {keyword : String} {query : Query} {workspace : Workspace} {listing : Listing} :
      keyword ≠ "," → Enlists (modify (·.removeClause keyword) : Edit PUnit) query workspace listing
        (listing.remove keyword)

namespace Query

variable {query changed : Query} {listing last : Listing}

theorem Gathers.alters (gathers : query.Gathers listing) (altered : query.Alters changed) :
    changed.Gathers listing := by
  induction altered with
  | keep fragments cursor => exact ⟨cursor.trans gathers.rest, fragments ▸ gathers.arranged⟩
  | trans _ _ first second => exact second (first gathers)
  | insert fragment neutral => exact gathers.insert neutral
  | add fragment neutral => exact gathers.add _ neutral
  | setText text neutral => exact gathers.setText _ neutral text
  | replaceClause old new replaced => exact gathers.replaceClause _ old new replaced
  | addCommonTable isRecursive text => exact gathers.addCommonTable isRecursive text

/-- Calls in a row keep the lists in order, with the terms that they give them. -/
theorem Gathers.enlists {α : Type} {action : Edit α} {workspace : Workspace}
    (enlists : action.Enlists query workspace listing last) (gathers : query.Gathers listing) :
    (((action.run query).run workspace).1.2).Gathers last := by
  induction enlists with
  | bind _ _ first second => exact second (first gathers)
  | adds adds =>
      obtain ⟨block, foreign, spliced⟩ := adds.inserts _ _
      exact gathers.splices foreign spliced
  | alters _ altered => exact gathers.alters altered
  | @attempt call query workspace _ altered =>
      obtain ⟨changed, result, ran⟩ | ⟨error, -, ran⟩ := Edit.run_attempt call query workspace
      · rw [ran]
        exact gathers.alters (altered changed result)
      · rw [ran]
        exact gathers
  | join kind table label adds =>
      rw [Edit.run_join]
      dsimp only
      split
      · exact gathers
      · obtain ⟨block, foreign, filled⟩ := adds.inserts (openJoin _ kind _) _
        exact gathers.join kind _ foreign filled
  | @term change _ term query _ _ mem timely same =>
      have added := gathers.addTerm mem timely term
      rwa [← same] at added
  | removal word => exact gathers.removeClause word

end Query

/-! ### Builder calls -/

namespace Edit

/-- The listing after terms are given to a list clause. -/
def noteTerms (clause : ListClause) : List Value → Query → Workspace → Listing → Listing
  | [], _, _, listing => listing
  | column :: rest, query, workspace, listing =>
    let out := ((resolve column).run query).run workspace
    noteTerms clause rest (out.1.2.addTerm clause.keyword out.1.1) out.2
      (listing.add clause.keyword out.1.1)

namespace Enlists

variable {α β : Type} {query : Query} {workspace : Workspace} {listing last : Listing}

theorem pure (value : α) : Enlists (Pure.pure value) query workspace listing listing :=
  .adds (.pure value)

/-- A step that works elsewhere comes first. -/
theorem session_bind {action : Session α} {next : α → Edit β}
    (second : Enlists (next (action.run workspace).1) query (action.run workspace).2 listing last) :
    Enlists ((liftM action : Edit α) >>= next) query workspace listing last :=
  .bind (.adds (.session action)) second

/-- Only a report comes behind. -/
theorem report {action : Edit α} {result : α → β}
    (enlists : action.Enlists query workspace listing last) :
    Enlists (action >>= fun value => Pure.pure (result value)) query workspace listing last :=
  .bind enlists (.pure _)

theorem modify {change : Query → Query} (altered : query.Alters (change query)) :
    Enlists (modify change : Edit PUnit) query workspace listing listing :=
  .alters (fun query => ((), change query)) altered

theorem select (distinct : Bool) (columns : List Value) :
    Enlists (Edit.select distinct columns) query workspace listing listing := by
  have items : (Edit.items columns).Adds := .bind (.resolveAll columns) fun _ _ => .pure _
  exact .bind (.adds items) (.modify (.add _ (by cases distinct <;> rfl)))

theorem addTerms (clause : ListClause) (columns : List Value) (rest : query.cursor = none)
    (timely : columns ≠ [] → query.isTimely clause.keyword = true) :
    Enlists (Edit.addTerms clause columns) query workspace listing
      (noteTerms clause columns query workspace listing) := by
  have mem : clause.keyword ∈ listKeywords := by cases clause <;> decide
  induction columns generalizing query workspace listing with
  | nil => exact .pure ()
  | cons column columns ih =>
      have now := timely (List.cons_ne_nil _ _)
      refine .bind (.adds (.compiling _)) (.bind (.term mem now rfl) (ih ?_ fun _ => ?_))
      · exact (Query.KeepsRest.stable.addText _ _ _).cursor rest
      · let compiled : Query := (((Edit.resolve column).run query).run workspace).1.2
        have calm : compiled.cursor = none := rest
        exact Query.isTimely_addTerm calm mem now _

theorem addOrder (column : Value) (descends : Bool)
    (timely : query.isTimely "order by" = true) :
    Enlists (Edit.addOrder column descends) query workspace listing
      (listing.add "order by" ((((Edit.resolve column).run query).run workspace).1.1 ++
        (if descends then " desc" else " asc"))) :=
  .bind (.adds (.compiling _)) (.term (by decide) timely rfl)

theorem assign (column value : Value) (timely : query.isTimely "set" = true) :
    Enlists (Edit.assign column value) query workspace listing
      (listing.add "set"
        (let lhs := ((Edit.resolve column).run query).run workspace
        lhs.1.1 ++ " = " ++ (((Edit.resolve value).run lhs.1.2).run lhs.2).1.1)) :=
  .bind (.adds (.compiling _)) (.bind (.adds (.compiling _)) (.term (by decide) timely rfl))

/-- A row of values is one term; without fields there is none. -/
theorem values (value : Value) (row : List Value) (timely : query.isTimely "values" = true) :
    Enlists (Edit.values (value :: row)) query workspace listing
      (listing.add "values" ("(" ++ String.intercalate query.columnSeparator
        (((Edit.resolveAll (value :: row)).run query).run workspace).1.1 ++ ")")) := by
  obtain ⟨ledger, ran⟩ := Script.run_resolveAll (value :: row) query workspace
  refine .bind (.adds (.resolveAll _)) (.bind (.term (by decide) ?_ ?_) (.pure _))
  · rw [ran]
    exact timely
  · rw [ran]
    rfl

theorem attempt_addText {call : Query → Except QueryError Query}
    (added : ∀ changed, call query = .ok changed → ∃ keyword text,
      (Fragment.token keyword).isNeutral = true ∧ changed = query.addText keyword text) :
    Enlists (Edit.attempt call) query workspace listing listing := by
  refine .attempt fun changed called => ?_
  obtain ⟨keyword, text, neutral, rfl⟩ := added changed called
  exact .addText _ text neutral

theorem lockForUpdate : Enlists Edit.lockForUpdate query workspace listing listing := by
  refine .bind (.adds (.compiling _)) ?_
  split
  · exact .modify (.insert _ rfl)
  · exact .pure _

theorem returning (columns : List Value) :
    Enlists (Edit.returning columns) query workspace listing listing := by
  refine .bind (.adds .look) ?_
  split
  · exact .pure _
  · exact .bind (.adds (.resolveAll columns)) (.bind (.alters _ (.insert _ rfl)) (.pure _))

end Enlists

end Edit

namespace Script

variable {home : Connection} {query : Query} {workspace : Workspace} {listing : Listing}

/-- The list clause that a step gives terms. -/
def Step.listKeyword : Step → Option String
  | .addTerms clause (_ :: _) => some clause.keyword
  | .addOrder _ _ | .addOrderRaw _ => some "order by"
  | .values (_ :: _) => some "values"
  | .assign _ _ | .assignRaw _ _ => some "set"
  | _ => none

/-- The listing after a step, from the listing before it. -/
def Step.noteTerms (home : Connection) (query : Query) (workspace : Workspace) (listing : Listing) :
    Step → Listing
  | .addTerms clause columns =>
    let built := (buildAll home columns).run workspace
    Edit.noteTerms clause built.1 query built.2 listing
  | .addOrder column descends =>
    let built := (buildOperand home column).run workspace
    listing.add "order by" ((((Edit.resolve built.1).run query).run built.2).1.1 ++
      (if descends then " desc" else " asc"))
  | .addOrderRaw sql => listing.add "order by" sql
  | .values (field :: fields) =>
    let built := (buildAll home (field :: fields)).run workspace
    listing.add "values" ("(" ++ String.intercalate query.columnSeparator
      (((Edit.resolveAll built.1).run query).run built.2).1.1 ++ ")")
  | .assign column value =>
    let column := (buildOperand home column).run workspace
    let value := (buildOperand home value).run column.2
    let lhs := ((Edit.resolve column.1).run query).run value.2
    listing.add "set" (lhs.1.1 ++ " = " ++ (((Edit.resolve value.1).run lhs.1.2).run lhs.2).1.1)
  | .assignRaw column sql => listing.add "set" (query.escape column ++ " = " ++ sql)
  | .removeClause keyword => listing.remove keyword
  | _ => listing

theorem call_enlists (step : Step) (orderly : step.isOrderly = true) (rest : query.cursor = none)
    (timely : ∀ keyword ∈ step.listKeyword, query.isTimely keyword = true) :
    (call home step).Enlists query workspace listing
      (step.noteTerms home query workspace listing) := by
  match step with
  | .add _ | .replaceClause _ _ | .merge _ | .raw _ | .union _ _ => cases orderly
  | .addExpression _ _ _ _ | .addPredicate _ _ => cases orderly
  | .removeClause keyword =>
      refine .report (.removal ?_)
      rintro rfl
      cases orderly
  | .parenthesis pull body => exact .report (.adds (.parenthesis pull (runSteps_adds body orderly)))
  | .conditionGroup connective body =>
      exact .report (.adds (.conditionGroup connective (runSteps_adds body orderly)))
  | .condition clause connective predicate =>
      exact .adds (call_adds (.condition clause connective predicate) orderly)
  | .filterIn negated lhs values => exact .adds (call_adds (.filterIn negated lhs values) orderly)
  | .filterByKey key => exact .adds (call_adds (.filterByKey key) orderly)
  | .filterByKeys rows => exact .adds (call_adds (.filterByKeys rows) orderly)
  | .filterHas relation body => exact .adds (call_adds (.filterHas relation body) rfl)
  | .bindModel model => exact .report (.modify (.keep rfl rfl))
  | .view view => exact .report (.adds .look)
  | .compileOperand draft => exact .session_bind (.report (.adds (.compiling _)))
  | .bindScalar value => exact .report (.adds (.compiling _))
  | .compileExpr draft => exact .session_bind (.report (.adds (.compiling _)))
  | .copy kind name => exact .bind (.adds .look) (.session_bind (.adds (.session _)))
  | .fetch kind responses => exact .bind (.adds .look) (.session_bind (.pure _))
  | .select distinct columns => exact .session_bind (.report (.select distinct _))
  | .selectAs column label =>
      exact .session_bind (.report (.bind (.adds (.compiling _)) (.modify (.add _ rfl))))
  | .selectRaw sql => exact .report (.modify (.add _ rfl))
  | .source table label => exact .report (.modify (.setText _ rfl))
  | .sourceQuery draft label =>
      exact .session_bind (.report (.bind (.adds (.compiling _)) (.modify (.setText _ rfl))))
  | .limit count => exact .report (.modify (.setText _ rfl))
  | .offset count => exact .report (.modify (.setText _ rfl))
  | .paginate request => exact .report (.modify (.trans (.setText _ rfl) (.setText _ rfl)))
  | .join kind table label none => exact .report (.join kind table label (.pure ()))
  | .join kind table label (some body) =>
      refine .bind (.join kind table label (runSteps_adds_join body orderly)) ?_
      split <;> exact .pure _
  | .addTerms clause columns =>
      refine .session_bind (.report (.addTerms clause _ rest fun filled => timely _ ?_))
      cases columns with
      | nil => exact absurd rfl filled
      | cons => rfl
  | .addOrder column descends => exact .session_bind (.report (.addOrder _ descends (timely _ rfl)))
  | .addOrderRaw sql => exact .report (.term (by decide) (timely _ rfl) rfl)
  | .addCommonTable isRecursive name draft =>
      exact .session_bind (.report (.bind (.adds (.compiling _)) (.modify (.addCommonTable _ _))))
  | .lockForUpdate => exact .report .lockForUpdate
  | .insertInto replaces table columns =>
      refine .report (.attempt_addText fun changed inserted => ?_)
      cases replaces with
      | true =>
          obtain ⟨text, same⟩ := Query.eq_addText_of_replaceInto inserted
          exact ⟨"replace into", text, rfl, same⟩
      | false =>
          obtain ⟨text, same⟩ := Query.eq_addText_of_insertHead inserted
          exact ⟨"insert into", text, rfl, same⟩
  | .values [] => exact .session_bind (.report (.pure _))
  | .values (field :: fields) => exact .session_bind (.report (.values _ _ (timely _ rfl)))
  | .update table => exact .report (.modify (.addText _ _ rfl))
  | .assign column value =>
      exact .session_bind (.session_bind (.report (.assign _ _ (timely _ rfl))))
  | .assignRaw column sql => exact .report (.term (by decide) (timely _ rfl) rfl)
  | .deleteFrom table => exact .report (.modify (.addText _ _ rfl))
  | .onConflictUpdate conflict columns =>
      refine .report (.attempt_addText fun changed updated => ?_)
      obtain ⟨keyword, word, text, same⟩ := Query.eq_addText_of_onConflictUpdate updated
      have neutral : ∀ keyword ∈ ["on duplicate key update", "on conflict"],
          (Fragment.token keyword).isNeutral = true := by decide
      exact ⟨keyword, text, neutral keyword word, same⟩
  | .onConflictDoNothing conflict =>
      refine .report (.attempt_addText fun changed updated => ?_)
      obtain ⟨text, same⟩ := Query.eq_addText_of_onConflictDoNothing updated
      exact ⟨"on conflict", text, rfl, same⟩
  | .returning columns => exact .session_bind (.report (.returning _))

/-- The listing of a copy, from the listing of the query. A count that is made in place has no
order, and other counts select from the query. -/
def CopyKind.noteTerms (query : Query) (listing : Listing) : CopyKind → Listing
  | .clone | .explain => listing
  | .resultCount =>
    if query.selectKeyword.toOption.any query.countsInPlace then listing.remove "order by"
    else .empty
  | .fresh | .totalCount => .empty

end Script

open Script

/-- The queries that calls lead to, outside any callback, with the terms that the calls gave. -/
inductive Query.Listed : Query → Listing → Prop
  | made (home : Connection) (origin : Origin) (workspace : Workspace) :
      Listed ((origin.make home).run workspace).1 .empty
  | run {α : Type} {action : Edit α} {query : Query} {workspace : Workspace}
      {listing last : Listing} : Listed query listing →
      action.Enlists query workspace listing last →
      Listed ((action.run query).run workspace).1.2 last
  | copy (kind : CopyKind) (workspace : Workspace) {query copy : Query} {listing : Listing} :
      Listed query listing → ((kind.make query).run workspace).1 = .ok copy →
      Listed copy (kind.noteTerms query listing)

namespace Query

variable {query changed : Query} {listing : Listing}

namespace Gathers

theorem new (connection : Connection) (workspace : Workspace) :
    ((Query.new connection).run workspace).1.Gathers .empty :=
  ⟨rfl, .nil⟩

theorem make (home : Connection) (origin : Origin) (workspace : Workspace) :
    ((origin.make home).run workspace).1.Gathers .empty := by
  obtain ⟨connection, model, table⟩ := origin
  cases model with
  | some model => exact (new (connection.getD home) workspace).alters (.keep rfl rfl)
  | none =>
      cases table with
      | none => exact new _ workspace
      | some table =>
          have selected := (new (connection.getD home) workspace).add
            { keyword := "select", payload := some (.items ["*"]) } rfl
          exact selected.setText "from" rfl _

theorem withoutPaging (gathers : query.Gathers listing) :
    query.withoutPaging.Gathers (listing.remove "order by") := by
  have removed := ((gathers.removeClause (by decide : "limit" ≠ ",")).removeClause
    (by decide : "order by" ≠ ",")).removeClause (by decide : "offset" ≠ ",")
  refine ⟨removed.rest, removed.arranged.congr fun keyword mem => ?_⟩
  have words : ∀ keyword ∈ listKeywords, keyword ≠ "limit" ∧ keyword ≠ "offset" := by decide
  obtain ⟨limit, offset⟩ := words keyword mem
  simp [Listing.remove, Function.update_apply, limit, offset]

theorem withSelectList (gathers : query.Gathers listing) {item : String}
    (replaced : query.withSelectList item = .ok changed) : changed.Gathers listing := by
  refine gathers.replaceClause "select" rfl (fun fragment same => ?_) replaced
  have word : fragment.isNeutral = (Fragment.token "select").isNeutral := isNeutral_congr same
  exact word.trans rfl

theorem countRowsOf (gathers : query.Gathers listing) (inner : Query) :
    (query.countRowsOf inner).Gathers listing := by
  have selected := gathers.add
    { keyword := "select", payload := some (.items ["count(*)"]) } rfl
  have adopted : Query.Gathers { query.selectRaw "count(*)" with
      ledger := ((query.selectRaw "count(*)").ledger.embed inner).2 } listing :=
    selected.alters (.keep rfl rfl)
  exact adopted.alters (.addText "from" _ rfl)

theorem totalCount {workspace : Workspace}
    (counted : (query.totalCountQuery.run workspace).1 = .ok changed) : changed.Gathers .empty := by
  obtain ⟨keyword, inner, -, -, rfl, -⟩ := exists_of_totalCountQuery counted
  exact (new query.connection _).countRowsOf inner

theorem resultCount (gathers : query.Gathers listing) {workspace : Workspace}
    (counted : (query.resultCountQuery.run workspace).1 = .ok changed) :
    changed.Gathers (CopyKind.noteTerms query listing .resultCount) := by
  obtain ⟨keyword, selected, way⟩ := exists_of_resultCountQuery counted
  rw [CopyKind.noteTerms, selected, Except.toOption, Option.any]
  obtain ⟨inPlace, replaced, -⟩ | ⟨nested, same⟩ := way
  · rw [if_pos inPlace]
    have copied : (query.clone.run workspace).1.Gathers listing :=
      gathers.alters (.keep rfl rfl)
    exact copied.withoutPaging.withSelectList replaced
  · rw [nested, if_neg Bool.false_ne_true]
    rw [same] at counted
    exact totalCount counted

theorem copy (gathers : query.Gathers listing) (kind : CopyKind) {workspace : Workspace}
    (copied : ((kind.make query).run workspace).1 = .ok changed) :
    changed.Gathers (kind.noteTerms query listing) := by
  cases kind with
  | clone =>
      cases copied
      exact gathers.alters (.keep rfl rfl)
  | fresh =>
      cases copied
      exact new _ workspace
  | explain =>
      cases copied
      refine ⟨by simp [gathers.rest], ?_⟩
      have foreign : Fragment.Foreign [.token "explain"] := .singleton (by decide)
      have whole : Fragment.Arranged ([] ++ query.fragments) listing := gathers.arranged
      exact whole.splice_neutral gathers.arranged.starts foreign.free foreign.starts
  | resultCount => exact gathers.resultCount copied
  | totalCount => exact totalCount copied

end Gathers

namespace Listed

theorem gathers (listed : query.Listed listing) : query.Gathers listing := by
  induction listed with
  | made home origin workspace => exact .make home origin workspace
  | run _ enlists ih => exact ih.enlists enlists
  | copy kind workspace _ copied ih => exact ih.copy kind copied

/-- A builder call is a call. -/
theorem call (home : Connection) (step : Step) (workspace : Workspace)
    (orderly : step.isOrderly = true)
    (timely : ∀ keyword ∈ step.listKeyword, query.isTimely keyword = true)
    (listed : query.Listed listing) :
    (((Script.call home step).run query).run workspace).1.2.Listed
      (step.noteTerms home query workspace listing) :=
  .run listed (call_enlists step orderly listed.gathers.rest timely)

/--
As long as terms come in time, each list is one run of fragments: the first term under the keyword,
the others under commas right behind it, in call order, and removing the clause removes them all.
This goes on exactly as long as the next term comes in time: a term goes to its list if and only if
the clause is absent or its list stands last.
-/
theorem holdsLists (listed : query.Listed listing) :
    query.HoldsLists listing ∧ ∀ keyword ∈ listKeywords, ∀ term,
      (query.addTerm keyword term).HoldsLists (listing.add keyword term) ↔
        query.isTimely keyword = true :=
  ⟨listed.gathers.toHoldsLists, fun _ mem term =>
    ⟨listed.gathers.isTimely_of_lists mem, fun timely =>
      (listed.gathers.addTerm mem timely term).toHoldsLists⟩⟩

/-- Conditions and a limit that is taken back come between lists; the first list is closed then. -/
theorem holdsLists_grouped :
    let home : Connection := .ofConfig {}
    let after (step : Step) (query : Query) : Query :=
      (((Script.call home step).run query).run {}).1.2
    let ordered := after (.addOrderRaw "y desc") (after (.addOrderRaw "x")
      ((Origin.make home { table := some "a" }).run {}).1)
    let filtered := after (.removeClause "limit") (after (.limit 1)
      (after (.conditionGroup .and [.condition .filter .and (.single (.raw "1"))]) ordered))
    let query := after (.assignRaw "z" "0") filtered
    let listing : Listing := (((Listing.empty.add "order by" "x").add "order by" "y desc").remove
      "limit").add "set" "\"z\" = 0"
    query.Listed listing ∧ query.isTimely "order by" = false ∧ query.isTimely "group by" = true ∧
      query.HoldsLists listing ∧ ∀ keyword ∈ listKeywords, ∀ term,
        (query.addTerm keyword term).HoldsLists (listing.add keyword term) ↔
          query.isTimely keyword = true := by
  intro home after ordered filtered query listing
  have made := Listed.made home { table := some "a" } {}
  have first := made.call home (.addOrderRaw "x") {} rfl (by decide +kernel)
  have second := first.call home (.addOrderRaw "y desc") {} rfl (by decide +kernel)
  have grouped := second.call home (.conditionGroup .and
    [.condition .filter .and (.single (.raw "1"))]) {} (by decide +kernel) (by decide +kernel)
  have limited := grouped.call home (.limit 1) {} rfl (by decide +kernel)
  have unlimited := limited.call home (.removeClause "limit") {} rfl (by decide +kernel)
  have text : filtered.escape "z" ++ " = " ++ "0" = "\"z\" = 0" := by decide +kernel
  have listed : query.Listed ((((Listing.empty.add "order by" "x").add "order by" "y desc").remove
      "limit").add "set" (filtered.escape "z" ++ " = " ++ "0")) :=
    unlimited.call home (.assignRaw "z" "0") {} rfl (by decide +kernel)
  rw [text] at listed
  exact ⟨listed, by decide +kernel, by decide +kernel, listed.holdsLists⟩

end Listed

/--
A limit between two terms of an order parts the list: the second term stands behind the limit, under
a comma that goes on with no list.
-/
theorem addOrder_parts_list :
    let home : Connection := .ofConfig {}
    let query : Query := ((Origin.make home { table := some "a" }).run {}).1
    let steps : List Step := [.addOrderRaw "x", .limit 1, .addOrderRaw "y"]
    let changed : Query := (((Script.runSteps home steps).run query).run {}).1.2
    changed.fragments =
        [{ keyword := "select", payload := some (.items ["*"]) }, .withText "from" "\"a\"",
          .withText "order by" "x", .withText "limit" "1", .withText "," "y"] ∧
      ¬changed.HoldsLists ((Listing.empty.add "order by" "x").add "order by" "y") := by
  intro home query steps changed
  have fragments : changed.fragments = [{ keyword := "select", payload := some (.items ["*"]) },
      .withText "from" "\"a\"", .withText "order by" "x", .withText "limit" "1",
      .withText "," "y"] := by decide +kernel
  refine ⟨fragments, fun lists => ?_⟩
  obtain ⟨front, back, shape, absent, apart, -⟩ := lists.gathered "order by" (by decide)
  have runs := Fragment.runs_eq_of_list
    ((Listing.empty.add "order by" "x").add "order by" "y" "order by") (by decide) absent apart
  rw [← shape, fragments] at runs
  exact absurd runs (by decide +kernel)

end Query

end SqlBuilder
