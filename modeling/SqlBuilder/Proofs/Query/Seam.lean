import SqlBuilder.Proofs.Keyword.Narration
import SqlBuilder.Proofs.Param.Appends
import SqlBuilder.Proofs.Script.Reachable

/-!
# Seams

Fragments that are put together render to the texts of the two parts with one blank between them,
unless something at the seam attaches: an opening parenthesis as the last token of the first part,
or a comma or a closing parenthesis as the first token of the second.

All that rendering remembers of a part is its last token. So two parts of any form can be rendered
one by one, and what is known of the seam decides on the blank. Unions and explanations put queries
together in this way.
-/

namespace SqlBuilder

/-! ### Tokens -/

/-- Of the tokens in front only the last one counts for those behind. -/
theorem renderAfter_append (before : String) (front behind : List String) :
    renderAfter before (front ++ behind) =
      renderAfter before front ++ renderAfter (front.getLastD before) behind := by
  induction front generalizing before with
  | nil => simp [renderAfter]
  | cons token rest ih =>
      simp only [List.cons_append, renderAfter, List.getLastD_cons, ih, String.append_assoc]

/-- Between two parts there is what stands between the two tokens at the seam. -/
theorem renderTokens_append {front behind : List String} {last first : String}
    (ends : front.getLast? = some last) (starts : behind.head? = some first) :
    renderTokens (front ++ behind) =
      renderTokens front ++ gap last first ++ renderTokens behind := by
  obtain ⟨rest, rfl⟩ := List.head?_eq_some_iff.1 starts
  cases front with
  | nil => cases ends
  | cons token tokens =>
      have reached : tokens.getLastD token = last := by
        rw [List.getLastD_eq_getLast?]
        rwa [List.getLast?_cons, Option.some.injEq] at ends
      simp only [List.cons_append, renderTokens, renderAfter_append, reached, renderAfter,
        String.append_assoc]

theorem gap_eq_blank {last first : String} (ends : last ≠ "(") (starts : attaches first = false) :
    gap last first = " " := by
  simp [gap, ends, starts]

/-! ### Fragments -/

namespace Fragment

/-- The tokens that fragments render to. -/
def tokensAll (separator : String) (fragments : List Fragment) : List String :=
  fragments.flatMap (·.tokens separator)

/-- Whether two parts that both have a text meet without anything that attaches. -/
structure Apart (separator : String) (front behind : List Fragment) : Prop where
  front_text : renderFragments separator front ≠ ""
  behind_text : renderFragments separator behind ≠ ""
  last : (tokensAll separator front).getLast? ≠ some "("
  first : ∀ token ∈ (tokensAll separator behind).head?, attaches token = false

variable {separator : String} {front behind : List Fragment}

@[simp] theorem tokensAll_append :
    tokensAll separator (front ++ behind) =
      tokensAll separator front ++ tokensAll separator behind :=
  List.flatMap_append

theorem tokensAll_ne_nil (text : renderFragments separator front ≠ "") :
    tokensAll separator front ≠ [] := by
  intro empty
  refine text ?_
  change renderTokens (tokensAll separator front) = ""
  rw [empty]
  rfl

/-- Rendering composes where nothing attaches. -/
theorem Apart.render_append (apart : Apart separator front behind) :
    renderFragments separator (front ++ behind) =
      renderFragments separator front ++ " " ++ renderFragments separator behind := by
  obtain ⟨last, ends⟩ := Option.ne_none_iff_exists'.1
    (List.getLast?_eq_none_iff.not.2 (tokensAll_ne_nil apart.front_text))
  obtain ⟨first, starts⟩ := Option.ne_none_iff_exists'.1
    (List.head?_eq_none_iff.not.2 (tokensAll_ne_nil apart.behind_text))
  have blank : gap last first = " " :=
    gap_eq_blank (fun same => apart.last (same ▸ ends)) (apart.first first starts)
  change renderTokens (tokensAll separator (front ++ behind)) = _
  rw [tokensAll_append, renderTokens_append ends starts, blank]
  rfl

/-- A word in between meets both parts as they would meet each other. -/
theorem Apart.render_word (apart : Apart separator front behind) {word : String}
    (solid : word ≠ "") (calm : attaches word = false) (opens : word ≠ "(") :
    renderFragments separator (front ++ .token word :: behind) =
      renderFragments separator front ++ " " ++ word ++ " " ++
        renderFragments separator behind := by
  have tokens : tokensAll separator [.token word] = [word] := by
    simp [tokensAll, Fragment.tokens, Fragment.token, solid]
  have text : renderFragments separator [.token word] = word := by
    change renderTokens (tokensAll separator [.token word]) = word
    rw [tokens]
    simp [renderTokens, renderAfter]
  have second : Apart separator [.token word] behind :=
    { front_text := by rw [text]; exact solid
      behind_text := apart.behind_text
      last := by simpa [tokens] using opens
      first := apart.first }
  have joined : renderFragments separator (.token word :: behind) =
      word ++ " " ++ renderFragments separator behind := by
    have composed := second.render_append
    rwa [List.singleton_append, text] at composed
  have whole : Apart separator front (.token word :: behind) :=
    { front_text := apart.front_text
      behind_text := by
        rw [joined]
        intro empty
        simp [solid] at empty
      last := apart.last
      first := by
        change ∀ token ∈ (tokensAll separator ([.token word] ++ behind)).head?, _
        rw [tokensAll_append, tokens]
        simpa using calm }
  rw [whole.render_append, joined]
  simp only [String.append_assoc]

end Fragment

/-! ### Queries -/

namespace Query

variable {query : Query}

theorem fragments_union (rest : query.cursor = none) (keepsDuplicates : Bool) (other : Query) :
    (query.union keepsDuplicates other).fragments =
      query.fragments ++ .token (if keepsDuplicates then "union all" else "union") ::
        other.fragments := by
  have opened := Splices.insert query
    (.token (if keepsDuplicates then "union all" else "union"))
  have merged := (merge_of_rest (opened.rest rest) other).1
  exact merged.trans (by rw [opened.fragments_of_rest rest]; simp)

@[simp] theorem connection_union (keepsDuplicates : Bool) (other : Query) :
    (query.union keepsDuplicates other).connection = query.connection :=
  connection_foldl_insert _ _

/-- Parameters of the other query come behind, in order, unless the name is there. -/
theorem params_union (keepsDuplicates : Bool) (other : Query) :
    (query.union keepsDuplicates other).params = query.params ++
      (other.params.filter (!query.ledger.params.has ·.name)).eraseDupsBy (·.name == ·.name) := by
  rw [params, ledger_union]
  exact ParamList.entries_extend _ _

/-- If the other query has every name once, all of its parameters come that the query lacks. -/
theorem params_union_of_distinct (keepsDuplicates : Bool) {other : Query}
    (distinct : (other.params.map (·.name)).Nodup) :
    (query.union keepsDuplicates other).params =
      query.params ++ other.params.filter (!query.ledger.params.has ·.name) := by
  rw [params_union, ParamList.eraseDupsBy_of_distinct]
  exact (List.filter_sublist.map _).nodup distinct

theorem sql_union (rest : query.cursor = none) (keepsDuplicates : Bool) {other : Query}
    (same : other.columnSeparator = query.columnSeparator)
    (apart : Fragment.Apart query.columnSeparator query.fragments other.fragments) :
    (query.union keepsDuplicates other).sql =
      query.sql ++ (if keepsDuplicates then " union all " else " union ") ++ other.sql := by
  have separator : (query.union keepsDuplicates other).columnSeparator = query.columnSeparator := by
    rw [columnSeparator, connection_union, columnSeparator]
  rw [sql, separator, fragments_union rest, apart.render_word, sql, sql, same]
  · cases keepsDuplicates with
    | false =>
        have spaced : " union " = " " ++ "union" ++ " " := by decide
        simp only [spaced, Bool.false_eq_true, if_false, String.append_assoc]
    | true =>
        have spaced : " union all " = " " ++ "union all" ++ " " := by decide
        simp only [spaced, if_true, String.append_assoc]
  all_goals cases keepsDuplicates <;> decide

theorem sql_explain (workspace : Workspace)
    (apart : Fragment.Apart query.columnSeparator [.token "explain"] query.fragments) :
    (query.explain.run workspace).1.sql = "explain " ++ query.sql := by
  have composed := apart.render_append
  have word : renderFragments query.columnSeparator [.token "explain"] = "explain" := by
    simp [renderFragments, renderTokens, renderAfter, Fragment.tokens, Fragment.token]
  rw [word] at composed
  exact composed.trans (by rw [sql]; rfl)

/--
Rendering composes. Wherever two parts that have a text meet without an opening parenthesis in front
or a comma or closing parenthesis behind, the text of both is the one text, a blank, and the other.
So outside callbacks a union is the two queries with the word between them, and an explanation the
query behind its word.

A union has the parameters of the query, and behind them in order those of the other query whose
names are not taken. A name that the other query itself had twice would come once; where its names
are distinct, as calls leave them, nothing else is left out.
-/
theorem rendering_composes :
    (∀ (separator : String) (front behind : List Fragment),
      Fragment.Apart separator front behind →
      renderFragments separator (front ++ behind) =
        renderFragments separator front ++ " " ++ renderFragments separator behind) ∧
    (∀ query other : Query, query.Reachable → other.columnSeparator = query.columnSeparator →
      Fragment.Apart query.columnSeparator query.fragments other.fragments →
      (query.union false other).sql = query.sql ++ " union " ++ other.sql ∧
      (query.union true other).sql = query.sql ++ " union all " ++ other.sql) ∧
    (∀ (query : Query) (workspace : Workspace),
      Fragment.Apart query.columnSeparator [.token "explain"] query.fragments →
      (query.explain.run workspace).1.sql = "explain " ++ query.sql) ∧
    (∀ (keepsDuplicates : Bool) (query other : Query),
      (query.union keepsDuplicates other).params = query.params ++
        (other.params.filter (!query.ledger.params.has ·.name)).eraseDupsBy (·.name == ·.name) ∧
      ((other.params.map (·.name)).Nodup →
        (query.union keepsDuplicates other).params =
          query.params ++ other.params.filter (!query.ledger.params.has ·.name))) := by
  refine ⟨fun separator front behind apart => apart.render_append, ?_, ?_, ?_⟩
  · intro query other reachable same apart
    have united := fun keepsDuplicates =>
      sql_union reachable.atRest.cursor keepsDuplicates same apart
    exact ⟨united false, united true⟩
  · exact fun query workspace apart => sql_explain workspace apart
  · exact fun keepsDuplicates query other =>
      ⟨params_union keepsDuplicates other, params_union_of_distinct keepsDuplicates⟩

/-- A query is united with a copy of itself that has one more condition. -/
theorem rendering_composes_copy :
    let home : Connection := .ofConfig {}
    let equals (name : String) (value : Int64) : Script.Step :=
      .condition .filter .and (.pair (.column name) (.scalar (.int value)))
    let query : Query := (((Script.call home (equals "x" 1)).run
      ((Script.Origin.make home { table := some "a" }).run {}).1).run {}).1.2
    let copy : Query := (query.clone.run { nextNamespace := 2 }).1
    let other : Query := (((Script.call home (equals "y" 2)).run copy).run {}).1.2
    query.Reachable ∧
      (query.union true other).sql = query.sql ++ " union all " ++ other.sql ∧
      (query.explain.run {}).1.sql = "explain " ++ query.sql ∧
      (query.union true other).params.map (·.name) = ["p1_0", "p2_0"] ∧
      renderFragments ", " ([.token ")"] ++ [.token "", .withText "" "(", .token "x"]) =
        ")" ++ " " ++ "(x" := by
  intro home equals query copy other
  obtain ⟨composes, unites, explains, adopts⟩ := rendering_composes
  have reachable : query.Reachable :=
    .call home (equals "x" 1) {} (.made home { table := some "a" } {})
  have apart : Fragment.Apart query.columnSeparator query.fragments other.fragments :=
    ⟨by decide +kernel, by decide +kernel, by decide +kernel, by decide +kernel⟩
  have apart' : Fragment.Apart query.columnSeparator [.token "explain"] query.fragments :=
    ⟨by decide +kernel, by decide +kernel, by decide +kernel, by decide +kernel⟩
  have marks : Fragment.Apart ", " [.token ")"] [.token "", .withText "" "(", .token "x"] :=
    ⟨by decide +kernel, by decide +kernel, by decide +kernel, by decide +kernel⟩
  refine ⟨reachable, (unites query other reachable rfl apart).2, explains query {} apart', ?_, ?_⟩
  · rw [(adopts true query other).2 (by decide +kernel)]
    decide +kernel
  · rw [composes ", " _ _ marks]
    decide +kernel

end Query

end SqlBuilder
