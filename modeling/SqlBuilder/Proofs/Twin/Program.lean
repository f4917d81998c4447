import SqlBuilder.Proofs.Twin.Script

/-!
# Programs in both runs

Between commands every query rests in the workspace and counts the values of its own namespace. A
command takes one of them in hand and puts it back, so this is preserved, and with it the twinship
of all builder calls of two programs that differ in their connections only.
-/

namespace SqlBuilder

open Script

namespace Coupling

variable {coupling : Coupling} {registry later : Registry} {workspace workspace' : Workspace}
  {home home' : Connection}

/-- Twin workspaces between commands. -/
structure Rest (coupling : Coupling) (registry : Registry) (workspace workspace' : Workspace) :
    Prop extends coupling.Workspaces registry workspace workspace' where
  owns : ∀ entry ∈ workspace.queries, entry.2.ledger.params.Owns registry

namespace Rest

theorem initial (counters : coupling.counters 1 1) : coupling.Rest (fun _ => []) {} {} where
  queries := .nil
  counters := counters
  below := by simp
  distinct := .nil
  unused _ _ := rfl
  aborted := rfl
  owns := by simp

/-- Queries that were made can be named. -/
theorem insert_made (rest : coupling.Rest registry workspace workspace')
    {out out' : Query × Workspace}
    (made : coupling.Made registry workspace workspace' out out') (name : String) :
    coupling.Rest registry (out.2.insert name out.1) (out'.2.insert name out'.1) where
  toWorkspaces := rest.insert made name
  owns entry mem := by
    rcases Workspace.mem_insert mem with ⟨mem, -⟩ | rfl
    · rw [made.grown.queries] at mem
      exact rest.owns entry mem
    · exact (made.inHand rest.toWorkspaces).owns

/-- The queries that a command finds are in hand, and no other query has their namespace. -/
theorem find (connections : coupling.connections home home')
    (rest : coupling.Rest registry workspace workspace') (name : String) :
    coupling.Rest registry (findQuery home name workspace).2 (findQuery home' name workspace').2 ∧
      coupling.InHand registry (findQuery home name workspace).2.nextNamespace
        (findQuery home name workspace).1 (findQuery home' name workspace').1 ∧
      ∀ entry ∈ (findQuery home name workspace).2.queries, entry.1 ≠ name →
        entry.2.namespaceId ≠ (findQuery home name workspace).1.namespaceId := by
  unfold findQuery
  rcases rest.get? name with ⟨absent, absent'⟩ | ⟨query, query', found, found', nested⟩
  · rw [absent, absent']
    have made := Made.new connections rest.toWorkspaces
    refine ⟨⟨made.workspaces rest.toWorkspaces, fun entry mem => ?_⟩, made.inHand rest.toWorkspaces,
      fun entry mem _ => ?_⟩
    · rw [made.grown.queries] at mem
      exact rest.owns entry mem
    · rw [made.grown.queries] at mem
      exact Nat.ne_of_lt (Nat.lt_of_lt_of_le (rest.below entry mem) made.made.above)
  · rw [found, found']
    have mem := Workspace.get?_mem found
    exact ⟨rest, { nested with owns := rest.owns _ mem, below := rest.below _ mem },
      fun entry entry_mem differs =>
        Workspace.namespaceId_ne rest.distinct entry_mem mem differs⟩

/-- The queries in hand are put back under their name. -/
theorem insert_changed {before after after' : Workspace} {query changed changed' : Query}
    {name : String}
    (below : ∀ entry ∈ before.queries, entry.2.namespaceId < before.nextNamespace)
    (owns : ∀ entry ∈ before.queries, entry.2.ledger.params.Owns registry)
    (others : ∀ entry ∈ before.queries, entry.1 ≠ name →
      entry.2.namespaceId ≠ query.namespaceId)
    (inUse : query.namespaceId < before.nextNamespace)
    (progress : Workspace.Progress registry later (some query.namespaceId) before after)
    (same : changed.namespaceId = query.namespaceId)
    (hand : coupling.InHand later after.nextNamespace changed changed')
    (twins : coupling.Workspaces later after after') :
    coupling.Rest later (after.insert name changed) (after'.insert name changed') := by
  have differs : ∀ entry ∈ after.queries, entry.1 ≠ name →
      entry.2.namespaceId ≠ query.namespaceId := by
    intro entry mem other
    rcases progress.entries entry mem with mem | ⟨above, -, -⟩
    · exact others entry mem other
    · exact Nat.ne_of_gt (Nat.lt_of_lt_of_le inUse above)
  refine ⟨⟨List.rel_append (twins.filter name) (.cons ⟨rfl, hand.toNested⟩ .nil), twins.counters,
    ?_, ?_, twins.unused, twins.aborted⟩, ?_⟩
  · intro entry mem
    rcases Workspace.mem_insert mem with ⟨mem, -⟩ | rfl
    · exact twins.below entry mem
    · exact hand.below
  · refine List.pairwise_append.2 ⟨twins.distinct.filter _, List.pairwise_singleton _ _, ?_⟩
    intro entry mem other single
    obtain rfl := List.mem_singleton.1 single
    obtain ⟨mem, other⟩ := List.mem_filter.1 mem
    rw [same]
    exact differs entry mem (by simpa using other)
  · intro entry mem
    rcases Workspace.mem_insert mem with ⟨mem, other⟩ | rfl
    · rcases progress.entries entry mem with before_mem | ⟨-, unused, empty⟩
      · have kept := progress.elsewhere _ (below entry before_mem) fun own =>
          differs entry mem other (Option.some.inj own).symm
        exact (owns entry before_mem).trans (congrArg List.length kept).symm
      · exact unused.trans (congrArg List.length empty).symm
    · exact hand.owns

end Rest

/-- A command runs alike. -/
theorem runCommand_twin (connections : coupling.connections home home') (command : Command)
    (rest : coupling.Rest registry workspace workspace')
    (asks : ∀ asked ∈ command.connection?, coupling.connections asked asked)
    (clean : ∀ call ∈ command.calls home workspace, coupling.Clean home call) :
    ∃ later, registry.Extends later ∧
      coupling.Rest later ((command.run home).run workspace).2
        ((command.run home').run workspace').2 ∧
      coupling.CallTwins later (command.calls home workspace) (command.calls home' workspace') := by
  cases command with
  | create name origin =>
      have made := Made.make connections asks rest.toWorkspaces
      exact ⟨registry, .refl registry, rest.insert_made made name, .nil⟩
  | on name step =>
      obtain ⟨found, hand, others⟩ := rest.find connections name
      obtain ⟨later, progress, same, -, hand', twins, called, -⟩ :=
        ((call_twin connections step (clean _ List.mem_cons_self) fun call mem =>
          clean call (List.mem_cons_of_mem _ mem)).called step) hand found.toWorkspaces
      rw [Command.run_on, Command.run_on]
      exact ⟨later, progress.extended,
        Rest.insert_changed found.below found.owns others hand.below progress same hand' twins,
        called⟩

/-- Commands in a row run alike. -/
theorem runCommands_twin (connections : coupling.connections home home') (commands : List Command)
    (rest : coupling.Rest registry workspace workspace')
    (asks : ∀ command ∈ commands, ∀ asked ∈ command.connection?, coupling.connections asked asked)
    (clean : ∀ call ∈ commandsCalls home commands workspace, coupling.Clean home call) :
    ∃ later, registry.Extends later ∧
      coupling.Rest later ((runCommands home commands).run workspace).2
        ((runCommands home' commands).run workspace').2 ∧
      coupling.CallTwins later (commandsCalls home commands workspace)
        (commandsCalls home' commands workspace') := by
  induction commands generalizing registry workspace workspace' with
  | nil => exact ⟨registry, .refl registry, rest, .nil⟩
  | cons command commands ih =>
      obtain ⟨later, extended, rest, called⟩ := runCommand_twin connections command rest
        (asks command List.mem_cons_self) fun call mem => clean call (List.mem_append_left _ mem)
      obtain ⟨latest, extended', rest, called'⟩ := ih rest
        (fun other mem => asks other (List.mem_cons_of_mem _ mem)) fun call mem =>
          clean call (List.mem_append_right _ mem)
      exact ⟨latest, extended.trans extended', rest,
        List.rel_append (called.mono extended') called'⟩

/-- Two programs that differ in their connections find and leave twin queries. -/
theorem runProgram_twin {program : Program} {home' : Connection}
    (connections : coupling.connections program.connection home') (counters : coupling.counters 1 1)
    (within : program.Within coupling.isCode fun connection =>
      coupling.connections connection connection)
    (given : ∀ call ∈ program.calls, ∀ value, call.step.Gives value → coupling.values value)
    (silent : coupling.identical ∨
      ∀ call ∈ program.calls, ∀ leaf ∈ call.itemLeaves program.connection, bindsNothing leaf) :
    ∃ registry, List.Forall₂ (coupling.Nested registry false) program.queries
      { program with connection := home' }.queries := by
  have start := Rest.initial counters
  have asks : ∀ asked ∈ ({ model := program.model } : Origin).connection,
      coupling.connections asked asked := by
    rintro _ ⟨⟩
  have named := start.insert_made (Made.make connections asks start.toWorkspaces) firstName
  obtain ⟨registry, -, -, called⟩ := runCommands_twin connections program.commands named
    within.commands fun call mem =>
      ⟨within.calls call mem, given call mem, silent.imp id fun silent => silent call mem⟩
  exact ⟨registry, List.rel_flatMap called fun _ _ twin =>
    .cons twin.query (.cons twin.result .nil)⟩

end Coupling

end SqlBuilder
