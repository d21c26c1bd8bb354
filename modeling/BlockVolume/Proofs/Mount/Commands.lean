import BlockVolume.Mount.System
import BlockVolume.Proofs.History
/-!
Commands that are run one after the other.

Each command is run to its end before the next one starts, and the first one that does not end well
is the last. `RunInTurn` says which runs that makes and what comes of them; the tools of the host's
mounter have these histories and no others.
-/

namespace BlockVolume.Mount

open BlockVolume.Host (Failure)
open BlockVolume.Program

/-- The run of a command, with how it ended. -/
def ranTo (command : Command) (ended : ToolRun) : Exchange ToolAsk.Answer :=
  ⟨.run command, ended⟩

/-- A command with the error that its failure is told as. -/
abbrev ToldCommand := Command × (Failure → MountError)

/-- The runs of commands that are run in turn, and what comes of them. -/
inductive RunInTurn :
    List ToldCommand → List (Exchange ToolAsk.Answer) → Except MountError Unit → Prop where
  | done : RunInTurn [] [] (.ok ())
  | failed {command : Command} {wrap : Failure → MountError} {ended : ToolRun} {failure : Failure}
      (commands : List ToldCommand) (bad : ended.ending.failure? command = some failure) :
      RunInTurn ((command, wrap) :: commands) [ranTo command ended] (.error (wrap failure))
  | next {command : Command} {wrap : Failure → MountError} {ended : ToolRun}
      {commands : List ToldCommand} {rest : List (Exchange ToolAsk.Answer)}
      {result : Except MountError Unit} (good : ended.ending = .exited 0)
      (later : RunInTurn commands rest result) :
      RunInTurn ((command, wrap) :: commands) (ranTo command ended :: rest) result

variable {command : Command} {wrap : Failure → MountError} {ended : ToolRun}
  {commands : List ToldCommand} {log before after : List (Exchange ToolAsk.Answer)}
  {result : Except MountError Unit}

theorem ranTo_inj {other : Command} {ended' : ToolRun} :
    ranTo command ended = ranTo other ended' ↔ command = other ∧ ended = ended' := by
  constructor
  · rintro ⟨⟩
    exact ⟨rfl, rfl⟩
  · rintro ⟨rfl, rfl⟩
    rfl

theorem failure?_eq_none {ending : Ending} :
    ending.failure? command = none ↔ ending = .exited 0 := by
  constructor
  · intro h
    rw [Ending.failure?.eq_def] at h
    split at h
    · rfl
    all_goals cases h
  · rintro rfl
    rfl

/-! ### What is run -/

/-- Nothing is run but the commands. -/
theorem RunInTurn.mem (h : RunInTurn commands log result) :
    ∀ e ∈ log, ∃ told ∈ commands, ∃ ended, e = ranTo told.1 ended := by
  induction h with
  | done => simp
  | @failed command _ ended =>
    intro e he
    exact ⟨_, List.mem_cons_self, ended, List.mem_singleton.mp he⟩
  | @next command _ ended _ _ _ _ _ ih =>
    intro e he
    rcases List.mem_cons.mp he with rfl | he
    · exact ⟨_, List.mem_cons_self, ended, rfl⟩
    · obtain ⟨told, mem, ran⟩ := ih e he
      exact ⟨told, List.mem_cons_of_mem _ mem, ran⟩

/-- The first command is run whatever comes of it. -/
theorem RunInTurn.first (h : RunInTurn ((command, wrap) :: commands) log result) :
    ∃ ended rest, log = ranTo command ended :: rest := by
  cases h with
  | failed => exact ⟨_, [], rfl⟩
  | next => exact ⟨_, _, rfl⟩

theorem RunInTurn.ne_nil (h : RunInTurn commands log result) (some : commands ≠ []) : log ≠ [] := by
  cases h with
  | done => exact absurd rfl some
  | failed | next => exact List.cons_ne_nil _ _

/-- After a command that did not end well nothing is run, and the result is an error. -/
theorem RunInTurn.stops (h : RunInTurn commands log result)
    (ran : log = before ++ ranTo command ended :: after) (bad : ended.ending ≠ .exited 0) :
    after = [] ∧ ∃ e, result = .error e := by
  induction h generalizing before with
  | done => simp at ran
  | failed =>
    cases before with
    | nil => exact ⟨(List.cons.inj ran).2.symm, _, rfl⟩
    | cons => simp at ran
  | next good _ ih =>
    cases before with
    | nil =>
      obtain ⟨first, -⟩ := List.cons.inj ran
      cases first
      exact absurd good bad
    | cons _ before => exact ih (List.cons.inj ran).2

/-- Commands that are run in turn come to a good end exactly if each that was run ended well. -/
theorem RunInTurn.eq_ok_iff (h : RunInTurn commands log result) : result = .ok () ↔
    ∀ command ended, ranTo command ended ∈ log → ended.ending = .exited 0 := by
  induction h with
  | done => simp
  | failed _ bad =>
    refine iff_of_false (fun ok => nomatch ok) fun well => ?_
    rw [failure?_eq_none.mpr (well _ _ List.mem_cons_self)] at bad
    cases bad
  | next good _ ih =>
    rw [ih]
    constructor
    · intro well command ended mem
      rcases List.mem_cons.mp mem with same | mem
      · rwa [(ranTo_inj.mp same).2]
      · exact well command ended mem
    · exact fun well command ended mem => well command ended (List.mem_cons_of_mem _ mem)

/-- At a good end the last command was run last. -/
theorem RunInTurn.last (h : RunInTurn commands log result) (ok : result = .ok ())
    (some : commands ≠ []) :
    ∃ before ended, log = before ++ [ranTo (commands.getLast some).1 ended] := by
  induction h with
  | done => exact absurd rfl some
  | failed => cases ok
  | @next _ _ ended commands _ _ _ later ih =>
    cases commands with
    | nil =>
      cases later
      exact ⟨[], ended, rfl⟩
    | cons next commands =>
      obtain ⟨before, last, rfl⟩ := ih ok (List.cons_ne_nil _ _)
      exact ⟨_ :: before, last, rfl⟩

/-! ### The histories of tools -/

theorem history_runTool : History (runTool command wrap).run log result ↔
    RunInTurn [(command, wrap)] log result := by
  simp only [runTool, Command.run, history_step_adapt, history_step_lift_bind, ToolAsk.ask,
    history_query]
  constructor
  · rintro ⟨_, ⟨_, ended, _, rfl, rfl, ends⟩, rfl⟩
    split at ends
    case h_1 good =>
      obtain ⟨rfl, rfl⟩ := history_step_pure.mp ends
      exact .next (failure?_eq_none.mp good) .done
    case h_2 failure bad =>
      obtain ⟨rfl, rfl⟩ := history_step_throw.mp ends
      exact .failed [] bad
  · intro h
    cases h with
    | @failed _ _ ended failure _ bad =>
      refine ⟨.error failure, ⟨_, ended, [], rfl, rfl, ?_⟩, rfl⟩
      rw [bad]
      exact history_step_throw.mpr ⟨rfl, rfl⟩
    | @next _ _ ended _ _ _ good last =>
      cases last
      refine ⟨.ok (), ⟨_, ended, [], rfl, rfl, ?_⟩, rfl⟩
      rw [failure?_eq_none.mpr good]
      exact history_step_pure.mpr ⟨rfl, rfl⟩

/-- Tools that are run before others. -/
theorem history_runTool_bind {next : SystemStep Unit}
    (later : ∀ log result, History next.run log result ↔ RunInTurn commands log result) :
    History (ExceptT.run (do runTool command wrap; next)) log result ↔
      RunInTurn ((command, wrap) :: commands) log result := by
  rw [history_step_bind]
  simp only [history_runTool, later]
  constructor
  · rintro (⟨e, first, rfl⟩ | ⟨before, _, after, rfl, first, rest⟩)
    · cases first with
      | failed _ bad => exact .failed _ bad
      | next _ last => cases last
    · cases first with
      | next good last =>
        cases last
        exact .next good rest
  · intro h
    cases h with
    | failed _ bad => exact Or.inl ⟨_, .failed _ bad, rfl⟩
    | next good rest => exact Or.inr ⟨[_], (), _, rfl, .next good .done, rest⟩

end BlockVolume.Mount
