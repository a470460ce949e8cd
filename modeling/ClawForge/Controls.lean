import ClawForge.History
import ClawForge.RunState

/-!
# The run controls

`RunDetail` offers two controls: the Stop button, gated on the status string the backend
reports, and the input prompt, gated on its `inputPrompt` field.  Neither looks at the
event log.  The Stop button is meant to disappear for a finished run, but it compares the
status with `RunCompleted`, `RunFailed` and `Cancelled`, while the status is the snake-case
kind of the run's last event (`run_completed`), the form `RunList` compares with; so it
stays on screen for a completed run.  `inputPrompt` starts as `null` and no handler ever
sets it, so the prompt, and with it every path to the input POST, is never on screen.  The
command handlers surface no failure: a failed cancel only reaches `console.error`, and the
input handler clears the prompt and the typed value after any response, `ok` or not.
-/

namespace ClawForge

namespace Dashboard

/-- No mounted `RunDetail` has its prompt set. -/
def PromptUnset (dashboard : Dashboard) : Prop :=
  ∀ mounted, dashboard.detail = some mounted → mounted.state.inputPrompt = none

theorem DetailChange.inputPrompt_none {snapshots : List (Nat × String × JsonValue)}
    {mount : Nat} {state state' : DetailState} (change : DetailChange snapshots mount state state')
    (unset : state.inputPrompt = none) : state'.inputPrompt = none := by
  cases change with
  | same => exact unset
  | fetched outcome => simpa using unset
  | inputSettled outcome => cases outcome <;> simp [DetailState.inputSettled, unset]
  | typed value => exact unset
  | submitted submitted =>
      unfold DetailState.submitInput at submitted
      split at submitted
      · cases submitted
      · cases submitted
        exact unset

theorem promptUnset_of_reachable {dashboard : Dashboard} (reach : Reachable dashboard) :
    PromptUnset dashboard := by
  induction reach with
  | initial => intro mounted present; cases present
  | step _ _ stepped ih =>
      intro mounted' found
      rcases detailStep_step stepped mounted' found with fresh | ⟨mounted, present, -, change⟩
      · rw [fresh]; rfl
      · exact change.inputPrompt_none (ih mounted present)

/-- In every reachable state the prompt of the mounted `RunDetail` is not rendered: its
`inputPrompt` is `null`, which no handler changes. -/
theorem prompt_never_offered (dashboard : Dashboard) (reach : Reachable dashboard)
    (mounted : MountedDetail) (present : dashboard.detail = some mounted) :
    mounted.state.promptOffered = false := by
  simp [DetailState.promptOffered, promptUnset_of_reachable reach mounted present]

theorem prompt_never_offered_openRunA :
    ∃ dashboard mounted, Reachable dashboard ∧ dashboard.detail = some mounted ∧
      mounted.state.promptOffered = false :=
  have reach := reachable_afterRun
    (by decide : (openRunA.foldlM stepRendered initial).isSome = true)
  ⟨_, _, reach, rfl, prompt_never_offered _ reach _ rfl⟩

/-- The number of input POSTs issued so far. -/
def inputPosts (dashboard : Dashboard) : Nat := dashboard.issued.countP Request.isInputPost

theorem inputPosts_step {dashboard next : Dashboard} {action : Action}
    (reach : Reachable dashboard) (stepped : dashboard.step action = some next) :
    inputPosts next = inputPosts dashboard := by
  rcases (recordStep_step stepped).inputPosts with same | ⟨mounted, present, offered⟩
  · exact same
  · simp [DetailState.promptOffered, promptUnset_of_reachable reach mounted present] at offered

theorem inputPosts_of_reachable {dashboard : Dashboard} (reach : Reachable dashboard) :
    inputPosts dashboard = 0 := by
  induction reach with
  | initial => rfl
  | step reach _ stepped ih => rw [inputPosts_step reach stepped, ih]

/-- An input POST is issued only from a view whose events resolve to `AwaitingInput`, and
none is issued twice: in fact no reachable state has issued one, since the prompt, the
only way to `submitInput`, is never shown. -/
theorem input_post_only_when_awaited :
    (∀ dashboard action next, Reachable dashboard → dashboard.step action = some next →
      inputPosts dashboard < inputPosts next →
      ∃ mounted, dashboard.detail = some mounted ∧
        resolveRunState mounted.state.events = some .awaitingInput) ∧
    ∀ dashboard, Reachable dashboard → inputPosts dashboard = 0 := by
  refine ⟨fun dashboard action next reach stepped more => ?_, fun _ => inputPosts_of_reachable⟩
  rw [inputPosts_step reach stepped] at more
  exact absurd more (Nat.lt_irrefl _)

/-- After `completedRunA` the log resolves to `Completed`, a terminal state, and the Stop
button is still offered: the status `run_completed` is none of the three strings
`RunDetail` compares it with. -/
theorem stop_offered_for_completed_run :
    ¬ ∀ dashboard, Reachable dashboard → ∀ mounted, dashboard.detail = some mounted →
      (mounted.state.stopOffered = true ↔
        (resolveRunState mounted.state.events).any fun state => !state.isTerminal) ∧
      (mounted.state.promptOffered = true ↔
        resolveRunState mounted.state.events = some .awaitingInput) := by
  intro followsResolvedState
  obtain ⟨mounted, present⟩ : ∃ mounted, (afterRun completedRunA).detail = some mounted :=
    ⟨_, rfl⟩
  have offered : (afterRun completedRunA).detail.map
      (fun mounted => mounted.state.stopOffered) = some true := by
    decide
  have completed : (afterRun completedRunA).detail.map
      (fun mounted => resolveRunState mounted.state.events) = some (some .completed) := by
    decide
  have gate := (followsResolvedState _ (reachable_afterRun (by decide)) mounted present).1
  simp only [present, Option.map_some', Option.some.injEq] at offered completed
  simp [offered, completed, RunState.isTerminal] at gate

/-- Open run `a`, press Stop and confirm: request 5 is the cancel POST. -/
def confirmedCancelRun : List Action := openRunA ++ [.clickStop true]

/-- A cancel POST that fails, by rejection here, shows no notice: no alert appears and the
view is exactly as before.  And for every state of the view, a non-`ok` response to the
input POST clears the typed value and the prompt. -/
theorem failed_commands_not_surfaced :
    (∃ next, Reachable (afterRun confirmedCancelRun) ∧
      (afterRun confirmedCancelRun).renders = true ∧
      (afterRun confirmedCancelRun).step (.settle 5 .rejected) = some next ∧
      next.alerts = [] ∧ next.detail = (afterRun confirmedCancelRun).detail) ∧
    ∀ state : DetailState,
      (state.inputSettled (.response false none)).inputValue = "" ∧
      (state.inputSettled (.response false none)).inputPrompt = none :=
  ⟨⟨_, reachable_afterRun (by decide), by decide, rfl, rfl, rfl⟩,
    fun _ => ⟨rfl, rfl⟩⟩

end Dashboard

end ClawForge
