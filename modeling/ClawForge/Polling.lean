import ClawForge.Steps

/-!
# The poller follows the selection

`RunDetail`'s polling effect depends on `[runId]`: React runs its cleanup,
`clearInterval`, before it runs the effect again for a new run and when App unmounts the
view on leaving history mode.  Over every run of the dashboard, at most one interval is
live, it polls the run App shows, none is live in live mode, no interval is ever created
while another is live, and every `clearInterval` clears the one live interval; so the
timer calls alternate, and every tick fetches the run on screen.
-/

namespace ClawForge

/-- Every `setInterval` call was made while no interval was live. -/
def IdleAtSets (calls : List TimerCall) : Prop :=
  ∀ before timer poll after, calls = before ++ .setInterval timer poll :: after →
    liveIntervals before = []

@[simp]
theorem liveIntervals_append_call (calls : List TimerCall) (call : TimerCall) :
    liveIntervals (calls ++ [call]) = TimerCall.apply (liveIntervals calls) call := by
  simp [liveIntervals]

theorem IdleAtSets.nil : IdleAtSets [] := by
  intro before timer poll after split
  cases before <;> cases split

theorem IdleAtSets.append {calls : List TimerCall} {call : TimerCall}
    (idle : IdleAtSets calls)
    (ready : ∀ timer poll, call = .setInterval timer poll → liveIntervals calls = []) :
    IdleAtSets (calls ++ [call]) := by
  intro before timer poll after split
  rcases List.eq_nil_or_concat after with rfl | ⟨init, last, rfl⟩
  · obtain ⟨rfl, lastCall⟩ := List.append_inj' split rfl
    exact ready timer poll (List.singleton_inj.mp lastCall)
  · have earlier : calls ++ [call] = before ++ .setInterval timer poll :: init ++ [last] := by
      simpa using split
    exact idle before timer poll init (List.append_inj' earlier rfl).1

/-- Every `clearInterval` call cleared the one interval live at the time. -/
def ClearsLive (calls : List TimerCall) : Prop :=
  ∀ before timer after, calls = before ++ .clearInterval timer :: after →
    (liveIntervals before).map Prod.fst = [timer]

theorem ClearsLive.nil : ClearsLive [] := by
  intro before timer after split
  cases before <;> cases split

theorem ClearsLive.append {calls : List TimerCall} {call : TimerCall}
    (clears : ClearsLive calls)
    (ready : ∀ timer, call = .clearInterval timer →
      (liveIntervals calls).map Prod.fst = [timer]) :
    ClearsLive (calls ++ [call]) := by
  intro before timer after split
  rcases List.eq_nil_or_concat after with rfl | ⟨init, last, rfl⟩
  · obtain ⟨rfl, lastCall⟩ := List.append_inj' split rfl
    exact ready timer (List.singleton_inj.mp lastCall)
  · have earlier : calls ++ [call] = before ++ .clearInterval timer :: init ++ [last] := by
      simpa using split
    exact clears before timer init (List.append_inj' earlier rfl).1

/-- The interval a mounted `RunDetail`'s effect created, as the timer table holds it. -/
def MountedDetail.pollEntry (mounted : MountedDetail) : Nat × Poll :=
  (mounted.timer, ⟨mounted.mount, mounted.runId⟩)

namespace Dashboard

/-- The poller as the design has it: the mounted `RunDetail` shows App's run, the only
live interval is the one its effect created, and no interval was created while another
was live. -/
structure Polling (dashboard : Dashboard) : Prop where
  shown : dashboard.detail.map MountedDetail.runId = dashboard.shownRun
  live : liveIntervals dashboard.timerCalls = (dashboard.detail.map MountedDetail.pollEntry).toList
  idle : IdleAtSets dashboard.timerCalls

theorem SameFrame.map_eq {before after : Dashboard} (same : SameFrame before after)
    {β : Type} (read : Nat × String × Nat → β) :
    after.detail.map (read ∘ MountedDetail.frame) =
      before.detail.map (read ∘ MountedDetail.frame) := by
  rw [← Option.map_map, same.detail, Option.map_map]

theorem SameFrame.shownRun {before after : Dashboard} (same : SameFrame before after) :
    after.shownRun = before.shownRun := by
  simp only [Dashboard.shownRun, same.viewMode, same.activeRunId]

theorem Polling.sameFrame {before after : Dashboard} (polling : Polling before)
    (same : SameFrame before after) : Polling after where
  shown := by
    rw [same.shownRun, ← polling.shown]
    exact same.map_eq fun frame => frame.2.1
  live := by
    have entries := same.map_eq fun frame => ((frame.2.2, ⟨frame.1, frame.2.1⟩) : Nat × Poll)
    rw [same.timerCalls, polling.live]
    exact congrArg Option.toList entries.symm
  idle := same.timerCalls ▸ polling.idle

/-- Reconciling restores the poller, from any selection, provided the timers matched the
mounted view before. -/
theorem polling_reconcile {dashboard : Dashboard}
    (live : liveIntervals dashboard.timerCalls =
      (dashboard.detail.map MountedDetail.pollEntry).toList)
    (idle : IdleAtSets dashboard.timerCalls) : Polling dashboard.reconcile := by
  unfold reconcile
  split
  · rename_i unmounted hidden
    exact ⟨by simp [unmounted, hidden], live, idle⟩
  · rename_i mounted _ mountedEq hidden
    refine ⟨hidden.symm, ?_, idle.append fun _ _ isSet => by cases isSet⟩
    simp [live, mountedEq, MountedDetail.pollEntry, TimerCall.apply]
  · rename_i runId unmounted shown
    have empty : liveIntervals dashboard.timerCalls = [] := by simp [live, unmounted]
    refine ⟨shown.symm, ?_, idle.append fun _ _ _ => empty⟩
    simp [empty, MountedDetail.pollEntry, TimerCall.apply]
  · rename_i mounted runId mountedEq shown
    split
    · rename_i sameRun
      exact ⟨by simp [mountedEq, shown, sameRun], live, idle⟩
    · have cleared : liveIntervals (dashboard.clearInterval mounted.timer).timerCalls = [] := by
        simp [live, mountedEq, MountedDetail.pollEntry, TimerCall.apply]
      refine ⟨shown.symm, ?_, ?_⟩
      · simp only [runPollingEffect_timerCalls, setInterval_timerCalls, issue_timerCalls,
          liveIntervals_append_call, cleared]
        simp [MountedDetail.pollEntry, TimerCall.apply]
      · refine IdleAtSets.append ?_ fun _ _ _ => cleared
        exact idle.append fun _ _ isSet => by cases isSet

theorem Polling.step {dashboard next : Dashboard} {action : Action}
    (polling : Polling dashboard) (stepped : dashboard.step action = some next) :
    Polling next := by
  rcases step_commitApp_or_sameFrame stepped with ⟨viewMode, activeRunId, rfl⟩ | same
  · exact polling_reconcile polling.live polling.idle
  · exact polling.sameFrame same

theorem polling_of_reachable {dashboard : Dashboard} (reach : Reachable dashboard) :
    Polling dashboard := by
  induction reach with
  | initial => exact ⟨rfl, rfl, IdleAtSets.nil⟩
  | step _ _ stepped ih => exact ih.step stepped

/-- A live interval is the mounted view's: it polls that view's mount and run. -/
theorem Polling.poll_of_live {dashboard : Dashboard} (polling : Polling dashboard)
    {timer : Nat} {poll : Poll}
    (live : (liveIntervals dashboard.timerCalls).lookup timer = some poll) :
    ∃ mounted, dashboard.detail = some mounted ∧ poll = ⟨mounted.mount, mounted.runId⟩ := by
  rw [polling.live] at live
  cases present : dashboard.detail with
  | none => simp [present] at live
  | some mounted =>
      refine ⟨mounted, rfl, ?_⟩
      simp only [present, Option.map_some', Option.toList_some, MountedDetail.pollEntry,
        List.lookup_cons] at live
      split at live
      · exact (Option.some.inj live).symm
      · cases live

/-- Over every run of the dashboard, at most one interval is live; the live intervals are
exactly one polling the run App shows in history mode, and none in live mode; and every
`setInterval` call was made after every earlier interval had been cleared. -/
theorem poller_follows_selection (dashboard : Dashboard) (reach : Reachable dashboard) :
    (liveIntervals dashboard.timerCalls).length ≤ 1 ∧
      (liveIntervals dashboard.timerCalls).map (fun entry => entry.2.runId) =
        dashboard.shownRun.toList ∧
      (dashboard.viewMode = .live → liveIntervals dashboard.timerCalls = []) ∧
      IdleAtSets dashboard.timerCalls := by
  have polling := polling_of_reachable reach
  have runs : (liveIntervals dashboard.timerCalls).map (fun entry => entry.2.runId) =
      dashboard.shownRun.toList := by
    rw [polling.live, ← polling.shown]
    cases dashboard.detail <;> rfl
  refine ⟨?_, runs, fun live => ?_, polling.idle⟩
  · rw [polling.live]
    cases dashboard.detail <;> simp
  · have hidden : dashboard.shownRun = none := by simp [shownRun, live]
    simpa [hidden] using runs

/-- A `/api/runs` body listing the runs `a` and `b`. -/
def twoRunsBody : JsonValue :=
  .obj [("runs", .arr [
    .obj [("run_id", .str "a"), ("event_count", .num 1), ("status", .str "run_completed")],
    .obj [("run_id", .str "b"), ("event_count", .num 0), ("status", .str "run_started")]])]

/-- The run list arrives and the operator opens run `a`. -/
def openRunA : List Action :=
  [.settle 0 (.response true (some twoRunsBody)), .selectRun 0]

theorem poller_follows_selection_openRunA :
    ∃ dashboard, Reachable dashboard ∧ dashboard.shownRun = some "a" ∧
      (liveIntervals dashboard.timerCalls).map (fun entry => entry.2.runId) = ["a"] :=
  have reach := reachable_of_run .initial (rfl : openRunA.foldlM stepRendered initial = some _)
  ⟨_, reach, rfl, (poller_follows_selection _ reach).2.1⟩

/-- Every tick of a live interval fetches the run App shows, through the `fetchDetails` of
the mounted view. -/
theorem tick_fetches_shown_run (dashboard : Dashboard) (reach : Reachable dashboard)
    (timer : Nat) (next : Dashboard) (ticked : dashboard.step (.tick timer) = some next) :
    ∃ mounted, dashboard.detail = some mounted ∧ dashboard.shownRun = some mounted.runId ∧
      next.issued = dashboard.issued ++ [.runDetails mounted.mount mounted.runId] := by
  obtain ⟨poll, live, rfl⟩ := Option.map_eq_some'.mp ticked
  have polling := polling_of_reachable reach
  obtain ⟨mounted, present, rfl⟩ := polling.poll_of_live live
  refine ⟨mounted, present, ?_, rfl⟩
  rw [← polling.shown, present]
  rfl

theorem tick_fetches_shown_run_openRunA :
    ∃ next mounted, (afterRun openRunA).step (.tick 4) = some next ∧
      (afterRun openRunA).detail = some mounted ∧
      (afterRun openRunA).shownRun = some mounted.runId ∧
      next.issued = (afterRun openRunA).issued ++ [.runDetails mounted.mount mounted.runId] :=
  have reach := reachable_afterRun
    (by decide : (openRunA.foldlM stepRendered initial).isSome = true)
  have ticked : ∃ next, (afterRun openRunA).step (.tick 4) = some next := ⟨_, rfl⟩
  let ⟨next, stepped⟩ := ticked
  let ⟨mounted, found⟩ := tick_fetches_shown_run _ reach 4 next stepped
  ⟨next, mounted, stepped, found⟩

/-- Reconciling keeps every `clearInterval` on a live interval, provided the timers matched
the mounted view before: the cleanup clears the interval of the mounted view. -/
theorem clearsLive_reconcile {dashboard : Dashboard}
    (live : liveIntervals dashboard.timerCalls =
      (dashboard.detail.map MountedDetail.pollEntry).toList)
    (clears : ClearsLive dashboard.timerCalls) : ClearsLive dashboard.reconcile.timerCalls := by
  have cleanup : ∀ mounted, dashboard.detail = some mounted → ∀ timer,
      TimerCall.clearInterval mounted.timer = .clearInterval timer →
        (liveIntervals dashboard.timerCalls).map Prod.fst = [timer] := by
    rintro mounted mountedEq timer ⟨⟩
    simp [live, mountedEq, MountedDetail.pollEntry]
  unfold reconcile
  split
  · exact clears
  · exact clears.append (cleanup _ ‹_›)
  · exact clears.append fun _ isClear => by cases isClear
  · split
    · exact clears
    · exact (clears.append (cleanup _ ‹_›)).append fun _ isClear => by cases isClear

theorem clearsLive_of_reachable {dashboard : Dashboard} (reach : Reachable dashboard) :
    ClearsLive dashboard.timerCalls := by
  induction reach with
  | initial => exact ClearsLive.nil
  | step reach _ stepped ih =>
      rcases step_commitApp_or_sameFrame stepped with ⟨viewMode, activeRunId, rfl⟩ | same
      · exact clearsLive_reconcile (polling_of_reachable reach).live ih
      · exact same.timerCalls ▸ ih

/-- Every `clearInterval` call of the polling effect's cleanup clears the one interval live
at the time, never an unknown or an already cleared timer.  With `setInterval` called only
while no interval is live, the timer calls alternate: a `setInterval`, then the
`clearInterval` of that same timer, and so on. -/
theorem cleanup_clears_the_live_interval (dashboard : Dashboard) (reach : Reachable dashboard) :
    ∀ before timer after, dashboard.timerCalls = before ++ .clearInterval timer :: after →
      (liveIntervals before).map Prod.fst = [timer] :=
  clearsLive_of_reachable reach

/-- The operator opens run `a`, then run `b`. -/
def switchRuns : List Action :=
  openRunA ++ [.selectRun 1]

theorem cleanup_clears_the_live_interval_switchRuns :
    Reachable (afterRun switchRuns) ∧
      (afterRun switchRuns).timerCalls =
        [.setInterval 4 ⟨2, "a"⟩] ++ .clearInterval 4 :: [.setInterval 6 ⟨2, "b"⟩] ∧
      (liveIntervals [.setInterval 4 ⟨2, "a"⟩]).map Prod.fst = [4] :=
  have reach := reachable_afterRun
    (by decide : (switchRuns.foldlM stepRendered initial).isSome = true)
  have calls : (afterRun switchRuns).timerCalls =
      [.setInterval 4 ⟨2, "a"⟩] ++ .clearInterval 4 :: [.setInterval 6 ⟨2, "b"⟩] := by
    decide
  ⟨reach, calls, cleanup_clears_the_live_interval _ reach _ _ _ calls⟩

end Dashboard

end ClawForge
