import ClawForge.Dashboard
import ClawForge.LiveFeed

/-!
# What one step of the dashboard can do

`Transition` says once, for every action, what a step does and under which guard; the
invariants of the dashboard are all proved from it.  App's own state and the timers change
only through App's renders; the displayed snapshot of a `RunDetail` changes only when a
snapshot request of the same mount settles; the prompt is only ever cleared; a request
leaves only from a handler that is on screen; and the stream hook only takes its own
steps, so every fact about the hook alone holds inside App.  In particular the feed App
shows is the buffer of the messages dispatched up to its last render, never part of an
update, as the design's single-writer buffer asks.
-/

namespace ClawForge

namespace Dashboard

/-- The steps of the dashboard, one constructor for each thing a step can do: an event of
the stream hook; a click that sets App's state, and the render that follows; the refresh
button of `RunList`; the Run button of an agent, enabled while no run request is in
flight; a confirmed Stop; typing into the prompt; Enter or Send with a typed value; a
declined Stop, or Enter or Send with nothing typed; a live interval firing; and a request
in flight settling. -/
inductive Transition (dashboard : Dashboard) : Dashboard → Prop
  | stream {action : StreamAction} {stream : EventStream}
      (stepped : dashboard.stream.step action = some stream) :
      Transition dashboard { dashboard with stream }
  | commit (viewMode : ViewMode) (activeRunId : Option String) :
      Transition dashboard { dashboard with viewMode, activeRunId }.commitApp
  | refreshRuns : Transition dashboard
      ({ dashboard with runList := dashboard.runList.fetchRuns }.issue .runs)
  | runAgent (agentId : JsVal) (idle : dashboard.agentList.loading = false) :
      Transition dashboard
        ({ dashboard with agentList := dashboard.agentList.runAgent }.issue (.runAgent agentId))
  | cancel {mounted : MountedDetail} (present : dashboard.detail = some mounted)
      (offered : mounted.state.stopOffered = true) :
      Transition dashboard (dashboard.issue (.cancelRun mounted.mount mounted.runId))
  | typed {mounted : MountedDetail} (present : dashboard.detail = some mounted)
      (offered : mounted.state.promptOffered = true) (value : String) :
      Transition dashboard
        { dashboard with
          detail := some { mounted with state := { mounted.state with inputValue := value } } }
  | submitted {mounted : MountedDetail} {state : DetailState}
      (present : dashboard.detail = some mounted) (offered : mounted.state.promptOffered = true)
      (submitted : mounted.state.submitInput = some state) :
      Transition dashboard
        ({ dashboard with detail := some { mounted with state } }.issue
          (.submitInput mounted.mount mounted.runId mounted.state.inputValue))
  | unchanged : Transition dashboard dashboard
  | tick {timer : Nat} {poll : Poll}
      (live : (liveIntervals dashboard.timerCalls).lookup timer = some poll) :
      Transition dashboard (dashboard.issue (.runDetails poll.mount poll.runId))
  | settle {request : Nat} {found : Request} (outcome : FetchOutcome)
      (pending : dashboard.pending.lookup request = some found) :
      Transition dashboard
        ({ dashboard with pending := dashboard.pending.filter fun entry => entry.1 != request
        }.settleRequest outcome found)

theorem transition_of_submitFromPrompt {dashboard next : Dashboard} {viaButton : Bool}
    (submitted : dashboard.submitFromPrompt viaButton = some next) :
    Transition dashboard next := by
  unfold submitFromPrompt at submitted
  split at submitted
  · rename_i mounted present
    split at submitted
    · rename_i offered
      cases submitted
      have shown : mounted.state.promptOffered = true := (Bool.and_eq_true _ _ ▸ offered).1
      split
      · exact .submitted present shown ‹_›
      · exact .unchanged
    · cases submitted
  · cases submitted

/-- Every step is one of the `Transition`s. -/
theorem transition_of_step {dashboard next : Dashboard} {action : Action}
    (stepped : dashboard.step action = some next) : Transition dashboard next := by
  cases action with
  | stream action =>
      obtain ⟨stream, found, rfl⟩ := Option.map_eq_some'.mp stepped
      exact .stream found
  | openLiveFeed =>
      cases stepped
      exact .commit _ _
  | selectRun index =>
      obtain ⟨runId, -, rfl⟩ := Option.map_eq_some'.mp stepped
      exact .commit _ _
  | refreshRuns =>
      cases stepped
      exact .refreshRuns
  | runAgent index =>
      simp only [step] at stepped
      split at stepped
      · cases stepped
      · rename_i notLoading
        obtain ⟨agentId, -, rfl⟩ := Option.map_eq_some'.mp stepped
        exact .runAgent agentId (by simpa using notLoading)
  | clickStop confirmed =>
      simp only [step] at stepped
      split at stepped
      · rename_i mounted present
        split at stepped
        · cases stepped
          split
          · exact .cancel present ‹_›
          · exact .unchanged
        · cases stepped
      · cases stepped
  | typeInput value =>
      simp only [step] at stepped
      split at stepped
      · rename_i mounted present
        split at stepped
        · cases stepped
          exact .typed present ‹_› value
        · cases stepped
      · cases stepped
  | pressEnter => exact transition_of_submitFromPrompt stepped
  | clickSend => exact transition_of_submitFromPrompt stepped
  | tick timer =>
      obtain ⟨poll, live, rfl⟩ := Option.map_eq_some'.mp stepped
      exact .tick live
  | settle request outcome =>
      obtain ⟨found, pending, rfl⟩ := Option.map_eq_some'.mp stepped
      exact .settle outcome pending

/-- The stream hook takes one of its own steps or stays as it was: App's renders are its
`render` step. -/
theorem step_stream {dashboard next : Dashboard} {action : Action}
    (stepped : dashboard.step action = some next) :
    next.stream = dashboard.stream ∨
      ∃ action, dashboard.stream.step action = some next.stream := by
  cases transition_of_step stepped with
  | stream found => exact .inr ⟨_, found⟩
  | commit => exact .inr ⟨.render, by simp [commitApp, EventStream.step]⟩
  | settle outcome => exact .inl (settleRequest_stream _ _ _)
  | refreshRuns | runAgent | cancel | typed | submitted | unchanged | tick => exact .inl rfl

theorem streamReachable_of_reachable {dashboard : Dashboard} (reach : Reachable dashboard) :
    EventStream.Reachable dashboard.stream := by
  induction reach with
  | initial => exact .step .init (rfl : EventStream.init.step .mount = some initial.stream)
  | step _ _ stepped ih =>
      rcases step_stream stepped with same | ⟨action, found⟩
      · exact same ▸ ih
      · exact ih.step found

/-- In every reachable state of the dashboard, the hook's buffer is the last hundred
accepted events, newest first, and the feed App shows in live mode is that buffer as it
stood after some prefix of the dispatched messages. -/
theorem live_feed_shows_committed_buffer (dashboard : Dashboard) (reach : Reachable dashboard) :
    dashboard.stream.events.current = EventStream.expectedBuffer dashboard.stream.accepted ∧
      ∃ shown, shown <+: dashboard.stream.delivered ∧
        dashboard.stream.events.rendered = EventStream.expectedBuffer (shown.filterMap id) :=
  have hook := streamReachable_of_reachable reach
  ⟨EventStream.events_current_of_reachable hook, EventStream.rendered_of_reachable hook⟩

/-- The socket opens and delivers the message `null`, which parses. -/
def nullMessageRun : List Action :=
  [.stream (.opened 0), .stream (.message 0 (some .null)), .stream .render]

theorem live_feed_shows_committed_buffer_nullMessage :
    Reachable (afterRun nullMessageRun) ∧
      (afterRun nullMessageRun).stream.events.current =
        EventStream.expectedBuffer (afterRun nullMessageRun).stream.accepted :=
  have reach := reachable_afterRun
    (by decide : (nullMessageRun.foldlM stepRendered initial).isSome = true)
  ⟨reach, (live_feed_shows_committed_buffer _ reach).1⟩

end Dashboard

/-- The parts of a mounted `RunDetail` only App's renders change: the mount, its run and
its timer. -/
def MountedDetail.frame (mounted : MountedDetail) : Nat × String × Nat :=
  (mounted.mount, mounted.runId, mounted.timer)

namespace Dashboard

/-- Two dashboards agree on App's state, the timer calls and which mount shows which
run. -/
structure SameFrame (before after : Dashboard) : Prop where
  viewMode : after.viewMode = before.viewMode
  activeRunId : after.activeRunId = before.activeRunId
  timerCalls : after.timerCalls = before.timerCalls
  detail : after.detail.map MountedDetail.frame = before.detail.map MountedDetail.frame

theorem SameFrame.trans {first second third : Dashboard} (early : SameFrame first second)
    (late : SameFrame second third) : SameFrame first third :=
  ⟨late.1.trans early.1, late.2.trans early.2, late.3.trans early.3, late.4.trans early.4⟩

theorem sameFrame_issue (dashboard : Dashboard) (request : Request) :
    SameFrame dashboard (dashboard.issue request) :=
  ⟨rfl, rfl, rfl, rfl⟩

theorem sameFrame_updateDetail (dashboard : Dashboard) (mount : Nat)
    (update : DetailState → DetailState) :
    SameFrame dashboard (dashboard.updateDetail mount update) := by
  unfold updateDetail
  split
  · split
    · exact ⟨rfl, rfl, rfl, by simp [*, MountedDetail.frame]⟩
    · exact ⟨rfl, rfl, rfl, rfl⟩
  · exact ⟨rfl, rfl, rfl, rfl⟩

theorem sameFrame_recordSnapshot (dashboard : Dashboard) (mount : Nat) (runId : String)
    (outcome : FetchOutcome) :
    SameFrame dashboard (dashboard.recordSnapshot mount runId outcome) := by
  unfold recordSnapshot
  split <;> exact ⟨rfl, rfl, rfl, rfl⟩

theorem sameFrame_settleRequest (dashboard : Dashboard) (outcome : FetchOutcome)
    (request : Request) : SameFrame dashboard (dashboard.settleRequest outcome request) := by
  cases request with
  | runDetails mount runId =>
      exact (sameFrame_recordSnapshot _ mount runId outcome).trans
        (sameFrame_updateDetail _ mount fun state => state.detailsFetched outcome)
  | cancelRun mount runId =>
      simp only [settleRequest]
      split
      · exact sameFrame_issue _ _
      · exact ⟨rfl, rfl, rfl, rfl⟩
  | submitInput mount runId input =>
      simp only [settleRequest]
      split
      · exact (sameFrame_updateDetail _ _ _).trans (sameFrame_issue _ _)
      · exact sameFrame_updateDetail _ _ _
  | runs | agents | runAgent => exact ⟨rfl, rfl, rfl, rfl⟩

/-- A step is either one of App's renders, after a change of `viewMode` and
`activeRunId`, or leaves App's state, the timers and the mounted run alone. -/
theorem step_commitApp_or_sameFrame {dashboard next : Dashboard} {action : Action}
    (stepped : dashboard.step action = some next) :
    (∃ viewMode activeRunId,
      next = { dashboard with viewMode := viewMode, activeRunId := activeRunId }.commitApp) ∨
      SameFrame dashboard next := by
  cases transition_of_step stepped with
  | commit viewMode activeRunId => exact .inl ⟨_, _, rfl⟩
  | typed present | submitted present =>
      exact .inr ⟨rfl, rfl, rfl, by simp [present, MountedDetail.frame]⟩
  | settle outcome =>
      refine .inr (SameFrame.trans ?_ (sameFrame_settleRequest _ _ _))
      exact ⟨rfl, rfl, rfl, rfl⟩
  | stream | refreshRuns | runAgent | cancel | unchanged | tick =>
      exact .inr ⟨rfl, rfl, rfl, rfl⟩

/-- How a step may change the state of a mounted view of mount `mount`, given the snapshot
record after the step. -/
inductive DetailChange (snapshots : List (Nat × String × JsonValue)) (mount : Nat) :
    DetailState → DetailState → Prop
  | same {state} : DetailChange snapshots mount state state
  | fetched {state} (outcome : FetchOutcome)
      (recorded : ∀ data, outcome = .response true (some data) →
        ∃ runId, (mount, runId, data) ∈ snapshots) :
      DetailChange snapshots mount state (state.detailsFetched outcome)
  | inputSettled {state} (outcome : FetchOutcome) :
      DetailChange snapshots mount state (state.inputSettled outcome)
  | typed {state} (value : String) :
      DetailChange snapshots mount state { state with inputValue := value }
  | submitted {state next} (submitted : state.submitInput = some next) :
      DetailChange snapshots mount state next

/-- After a step, the mounted view is a fresh mount or a mount of before whose state
changed as `DetailChange` allows. -/
def DetailStep (before after : Dashboard) : Prop :=
  ∀ mounted', after.detail = some mounted' → mounted'.state = .init ∨
    ∃ mounted, before.detail = some mounted ∧ mounted.mount = mounted'.mount ∧
      DetailChange after.snapshots mounted.mount mounted.state mounted'.state

theorem detailStep_of_detail_eq {before after : Dashboard} (same : after.detail = before.detail) :
    DetailStep before after := fun mounted' found =>
  .inr ⟨mounted', same ▸ found, rfl, .same⟩

theorem DetailStep.of_detail_eq {before middle after : Dashboard}
    (changed : DetailStep middle after) (same : middle.detail = before.detail) :
    DetailStep before after := by
  intro mounted' found
  rcases changed mounted' found with fresh | ⟨mounted, present, sameMount, change⟩
  · exact .inl fresh
  · exact .inr ⟨mounted, same ▸ present, sameMount, change⟩

theorem detailStep_reconcile (dashboard : Dashboard) :
    DetailStep dashboard dashboard.reconcile := by
  intro mounted' found
  unfold reconcile at found
  split at found
  · rename_i unmounted _
    rw [unmounted] at found; cases found
  · cases found
  · cases found
    exact .inl rfl
  · rename_i mounted runId mountedEq _
    split at found
    · rw [mountedEq] at found; cases found
      exact .inr ⟨mounted', mountedEq, rfl, .same⟩
    · cases found
      exact .inr ⟨mounted, mountedEq, rfl, .same⟩

theorem detailStep_updateDetail {dashboard : Dashboard} {mount : Nat}
    {update : DetailState → DetailState}
    (allowed : ∀ state, DetailChange dashboard.snapshots mount state (update state)) :
    DetailStep dashboard (dashboard.updateDetail mount update) := by
  intro mounted' found
  rw [updateDetail_snapshots]
  unfold updateDetail at found
  split at found
  · rename_i mounted present
    split at found
    · rename_i sameMount
      cases found
      exact .inr ⟨mounted, present, rfl, sameMount ▸ allowed mounted.state⟩
    · rw [present] at found; cases found
      exact .inr ⟨mounted', present, rfl, .same⟩
  · rename_i absent
    rw [absent] at found; cases found

theorem detailStep_settleRequest (dashboard : Dashboard) (outcome : FetchOutcome)
    (request : Request) : DetailStep dashboard (dashboard.settleRequest outcome request) := by
  cases request with
  | runDetails mount runId =>
      refine DetailStep.of_detail_eq
        (detailStep_updateDetail fun state => .fetched outcome fun data isOk => ⟨runId, ?_⟩)
        (recordSnapshot_detail _ _ _ _)
      subst isOk
      simp [recordSnapshot]
  | cancelRun mount runId =>
      simp only [settleRequest]
      split <;> exact detailStep_of_detail_eq rfl
  | submitInput mount runId input =>
      simp only [settleRequest]
      split <;> exact detailStep_updateDetail fun state => .inputSettled outcome
  | runs | agents | runAgent => exact detailStep_of_detail_eq rfl

theorem detailStep_step {dashboard next : Dashboard} {action : Action}
    (stepped : dashboard.step action = some next) : DetailStep dashboard next := by
  cases transition_of_step stepped with
  | commit => exact detailStep_reconcile _
  | typed present _ value =>
      intro mounted' found
      cases found
      exact .inr ⟨_, present, rfl, .typed value⟩
  | submitted present _ submitted =>
      intro mounted' found
      cases found
      exact .inr ⟨_, present, rfl, .submitted submitted⟩
  | settle outcome => exact detailStep_settleRequest _ _ _
  | stream | refreshRuns | runAgent | cancel | unchanged | tick => exact detailStep_of_detail_eq rfl

/-- The records of a step: the recorded snapshots only grow, and the count of input POSTs
issued grows only from a view whose prompt is on screen. -/
structure RecordStep (before after : Dashboard) : Prop where
  snapshots : before.snapshots ⊆ after.snapshots
  inputPosts :
    after.issued.countP Request.isInputPost = before.issued.countP Request.isInputPost ∨
    ∃ mounted, before.detail = some mounted ∧ mounted.state.promptOffered = true

theorem recordStep_of_eq {before after : Dashboard} (snapshots : after.snapshots = before.snapshots)
    (issued : after.issued = before.issued) : RecordStep before after :=
  ⟨snapshots ▸ List.Subset.refl _, .inl (by rw [issued])⟩

theorem RecordStep.issue {before after : Dashboard} (changed : RecordStep before after)
    (same : after.issued.countP Request.isInputPost = before.issued.countP Request.isInputPost)
    {request : Request} (notInput : request.isInputPost = false) :
    RecordStep before (after.issue request) :=
  ⟨changed.snapshots, .inl (by simp [List.countP_append, notInput, same])⟩

theorem RecordStep.of_eq_before {before middle after : Dashboard}
    (changed : RecordStep middle after) (snapshots : middle.snapshots = before.snapshots)
    (issued : middle.issued = before.issued) (detail : middle.detail = before.detail) :
    RecordStep before after :=
  ⟨snapshots ▸ changed.snapshots, issued ▸ detail ▸ changed.inputPosts⟩

theorem recordStep_reconcile (dashboard : Dashboard) :
    RecordStep dashboard dashboard.reconcile := by
  unfold reconcile
  split
  · exact recordStep_of_eq rfl rfl
  · exact recordStep_of_eq rfl rfl
  · exact ⟨List.Subset.refl _, .inl (by simp [List.countP_append, Request.isInputPost])⟩
  · split
    · exact recordStep_of_eq rfl rfl
    · exact ⟨List.Subset.refl _, .inl (by simp [List.countP_append, Request.isInputPost])⟩

theorem recordStep_settleRequest (dashboard : Dashboard) (outcome : FetchOutcome)
    (request : Request) : RecordStep dashboard (dashboard.settleRequest outcome request) := by
  cases request with
  | runDetails mount runId =>
      refine ⟨?_, .inl (by simp [settleRequest])⟩
      simp only [settleRequest, updateDetail_snapshots, recordSnapshot]
      split
      · exact List.subset_append_left _ _
      · exact List.Subset.refl _
  | cancelRun mount runId =>
      simp only [settleRequest]
      split
      · exact (recordStep_of_eq rfl rfl).issue rfl (by rfl)
      · exact recordStep_of_eq rfl rfl
  | submitInput mount runId input =>
      simp only [settleRequest]
      split
      · exact (recordStep_of_eq (by simp) (by simp)).issue (by simp) (by rfl)
      · exact recordStep_of_eq (by simp) (by simp)
  | runs | agents | runAgent => exact recordStep_of_eq rfl rfl

theorem recordStep_step {dashboard next : Dashboard} {action : Action}
    (stepped : dashboard.step action = some next) : RecordStep dashboard next := by
  cases transition_of_step stepped with
  | commit => exact (recordStep_reconcile _).of_eq_before rfl rfl rfl
  | submitted present offered _ => exact ⟨List.Subset.refl _, .inr ⟨_, present, offered⟩⟩
  | settle outcome => exact (recordStep_settleRequest _ _ _).of_eq_before rfl rfl rfl
  | refreshRuns | runAgent | cancel | tick =>
      refine RecordStep.issue (recordStep_of_eq ?_ ?_) ?_ ?_ <;> rfl
  | stream | typed | unchanged => exact recordStep_of_eq rfl rfl

end Dashboard

end ClawForge
