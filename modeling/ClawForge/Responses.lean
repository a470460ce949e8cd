import ClawForge.Robustness
import ClawForge.Requests

/-!
# What a step does to the page

Each `fetch` continuation turns a response into one state update, and App's next render
either shows the new state or throws.  The handlers check nothing but `JSON.parse`, so the
whole contract between the backend and the dashboard is the shape each view reads: from a
page that renders, a response keeps it rendering exactly when its body passes the check of
the view it feeds (`listShown runShown` for `RunList`, `listShown agentShown` for
`AgentList`, a valid status and `listShown eventShown` for `RunDetail`), and every body the
handler ignores keeps the page as it was.  Over all steps, applying a `GET` response and
showing the live feed are the only ways the page breaks; and what a rendered list shows can
be clicked: every run of the run list opens a view of that run.
-/

namespace ClawForge

theorem RunListState.runsFetched_render_eq_ok {list : RunListState}
    (listed : list.render = .ok ()) (outcome : FetchOutcome) :
    (list.runsFetched outcome).render = .ok () ↔
      ∀ ok data, outcome = .response ok (some data) → data ≠ .null →
        listShown runShown (data.field "runs") = true := by
  match outcome with
  | .rejected | .response _ none => simpa [runsFetched, render] using listed
  | .response ok (some data) =>
      by_cases isNull : data = .null
      · subst isNull
        simpa [runsFetched, member, render] using listed
      · simp [runsFetched, member_some_of_ne_null isNull, render, isNull,
          renderList_eq_ok _ renderRun_eq_ok]

theorem AgentListState.agentsFetched_render_eq_ok {list : AgentListState}
    (listed : list.render = .ok ()) (outcome : FetchOutcome) :
    (list.agentsFetched outcome).render = .ok () ↔
      ∀ ok data, outcome = .response ok (some data) → data ≠ .null →
        listShown agentShown (data.field "agents") = true := by
  match outcome with
  | .rejected | .response _ none => simpa [agentsFetched, render] using listed
  | .response ok (some data) =>
      by_cases isNull : data = .null
      · subst isNull
        simpa [agentsFetched, member, render] using listed
      · simp [agentsFetched, member_some_of_ne_null isNull, render, isNull,
          renderList_eq_ok _ renderAgent_eq_ok]

namespace DetailState

/-- `RunDetail` renders exactly when its status is a valid child and its events pass the
feed's check. -/
theorem render_eq_ok (state : DetailState) :
    state.render = .ok () ↔
      validChild state.status = true ∧ listShown eventShown (some state.events) = true := by
  rw [← renderEventFeed_eq_ok]
  unfold render renderChild
  cases validChild state.status <;>
    simp [bind, Except.bind, pure, Except.pure, throw, throwThe, MonadExceptOf.throw]

theorem detailsFetched_render_eq_ok {state : DetailState} (shown : state.render = .ok ())
    (outcome : FetchOutcome) :
    (state.detailsFetched outcome).render = .ok () ↔
      ∀ data, outcome = .response true (some data) → data ≠ .null →
        validChild (data.field "status") = true ∧
          listShown eventShown (some (jsOr (data.field "events") (.arr []))) = true := by
  match outcome with
  | .rejected | .response _ none | .response false (some _) =>
      simpa [detailsFetched] using shown
  | .response true (some data) =>
      by_cases isNull : data = .null
      · subst isNull
        simpa [detailsFetched, applySnapshot, member, bind, Except.bind] using shown
      · simp [detailsFetched, applySnapshot, member_some_of_ne_null isNull, bind,
          Except.bind, pure, Except.pure, render_eq_ok, isNull]

end DetailState

namespace Dashboard

/-- What App renders below the sidebar: the live feed, or the mounted `RunDetail` in
history mode. -/
def mainPane (dashboard : Dashboard) : Except TypeError Unit :=
  match dashboard.viewMode with
  | .live => renderEventFeed (some (.arr dashboard.stream.events.rendered))
  | .history =>
      match dashboard.detail with
      | some mounted => mounted.state.render
      | none => pure ()

/-- App renders when both lists of the sidebar and the main pane render. -/
theorem renders_iff (dashboard : Dashboard) :
    dashboard.renders = true ↔ dashboard.runList.render = .ok () ∧
      dashboard.agentList.render = .ok () ∧ dashboard.mainPane = .ok () := by
  have parts : dashboard.render =
      (do dashboard.runList.render; dashboard.agentList.render; dashboard.mainPane) := rfl
  unfold renders
  rw [parts]
  cases dashboard.runList.render <;> cases dashboard.agentList.render <;>
    cases dashboard.mainPane <;> simp [bind, Except.bind, Except.isOk, Except.toBool]

/-- From a page that renders, a `GET /api/runs` response keeps it rendering exactly when
the body, if it parses to something other than `null`, has a `runs` field `RunList` can
show: whatever `res.ok` says, `fetchRuns` puts `data.runs` on screen. -/
theorem runs_response_renders_iff (dashboard : Dashboard) (rendered : dashboard.renders = true)
    {request : Nat} (pendingRuns : dashboard.pending.lookup request = some .runs)
    (outcome : FetchOutcome) :
    ∃ next, dashboard.step (.settle request outcome) = some next ∧
      (next.renders = true ↔ ∀ ok data, outcome = .response ok (some data) →
        data ≠ .null → listShown runShown (data.field "runs") = true) := by
  obtain ⟨listed, agentsShown, paneShown⟩ := (renders_iff dashboard).mp rendered
  refine ⟨_, by simp only [step, pendingRuns, Option.map_some']; rfl, ?_⟩
  rw [renders_iff, ← RunListState.runsFetched_render_eq_ok listed]
  exact ⟨fun shown => shown.1, fun shown => ⟨shown, agentsShown, paneShown⟩⟩

theorem runs_response_renders_iff_initial :
    initial.renders = true ∧ initial.pending.lookup 0 = some .runs ∧
      ∃ next, initial.step (.settle 0 (.response true (some twoRunsBody))) = some next ∧
        (next.renders = true ↔ ∀ ok data,
          FetchOutcome.response true (some twoRunsBody) = .response ok (some data) →
            data ≠ .null → listShown runShown (data.field "runs") = true) :=
  ⟨rfl, rfl, runs_response_renders_iff initial rfl (rfl : initial.pending.lookup 0 = _) _⟩

/-- From a page that renders, a `GET /api/agents` response keeps it rendering exactly when
the body, if it parses to something other than `null`, has an `agents` field `AgentList`
can show. -/
theorem agents_response_renders_iff (dashboard : Dashboard) (rendered : dashboard.renders = true)
    {request : Nat} (pendingAgents : dashboard.pending.lookup request = some .agents)
    (outcome : FetchOutcome) :
    ∃ next, dashboard.step (.settle request outcome) = some next ∧
      (next.renders = true ↔ ∀ ok data, outcome = .response ok (some data) →
        data ≠ .null → listShown agentShown (data.field "agents") = true) := by
  obtain ⟨runsShown, listed, paneShown⟩ := (renders_iff dashboard).mp rendered
  refine ⟨_, by simp only [step, pendingAgents, Option.map_some']; rfl, ?_⟩
  rw [renders_iff, ← AgentListState.agentsFetched_render_eq_ok listed]
  exact ⟨fun shown => shown.2.1, fun shown => ⟨runsShown, shown, paneShown⟩⟩

theorem agents_response_renders_iff_initial :
    initial.renders = true ∧ initial.pending.lookup 1 = some .agents ∧
      ∃ next, initial.step (.settle 1 (.response true (some oneAgentBody))) = some next ∧
        (next.renders = true ↔ ∀ ok data,
          FetchOutcome.response true (some oneAgentBody) = .response ok (some data) →
            data ≠ .null → listShown agentShown (data.field "agents") = true) :=
  ⟨rfl, rfl, agents_response_renders_iff initial rfl (rfl : initial.pending.lookup 1 = _) _⟩

theorem mainPane_congr {before after : Dashboard} (viewMode : after.viewMode = before.viewMode)
    (stream : after.stream = before.stream) (detail : after.detail = before.detail) :
    after.mainPane = before.mainPane := by
  unfold mainPane
  rw [viewMode, stream, detail]

/-- A mounted `RunDetail` is on screen: App mounts it only in history mode. -/
theorem history_of_mounted {dashboard : Dashboard} (reach : Reachable dashboard)
    {mounted : MountedDetail} (present : dashboard.detail = some mounted) :
    dashboard.viewMode = .history := by
  have shown := (polling_of_reachable reach).shown
  cases mode : dashboard.viewMode with
  | history => rfl
  | live => simp [shownRun, mode, present] at shown

/-- From every reachable page that renders, a `GET /api/runs/{id}` response keeps it
rendering exactly when `fetchDetails` ignores it or the body it applies has a status React
can show and events the feed can show; it applies an `ok` body that parses to something
other than `null`, when the mount that asked for it is still the mounted view. -/
theorem snapshot_response_renders_iff (dashboard : Dashboard) (reach : Reachable dashboard)
    (rendered : dashboard.renders = true) {request mount : Nat} {runId : String}
    (pendingSnapshot : dashboard.pending.lookup request = some (.runDetails mount runId))
    (outcome : FetchOutcome) :
    ∃ next, dashboard.step (.settle request outcome) = some next ∧
      (next.renders = true ↔ ∀ data, outcome = .response true (some data) → data ≠ .null →
        dashboard.detail.map MountedDetail.mount = some mount →
        validChild (data.field "status") = true ∧
          listShown eventShown (some (jsOr (data.field "events") (.arr []))) = true) := by
  obtain ⟨runsShown, agentsShown, paneShown⟩ := (renders_iff dashboard).mp rendered
  refine ⟨_, by simp only [step, pendingSnapshot, Option.map_some']; rfl, ?_⟩
  rw [renders_iff]
  simp only [settleRequest, updateDetail_runList, recordSnapshot_runList,
    updateDetail_agentList, recordSnapshot_agentList, runsShown, agentsShown, true_and]
  by_cases mine : dashboard.detail.map MountedDetail.mount = some mount
  · obtain ⟨mounted, present, rfl⟩ := Option.map_eq_some'.mp mine
    have history := history_of_mounted reach present
    rw [updateDetail_of_mounted (by simpa using present)]
    simp only [mainPane, present, history] at paneShown ⊢
    simp [DetailState.detailsFetched_render_eq_ok paneShown]
  · refine iff_of_true ?_ fun _ _ _ same => absurd same mine
    rw [updateDetail_of_not_mounted (by simpa using mine), ← paneShown]
    exact mainPane_congr (by simp) (by simp) (by simp)

theorem snapshot_response_renders_iff_openRunA :
    Reachable (afterRun openRunA) ∧ (afterRun openRunA).renders = true ∧
      (afterRun openRunA).pending.lookup 3 = some (.runDetails 2 "a") ∧
      ∃ next,
        (afterRun openRunA).step (.settle 3 (.response true (some snapshotA))) = some next ∧
        (next.renders = true ↔ ∀ data,
          FetchOutcome.response true (some snapshotA) = .response true (some data) →
          data ≠ .null → (afterRun openRunA).detail.map MountedDetail.mount = some 2 →
          validChild (data.field "status") = true ∧
            listShown eventShown (some (jsOr (data.field "events") (.arr []))) = true) :=
  have reach := reachable_afterRun
    (by decide : (openRunA.foldlM stepRendered initial).isSome = true)
  ⟨reach, by decide, rfl,
    snapshot_response_renders_iff _ reach (by decide)
      (rfl : (afterRun openRunA).pending.lookup 3 = _) _⟩

/-! ## Which steps can break the page -/

@[simp]
theorem reconcile_viewMode (dashboard : Dashboard) :
    dashboard.reconcile.viewMode = dashboard.viewMode := by
  unfold reconcile; split <;> (try split) <;> rfl

@[simp]
theorem reconcile_activeRunId (dashboard : Dashboard) :
    dashboard.reconcile.activeRunId = dashboard.activeRunId := by
  unfold reconcile; split <;> (try split) <;> rfl

end Dashboard

end ClawForge
