import Mathlib.Data.List.Nodup
import ClawForge.Controls

/-!
# The requests in flight

Every handler that calls `fetch` puts a request in flight under a fresh id, and the request
leaves when it settles.  The ids in flight stay distinct, so a settling request removes
exactly its own entry.  From that the two lists of the sidebar keep exact books: every Run
click of `AgentList` ends in exactly one alert, its buttons are disabled exactly while a run
request is in flight, so at most one is, and the refresh icon of `RunList` spins only while
a `/api/runs` request is in flight.  Nothing, on the other hand, bounds the poller's
requests in flight.
-/

namespace ClawForge

/-- Whether a request is the `GET /api/runs` of `fetchRuns`. -/
def Request.isRuns : Request → Bool
  | .runs => true
  | _ => false

/-- Whether a request is the POST of `runAgent`. -/
def Request.isAgentRun : Request → Bool
  | .runAgent _ => true
  | _ => false

/-- Whether a request is the `GET /api/runs/{id}` of `fetchDetails`. -/
def Request.isRunDetails : Request → Bool
  | .runDetails .. => true
  | _ => false

namespace Dashboard

/-! ## Fresh ids -/

/-- The ids of the requests in flight are distinct and below `nextId`, the next id handed
out. -/
structure IdsFresh (dashboard : Dashboard) : Prop where
  distinct : (dashboard.pending.map Prod.fst).Nodup
  below : ∀ entry ∈ dashboard.pending, entry.1 < dashboard.nextId

theorem IdsFresh.mono {before after : Dashboard} (fresh : IdsFresh before)
    (pending : after.pending = before.pending) (grows : before.nextId ≤ after.nextId) :
    IdsFresh after :=
  ⟨pending ▸ fresh.distinct, fun entry found =>
    Nat.lt_of_lt_of_le (fresh.below entry (pending ▸ found)) grows⟩

theorem IdsFresh.issue {dashboard : Dashboard} (fresh : IdsFresh dashboard)
    (request : Request) : IdsFresh (dashboard.issue request) where
  distinct := by
    have unused : dashboard.nextId ∉ dashboard.pending.map Prod.fst := fun used =>
      let ⟨entry, found, same⟩ := List.mem_map.mp used
      Nat.lt_irrefl _ (same ▸ fresh.below entry found)
    simpa [List.nodup_append, fresh.distinct] using unused
  below := by
    simp only [issue_pending, issue_nextId, List.mem_append, List.mem_singleton]
    rintro entry (found | rfl)
    · exact Nat.lt_succ_of_lt (fresh.below entry found)
    · exact Nat.lt_succ_self _

/-- Dropping the entry of a settled request keeps the ids fresh. -/
theorem IdsFresh.settled {dashboard : Dashboard} (fresh : IdsFresh dashboard) (request : Nat) :
    IdsFresh { dashboard with
      pending := dashboard.pending.filter fun entry => entry.1 != request } :=
  ⟨fresh.distinct.sublist ((List.filter_sublist _).map _),
    fun entry found => fresh.below entry (List.mem_of_mem_filter found)⟩

theorem IdsFresh.reconcile {dashboard : Dashboard} (fresh : IdsFresh dashboard) :
    IdsFresh dashboard.reconcile := by
  unfold Dashboard.reconcile
  split
  · exact fresh
  · exact fresh.mono rfl le_rfl
  · have bumped : IdsFresh { dashboard with nextId := dashboard.nextId + 1 } :=
      fresh.mono rfl (Nat.le_succ _)
    exact (bumped.issue _).mono rfl (Nat.le_succ _)
  · split
    · exact fresh
    · exact (fresh.issue _).mono rfl (Nat.le_succ _)

theorem IdsFresh.settleRequest {dashboard : Dashboard} (fresh : IdsFresh dashboard)
    (outcome : FetchOutcome) (request : Request) :
    IdsFresh (dashboard.settleRequest outcome request) := by
  cases request with
  | runDetails mount runId =>
      simp only [Dashboard.settleRequest]
      exact fresh.mono (by simp) (by simp)
  | cancelRun mount runId =>
      simp only [Dashboard.settleRequest]
      split
      · exact fresh.issue _
      · exact fresh
  | submitInput mount runId input =>
      have settled : IdsFresh (dashboard.updateDetail mount fun state =>
          state.inputSettled outcome) := fresh.mono (by simp) (by simp)
      simp only [Dashboard.settleRequest]
      split
      · exact settled.issue _
      · exact settled
  | runs | agents | runAgent => exact fresh.mono rfl le_rfl

theorem IdsFresh.step {dashboard next : Dashboard} {action : Action}
    (fresh : IdsFresh dashboard) (stepped : dashboard.step action = some next) :
    IdsFresh next := by
  cases transition_of_step stepped with
  | commit => exact IdsFresh.reconcile (fresh.mono rfl le_rfl)
  | settle outcome => exact (fresh.settled _).settleRequest _ _
  | refreshRuns | runAgent | cancel | submitted | tick =>
      refine IdsFresh.issue ?_ _
      exact fresh.mono rfl le_rfl
  | stream | typed | unchanged => exact fresh.mono rfl le_rfl

theorem idsFresh_of_reachable {dashboard : Dashboard} (reach : Reachable dashboard) :
    IdsFresh dashboard := by
  induction reach with
  | initial => exact ⟨by decide, by decide⟩
  | step _ _ stepped ih => exact ih.step stepped

/-- With distinct ids, settling request `request` removes exactly its own entry from the
requests in flight, whatever kind of request is counted. -/
theorem countP_filter_settled_eq {pending : List (Nat × Request)} {request : Nat}
    {found : Request} (distinct : (pending.map Prod.fst).Nodup)
    (pendingFound : pending.lookup request = some found) (counted : Request → Bool) :
    (pending.filter fun entry => entry.1 != request).countP (fun entry => counted entry.2) +
        (counted found).toNat = pending.countP fun entry => counted entry.2 := by
  induction pending with
  | nil => cases pendingFound
  | cons entry rest ih =>
      obtain ⟨id, waiting⟩ := entry
      rw [List.map_cons, List.nodup_cons] at distinct
      by_cases same : request = id
      · subst same
        simp only [List.lookup_cons_self, Option.some.injEq] at pendingFound
        subst pendingFound
        have kept : (rest.filter fun entry => entry.1 != request) = rest := by
          refine List.filter_eq_self.mpr fun entry found => bne_iff_ne.mpr ?_
          rintro rfl
          exact distinct.1 (List.mem_map.mpr ⟨entry, found, rfl⟩)
        cases countedFound : counted waiting <;>
          simp [List.filter_cons, kept, List.countP_cons, countedFound]
      · rw [List.lookup_cons, beq_false_of_ne same] at pendingFound
        have rest := ih distinct.2 pendingFound
        simp only [List.filter_cons, bne_iff_ne, ne_eq, Ne.symm same, not_false_eq_true,
          decide_True, if_true, List.countP_cons]
        omega

/-! ## Counting requests by kind

`reconcile` and the refetches of `settleRequest` issue only snapshot requests, so they
leave alone any count of the other kinds, issued or in flight. -/

section Counting

variable {counted : Request → Bool}

theorem countP_issued_issue (dashboard : Dashboard) (request : Request) :
    (dashboard.issue request).issued.countP counted =
      dashboard.issued.countP counted + (counted request).toNat := by
  cases found : counted request <;> simp [List.countP_append, found]

theorem countP_pending_issue (dashboard : Dashboard) (request : Request) :
    ((dashboard.issue request).pending.countP fun entry => counted entry.2) =
      (dashboard.pending.countP fun entry => counted entry.2) + (counted request).toNat := by
  cases found : counted request <;> simp [List.countP_append, found]

theorem countP_issued_reconcile (blind : ∀ mount runId, counted (.runDetails mount runId) = false)
    (dashboard : Dashboard) :
    dashboard.reconcile.issued.countP counted = dashboard.issued.countP counted := by
  unfold reconcile
  split <;> (try split) <;> simp [List.countP_append, blind]

theorem countP_pending_reconcile
    (blind : ∀ mount runId, counted (.runDetails mount runId) = false) (dashboard : Dashboard) :
    (dashboard.reconcile.pending.countP fun entry => counted entry.2) =
      dashboard.pending.countP fun entry => counted entry.2 := by
  unfold reconcile
  split <;> (try split) <;> simp [List.countP_append, blind]

theorem countP_issued_settleRequest
    (blind : ∀ mount runId, counted (.runDetails mount runId) = false) (dashboard : Dashboard)
    (outcome : FetchOutcome) (request : Request) :
    (dashboard.settleRequest outcome request).issued.countP counted =
      dashboard.issued.countP counted := by
  cases request <;> simp only [settleRequest] <;> (try split) <;>
    simp [List.countP_append, blind]

theorem countP_pending_settleRequest
    (blind : ∀ mount runId, counted (.runDetails mount runId) = false) (dashboard : Dashboard)
    (outcome : FetchOutcome) (request : Request) :
    ((dashboard.settleRequest outcome request).pending.countP fun entry => counted entry.2) =
      dashboard.pending.countP fun entry => counted entry.2 := by
  cases request <;> simp only [settleRequest] <;> (try split) <;>
    simp [List.countP_append, blind]

end Counting

/-! ## The Run buttons of `AgentList` -/

/-- The `runAgent` POSTs in flight. -/
def agentRunsInFlight (dashboard : Dashboard) : Nat :=
  dashboard.pending.countP fun entry => entry.2.isAgentRun

theorem agentRunsInFlight_issue (dashboard : Dashboard) (request : Request) :
    agentRunsInFlight (dashboard.issue request) =
      agentRunsInFlight dashboard + request.isAgentRun.toNat :=
  countP_pending_issue dashboard request

@[simp]
theorem agentRunsInFlight_reconcile (dashboard : Dashboard) :
    agentRunsInFlight dashboard.reconcile = agentRunsInFlight dashboard :=
  countP_pending_reconcile (fun _ _ => rfl) dashboard

@[simp]
theorem agentRunsInFlight_settleRequest (dashboard : Dashboard) (outcome : FetchOutcome)
    (request : Request) :
    agentRunsInFlight (dashboard.settleRequest outcome request) = agentRunsInFlight dashboard :=
  countP_pending_settleRequest (fun _ _ => rfl) dashboard outcome request

@[simp]
theorem reconcile_agentList (dashboard : Dashboard) :
    dashboard.reconcile.agentList = dashboard.agentList := by
  unfold reconcile; split <;> (try split) <;> rfl

@[simp]
theorem settleRequest_loading (dashboard : Dashboard) (outcome : FetchOutcome)
    (request : Request) :
    (dashboard.settleRequest outcome request).agentList.loading =
      (dashboard.agentList.loading && !request.isAgentRun) := by
  cases request <;> simp only [settleRequest] <;> (try split) <;>
    simp [Request.isAgentRun, AgentListState.agentRan]

/-- The Run clicks of `AgentList` that sent a request. -/
def agentRunClicks (dashboard : Dashboard) : Nat :=
  dashboard.issued.countP Request.isAgentRun

theorem agentRunClicks_issue (dashboard : Dashboard) (request : Request) :
    agentRunClicks (dashboard.issue request) =
      agentRunClicks dashboard + request.isAgentRun.toNat :=
  countP_issued_issue dashboard request

@[simp]
theorem agentRunClicks_reconcile (dashboard : Dashboard) :
    agentRunClicks dashboard.reconcile = agentRunClicks dashboard :=
  countP_issued_reconcile (fun _ _ => rfl) dashboard

@[simp]
theorem agentRunClicks_settleRequest (dashboard : Dashboard) (outcome : FetchOutcome)
    (request : Request) :
    agentRunClicks (dashboard.settleRequest outcome request) = agentRunClicks dashboard :=
  countP_issued_settleRequest (fun _ _ => rfl) dashboard outcome request

@[simp]
theorem reconcile_alerts (dashboard : Dashboard) :
    dashboard.reconcile.alerts = dashboard.alerts := by
  unfold reconcile; split <;> (try split) <;> rfl

theorem settleRequest_alerts_length (dashboard : Dashboard) (outcome : FetchOutcome)
    (request : Request) :
    (dashboard.settleRequest outcome request).alerts.length =
      dashboard.alerts.length + request.isAgentRun.toNat := by
  cases request <;> simp only [settleRequest] <;> (try split) <;> simp [Request.isAgentRun]

/-- The books of the Run buttons: every Run click that sent a request has been alerted or
is in flight, and a run request is in flight exactly while the buttons are disabled. -/
structure RunBooks (dashboard : Dashboard) : Prop where
  alerted : dashboard.alerts.length + agentRunsInFlight dashboard = agentRunClicks dashboard
  inFlight : agentRunsInFlight dashboard = dashboard.agentList.loading.toNat

theorem RunBooks.of_eq {before after : Dashboard} (books : RunBooks before)
    (alerts : after.alerts = before.alerts) (pending : after.pending = before.pending)
    (issued : after.issued = before.issued)
    (loading : after.agentList.loading = before.agentList.loading) : RunBooks after where
  alerted := by
    unfold agentRunsInFlight agentRunClicks
    rw [alerts, pending, issued]
    exact books.alerted
  inFlight := by
    unfold agentRunsInFlight
    rw [pending, loading]
    exact books.inFlight

/-- A request other than a run request leaves the books as they were. -/
theorem RunBooks.issue {dashboard : Dashboard} (books : RunBooks dashboard) {request : Request}
    (notRun : request.isAgentRun = false) : RunBooks (dashboard.issue request) where
  alerted := by
    rw [agentRunsInFlight_issue, agentRunClicks_issue, notRun, issue_alerts]
    exact books.alerted
  inFlight := by
    rw [agentRunsInFlight_issue, notRun, issue_agentList]
    exact books.inFlight

theorem RunBooks.runPollingEffect {dashboard : Dashboard} (books : RunBooks dashboard)
    (mount : Nat) (runId : String) (state : DetailState) :
    RunBooks (dashboard.runPollingEffect mount runId state) :=
  have fetching : RunBooks (dashboard.issue (.runDetails mount runId)) := books.issue rfl
  fetching.of_eq rfl rfl rfl rfl

theorem RunBooks.reconcile {dashboard : Dashboard} (books : RunBooks dashboard) :
    RunBooks dashboard.reconcile := by
  unfold Dashboard.reconcile
  split
  · exact books
  · exact books.of_eq rfl rfl rfl rfl
  · refine RunBooks.runPollingEffect ?_ _ _ _
    exact books.of_eq rfl rfl rfl rfl
  · split
    · exact books
    · refine RunBooks.runPollingEffect ?_ _ _ _
      exact books.of_eq rfl rfl rfl rfl

theorem RunBooks.step {dashboard next : Dashboard} {action : Action} (books : RunBooks dashboard)
    (fresh : IdsFresh dashboard) (stepped : dashboard.step action = some next) :
    RunBooks next := by
  cases transition_of_step stepped with
  | commit => exact RunBooks.reconcile (books.of_eq rfl rfl rfl rfl)
  | runAgent agentId idle =>
      have none : agentRunsInFlight dashboard = 0 := by simpa [idle] using books.inFlight
      constructor
      · rw [agentRunsInFlight_issue, agentRunClicks_issue]
        show dashboard.alerts.length + (agentRunsInFlight dashboard + 1) =
          agentRunClicks dashboard + 1
        have alerted := books.alerted
        omega
      · rw [agentRunsInFlight_issue]
        show agentRunsInFlight dashboard + 1 = 1
        omega
  | @settle request found outcome pendingFound =>
      have dropped : agentRunsInFlight { dashboard with
          pending := dashboard.pending.filter fun entry => entry.1 != request } +
            found.isAgentRun.toNat = agentRunsInFlight dashboard :=
        countP_filter_settled_eq fresh.distinct pendingFound Request.isAgentRun
      obtain ⟨alerted, inFlight⟩ := books
      rw [← dropped] at alerted inFlight
      constructor
      · rw [settleRequest_alerts_length, agentRunsInFlight_settleRequest,
          agentRunClicks_settleRequest]
        show dashboard.alerts.length + found.isAgentRun.toNat + _ = agentRunClicks dashboard
        omega
      · rw [agentRunsInFlight_settleRequest, settleRequest_loading]
        revert inFlight
        cases dashboard.agentList.loading <;> cases found.isAgentRun <;> simp
  | refreshRuns | cancel | submitted | tick =>
      refine RunBooks.issue ?_ rfl
      exact books.of_eq rfl rfl rfl rfl
  | stream | typed | unchanged => exact books.of_eq rfl rfl rfl rfl

theorem runBooks_of_reachable {dashboard : Dashboard} (reach : Reachable dashboard) :
    RunBooks dashboard := by
  induction reach with
  | initial => exact ⟨rfl, rfl⟩
  | step reach _ stepped ih => exact ih.step (idsFresh_of_reachable reach) stepped

/-- Every Run click of `AgentList` ends in exactly one alert.  Over every run of the
dashboard, the alerts shown and the run requests in flight add up to the Run clicks that
sent a request, and a run request is in flight exactly while the buttons are disabled:
`runAgent` alerts on each of its three outcomes, and its `finally` clears `loading`. -/
theorem run_clicks_alerted_once (dashboard : Dashboard) (reach : Reachable dashboard) :
    dashboard.alerts.length + agentRunsInFlight dashboard = agentRunClicks dashboard ∧
      agentRunsInFlight dashboard = dashboard.agentList.loading.toNat :=
  have books := runBooks_of_reachable reach
  ⟨books.alerted, books.inFlight⟩

/-- The Run buttons of `AgentList` are `disabled={loading}`, so over every run of the
dashboard at most one `runAgent` POST is in flight, and none while the buttons are
enabled. -/
theorem agent_runs_single_flight (dashboard : Dashboard) (reach : Reachable dashboard) :
    agentRunsInFlight dashboard ≤ 1 ∧
      (dashboard.agentList.loading = false → agentRunsInFlight dashboard = 0) := by
  have inFlight := (runBooks_of_reachable reach).inFlight
  refine ⟨inFlight ▸ Bool.toNat_le _, fun enabled => ?_⟩
  rw [inFlight, enabled]
  rfl

/-- A `/api/agents` body listing one agent. -/
def oneAgentBody : JsonValue :=
  .obj [("agents", .arr [.obj [("id", .str "agent"), ("name", .str "Agent"),
    ("description", .str "Runs a task")]])]

/-- The agent list arrives and the operator runs its agent. -/
def runAgentRun : List Action :=
  [.settle 1 (.response true (some oneAgentBody)), .runAgent 0]

theorem agent_runs_single_flight_runAgentRun :
    Reachable (afterRun runAgentRun) ∧ agentRunsInFlight (afterRun runAgentRun) ≤ 1 :=
  have reach := reachable_afterRun
    (by decide : (runAgentRun.foldlM stepRendered initial).isSome = true)
  ⟨reach, (agent_runs_single_flight _ reach).1⟩

/-- The operator runs the agent, and the run request fails. -/
def runAgentFailedRun : List Action :=
  runAgentRun ++ [.settle 2 (.response false none)]

theorem run_clicks_alerted_once_runAgentFailedRun :
    Reachable (afterRun runAgentFailedRun) ∧
      (afterRun runAgentFailedRun).alerts.length +
          agentRunsInFlight (afterRun runAgentFailedRun) =
        agentRunClicks (afterRun runAgentFailedRun) :=
  have reach := reachable_afterRun
    (by decide : (runAgentFailedRun.foldlM stepRendered initial).isSome = true)
  ⟨reach, (run_clicks_alerted_once _ reach).1⟩

/-! ## The refresh icon of `RunList` -/

/-- The `GET /api/runs` requests in flight. -/
def runsInFlight (dashboard : Dashboard) : Nat :=
  dashboard.pending.countP fun entry => entry.2.isRuns

theorem runsInFlight_issue (dashboard : Dashboard) (request : Request) :
    runsInFlight (dashboard.issue request) = runsInFlight dashboard + request.isRuns.toNat :=
  countP_pending_issue dashboard request

@[simp]
theorem runsInFlight_reconcile (dashboard : Dashboard) :
    runsInFlight dashboard.reconcile = runsInFlight dashboard :=
  countP_pending_reconcile (fun _ _ => rfl) dashboard

@[simp]
theorem runsInFlight_settleRequest (dashboard : Dashboard) (outcome : FetchOutcome)
    (request : Request) :
    runsInFlight (dashboard.settleRequest outcome request) = runsInFlight dashboard :=
  countP_pending_settleRequest (fun _ _ => rfl) dashboard outcome request

@[simp]
theorem reconcile_runList (dashboard : Dashboard) :
    dashboard.reconcile.runList = dashboard.runList := by
  unfold reconcile; split <;> (try split) <;> rfl

@[simp]
theorem settleRequest_runList_loading (dashboard : Dashboard) (outcome : FetchOutcome)
    (request : Request) :
    (dashboard.settleRequest outcome request).runList.loading =
      (dashboard.runList.loading && !request.isRuns) := by
  cases request <;> simp only [settleRequest] <;> (try split) <;> simp [Request.isRuns]

/-- While the icon spins, a `GET /api/runs` is in flight. -/
def SpinnerBacked (dashboard : Dashboard) : Prop :=
  dashboard.runList.loading.toNat ≤ runsInFlight dashboard

theorem SpinnerBacked.step {dashboard next : Dashboard} {action : Action}
    (backed : SpinnerBacked dashboard) (fresh : IdsFresh dashboard)
    (stepped : dashboard.step action = some next) : SpinnerBacked next := by
  unfold SpinnerBacked at *
  cases transition_of_step stepped with
  | commit => simpa [commitApp] using backed
  | refreshRuns =>
      rw [runsInFlight_issue]
      exact Nat.le_add_left _ _
  | @settle request found outcome pendingFound =>
      have dropped : runsInFlight { dashboard with
          pending := dashboard.pending.filter fun entry => entry.1 != request } +
            found.isRuns.toNat = runsInFlight dashboard :=
        countP_filter_settled_eq fresh.distinct pendingFound Request.isRuns
      rw [runsInFlight_settleRequest, settleRequest_runList_loading]
      revert backed dropped
      cases dashboard.runList.loading <;> cases found.isRuns <;> simp
      omega
  | runAgent | cancel | submitted | tick =>
      rw [runsInFlight_issue]
      exact Nat.le_add_right_of_le backed
  | stream | typed | unchanged => exact backed

theorem spinnerBacked_of_reachable {dashboard : Dashboard} (reach : Reachable dashboard) :
    SpinnerBacked dashboard := by
  induction reach with
  | initial => unfold SpinnerBacked; decide
  | step reach _ stepped ih => exact ih.step (idsFresh_of_reachable reach) stepped

/-- The refresh icon of `RunList` spins only while a `GET /api/runs` is in flight: every
`fetchRuns` sets `loading` and issues its request, and every way its request settles clears
`loading`. -/
theorem refresh_spins_only_while_fetching (dashboard : Dashboard) (reach : Reachable dashboard)
    (spinning : dashboard.runList.loading = true) :
    ∃ id, (id, Request.runs) ∈ dashboard.pending := by
  have backed := spinnerBacked_of_reachable reach
  unfold SpinnerBacked runsInFlight at backed
  rw [spinning] at backed
  obtain ⟨⟨id, request⟩, found, isRuns⟩ := List.countP_pos_iff.mp backed
  cases request <;> first | exact ⟨id, found⟩ | cases isRuns

theorem refresh_spins_only_while_fetching_initial :
    Reachable initial ∧ initial.runList.loading = true ∧
      ∃ id, (id, Request.runs) ∈ initial.pending :=
  ⟨.initial, rfl, refresh_spins_only_while_fetching initial .initial rfl⟩

/-! ## The requests of the poller -/

/-- The interval of the mounted view is live, and its tick issues that view's snapshot
request. -/
theorem tick_mounted {dashboard : Dashboard} (reach : Reachable dashboard)
    {mounted : MountedDetail} (present : dashboard.detail = some mounted) :
    dashboard.step (.tick mounted.timer) =
      some (dashboard.issue (.runDetails mounted.mount mounted.runId)) := by
  have live : (liveIntervals dashboard.timerCalls).lookup mounted.timer =
      some ⟨mounted.mount, mounted.runId⟩ := by
    simp [(polling_of_reachable reach).live, present, MountedDetail.pollEntry]
  simp [step, live]

/-- A tick of the mounted view's interval keeps the page as it was and adds one snapshot
request. -/
theorem tick_adds_snapshot_request {dashboard : Dashboard} (reach : Reachable dashboard)
    (rendered : dashboard.renders = true) {mounted : MountedDetail}
    (present : dashboard.detail = some mounted) :
    ∃ next, Reachable next ∧ next.renders = true ∧ next.detail = some mounted ∧
      next.pending.countP (fun entry => entry.2.isRunDetails) =
        dashboard.pending.countP (fun entry => entry.2.isRunDetails) + 1 := by
  have ticked := tick_mounted reach present
  exact ⟨_, reach.step rendered ticked, rendered, present,
    by simp [List.countP_append, Request.isRunDetails]⟩

/-- `setInterval(fetchDetails, 2000)` fires whether or not the last request has come back,
so nothing bounds the snapshot requests in flight: for every `n`, some reachable page that
renders has at least `n` of them in flight. -/
theorem snapshot_requests_unbounded (n : Nat) :
    ∃ dashboard, Reachable dashboard ∧ dashboard.renders = true ∧
      n ≤ dashboard.pending.countP fun entry => entry.2.isRunDetails := by
  have grows : ∀ n, ∃ dashboard mounted, Reachable dashboard ∧ dashboard.renders = true ∧
      dashboard.detail = some mounted ∧
      n ≤ dashboard.pending.countP fun entry => entry.2.isRunDetails := by
    intro n
    induction n with
    | zero =>
        match present : (afterRun openRunA).detail with
        | some mounted =>
            exact ⟨_, mounted, reachable_afterRun (by decide), by decide, present,
              Nat.zero_le _⟩
        | none => exact absurd (congrArg Option.isSome present) (by decide)
    | succ n ih =>
        obtain ⟨dashboard, mounted, reach, rendered, present, enough⟩ := ih
        obtain ⟨next, reach', rendered', present', added⟩ :=
          tick_adds_snapshot_request reach rendered present
        exact ⟨next, mounted, reach', rendered', present', by omega⟩
  obtain ⟨dashboard, -, reach, rendered, -, enough⟩ := grows n
  exact ⟨dashboard, reach, rendered, enough⟩

end Dashboard

end ClawForge
