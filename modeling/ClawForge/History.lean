import ClawForge.Polling

/-!
# Where the history view's snapshot comes from

The pair a `RunDetail` displays, its events and its status, is always the pair of its
first render or of an `ok` snapshot body that its own mount requested: a response to a
request of an earlier mount is dropped with that mount.  Within one mount, though, nothing
ties a response to the run it was requested for.  App renders `RunDetail` without a `key`,
so selecting another run keeps the mount, and a late response for the previous run still
overwrites the view of the new one.  In fact the view shows the last applicable body of
its mount to settle, in the order the responses come back: a late answer to an earlier
tick wins over a newer one just as well.
-/

namespace ClawForge

/-- The pair a `RunDetail` of mount `mount` displays came from its first render, or from
an `ok` snapshot body requested by that mount: `events` is the body's `events || []` and
`status` its `status`. -/
def PairFrom (snapshots : List (Nat × String × JsonValue)) (mount : Nat)
    (state : DetailState) : Prop :=
  (state.events = .arr [] ∧ state.status = some (.str "unknown")) ∨
    ∃ runId data, (mount, runId, data) ∈ snapshots ∧
      state.events = jsOr (data.field "events") (.arr []) ∧ state.status = data.field "status"

theorem PairFrom.mono {snapshots snapshots' : List (Nat × String × JsonValue)} {mount : Nat}
    {state : DetailState} (pair : PairFrom snapshots mount state)
    (grown : snapshots ⊆ snapshots') : PairFrom snapshots' mount state := by
  rcases pair with initial | ⟨runId, data, recorded, events, status⟩
  · exact .inl initial
  · exact .inr ⟨runId, data, grown recorded, events, status⟩

theorem PairFrom.of_pair_eq {snapshots : List (Nat × String × JsonValue)} {mount : Nat}
    {state state' : DetailState} (pair : PairFrom snapshots mount state)
    (events : state'.events = state.events) (status : state'.status = state.status) :
    PairFrom snapshots mount state' := by
  unfold PairFrom
  rwa [events, status]

theorem PairFrom.change {snapshots snapshots' : List (Nat × String × JsonValue)}
    {mount : Nat} {state state' : DetailState} (pair : PairFrom snapshots mount state)
    (grown : snapshots ⊆ snapshots')
    (change : Dashboard.DetailChange snapshots' mount state state') :
    PairFrom snapshots' mount state' := by
  have kept := pair.mono grown
  cases change with
  | same => exact kept
  | fetched outcome recorded =>
      rcases DetailState.detailsFetched_pair state outcome with same | ⟨data, isOk, fetched⟩
      · rwa [same]
      · obtain ⟨runId, found⟩ := recorded data isOk
        rw [fetched]
        exact .inr ⟨runId, data, found, rfl, rfl⟩
  | inputSettled outcome => cases outcome <;> exact kept.of_pair_eq rfl rfl
  | typed value => exact kept.of_pair_eq rfl rfl
  | submitted submitted =>
      unfold DetailState.submitInput at submitted
      split at submitted
      · cases submitted
      · cases submitted
        exact kept.of_pair_eq rfl rfl

namespace Dashboard

/-- Every mounted `RunDetail` displays a pair it may display. -/
def Provenance (dashboard : Dashboard) : Prop :=
  ∀ mounted, dashboard.detail = some mounted →
    PairFrom dashboard.snapshots mounted.mount mounted.state

theorem Provenance.step {dashboard next : Dashboard} {action : Action}
    (provenance : Provenance dashboard) (stepped : dashboard.step action = some next) :
    Provenance next := by
  intro mounted' found
  rcases detailStep_step stepped mounted' found with
    fresh | ⟨mounted, present, sameMount, change⟩
  · exact .inl (by simp [fresh, DetailState.init])
  · rw [← sameMount]
    exact (provenance mounted present).change (recordStep_step stepped).snapshots change

theorem provenance_of_reachable {dashboard : Dashboard} (reach : Reachable dashboard) :
    Provenance dashboard := by
  induction reach with
  | initial => intro mounted present; cases present
  | step _ _ stepped ih => exact ih.step stepped

/-- Whatever happens, a mounted `RunDetail` shows the pair of its first render or of an
`ok` snapshot body requested by the same mount; a response to an earlier mount never
reaches the view. -/
theorem displayed_pair_from_own_mount (dashboard : Dashboard) (reach : Reachable dashboard)
    (mounted : MountedDetail) (present : dashboard.detail = some mounted) :
    PairFrom dashboard.snapshots mounted.mount mounted.state :=
  provenance_of_reachable reach mounted present

/-- An event of run `a` reporting its completion. -/
def completedEventA : JsonValue :=
  .obj [("id", .str "e1"), ("run_id", .str "a"), ("agent_id", .str "agent"),
    ("timestamp", .str "2024-01-01T00:00:00Z"), ("kind", .str "run_completed"),
    ("payload", .obj [])]

/-- The snapshot body `/api/runs/a` answers with. -/
def snapshotA : JsonValue :=
  .obj [("events", .arr [completedEventA]), ("status", .str "run_completed")]

/-- Open run `a` and let its first snapshot arrive: `/api/runs/a` reports the run
completed, with the status `run_completed`. -/
def completedRunA : List Action := openRunA ++ [.settle 3 (.response true (some snapshotA))]

theorem displayed_pair_from_own_mount_completedRunA :
    ∃ dashboard mounted, Reachable dashboard ∧ dashboard.detail = some mounted ∧
      strictEqStr mounted.state.status "unknown" = false ∧
      PairFrom dashboard.snapshots mounted.mount mounted.state :=
  have reach := reachable_afterRun
    (by decide : (completedRunA.foldlM stepRendered initial).isSome = true)
  ⟨_, _, reach, rfl, by decide, displayed_pair_from_own_mount _ reach _ rfl⟩

/-- Open run `a`, switch to run `b` before `a`'s first snapshot arrives, then let it
arrive: request 3 is the snapshot request of mount 2 for run `a`. -/
def staleSnapshotRun : List Action :=
  openRunA ++ [.selectRun 1, .settle 3 (.response true (some snapshotA))]

/-- After `staleSnapshotRun` the view of run `b` shows run `a`'s snapshot, although no
snapshot of `b` has arrived: the displayed pair is neither the initial one nor that of a
response to a request for the selected run. -/
theorem stale_snapshot_shown_for_other_run :
    ¬ ∀ dashboard, Reachable dashboard → ∀ mounted, dashboard.detail = some mounted →
      (mounted.state.events = .arr [] ∧ mounted.state.status = some (.str "unknown")) ∨
        ∃ mount data, (mount, mounted.runId, data) ∈ dashboard.snapshots ∧
          mounted.state.events = jsOr (data.field "events") (.arr []) ∧
          mounted.state.status = data.field "status" := by
  intro fromSelectedRun
  obtain ⟨mounted, present⟩ : ∃ mounted, (afterRun staleSnapshotRun).detail = some mounted :=
    ⟨_, rfl⟩
  have shown : (afterRun staleSnapshotRun).detail.map
      (fun mounted => (mounted.runId, strictEqStr mounted.state.status "unknown")) =
      some ("b", false) := by
    decide
  have onlyA : (afterRun staleSnapshotRun).snapshots.map (fun entry => entry.2.1) = ["a"] := by
    decide
  simp only [present, Option.map_some', Option.some.injEq, Prod.mk.injEq] at shown
  rcases fromSelectedRun _ (reachable_afterRun (by decide)) mounted present with
    ⟨-, unknown⟩ | ⟨mount, data, recorded, -⟩
  · simp [unknown, strictEqStr] at shown
  · have runs := List.mem_map_of_mem (fun entry => entry.2.1) recorded
    simp [onlyA, shown.1] at runs

end Dashboard

/-! ## The last response to settle wins -/

/-- The `RunDetail` mount a request closed over. -/
def Request.detailMount : Request → Option Nat
  | .runDetails mount _ | .cancelRun mount _ | .submitInput mount _ _ => some mount
  | .runs | .agents | .runAgent _ => none

/-- The pair an `ok` snapshot body puts on screen, `data.events || []` and `data.status`,
or `none` for a `null` body, on which `fetchDetails` throws before it sets anything. -/
def snapshotPair (data : JsonValue) : Option (JsonValue × JsVal) :=
  match data with
  | .null => none
  | _ => some (jsOr (data.field "events") (.arr []), data.field "status")

/-- The pair a view of mount `mount` shows once the `ok` snapshot bodies `snapshots` have
settled in that order: that of the last body of the mount that applies, or the pair of
the first render. -/
def lastPair (snapshots : List (Nat × String × JsonValue)) (mount : Nat) :
    JsonValue × JsVal :=
  snapshots.foldl
    (fun pair entry => if entry.1 = mount then (snapshotPair entry.2.2).getD pair else pair)
    (DetailState.init.events, DetailState.init.status)

theorem lastPair_append (snapshots : List (Nat × String × JsonValue))
    (entry : Nat × String × JsonValue) (mount : Nat) :
    lastPair (snapshots ++ [entry]) mount =
      if entry.1 = mount then (snapshotPair entry.2.2).getD (lastPair snapshots mount)
      else lastPair snapshots mount := by
  simp only [lastPair, List.foldl_append, List.foldl_cons, List.foldl_nil]

theorem lastPair_of_absent {snapshots : List (Nat × String × JsonValue)} {mount : Nat}
    (absent : ∀ entry ∈ snapshots, entry.1 ≠ mount) :
    lastPair snapshots mount = (DetailState.init.events, DetailState.init.status) := by
  unfold lastPair
  induction snapshots with
  | nil => rfl
  | cons entry rest ih =>
      rw [List.foldl_cons, if_neg (absent entry (List.mem_cons_self _ _))]
      exact ih fun other found => absent other (List.mem_cons_of_mem _ found)

/-- An `ok` body that applies replaces the displayed pair. -/
theorem DetailState.detailsFetched_ok_pair (state : DetailState) (data : JsonValue) :
    ((state.detailsFetched (.response true (some data))).events,
        (state.detailsFetched (.response true (some data))).status) =
      (snapshotPair data).getD (state.events, state.status) := by
  cases data <;> rfl

namespace Dashboard

/-- Every mount id the dashboard holds is below `nextId`: the mounted view's, those the
requests in flight closed over and those of the recorded snapshots.  A view mounted under
`nextId` has no snapshot yet. -/
structure MountsBelow (dashboard : Dashboard) : Prop where
  detail : ∀ mounted, dashboard.detail = some mounted → mounted.mount < dashboard.nextId
  pending : ∀ entry ∈ dashboard.pending, ∀ mount, entry.2.detailMount = some mount →
    mount < dashboard.nextId
  snapshots : ∀ entry ∈ dashboard.snapshots, entry.1 < dashboard.nextId

theorem MountsBelow.issue {dashboard : Dashboard} (below : MountsBelow dashboard)
    {request : Request}
    (fresh : ∀ mount, request.detailMount = some mount → mount < dashboard.nextId) :
    MountsBelow (dashboard.issue request) where
  detail mounted present := Nat.lt_succ_of_lt (below.detail mounted present)
  pending := by
    simp only [issue_pending, issue_nextId, List.mem_append, List.mem_singleton]
    rintro entry (found | rfl) mount isMount
    · exact Nat.lt_succ_of_lt (below.pending entry found mount isMount)
    · exact Nat.lt_succ_of_lt (fresh mount isMount)
  snapshots entry found := Nat.lt_succ_of_lt (below.snapshots entry found)

theorem MountsBelow.runPollingEffect {dashboard : Dashboard} (below : MountsBelow dashboard)
    {mount : Nat} (mountBelow : mount < dashboard.nextId) (runId : String)
    (state : DetailState) : MountsBelow (dashboard.runPollingEffect mount runId state) := by
  have fetching : MountsBelow (dashboard.issue (.runDetails mount runId)) :=
    below.issue fun _ same => Option.some.inj same ▸ mountBelow
  refine ⟨fun mounted present => ?_, fun entry found other isMount =>
    Nat.lt_succ_of_lt (fetching.pending entry found other isMount), fun entry found =>
      Nat.lt_succ_of_lt (fetching.snapshots entry found)⟩
  cases present
  exact Nat.lt_succ_of_lt (Nat.lt_succ_of_lt mountBelow)

theorem MountsBelow.bump {dashboard : Dashboard} (below : MountsBelow dashboard) :
    MountsBelow { dashboard with nextId := dashboard.nextId + 1 } :=
  ⟨fun mounted present => Nat.lt_succ_of_lt (below.detail mounted present),
    fun entry found mount isMount => Nat.lt_succ_of_lt (below.pending entry found mount isMount),
    fun entry found => Nat.lt_succ_of_lt (below.snapshots entry found)⟩

theorem MountsBelow.clearInterval {dashboard : Dashboard} (below : MountsBelow dashboard)
    (timer : Nat) : MountsBelow (dashboard.clearInterval timer) :=
  ⟨below.detail, below.pending, below.snapshots⟩

theorem MountsBelow.updateDetail {dashboard : Dashboard} (below : MountsBelow dashboard)
    (mount : Nat) (update : DetailState → DetailState) :
    MountsBelow (dashboard.updateDetail mount update) := by
  unfold Dashboard.updateDetail
  split
  · split
    · rename_i mounted present _
      refine ⟨fun mounted' found => ?_, below.pending, below.snapshots⟩
      cases found
      exact below.detail mounted present
    · exact below
  · exact below

theorem MountsBelow.reconcile {dashboard : Dashboard} (below : MountsBelow dashboard) :
    MountsBelow dashboard.reconcile := by
  unfold Dashboard.reconcile
  split
  · exact below
  · exact ⟨fun _ found => (by cases found), below.pending, below.snapshots⟩
  · exact below.bump.runPollingEffect (Nat.lt_succ_self _) _ _
  · rename_i mounted _ present _
    split
    · exact below
    · exact (below.clearInterval _).runPollingEffect (below.detail mounted present) _ _

theorem MountsBelow.settleRequest {dashboard : Dashboard} (below : MountsBelow dashboard)
    {request : Request}
    (fresh : ∀ mount, request.detailMount = some mount → mount < dashboard.nextId)
    (outcome : FetchOutcome) : MountsBelow (dashboard.settleRequest outcome request) := by
  cases request with
  | runDetails mount runId =>
      simp only [Dashboard.settleRequest]
      refine MountsBelow.updateDetail ?_ _ _
      unfold recordSnapshot
      split
      · refine ⟨below.detail, below.pending, fun entry found => ?_⟩
        rcases List.mem_append.mp found with recorded | added
        · exact below.snapshots entry recorded
        · rw [List.mem_singleton.mp added]
          exact fresh mount rfl
      · exact below
  | cancelRun mount runId =>
      simp only [Dashboard.settleRequest]
      split
      · exact below.issue fresh
      · exact below
  | submitInput mount runId input =>
      have settled := below.updateDetail mount fun state => state.inputSettled outcome
      simp only [Dashboard.settleRequest]
      split
      · exact settled.issue fun other same => by simpa using fresh other same
      · exact settled
  | runs | agents | runAgent => exact ⟨below.detail, below.pending, below.snapshots⟩

theorem MountsBelow.step {dashboard next : Dashboard} {action : Action}
    (below : MountsBelow dashboard) (polling : Polling dashboard)
    (stepped : dashboard.step action = some next) : MountsBelow next := by
  have mountedBelow : ∀ {mounted : MountedDetail}, dashboard.detail = some mounted →
      ∀ mount, some mounted.mount = some mount → mount < dashboard.nextId :=
    fun present _ same => Option.some.inj same ▸ below.detail _ present
  cases transition_of_step stepped with
  | commit => exact MountsBelow.reconcile ⟨below.detail, below.pending, below.snapshots⟩
  | refreshRuns | runAgent =>
      refine MountsBelow.issue ?_ nofun
      exact ⟨below.detail, below.pending, below.snapshots⟩
  | cancel present => exact below.issue (mountedBelow present)
  | @typed mounted present =>
      exact ⟨fun _ found => (by cases found; exact below.detail mounted present), below.pending,
        below.snapshots⟩
  | @submitted mounted _ present =>
      refine MountsBelow.issue ?_ ?_
      · refine ⟨fun _ found => ?_, below.pending, below.snapshots⟩
        cases found
        exact below.detail mounted present
      · exact mountedBelow present
  | tick live =>
      obtain ⟨mounted, present, rfl⟩ := polling.poll_of_live live
      exact below.issue (mountedBelow present)
  | settle outcome pendingFound =>
      refine MountsBelow.settleRequest ?_ ?_ outcome
      · exact ⟨below.detail, fun entry found => below.pending entry (List.mem_of_mem_filter found),
          below.snapshots⟩
      · exact below.pending _ (mem_of_lookup pendingFound)
  | stream | unchanged => exact ⟨below.detail, below.pending, below.snapshots⟩

theorem mountsBelow_of_reachable {dashboard : Dashboard} (reach : Reachable dashboard) :
    MountsBelow dashboard := by
  induction reach with
  | initial =>
      refine ⟨fun _ present => (by cases present), ?_, fun _ found => (by cases found)⟩
      rintro entry found mount isMount
      simp only [initial, unmounted, issue, List.nil_append, List.singleton_append,
        List.mem_cons, List.mem_singleton, List.not_mem_nil, or_false] at found
      rcases found with rfl | rfl <;> cases isMount
  | step reach _ stepped ih => exact ih.step (polling_of_reachable reach) stepped

/-- Every mounted view shows the pair of the last applicable snapshot body of its mount. -/
def ShowsLast (dashboard : Dashboard) : Prop :=
  ∀ mounted, dashboard.detail = some mounted →
    (mounted.state.events, mounted.state.status) = lastPair dashboard.snapshots mounted.mount

theorem ShowsLast.updateDetail {dashboard : Dashboard} (shows : ShowsLast dashboard)
    {mount : Nat} {update : DetailState → DetailState}
    (keeps : ∀ state, ((update state).events, (update state).status) =
      (state.events, state.status)) :
    ShowsLast (dashboard.updateDetail mount update) := by
  intro mounted' found
  rw [updateDetail_snapshots]
  unfold Dashboard.updateDetail at found
  split at found
  · rename_i mounted present
    split at found
    · cases found
      exact (keeps mounted.state).trans (shows mounted present)
    · exact shows mounted' found
  · exact shows mounted' found

/-- Settling a snapshot request: an `ok` body joins the record as the last one of its
mount, and the mounted view of that mount shows it if it applies. -/
theorem ShowsLast.settleDetails {dashboard : Dashboard} (shows : ShowsLast dashboard)
    (mount : Nat) (runId : String) (outcome : FetchOutcome) :
    ShowsLast ((dashboard.recordSnapshot mount runId outcome).updateDetail mount
      fun state => state.detailsFetched outcome) := by
  match outcome with
  | .response true (some data) =>
      intro mounted' found
      rw [updateDetail_snapshots]
      show _ = lastPair (dashboard.snapshots ++ [(mount, runId, data)]) _
      rw [lastPair_append]
      cases present : dashboard.detail with
      | none =>
          rw [updateDetail_of_not_mounted (by simp [present])] at found
          simp [present] at found
      | some mounted =>
          by_cases sameMount : mounted.mount = mount
          · subst sameMount
            rw [updateDetail_of_mounted (by simpa using present)] at found
            cases found
            rw [if_pos rfl, ← shows mounted present]
            exact DetailState.detailsFetched_ok_pair _ _
          · rw [updateDetail_of_not_mounted (by simpa [present] using sameMount)] at found
            have found : dashboard.detail = some mounted' := found
            obtain rfl : mounted = mounted' := Option.some.inj (present.symm.trans found)
            rw [if_neg (Ne.symm sameMount)]
            exact shows mounted present
  | .rejected | .response false _ | .response true none =>
      exact ShowsLast.updateDetail shows fun _ => rfl

theorem ShowsLast.settleRequest {dashboard : Dashboard} (shows : ShowsLast dashboard)
    (outcome : FetchOutcome) (request : Request) :
    ShowsLast (dashboard.settleRequest outcome request) := by
  cases request with
  | runDetails mount runId => exact shows.settleDetails mount runId outcome
  | cancelRun => simp only [Dashboard.settleRequest]; split <;> exact shows
  | submitInput mount =>
      have settled : ShowsLast (dashboard.updateDetail mount fun state =>
          state.inputSettled outcome) :=
        shows.updateDetail fun state => by cases outcome <;> rfl
      simp only [Dashboard.settleRequest]
      split <;> exact settled
  | runs | agents | runAgent => exact shows

theorem ShowsLast.reconcile {dashboard : Dashboard} (shows : ShowsLast dashboard)
    (below : MountsBelow dashboard) : ShowsLast dashboard.reconcile := by
  intro mounted' found
  rw [reconcile_snapshots]
  unfold Dashboard.reconcile at found
  split at found
  · exact shows mounted' found
  · cases found
  · cases found
    exact (lastPair_of_absent fun entry recorded =>
      Nat.ne_of_lt (below.snapshots entry recorded)).symm
  · rename_i mounted _ present _
    split at found
    · exact shows mounted' found
    · cases found
      exact shows mounted present

theorem ShowsLast.step {dashboard next : Dashboard} {action : Action}
    (shows : ShowsLast dashboard) (below : MountsBelow dashboard)
    (stepped : dashboard.step action = some next) : ShowsLast next := by
  cases transition_of_step stepped with
  | commit => exact ShowsLast.reconcile shows ⟨below.detail, below.pending, below.snapshots⟩
  | @typed mounted present =>
      intro _ found
      cases found
      exact shows mounted present
  | @submitted mounted _ present _ submitted =>
      intro _ found
      cases found
      exact (DetailState.submitInput_pair submitted).trans (shows mounted present)
  | settle outcome =>
      refine ShowsLast.settleRequest ?_ outcome _
      exact shows
  | stream | refreshRuns | runAgent | cancel | unchanged | tick => exact shows

theorem showsLast_of_reachable {dashboard : Dashboard} (reach : Reachable dashboard) :
    ShowsLast dashboard := by
  induction reach with
  | initial => intro _ present; cases present
  | step reach _ stepped ih => exact ih.step (mountsBelow_of_reachable reach) stepped

/-- The last response to settle wins: in every reachable state a mounted `RunDetail` shows
the pair of the last `ok` snapshot body of its own mount to settle that applies (is not
`null`), in the order the responses came back, whichever run and whichever tick asked for
it, or the pair of its first render if none has.  So a late response to an earlier tick or
an earlier run overwrites the pair of a newer one. -/
theorem shows_last_settled_snapshot (dashboard : Dashboard) (reach : Reachable dashboard)
    (mounted : MountedDetail) (present : dashboard.detail = some mounted) :
    (mounted.state.events, mounted.state.status) = lastPair dashboard.snapshots mounted.mount :=
  showsLast_of_reachable reach mounted present

/-- Open run `a` and let its interval tick (request 5, for `a`); open run `b` and let its
first snapshot arrive (request 6); then the late answer to request 5 comes back. -/
def lateTickRun : List Action :=
  openRunA ++ [.tick 4, .selectRun 1,
    .settle 6 (.response true (some (.obj [("events", .arr []), ("status", .str "run_started")]))),
    .settle 5 (.response true (some snapshotA))]

theorem shows_last_settled_snapshot_lateTickRun :
    ∃ dashboard mounted, Reachable dashboard ∧ dashboard.detail = some mounted ∧
      mounted.runId = "b" ∧ strictEqStr mounted.state.status "run_completed" = true ∧
      (mounted.state.events, mounted.state.status) =
        lastPair dashboard.snapshots mounted.mount :=
  have reach := reachable_afterRun
    (by decide : (lateTickRun.foldlM stepRendered initial).isSome = true)
  ⟨_, _, reach, rfl, by decide, by decide, shows_last_settled_snapshot _ reach _ rfl⟩

end Dashboard

end ClawForge
