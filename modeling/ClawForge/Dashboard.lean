import ClawForge.EventStream
import ClawForge.RunDetail

/-!
# The dashboard as one state machine

`App` composes the live stream, the run and agent lists and, in history mode, a
`RunDetail` for the selected run.  The dashboard is one state machine over everything
these components keep: their React state, the requests in flight, the browser's timer
calls, the alerts shown and the stream hook.  A step is one task of the browser's event
loop: a user interaction with something on screen, a timer tick, a request settling, or
an event of the stream.  React renders the updates one task makes to `App`, `RunDetail`
and the lists together, and runs the effects of that render before the next task (clicks
are discrete events); only the stream hook's queue is left to a later render, as its own
file describes.
-/

namespace ClawForge

/-- App's `viewMode`. -/
inductive ViewMode where
  | live
  | history
  deriving DecidableEq, Repr

/-- A request in flight, named by the handler that issued it, with what its continuation
closed over: the `RunDetail` mount, the `runId` prop of the render the handler came from,
and the typed value.  `fetchDetails` sends `GET /api/runs/{runId}`, `cancelRun` sends
`POST /api/runs/{runId}/cancel`, `submitInput` sends `POST /api/runs/{runId}/input` with
the body `{ input }`, `fetchRuns` sends `GET /api/runs`, `fetchAgents` sends
`GET /api/agents` and `runAgent` sends `POST /api/agents/{id}/run`. -/
inductive Request where
  | runDetails (mount : Nat) (runId : String)
  | cancelRun (mount : Nat) (runId : String)
  | submitInput (mount : Nat) (runId : String) (input : String)
  | runs
  | agents
  | runAgent (agentId : JsVal)

/-- Whether a request is the input POST of `submitInput`. -/
def Request.isInputPost : Request → Bool
  | .submitInput .. => true
  | _ => false

/-- The callback of a `setInterval(fetchDetails, 2000)`: the `fetchDetails` of the mount
and the run its effect closed over. -/
structure Poll where
  mount : Nat
  runId : String
  deriving DecidableEq, Repr

/-- A call of the browser's timer API. -/
inductive TimerCall where
  | setInterval (timer : Nat) (poll : Poll)
  | clearInterval (timer : Nat)
  deriving DecidableEq, Repr

/-- What one timer call does to the live intervals. -/
def TimerCall.apply (live : List (Nat × Poll)) : TimerCall → List (Nat × Poll)
  | .setInterval timer poll => (timer, poll) :: live
  | .clearInterval timer => live.filter fun entry => entry.1 != timer

/-- The intervals live after a sequence of timer calls, newest first. -/
def liveIntervals (calls : List TimerCall) : List (Nat × Poll) :=
  calls.foldl TimerCall.apply []

/-- A mounted `RunDetail`: which mount it is, its `runId` prop, its state, and the interval
its polling effect created, which the effect's cleanup clears. -/
structure MountedDetail where
  mount : Nat
  runId : String
  state : DetailState
  timer : Nat

/-- The dashboard.  `timerCalls` is every `setInterval` and `clearInterval` call made, in
order; `nextId` hands out fresh request, timer and mount ids.  `issued` and `snapshots`
are records for the proofs, not program state: every request issued, and every `ok`
snapshot body `fetchDetails` read, with the mount and run of its request. -/
structure Dashboard where
  stream : EventStream
  viewMode : ViewMode
  activeRunId : Option String
  detail : Option MountedDetail
  runList : RunListState
  agentList : AgentListState
  pending : List (Nat × Request)
  timerCalls : List TimerCall
  alerts : List String
  nextId : Nat
  issued : List Request
  snapshots : List (Nat × String × JsonValue)

/-- What can happen: an event of the stream, a click or key press on something rendered,
a timer firing, or a request settling. -/
inductive Action where
  | stream (action : StreamAction)
  | openLiveFeed
  | selectRun (index : Nat)
  | refreshRuns
  | runAgent (index : Nat)
  | clickStop (confirmed : Bool)
  | typeInput (value : String)
  | pressEnter
  | clickSend
  | tick (timer : Nat)
  | settle (request : Nat) (outcome : FetchOutcome)

namespace Dashboard

/-- Issue a request: it joins the requests in flight under a fresh id. -/
@[simps]
def issue (dashboard : Dashboard) (request : Request) : Dashboard :=
  { dashboard with
    pending := dashboard.pending ++ [(dashboard.nextId, request)]
    issued := dashboard.issued ++ [request]
    nextId := dashboard.nextId + 1 }

/-- `setInterval(fetchDetails, 2000)`, under the fresh timer id `nextId`. -/
@[simps]
def setInterval (dashboard : Dashboard) (poll : Poll) : Dashboard :=
  { dashboard with
    timerCalls := dashboard.timerCalls ++ [.setInterval dashboard.nextId poll]
    nextId := dashboard.nextId + 1 }

/-- `clearInterval(timer)`. -/
@[simps]
def clearInterval (dashboard : Dashboard) (timer : Nat) : Dashboard :=
  { dashboard with timerCalls := dashboard.timerCalls ++ [.clearInterval timer] }

/-- The polling effect of a `RunDetail` mount showing `runId`: `fetchDetails()` issues its
request, then `setInterval` starts the poll. -/
@[simps]
def runPollingEffect (dashboard : Dashboard) (mount : Nat) (runId : String)
    (state : DetailState) : Dashboard :=
  let fetching := dashboard.issue (.runDetails mount runId)
  { fetching.setInterval ⟨mount, runId⟩ with
    detail := some ⟨mount, runId, state, fetching.nextId⟩ }

/-- The run App renders a `RunDetail` for: `activeRunId && <RunDetail runId={activeRunId} />`
in history mode, where an empty id is falsy. -/
def shownRun (dashboard : Dashboard) : Option String :=
  match dashboard.viewMode, dashboard.activeRunId with
  | .history, some runId => if runId.isEmpty then none else some runId
  | _, _ => none

@[simp] theorem clearInterval_shownRun (dashboard : Dashboard) (timer : Nat) :
    (dashboard.clearInterval timer).shownRun = dashboard.shownRun := rfl
@[simp] theorem runPollingEffect_shownRun (dashboard : Dashboard) (mount : Nat)
    (runId : String) (state : DetailState) :
    (dashboard.runPollingEffect mount runId state).shownRun = dashboard.shownRun := rfl

/-- Reconcile the `RunDetail` slot after App renders.  The element has no `key`, so a new
`runId` keeps the mounted component and its state and only re-runs the polling effect,
cleanup first; leaving history mode unmounts it, and entering it mounts a fresh one. -/
def reconcile (dashboard : Dashboard) : Dashboard :=
  match dashboard.detail, dashboard.shownRun with
  | none, none => dashboard
  | some mounted, none => { dashboard.clearInterval mounted.timer with detail := none }
  | none, some runId =>
      { dashboard with nextId := dashboard.nextId + 1 }.runPollingEffect dashboard.nextId
        runId .init
  | some mounted, some runId =>
      if mounted.runId = runId then dashboard
      else (dashboard.clearInterval mounted.timer).runPollingEffect mounted.mount runId
        mounted.state

@[simp] theorem reconcile_stream (dashboard : Dashboard) :
    dashboard.reconcile.stream = dashboard.stream := by
  unfold reconcile; split <;> (try split) <;> rfl

@[simp] theorem reconcile_snapshots (dashboard : Dashboard) :
    dashboard.reconcile.snapshots = dashboard.snapshots := by
  unfold reconcile; split <;> (try split) <;> rfl

/-- App's state changed: App renders, which also applies the stream hook's queues, and
its children are reconciled. -/
def commitApp (dashboard : Dashboard) : Dashboard :=
  { dashboard with stream := dashboard.stream.rerender }.reconcile

/-- A state update of the `RunDetail` mount `mount`; React ignores it once that mount is
gone. -/
def updateDetail (dashboard : Dashboard) (mount : Nat) (update : DetailState → DetailState) :
    Dashboard :=
  match dashboard.detail with
  | some mounted =>
      if mounted.mount = mount then
        { dashboard with detail := some { mounted with state := update mounted.state } }
      else dashboard
  | none => dashboard

@[simp] theorem updateDetail_issued (dashboard : Dashboard) (mount : Nat)
    (update : DetailState → DetailState) :
    (dashboard.updateDetail mount update).issued = dashboard.issued := by
  unfold updateDetail; split <;> (try split) <;> rfl
@[simp] theorem updateDetail_snapshots (dashboard : Dashboard) (mount : Nat)
    (update : DetailState → DetailState) :
    (dashboard.updateDetail mount update).snapshots = dashboard.snapshots := by
  unfold updateDetail; split <;> (try split) <;> rfl
@[simp] theorem updateDetail_alerts (dashboard : Dashboard) (mount : Nat)
    (update : DetailState → DetailState) :
    (dashboard.updateDetail mount update).alerts = dashboard.alerts := by
  unfold updateDetail; split <;> (try split) <;> rfl
@[simp] theorem updateDetail_pending (dashboard : Dashboard) (mount : Nat)
    (update : DetailState → DetailState) :
    (dashboard.updateDetail mount update).pending = dashboard.pending := by
  unfold updateDetail; split <;> (try split) <;> rfl
@[simp] theorem updateDetail_agentList (dashboard : Dashboard) (mount : Nat)
    (update : DetailState → DetailState) :
    (dashboard.updateDetail mount update).agentList = dashboard.agentList := by
  unfold updateDetail; split <;> (try split) <;> rfl
@[simp] theorem updateDetail_stream (dashboard : Dashboard) (mount : Nat)
    (update : DetailState → DetailState) :
    (dashboard.updateDetail mount update).stream = dashboard.stream := by
  unfold updateDetail; split <;> (try split) <;> rfl
@[simp] theorem updateDetail_runList (dashboard : Dashboard) (mount : Nat)
    (update : DetailState → DetailState) :
    (dashboard.updateDetail mount update).runList = dashboard.runList := by
  unfold updateDetail; split <;> (try split) <;> rfl
@[simp] theorem updateDetail_viewMode (dashboard : Dashboard) (mount : Nat)
    (update : DetailState → DetailState) :
    (dashboard.updateDetail mount update).viewMode = dashboard.viewMode := by
  unfold updateDetail; split <;> (try split) <;> rfl
@[simp] theorem updateDetail_nextId (dashboard : Dashboard) (mount : Nat)
    (update : DetailState → DetailState) :
    (dashboard.updateDetail mount update).nextId = dashboard.nextId := by
  unfold updateDetail; split <;> (try split) <;> rfl

theorem updateDetail_of_not_mounted {dashboard : Dashboard} {mount : Nat}
    (other : dashboard.detail.map MountedDetail.mount ≠ some mount)
    (update : DetailState → DetailState) : dashboard.updateDetail mount update = dashboard := by
  unfold updateDetail
  split
  · rename_i mounted present
    rw [present] at other
    exact if_neg fun same => other (congrArg some same)
  · rfl

theorem updateDetail_of_mounted {dashboard : Dashboard} {mounted : MountedDetail}
    (present : dashboard.detail = some mounted) (update : DetailState → DetailState) :
    dashboard.updateDetail mounted.mount update =
      { dashboard with detail := some { mounted with state := update mounted.state } } := by
  simp [updateDetail, present]

/-- Keep the body of an `ok` snapshot response in the record. -/
def recordSnapshot (dashboard : Dashboard) (mount : Nat) (runId : String) :
    FetchOutcome → Dashboard
  | .response true (some data) =>
      { dashboard with snapshots := dashboard.snapshots ++ [(mount, runId, data)] }
  | _ => dashboard

@[simp] theorem recordSnapshot_detail (dashboard : Dashboard) (mount : Nat) (runId : String)
    (outcome : FetchOutcome) :
    (dashboard.recordSnapshot mount runId outcome).detail = dashboard.detail := by
  unfold recordSnapshot; split <;> rfl
@[simp] theorem recordSnapshot_issued (dashboard : Dashboard) (mount : Nat) (runId : String)
    (outcome : FetchOutcome) :
    (dashboard.recordSnapshot mount runId outcome).issued = dashboard.issued := by
  unfold recordSnapshot; split <;> rfl
@[simp] theorem recordSnapshot_alerts (dashboard : Dashboard) (mount : Nat) (runId : String)
    (outcome : FetchOutcome) :
    (dashboard.recordSnapshot mount runId outcome).alerts = dashboard.alerts := by
  unfold recordSnapshot; split <;> rfl
@[simp] theorem recordSnapshot_pending (dashboard : Dashboard) (mount : Nat) (runId : String)
    (outcome : FetchOutcome) :
    (dashboard.recordSnapshot mount runId outcome).pending = dashboard.pending := by
  unfold recordSnapshot; split <;> rfl
@[simp] theorem recordSnapshot_agentList (dashboard : Dashboard) (mount : Nat) (runId : String)
    (outcome : FetchOutcome) :
    (dashboard.recordSnapshot mount runId outcome).agentList = dashboard.agentList := by
  unfold recordSnapshot; split <;> rfl
@[simp] theorem recordSnapshot_stream (dashboard : Dashboard) (mount : Nat) (runId : String)
    (outcome : FetchOutcome) :
    (dashboard.recordSnapshot mount runId outcome).stream = dashboard.stream := by
  unfold recordSnapshot; split <;> rfl
@[simp] theorem recordSnapshot_runList (dashboard : Dashboard) (mount : Nat) (runId : String)
    (outcome : FetchOutcome) :
    (dashboard.recordSnapshot mount runId outcome).runList = dashboard.runList := by
  unfold recordSnapshot; split <;> rfl
@[simp] theorem recordSnapshot_viewMode (dashboard : Dashboard) (mount : Nat) (runId : String)
    (outcome : FetchOutcome) :
    (dashboard.recordSnapshot mount runId outcome).viewMode = dashboard.viewMode := by
  unfold recordSnapshot; split <;> rfl
@[simp] theorem recordSnapshot_nextId (dashboard : Dashboard) (mount : Nat) (runId : String)
    (outcome : FetchOutcome) :
    (dashboard.recordSnapshot mount runId outcome).nextId = dashboard.nextId := by
  unfold recordSnapshot; split <;> rfl

/-- The continuation of a request that settled with `outcome`. -/
def settleRequest (dashboard : Dashboard) (outcome : FetchOutcome) : Request → Dashboard
  | .runDetails mount runId =>
      (dashboard.recordSnapshot mount runId outcome).updateDetail mount
        fun state => state.detailsFetched outcome
  | .cancelRun mount runId =>
      if DetailState.refetchAfter outcome then dashboard.issue (.runDetails mount runId)
      else dashboard
  | .submitInput mount runId _ =>
      let settled := dashboard.updateDetail mount fun state => state.inputSettled outcome
      if DetailState.refetchAfter outcome then settled.issue (.runDetails mount runId)
      else settled
  | .runs => { dashboard with runList := dashboard.runList.runsFetched outcome }
  | .agents => { dashboard with agentList := dashboard.agentList.agentsFetched outcome }
  | .runAgent _ =>
      { dashboard with
        alerts := dashboard.alerts ++ [runAgentAlert outcome]
        agentList := dashboard.agentList.agentRan }

@[simp] theorem settleRequest_stream (dashboard : Dashboard) (outcome : FetchOutcome)
    (request : Request) : (dashboard.settleRequest outcome request).stream = dashboard.stream := by
  cases request <;> simp only [settleRequest] <;> (try split) <;> simp

/-- The Enter key and the Send button of the prompt both call `submitInput`; the button is
`disabled={loading}`, the key handler is not. -/
def submitFromPrompt (dashboard : Dashboard) (viaButton : Bool) : Option Dashboard :=
  match dashboard.detail with
  | some mounted =>
      if mounted.state.promptOffered && !(viaButton && mounted.state.loading) then
        some <| match mounted.state.submitInput with
          | some state =>
              { dashboard with detail := some { mounted with state := state } }.issue
                (.submitInput mounted.mount mounted.runId mounted.state.inputValue)
          | none => dashboard
      else none
  | none => none

/-- One step; `none` when the action cannot happen (nothing to click, no such timer or
request, or an impossible socket event). -/
def step (dashboard : Dashboard) : Action → Option Dashboard
  | .stream action => (dashboard.stream.step action).map fun stream => { dashboard with stream }
  | .openLiveFeed => some { dashboard with viewMode := .live, activeRunId := none }.commitApp
  | .selectRun index =>
      (dashboard.runList.runIdAt index).map fun runId =>
        { dashboard with activeRunId := some runId, viewMode := .history }.commitApp
  | .refreshRuns => some ({ dashboard with runList := dashboard.runList.fetchRuns }.issue .runs)
  | .runAgent index =>
      if dashboard.agentList.loading then none
      else (dashboard.agentList.agentIdAt index).map fun agentId =>
        { dashboard with agentList := dashboard.agentList.runAgent }.issue (.runAgent agentId)
  | .clickStop confirmed =>
      match dashboard.detail with
      | some mounted =>
          if mounted.state.stopOffered then
            some (if confirmed then dashboard.issue (.cancelRun mounted.mount mounted.runId)
              else dashboard)
          else none
      | none => none
  | .typeInput value =>
      match dashboard.detail with
      | some mounted =>
          if mounted.state.promptOffered then
            some { dashboard with
              detail := some { mounted with state := { mounted.state with inputValue := value } } }
          else none
      | none => none
  | .pressEnter => dashboard.submitFromPrompt false
  | .clickSend => dashboard.submitFromPrompt true
  | .tick timer =>
      ((liveIntervals dashboard.timerCalls).lookup timer).map fun poll =>
        dashboard.issue (.runDetails poll.mount poll.runId)
  | .settle request outcome =>
      (dashboard.pending.lookup request).map fun found =>
        { dashboard with pending := dashboard.pending.filter fun entry => entry.1 != request
        }.settleRequest outcome found

theorem mem_of_lookup {pending : List (Nat × Request)} {request : Nat} {found : Request}
    (pendingFound : pending.lookup request = some found) : (request, found) ∈ pending := by
  obtain ⟨before, after, rfl, -⟩ := List.lookup_eq_some_iff.mp pendingFound
  exact List.mem_append_right _ (List.mem_cons_self _ _)

/-- App's render: the two lists of the sidebar, then the live feed or the run detail. -/
def render (dashboard : Dashboard) : Except TypeError Unit := do
  dashboard.runList.render
  dashboard.agentList.render
  match dashboard.viewMode with
  | .live => renderEventFeed (some (.arr dashboard.stream.events.rendered))
  | .history =>
      match dashboard.detail with
      | some mounted => mounted.state.render
      | none => pure ()

/-- Whether App renders without throwing; a page that throws is unmounted and takes no
further input. -/
def renders (dashboard : Dashboard) : Bool := dashboard.render.isOk

/-- The dashboard before its first effects run. -/
def unmounted : Dashboard where
  stream := .init
  viewMode := .live
  activeRunId := none
  detail := none
  runList := .init
  agentList := .init
  pending := []
  timerCalls := []
  alerts := []
  nextId := 0
  issued := []
  snapshots := []

/-- The dashboard after its first render's effects: `RunList` runs `fetchRuns`,
`AgentList` runs `fetchAgents`, and `useEventStream` opens its socket. -/
def initial : Dashboard :=
  { ({ unmounted with runList := unmounted.runList.fetchRuns }.issue .runs).issue .agents with
    stream := EventStream.init.connect }

/-- The states the dashboard reaches from its first render, never stepping from a page
that failed to render. -/
inductive Reachable : Dashboard → Prop
  | initial : Reachable initial
  | step {dashboard next : Dashboard} {action : Action} :
      Reachable dashboard → dashboard.renders = true → dashboard.step action = some next →
        Reachable next

/-- A step taken only from a page that renders. -/
def stepRendered (dashboard : Dashboard) (action : Action) : Option Dashboard :=
  if dashboard.renders then dashboard.step action else none

theorem reachable_of_run {dashboard next : Dashboard} (reach : Reachable dashboard)
    {actions : List Action} (ran : actions.foldlM stepRendered dashboard = some next) :
    Reachable next := by
  induction actions generalizing dashboard with
  | nil => cases ran; exact reach
  | cons action rest ih =>
      obtain ⟨middle, stepped, ran⟩ := Option.bind_eq_some.mp ran
      simp only [stepRendered] at stepped
      split at stepped
      · exact ih (reach.step ‹_› stepped) ran
      · cases stepped

/-- The dashboard after a run of actions from the first render, each taken from a page
that renders (the first render itself when some action of the run cannot happen). -/
def afterRun (actions : List Action) : Dashboard :=
  (actions.foldlM stepRendered initial).getD initial

theorem reachable_afterRun {actions : List Action}
    (possible : (actions.foldlM stepRendered initial).isSome = true) :
    Reachable (afterRun actions) := by
  unfold afterRun
  cases ran : actions.foldlM stepRendered initial with
  | none => simp [ran] at possible
  | some dashboard => exact reachable_of_run .initial ran

end Dashboard

end ClawForge
