import ClawForge.Views

/-!
# The run detail view

`RunDetail` shows one run: it polls `/api/runs/{runId}` and keeps the last snapshot's
events and status, offers a Stop button unless the status names a finished run, and
offers an input prompt while `inputPrompt` is set.  Its handlers are `async` functions;
each is modelled as the part that runs before its `await`, which the caller pairs with
issuing the request, and the continuation that runs when the request settles.
-/

namespace ClawForge

/-- The local state of a mounted `RunDetail`.  `events` is always a value (`data.events
|| []` never yields `undefined`), `status` is whatever `data.status` was. -/
structure DetailState where
  events : JsonValue
  status : JsVal
  inputPrompt : Option String
  inputValue : String
  loading : Bool

namespace DetailState

/-- The state of a freshly mounted `RunDetail`. -/
def init : DetailState where
  events := .arr []
  status := some (.str "unknown")
  inputPrompt := none
  inputValue := ""
  loading := false

/-- The body of `fetchDetails` after `res.json()`: `setEvents(data.events || [])` and
`setStatus(data.status)`; reading a field of a `null` body throws before either update. -/
def applySnapshot (state : DetailState) (data : JsonValue) : Except TypeError DetailState := do
  let events ← member (some data) "events"
  let status ← member (some data) "status"
  pure { state with events := jsOr events (.arr []), status := status }

/-- The continuation of `fetchDetails`: a snapshot is applied only from an `ok` response
whose body parses; every other outcome, and a snapshot that throws, is caught and logged
and leaves the state alone. -/
def detailsFetched (state : DetailState) : FetchOutcome → DetailState
  | .response true (some data) =>
      match state.applySnapshot data with
      | .ok next => next
      | .error _ => state
  | _ => state

/-- `submitInput` up to its `await`: nothing happens while the typed value is empty;
otherwise `setLoading(true)` and the caller issues the POST of `inputValue`. -/
def submitInput (state : DetailState) : Option DetailState :=
  if state.inputValue.isEmpty then none else some { state with loading := true }

/-- The continuation of `submitInput`.  Any response, `ok` or not, clears the typed value
and the prompt (and calls `fetchDetails()`, see `refetchAfter`); a rejection is logged.
`finally` clears `loading` in both cases. -/
def inputSettled (state : DetailState) : FetchOutcome → DetailState
  | .response _ _ => { state with inputValue := "", inputPrompt := none, loading := false }
  | .rejected => { state with loading := false }

/-- Whether the continuation of `cancelRun` or `submitInput` calls `fetchDetails()`: it
does after any response, `ok` or not, and not after a rejection, which is logged. -/
def refetchAfter : FetchOutcome → Bool
  | .response _ _ => true
  | .rejected => false

/-- The Stop button is rendered unless the status is one of the three finished
statuses the component names. -/
def stopOffered (state : DetailState) : Bool :=
  !strictEqStr state.status "RunCompleted" && !strictEqStr state.status "RunFailed" &&
    !strictEqStr state.status "Cancelled"

/-- The input prompt, its text box and its Send button are rendered while `inputPrompt`
is truthy. -/
def promptOffered (state : DetailState) : Bool :=
  match state.inputPrompt with
  | some prompt => !prompt.isEmpty
  | none => false

/-- `RunDetail`'s render: the child `Status: {status}`, then the event feed; the run id,
the prompt text and the typed value are strings. -/
def render (state : DetailState) : Except TypeError Unit := do
  renderChild state.status
  renderEventFeed (some state.events)

/-- A snapshot that applies sets the displayed pair from the body and nothing else. -/
theorem applySnapshot_eq_ok {state next : DetailState} {data : JsonValue}
    (applied : state.applySnapshot data = .ok next) :
    next = { state with events := jsOr (data.field "events") (.arr []),
                        status := data.field "status" } := by
  cases data <;> simp only [applySnapshot, member, bind, Except.bind, pure, Except.pure,
    Except.ok.injEq, reduceCtorEq] at applied <;> exact applied.symm

/-- `fetchDetails` either leaves the displayed pair alone or shows the pair of the `ok`
body it read. -/
theorem detailsFetched_pair (state : DetailState) (outcome : FetchOutcome) :
    state.detailsFetched outcome = state ∨
      ∃ data, outcome = .response true (some data) ∧
        state.detailsFetched outcome =
          { state with events := jsOr (data.field "events") (.arr []),
                       status := data.field "status" } := by
  unfold detailsFetched
  split
  · rename_i data
    split
    · exact .inr ⟨data, rfl, applySnapshot_eq_ok ‹_›⟩
    · exact .inl rfl
  · exact .inl rfl

/-- `submitInput` leaves the displayed pair alone. -/
theorem submitInput_pair {state next : DetailState} (submitted : state.submitInput = some next) :
    (next.events, next.status) = (state.events, state.status) := by
  unfold submitInput at submitted
  split at submitted
  · cases submitted
  · cases submitted
    rfl

@[simp]
theorem detailsFetched_inputPrompt (state : DetailState) (outcome : FetchOutcome) :
    (state.detailsFetched outcome).inputPrompt = state.inputPrompt := by
  rcases detailsFetched_pair state outcome with same | ⟨data, -, fetched⟩ <;> simp [*]

end DetailState

end ClawForge
