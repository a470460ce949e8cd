import ClawForge.Json

/-!
# The event feed, the run list and the agent list

The three views that render lists the backend sends: `EventFeed` (the live feed and the
history of one run), `RunList` and `AgentList`, with the local state of the two lists and
what their `fetch` continuations do with a response.  Rendering is modelled as far as it
can throw: a view either renders or raises the `TypeError` its code hits first, which
React turns into an unmounted page.  A view's body runs first, reading fields, calling
methods and creating each item of a list with its key; React then reconciles what the
body returned and checks the children, so a bad key throws before a bad child.
-/

namespace ClawForge

/-- How a `fetch` settles: rejected (a network failure), or a response with its `ok` flag
and what `res.json()` yields on its body, `none` when the body is not JSON. -/
inductive FetchOutcome where
  | rejected
  | response (ok : Bool) (body : Option JsonValue)

/-- Run `render` on every item, stopping at the first exception (`Array.map` with an
item renderer). -/
def renderEach (render : JsonValue → Except TypeError Unit) :
    List JsonValue → Except TypeError Unit
  | [] => pure ()
  | item :: items => do render item; renderEach render items

/-- `list.length === 0 ? placeholder : list.map(create)` in a view's body: no items for a
list whose `length` is `0`, the items of an array, each created by `create`, and a
`TypeError` for anything else, which has no `map`. -/
def mapList (list : JsVal) (create : JsonValue → Except TypeError Unit) :
    Except TypeError (List JsonValue) := do
  let length ← lengthOf list
  if lengthIsZero length then pure []
  else
    match list with
    | some (.arr items) => do renderEach create items; pure items
    | _ => throw (.notAFunction "map")

/-- A list view: its body creates the items, then React, reconciling what the body
returned, checks the children of each item (`children`). -/
def renderList (list : JsVal) (create children : JsonValue → Except TypeError Unit) :
    Except TypeError Unit := do
  let items ← mapList list create
  renderEach children items

/-! ## EventFeed -/

/-- The values with an `includes` method: strings and arrays. -/
def hasIncludes : JsonValue → Bool
  | .str _ | .arr _ => true
  | _ => false

/-- `getEventIcon(kind)` calls `kind.includes`, and `formatKind(kind)` calls
`kind.split`, a method of strings only.  The icon and the label themselves are not
modelled. -/
def renderKind (kind : JsVal) : Except TypeError Unit := do
  callMethod kind "includes" hasIncludes
  callMethod kind "split" (isString ∘ some)

/-- One event of the feed, as `events.map` creates it: `event.kind` feeds the icon and the
label, the timestamp goes through `new Date(...)`, and React coerces the key `event.id` to
a string.  `toLocaleTimeString()` of an invalid date and `JSON.stringify` of a parsed
payload return strings without throwing, and no child of the item can be an object. -/
def renderEvent (event : JsonValue) : Except TypeError Unit := do
  let kind ← member (some event) "kind"
  renderKind kind
  toPrimitive (event.field "timestamp")
  toPrimitive (event.field "id")

/-- `EventFeed({ events })`: the body reads the count `{events.length}` and maps the
events, then React checks the count as a child. -/
def renderEventFeed (events : JsVal) : Except TypeError Unit := do
  let length ← lengthOf events
  let _ ← mapList events renderEvent
  renderChild length

/-! ## RunList -/

/-- The state of `RunList`: `runs` starts as `[]` and becomes whatever `data.runs` is. -/
structure RunListState where
  runs : JsVal
  loading : Bool

/-- `RunList` on its first render. -/
def RunListState.init : RunListState := ⟨some (.arr []), false⟩

/-- `fetchRuns` up to its `await`: `setLoading(true)`; the request is issued by the
caller. -/
def RunListState.fetchRuns (list : RunListState) : RunListState :=
  { list with loading := true }

/-- The rest of `fetchRuns` once the request settles: `setRuns(data.runs)` for any body
that parses, whatever `res.ok` says; a rejection, a body that is not JSON or a `null` body
only reach `finally`, which clears `loading`. -/
def RunListState.runsFetched (list : RunListState) : FetchOutcome → RunListState
  | .response _ (some data) =>
      match member (some data) "runs" with
      | .ok runs => { runs := runs, loading := false }
      | .error _ => { list with loading := false }
  | _ => { list with loading := false }

@[simp]
theorem RunListState.runsFetched_loading (list : RunListState) (outcome : FetchOutcome) :
    (list.runsFetched outcome).loading = false := by
  unfold runsFetched; split <;> (try split) <;> rfl

/-- One run of the list, as `runs.map` creates it: `run.run_id.split('-')` and
`run.status.replace('run_', '')`, then React coerces the key `run.run_id`. -/
def renderRun (run : JsonValue) : Except TypeError Unit := do
  let runId ← member (some run) "run_id"
  callMethod runId "split" (isString ∘ some)
  callMethod (run.field "status") "replace" (isString ∘ some)
  toPrimitive runId

/-- The child React checks in a run of the list: `{run.event_count}`. -/
def runChildren (run : JsonValue) : Except TypeError Unit :=
  renderChild (run.field "event_count")

/-- `RunList`'s list of runs. -/
def RunListState.render (list : RunListState) : Except TypeError Unit :=
  renderList list.runs renderRun runChildren

/-- The run id the `index`-th item of a rendered list passes to `onSelectRun`. -/
def RunListState.runIdAt (list : RunListState) (index : Nat) : Option String :=
  match list.runs with
  | some (.arr items) =>
      match items[index]? with
      | some run =>
          match run.field "run_id" with
          | some (.str runId) => some runId
          | _ => none
      | none => none
  | _ => none

/-! ## AgentList -/

/-- The state of `AgentList`: `agents` starts as `[]` and becomes whatever `data.agents`
is. -/
structure AgentListState where
  agents : JsVal
  loading : Bool

/-- `AgentList` on its first render. -/
def AgentListState.init : AgentListState := ⟨some (.arr []), false⟩

/-- The continuation of `fetchAgents`: `setAgents(data.agents)` for any body that parses;
everything else is caught and logged. -/
def AgentListState.agentsFetched (list : AgentListState) : FetchOutcome → AgentListState
  | .response _ (some data) =>
      match member (some data) "agents" with
      | .ok agents => { list with agents := agents }
      | .error _ => list
  | _ => list

@[simp]
theorem AgentListState.agentsFetched_loading (list : AgentListState) (outcome : FetchOutcome) :
    (list.agentsFetched outcome).loading = list.loading := by
  unfold agentsFetched; split <;> (try split) <;> rfl

/-- `runAgent` up to its `await`: `setLoading(true)`. -/
def AgentListState.runAgent (list : AgentListState) : AgentListState :=
  { list with loading := true }

/-- The alert `runAgent` shows once its request settles. -/
def runAgentAlert : FetchOutcome → String
  | .rejected => "Error triggering run"
  | .response true _ => "Run triggered successfully!"
  | .response false _ => "Failed to trigger run"

/-- The rest of `runAgent`: after the alert, `finally` clears `loading`. -/
def AgentListState.agentRan (list : AgentListState) : AgentListState :=
  { list with loading := false }

/-- One agent of the list, as `agents.map` creates it: it reads `agent.name` and
`agent.description`, then React coerces the key `agent.id`. -/
def renderAgent (agent : JsonValue) : Except TypeError Unit := do
  let _ ← member (some agent) "name"
  toPrimitive (agent.field "id")

/-- The children React checks in an agent of the list: `{agent.name}` and
`{agent.description}`. -/
def agentChildren (agent : JsonValue) : Except TypeError Unit := do
  renderChild (agent.field "name")
  renderChild (agent.field "description")

/-- `AgentList`'s list of agents. -/
def AgentListState.render (list : AgentListState) : Except TypeError Unit :=
  renderList list.agents renderAgent agentChildren

/-- The agent id the Run button of the `index`-th item passes to `runAgent`. -/
def AgentListState.agentIdAt (list : AgentListState) (index : Nat) : Option JsVal :=
  match list.agents with
  | some (.arr items) => items[index]?.map fun agent => agent.field "id"
  | _ => none

end ClawForge
