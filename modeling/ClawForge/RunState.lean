import ClawForge.Json

/-!
# The run-state reducer of the design

The design derives a run's lifecycle state from its event log with a table-driven reducer
(`RunStateResolver.resolve`): it starts in an unknown state, moves on the eight lifecycle
kinds, ignores every other kind, and never leaves a terminal state.  The dashboard's code
computes no such state, so this file follows the design's table, to compare the code's
controls with it.
-/

namespace ClawForge

/-- The lifecycle states of a run. -/
inductive RunState where
  | active
  | paused
  | awaitingInput
  | cancelled
  | completed
  | failed
  deriving DecidableEq, Repr

/-- `Cancelled`, `Completed` and `Failed` end a run. -/
def RunState.isTerminal : RunState → Bool
  | .cancelled | .completed | .failed => true
  | _ => false

/-- One row of the design's table; `none` is the unknown state before the first lifecycle
event. -/
def resolveStep (state : Option RunState) (kind : String) : Option RunState :=
  if state.any RunState.isTerminal then state
  else
    match kind with
    | "run_started" => some .active
    | "run_paused" => some .paused
    | "request_input" => some .awaitingInput
    | "input_received" | "resume" =>
        if state = some .paused ∨ state = some .awaitingInput then some .active else state
    | "run_completed" => some .completed
    | "run_failed" => some .failed
    | "run_cancelled" => some .cancelled
    | _ => state

/-- The kind of a logged value, when it has a string `kind`; anything else is ignored by
the reducer. -/
def kindOf (event : JsonValue) : Option String :=
  match event.field "kind" with
  | some (.str kind) => some kind
  | _ => none

/-- The events of a displayed log: an array's items, nothing otherwise. -/
def logOf : JsonValue → List JsonValue
  | .arr items => items
  | _ => []

/-- `resolve(events)`: the reducer over the log in arrival order. -/
def resolveRunState (events : JsonValue) : Option RunState :=
  (logOf events).foldl (fun state event => (kindOf event).elim state (resolveStep state)) none

end ClawForge
