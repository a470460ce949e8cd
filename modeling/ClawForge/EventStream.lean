import ClawForge.Json

/-!
# The live event stream

`useEventStream` opens a WebSocket in a mount effect, prepends every message that parses
to a buffer of at most 100 events, tracks the connection in a flag, and closes its socket
in the effect's cleanup.  React may run the effect's mount and cleanup several times on
the same hook state, and the browser runs the `open`, message, closing-handshake and
`close` tasks of all the sockets created so far in any order it likes, subject only to
each socket's `readyState`.  This file models the hook, its sockets and React's queued state updates as
one state machine.
-/

namespace ClawForge

/-- The state of one `useState` hook: the value of the last render and the updates
queued since, oldest first.  React applies the queue, in call order, at the next render
of the component, batching whatever was queued in between; a plain `setState(value)`
queues the constant updater. -/
structure StateHook (α : Type) where
  rendered : α
  queue : List (α → α)

namespace StateHook

variable {α : Type}

/-- `useState(value)` on the first render. -/
def init (value : α) : StateHook α := ⟨value, []⟩

/-- `setState(update)`. -/
def enqueue (hook : StateHook α) (update : α → α) : StateHook α :=
  { hook with queue := hook.queue ++ [update] }

/-- The value the next render will see: the queued updates applied in call order. -/
def current (hook : StateHook α) : α :=
  hook.queue.foldl (fun value update => update value) hook.rendered

/-- A render: the queue is applied and emptied. -/
def render (hook : StateHook α) : StateHook α := ⟨hook.current, []⟩

@[simp]
theorem current_init (value : α) : (init value).current = value := rfl

@[simp]
theorem current_enqueue (hook : StateHook α) (update : α → α) :
    (hook.enqueue update).current = update hook.current := by
  simp [enqueue, current]

@[simp]
theorem current_render (hook : StateHook α) : hook.render.current = hook.current := rfl

@[simp]
theorem render_rendered (hook : StateHook α) : hook.render.rendered = hook.current := rfl

theorem rendered_eq_current_of_queue_nil {hook : StateHook α} (flushed : hook.queue = []) :
    hook.rendered = hook.current := by
  simp [current, flushed]

end StateHook

/-- The `readyState` of a browser `WebSocket`. -/
inductive ReadyState where
  | connecting
  | open
  | closing
  | closed
  deriving DecidableEq, Repr

/-- `socket.close()`: a socket that is connecting or open starts closing; its `close`
event comes later.  Closing an already closing or closed socket does nothing. -/
def ReadyState.close : ReadyState → ReadyState
  | .connecting | .open => .closing
  | other => other

/-- Whether a socket is between its `open` and its `close` event: open, or closing after
the server began the handshake. -/
def ReadyState.live : ReadyState → Bool
  | .open | .closing => true
  | .connecting | .closed => false

/-- The capacity of the live buffer, the `slice(0, 100)` of the message handler. -/
def liveCapacity : Nat := 100

/-- The functional update of the message handler,
`prev => [event, ...prev].slice(0, 100)`. -/
def prependEvent (event : JsonValue) (prev : List JsonValue) : List JsonValue :=
  (event :: prev).take liveCapacity

/-- The state of `useEventStream`: its `events` and `isConnected` hooks, the `ws` ref,
the `readyState` of every socket it has created (indexed by creation order), and the
socket of the effect instance currently mounted, which that instance's cleanup closes.
`delivered` records, in order, the result of `JSON.parse` on the data of every message
the browser dispatched to a socket's `onmessage`; the step that dispatches a message
writes it, not the handler, and it is a record for the proofs, not program state. -/
structure EventStream where
  events : StateHook (List JsonValue)
  isConnected : StateHook Bool
  ws : Option Nat
  sockets : List ReadyState
  mounted : Option Nat
  delivered : List (Option JsonValue)

/-- What can happen to the hook: React runs or cleans up its effect or renders it, or the
browser runs a task of a socket: `open`, a message, the start of a closing handshake the
server began (the socket turns `CLOSING`, no event fires), or `close`.  A message carries
the result of `JSON.parse` on its data, `none` for a `SyntaxError`; every result is the
parse of some string, so ranging over results ranges over all messages. -/
inductive StreamAction where
  | mount
  | cleanup
  | opened (socket : Nat)
  | message (socket : Nat) (parsed : Option JsonValue)
  | closing (socket : Nat)
  | closed (socket : Nat)
  | render

namespace EventStream

/-- The hook's state on the first render, before its effect has run. -/
def init : EventStream where
  events := .init []
  isConnected := .init false
  ws := none
  sockets := []
  mounted := none
  delivered := []

/-- The `readyState` of socket `socket`, if it has been created. -/
def readyState (stream : EventStream) (socket : Nat) : Option ReadyState :=
  stream.sockets[socket]?

/-- The effect body: `new WebSocket(wsUrl)`, then `ws.current = socket`. -/
def connect (stream : EventStream) : EventStream :=
  { stream with
    sockets := stream.sockets ++ [.connecting]
    ws := some stream.sockets.length
    mounted := some stream.sockets.length }

/-- The effect cleanup `socket.close()` of the mounted instance. -/
def disconnect (stream : EventStream) (socket : Nat) : EventStream :=
  { stream with
    sockets := stream.sockets.modify ReadyState.close socket
    mounted := none }

/-- `socket.onopen`: `setIsConnected(true)`. -/
def onOpen (stream : EventStream) : EventStream :=
  { stream with isConnected := stream.isConnected.enqueue fun _ => true }

/-- `socket.onclose`: `setIsConnected(false)`. -/
def onClose (stream : EventStream) : EventStream :=
  { stream with isConnected := stream.isConnected.enqueue fun _ => false }

/-- `socket.onmessage`: a message that parses is prepended to the buffer; one that
throws is logged and dropped. -/
def onMessage (stream : EventStream) : Option JsonValue → EventStream
  | some event => { stream with events := stream.events.enqueue (prependEvent event) }
  | none => stream

/-- The browser dispatches a message to `onmessage`, and the record notes it. -/
def dispatch (stream : EventStream) (parsed : Option JsonValue) : EventStream :=
  { stream.onMessage parsed with delivered := stream.delivered ++ [parsed] }

/-- A render of the component calling the hook: both hooks apply their queues. -/
def rerender (stream : EventStream) : EventStream :=
  { stream with events := stream.events.render, isConnected := stream.isConnected.render }

/-- Set the `readyState` of one socket. -/
def setReadyState (stream : EventStream) (socket : Nat) (state : ReadyState) :
    EventStream :=
  { stream with sockets := stream.sockets.set socket state }

@[simp] theorem connect_sockets (stream : EventStream) :
    stream.connect.sockets = stream.sockets ++ [.connecting] := rfl
@[simp] theorem connect_mounted (stream : EventStream) :
    stream.connect.mounted = some stream.sockets.length := rfl
@[simp] theorem disconnect_sockets (stream : EventStream) (socket : Nat) :
    (stream.disconnect socket).sockets = stream.sockets.modify ReadyState.close socket := rfl
@[simp] theorem disconnect_mounted (stream : EventStream) (socket : Nat) :
    (stream.disconnect socket).mounted = none := rfl
@[simp] theorem setReadyState_sockets (stream : EventStream) (socket : Nat) (state : ReadyState) :
    (stream.setReadyState socket state).sockets = stream.sockets.set socket state := rfl
@[simp] theorem setReadyState_mounted (stream : EventStream) (socket : Nat) (state : ReadyState) :
    (stream.setReadyState socket state).mounted = stream.mounted := rfl
@[simp] theorem onOpen_sockets (stream : EventStream) :
    stream.onOpen.sockets = stream.sockets := rfl
@[simp] theorem onOpen_mounted (stream : EventStream) :
    stream.onOpen.mounted = stream.mounted := rfl
@[simp] theorem onClose_sockets (stream : EventStream) :
    stream.onClose.sockets = stream.sockets := rfl
@[simp] theorem onClose_mounted (stream : EventStream) :
    stream.onClose.mounted = stream.mounted := rfl
@[simp] theorem dispatch_sockets (stream : EventStream) (parsed : Option JsonValue) :
    (stream.dispatch parsed).sockets = stream.sockets := by
  cases parsed <;> rfl
@[simp] theorem dispatch_mounted (stream : EventStream) (parsed : Option JsonValue) :
    (stream.dispatch parsed).mounted = stream.mounted := by
  cases parsed <;> rfl
@[simp] theorem dispatch_isConnected (stream : EventStream) (parsed : Option JsonValue) :
    (stream.dispatch parsed).isConnected = stream.isConnected := by
  cases parsed <;> rfl
@[simp] theorem dispatch_delivered (stream : EventStream) (parsed : Option JsonValue) :
    (stream.dispatch parsed).delivered = stream.delivered ++ [parsed] := rfl

/-- One transition of the hook; `none` when the event cannot happen in this state.  The
browser fires `open` only for a connecting socket, dispatches a message only to an open
socket (a frame reaching a socket in any other state is discarded), turns an open socket
`CLOSING` when the server starts the closing handshake, and fires `close` once for every
socket that is not yet closed, after the handshake or without one. -/
def step (stream : EventStream) : StreamAction → Option EventStream
  | .mount => if stream.mounted.isSome then none else some stream.connect
  | .cleanup => stream.mounted.map stream.disconnect
  | .opened socket =>
      if stream.readyState socket = some .connecting then
        some (stream.setReadyState socket .open).onOpen
      else none
  | .message socket parsed =>
      if stream.readyState socket = some .open then some (stream.dispatch parsed)
      else some stream
  | .closing socket =>
      if stream.readyState socket = some .open then some (stream.setReadyState socket .closing)
      else none
  | .closed socket =>
      match stream.readyState socket with
      | some .connecting | some .open | some .closing =>
          some (stream.setReadyState socket .closed).onClose
      | _ => none
  | .render => some stream.rerender

/-- The transitions of the hook, one constructor for each thing a step can do: the effect
runs or is cleaned up, a socket opens, an open socket dispatches a message, a frame
reaching a socket that is not open is discarded, the server starts closing an open socket,
a socket that is not yet closed fires `close`, or the component renders. -/
inductive Transition (stream : EventStream) : EventStream → Prop
  | mount (unmounted : stream.mounted = none) : Transition stream stream.connect
  | cleanup {socket : Nat} (mounted : stream.mounted = some socket) :
      Transition stream (stream.disconnect socket)
  | opened {socket : Nat} (connecting : stream.readyState socket = some .connecting) :
      Transition stream (stream.setReadyState socket .open).onOpen
  | message {socket : Nat} (isOpen : stream.readyState socket = some .open)
      (parsed : Option JsonValue) : Transition stream (stream.dispatch parsed)
  | discarded : Transition stream stream
  | closing {socket : Nat} (isOpen : stream.readyState socket = some .open) :
      Transition stream (stream.setReadyState socket .closing)
  | closed {socket : Nat} {state : ReadyState} (found : stream.readyState socket = some state)
      (notClosed : state ≠ .closed) :
      Transition stream (stream.setReadyState socket .closed).onClose
  | render : Transition stream stream.rerender

/-- Every step is one of the `Transition`s. -/
theorem transition_of_step {stream next : EventStream} {action : StreamAction}
    (stepped : stream.step action = some next) : Transition stream next := by
  cases action with
  | mount =>
      simp only [step] at stepped
      split at stepped
      · cases stepped
      · rename_i unmounted
        cases stepped
        exact .mount (by simpa using unmounted)
  | cleanup =>
      obtain ⟨socket, mounted, rfl⟩ := Option.map_eq_some'.mp stepped
      exact .cleanup mounted
  | opened socket =>
      simp only [step] at stepped
      split at stepped <;> cases stepped
      exact .opened ‹_›
  | message socket parsed =>
      simp only [step] at stepped
      split at stepped <;> cases stepped
      · exact .message ‹_› parsed
      · exact .discarded
  | closing socket =>
      simp only [step] at stepped
      split at stepped <;> cases stepped
      exact .closing ‹_›
  | closed socket =>
      simp only [step] at stepped
      split at stepped <;> cases stepped <;> exact .closed ‹_› (by decide)
  | render =>
      cases stepped
      exact .render

/-- What one dispatched message does to the buffer, the queued update folded in. -/
def receive (buffer : List JsonValue) : Option JsonValue → List JsonValue
  | some event => prependEvent event buffer
  | none => buffer

@[simp]
theorem dispatch_events_current (stream : EventStream) (parsed : Option JsonValue) :
    (stream.dispatch parsed).events.current = receive stream.events.current parsed := by
  cases parsed <;> simp [dispatch, onMessage, receive]

@[simp]
theorem dispatch_events_rendered (stream : EventStream) (parsed : Option JsonValue) :
    (stream.dispatch parsed).events.rendered = stream.events.rendered := by
  cases parsed <;> rfl

/-- A step either leaves the buffer and the delivered messages alone, a render showing
the buffer, or dispatches one message to `onmessage`, whose update only joins the
queue. -/
theorem step_events {stream next : EventStream} {action : StreamAction}
    (stepped : stream.step action = some next) :
    (next.events.current = stream.events.current ∧ next.delivered = stream.delivered ∧
      (next.events.rendered = stream.events.rendered ∨
        next.events.rendered = stream.events.current)) ∨
      ∃ parsed, next.events.current = receive stream.events.current parsed ∧
        next.delivered = stream.delivered ++ [parsed] ∧
        next.events.rendered = stream.events.rendered := by
  cases transition_of_step stepped with
  | message _ parsed => exact .inr ⟨parsed, by simp⟩
  | render => exact .inl ⟨rfl, rfl, .inr rfl⟩
  | mount | cleanup | opened | discarded | closing | closed => exact .inl ⟨rfl, rfl, .inl rfl⟩

/-- The states the hook can reach from its first render. -/
inductive Reachable : EventStream → Prop
  | init : Reachable init
  | step {stream next : EventStream} {action : StreamAction} :
      Reachable stream → stream.step action = some next → Reachable next

theorem reachable_of_run {stream next : EventStream} (reach : Reachable stream)
    {actions : List StreamAction} (ran : actions.foldlM step stream = some next) :
    Reachable next := by
  induction actions generalizing stream with
  | nil => cases ran; exact reach
  | cons action rest ih =>
      obtain ⟨middle, stepped, ran⟩ := Option.bind_eq_some.mp ran
      exact ih (reach.step stepped) ran

end EventStream

end ClawForge
