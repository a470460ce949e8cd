import ClawForge.EventStream

/-!
# The live buffer and the ownership of sockets

Facts about `useEventStream` over every run of the hook.  Its buffer is always the last
hundred events that parsed, newest first, whichever renders React interleaved with the
messages, and a render shows that buffer as it stood after some prefix of the messages.
A socket of an earlier effect run is closing or closed, so a frame reaching it changes
nothing.  The connection flag is right while the effect's first run is mounted, true from
its socket's `open` event to its `close` event, but it is written by every socket's
handlers, so after a second run a late `close` of the torn-down socket clears it while the
newest socket is open.
-/

namespace ClawForge

namespace EventStream

/-- The events of the dispatched messages that parse, the ones `onmessage` should accept,
in arrival order. -/
def accepted (stream : EventStream) : List JsonValue := stream.delivered.filterMap id

/-- The buffer the design asks for: the accepted events, newest first, cut to the
capacity. -/
def expectedBuffer (accepted : List JsonValue) : List JsonValue :=
  accepted.reverse.take liveCapacity

theorem expectedBuffer_append (delivered : List (Option JsonValue)) (parsed : Option JsonValue) :
    expectedBuffer ((delivered ++ [parsed]).filterMap id) =
      receive (expectedBuffer (delivered.filterMap id)) parsed := by
  cases parsed <;> simp [expectedBuffer, receive, prependEvent, liveCapacity, List.take_take]

theorem events_current_of_reachable {stream : EventStream} (reach : Reachable stream) :
    stream.events.current = expectedBuffer stream.accepted := by
  induction reach with
  | init => rfl
  | step _ stepped ih =>
      rcases step_events stepped with
        ⟨events, delivered, -⟩ | ⟨parsed, events, delivered, -⟩
      · rw [events, ih, accepted, accepted, delivered]
      · rw [events, ih, accepted, accepted, delivered, expectedBuffer_append]

/-- What the hook's last render shows is the buffer of the messages handled up to that
render: a render never shows part of a message's update. -/
theorem rendered_of_reachable {stream : EventStream} (reach : Reachable stream) :
    ∃ shown, shown <+: stream.delivered ∧
      stream.events.rendered = expectedBuffer (shown.filterMap id) := by
  induction reach with
  | init => exact ⟨[], List.nil_prefix, rfl⟩
  | step reach stepped ih =>
      obtain ⟨shown, isPrefix, shows⟩ := ih
      rcases step_events stepped with
        ⟨-, delivered, kept | flushed⟩ | ⟨parsed, -, delivered, kept⟩
      · exact ⟨shown, delivered ▸ isPrefix, kept ▸ shows⟩
      · refine ⟨_, List.prefix_refl _, ?_⟩
        rw [flushed, events_current_of_reachable reach, accepted, delivered]
      · exact ⟨shown, delivered ▸ isPrefix.trans (List.prefix_append _ _), kept ▸ shows⟩

theorem step_message_none_events {stream next : EventStream} {socket : Nat}
    (stepped : stream.step (.message socket none) = some next) :
    next.events = stream.events := by
  simp only [step] at stepped
  split at stepped <;> cases stepped <;> rfl

/-- Whatever renders React interleaves with the messages, the buffer is the last hundred
accepted events, newest first, and it is what a render shows once the queue is applied;
a message that does not parse leaves the hook's buffer state untouched. -/
theorem liveBuffer_eq_recent_accepted :
    (∀ stream, Reachable stream →
      stream.events.current = expectedBuffer stream.accepted ∧
      (stream.events.queue = [] → stream.events.rendered = expectedBuffer stream.accepted) ∧
      stream.events.current.length = min liveCapacity stream.accepted.length) ∧
    ∀ (stream next : EventStream) (socket : Nat),
      stream.step (.message socket none) = some next → next.events = stream.events := by
  refine ⟨fun stream reach => ?_, fun _ _ _ => step_message_none_events⟩
  have current := events_current_of_reachable reach
  refine ⟨current, fun flushed => ?_, ?_⟩
  · rw [StateHook.rendered_eq_current_of_queue_nil flushed, current]
  · simp [current, expectedBuffer]

/-- Every socket but the mounted instance's is closing or closed, and the mounted socket
is the newest one. -/
structure Owned (sockets : List ReadyState) (mounted : Option Nat) : Prop where
  others_closing : ∀ socket state, sockets[socket]? = some state →
    mounted ≠ some socket → state = .closing ∨ state = .closed
  mounted_newest : ∀ socket, mounted = some socket → socket + 1 = sockets.length

theorem ReadyState.close_closing (state : ReadyState) :
    state.close = .closing ∨ state.close = .closed := by
  cases state <;> simp [ReadyState.close]

theorem Owned.set {sockets : List ReadyState} {mounted : Option Nat}
    (owned : Owned sockets mounted) {socket : Nat} {state : ReadyState}
    (allowed : mounted = some socket ∨ state = .closed) :
    Owned (sockets.set socket state) mounted := by
  constructor
  · intro other otherState found notMounted
    rw [List.getElem?_set] at found
    split at found
    · subst other
      split at found <;> cases found
      exact .inr (allowed.resolve_left notMounted)
    · exact owned.others_closing other otherState found notMounted
  · simpa using owned.mounted_newest

theorem Owned.connect {sockets : List ReadyState} (owned : Owned sockets none) :
    Owned (sockets ++ [.connecting]) (some sockets.length) := by
  constructor
  · intro other state found notMounted
    rw [List.getElem?_append] at found
    split at found
    · exact owned.others_closing other state found (by simp)
    · have atEnd : other = sockets.length := by
        by_contra differs
        have past : [ReadyState.connecting].length ≤ other - sockets.length := by
          simp only [List.length_singleton]
          omega
        simp [List.getElem?_eq_none past] at found
      exact absurd (congrArg some atEnd.symm) notMounted
  · intro other mounted
    simp only [Option.some.injEq] at mounted
    simp [mounted]

theorem Owned.disconnect {sockets : List ReadyState} {socket : Nat}
    (owned : Owned sockets (some socket)) :
    Owned (sockets.modify ReadyState.close socket) none := by
  constructor
  · intro other state found _
    rw [List.getElem?_modify] at found
    split at found
    · subst other
      obtain ⟨old, -, rfl⟩ := Option.map_eq_some'.mp found
      exact ReadyState.close_closing old
    · rename_i differs
      exact owned.others_closing other state (by simpa using found) (by simpa using differs)
  · simp

/-- A socket that is neither closing nor closed is the mounted instance's. -/
theorem Owned.mounted_of_live {sockets : List ReadyState} {mounted : Option Nat}
    (owned : Owned sockets mounted) {socket : Nat} {state : ReadyState}
    (found : sockets[socket]? = some state) (notClosing : state ≠ .closing)
    (notClosed : state ≠ .closed) : mounted = some socket := by
  by_contra notMounted
  rcases owned.others_closing socket state found notMounted with closing | closed
  · exact notClosing closing
  · exact notClosed closed

theorem Owned.preserved {stream next : EventStream} {action : StreamAction}
    (owned : Owned stream.sockets stream.mounted)
    (stepped : stream.step action = some next) : Owned next.sockets next.mounted := by
  cases transition_of_step stepped with
  | mount unmounted => simpa using Owned.connect (unmounted ▸ owned)
  | cleanup mounted => simpa using Owned.disconnect (mounted ▸ owned)
  | opened connecting =>
      simpa using owned.set (.inl (owned.mounted_of_live connecting (by decide) (by decide)))
  | closing isOpen =>
      simpa using owned.set (.inl (owned.mounted_of_live isOpen (by decide) (by decide)))
  | message | discarded => simpa using owned
  | closed => simpa using owned.set (.inr rfl)
  | render => exact owned

theorem owned_of_reachable {stream : EventStream} (reach : Reachable stream) :
    Owned stream.sockets stream.mounted := by
  induction reach with
  | init => exact ⟨by simp [init], by simp [init]⟩
  | step _ stepped ih => exact ih.preserved stepped

/-- A socket created by an earlier run of the effect is closing or closed, so a frame
reaching it is discarded and leaves the hook as it was. -/
theorem earlier_socket_closed_and_inert {stream : EventStream} (reach : Reachable stream)
    {socket : Nat} (earlier : socket + 1 < stream.sockets.length) :
    (stream.readyState socket = some .closing ∨ stream.readyState socket = some .closed) ∧
      ∀ parsed, stream.step (.message socket parsed) = some stream := by
  have owned := owned_of_reachable reach
  have notMounted : stream.mounted ≠ some socket := fun mounted => by
    have := owned.mounted_newest socket mounted
    omega
  have found : stream.readyState socket = some stream.sockets[socket] :=
    List.getElem?_eq_getElem (by omega)
  have closing := owned.others_closing socket _ found notMounted
  refine ⟨by rcases closing with state | state <;> simp [found, state], fun parsed => ?_⟩
  have notOpen : stream.readyState socket ≠ some .open := by
    rcases closing with state | state <;> simp [found, state]
  simp [step, notOpen]

/-- React's StrictMode runs the effect, its cleanup, and the effect again. -/
def strictModeRun : List StreamAction := [.mount, .cleanup, .mount]

theorem earlier_socket_closed_and_inert_strictMode :
    ∃ stream, Reachable stream ∧ 0 + 1 < stream.sockets.length ∧
      (stream.readyState 0 = some .closing ∨ stream.readyState 0 = some .closed) ∧
      ∀ parsed, stream.step (.message 0 parsed) = some stream :=
  have reach := reachable_of_run .init (rfl : strictModeRun.foldlM step init = some _)
  ⟨_, reach, by decide, earlier_socket_closed_and_inert reach (by decide)⟩

/-- A StrictMode double mount in which the first socket's `close` event is delivered
after the second socket opened. -/
def staleCloseRun : List StreamAction :=
  [.mount, .opened 0, .cleanup, .mount, .opened 1, .closed 0, .render]

/-- After `staleCloseRun` the mounted, newest socket is open while the rendered flag says
disconnected: the torn-down socket's `onclose` still writes the shared flag. -/
theorem stale_close_clears_isConnected :
    ∃ stream, Reachable stream ∧
      stream.mounted = some (stream.sockets.length - 1) ∧
      stream.readyState (stream.sockets.length - 1) = some .open ∧
      stream.isConnected.queue = [] ∧ stream.isConnected.rendered = false :=
  ⟨_, reachable_of_run .init (rfl : staleCloseRun.foldlM step init = some _), rfl, by decide,
    rfl, rfl⟩

/-- The flag while the effect's first run is mounted: it is `false` before any socket
exists, and then says exactly whether the first socket is between its `open` and its
`close` event. -/
structure FirstRunFlag (stream : EventStream) : Prop where
  unopened : stream.sockets = [] → stream.isConnected.current = false
  tracks : stream.mounted = some 0 →
    (stream.isConnected.current = true ↔ (stream.readyState 0).any ReadyState.live)

theorem Owned.only_socket {sockets : List ReadyState} (owned : Owned sockets (some 0))
    {socket : Nat} {state : ReadyState} (found : sockets[socket]? = some state) :
    socket = 0 := by
  have single := owned.mounted_newest 0 rfl
  have bound := (List.getElem?_eq_some_iff.mp found).1
  omega

/-- An `open` or `close` event: the socket takes a new state and its handler writes the
flag. -/
theorem FirstRunFlag.socket_event {stream : EventStream}
    (owned : Owned stream.sockets stream.mounted) {socket : Nat} {old state : ReadyState}
    {value : Bool} (found : stream.sockets[socket]? = some old) (agrees : value = state.live) :
    FirstRunFlag { stream.setReadyState socket state with
      isConnected := stream.isConnected.enqueue fun _ => value } := by
  have bound := (List.getElem?_eq_some_iff.mp found).1
  refine ⟨fun empty => by simp [setReadyState] at empty; simp [empty] at bound, fun first => ?_⟩
  have zero := (first ▸ owned).only_socket found
  subst zero
  simp [setReadyState, readyState, bound, agrees]

theorem FirstRunFlag.preserved {stream next : EventStream} {action : StreamAction}
    (flag : FirstRunFlag stream) (owned : Owned stream.sockets stream.mounted)
    (stepped : stream.step action = some next) : FirstRunFlag next := by
  cases transition_of_step stepped with
  | mount unmounted =>
      refine ⟨fun created => by simp at created, fun first => ?_⟩
      have empty : stream.sockets = [] := List.length_eq_zero.mp (Option.some.inj first)
      simp [connect, readyState, empty, flag.unopened empty, ReadyState.live]
  | cleanup =>
      exact ⟨fun empty => flag.unopened (by simpa using empty), fun first => by simp at first⟩
  | opened connecting => exact FirstRunFlag.socket_event owned connecting rfl
  | message => exact ⟨by simpa using flag.unopened, by simpa [readyState] using flag.tracks⟩
  | discarded => exact flag
  | @closing socket isOpen =>
      refine ⟨fun empty => flag.unopened (by simpa [setReadyState] using empty), fun first => ?_⟩
      have first : stream.mounted = some 0 := first
      have zero := (first ▸ owned).only_socket isOpen
      subst zero
      have connected := (flag.tracks first).mpr (by simp [isOpen, ReadyState.live])
      have bound := (List.getElem?_eq_some_iff.mp isOpen).1
      simp [setReadyState, readyState, bound, connected, ReadyState.live]
  | closed found => exact FirstRunFlag.socket_event owned found rfl
  | render =>
      exact ⟨by simpa [rerender] using flag.unopened, by simpa [rerender] using flag.tracks⟩

theorem firstRunFlag_of_reachable {stream : EventStream} (reach : Reachable stream) :
    FirstRunFlag stream := by
  induction reach with
  | init => exact ⟨fun _ => rfl, fun first => by cases first⟩
  | step reach stepped ih => exact ih.preserved (owned_of_reachable reach) stepped

/-- While the effect's first run is mounted, `isConnected` is `true` exactly when its
socket is open or closing, between its `open` and its `close` event; a socket that is
closing has been open, since only the effect's cleanup closes a connecting one.  The flag
goes wrong only after a cleanup and a new run. -/
theorem isConnected_tracks_first_socket (stream : EventStream) (reach : Reachable stream)
    (first : stream.mounted = some 0) :
    stream.isConnected.current = true ↔
      stream.readyState 0 = some .open ∨ stream.readyState 0 = some .closing := by
  rw [(firstRunFlag_of_reachable reach).tracks first]
  cases stream.readyState 0 with
  | none => simp
  | some state => cases state <;> simp [ReadyState.live]

/-- The effect runs once, its socket opens, and the server starts closing it. -/
def serverClosingRun : List StreamAction := [.mount, .opened 0, .closing 0]

theorem isConnected_tracks_first_socket_serverClosingRun :
    ∃ stream, Reachable stream ∧ stream.mounted = some 0 ∧
      stream.readyState 0 = some .closing ∧
      (stream.isConnected.current = true ↔
        stream.readyState 0 = some .open ∨ stream.readyState 0 = some .closing) :=
  have reach := reachable_of_run .init (rfl : serverClosingRun.foldlM step init = some _)
  ⟨_, reach, rfl, rfl, isConnected_tracks_first_socket _ reach rfl⟩

end EventStream

end ClawForge
