import ClawForge.Steps

/-!
# What the decoders let through

The handlers trust TypeScript casts: `onmessage` keeps whatever `JSON.parse` returns, and
`fetchRuns` and `fetchAgents` keep whatever field of the body they read.  Only a syntax
error is caught.  So any JSON value reaches the state, and the render that reads it as
an `Event` or a list can throw.  The live feed renders exactly when every event it shows
has a string `kind` and a timestamp and an id that convert to primitives; a `null`
message, or a `/api/runs` body without `runs`, makes App throw.  Each list view throws
exactly when its value fails a shape check (`listShown` with the check of one item), which
is the contract the backend has to meet.
-/

namespace ClawForge

theorem renderKind_eq_ok (kind : JsVal) : renderKind kind = .ok () ↔ isString kind = true := by
  match kind with
  | some (.str _) => exact iff_of_true rfl rfl
  | some .null | some (.bool _) | some (.num _) | some (.arr _) | some (.obj _) | none =>
      exact iff_of_false nofun nofun

theorem renderEach_eq_ok (render : JsonValue → Except TypeError Unit) (items : List JsonValue) :
    renderEach render items = .ok () ↔ ∀ item ∈ items, render item = .ok () := by
  induction items with
  | nil => exact iff_of_true rfl (by simp)
  | cons item items ih => simp only [renderEach, seq_eq_ok, ih, List.forall_mem_cons]

/-! ## The shapes the views show

What a view renders without throwing, as a check on the parsed value it reads: each
renderer throws exactly when its value fails the check. -/

/-- `value.length === 0` as the list views evaluate it, `false` where reading `length`
throws. -/
def lengthZero (list : JsVal) : Bool :=
  match lengthOf list with
  | .ok length => lengthIsZero length
  | .error _ => false

/-- The values a list view shows with the item check `shown`: a value of length zero (`[]`,
`""`, or an object whose `length` is `0`), or an array whose every item passes `shown`. -/
def listShown (shown : JsonValue → Bool) : JsVal → Bool
  | some (.arr items) => items.all shown
  | list => lengthZero list

/-- A run `RunList` shows: its `run_id` and `status` are strings, and its `event_count` is
a valid React child. -/
def runShown (run : JsonValue) : Bool :=
  isString (run.field "run_id") && isString (run.field "status") &&
    validChild (run.field "event_count")

/-- An agent `AgentList` shows: not `null`, with an `id`, its key, that converts to a
primitive, and a `name` and a `description` that are valid React children. -/
def agentShown : JsonValue → Bool
  | .null => false
  | agent => primitiveOk (agent.field "id") && validChild (agent.field "name") &&
      validChild (agent.field "description")

/-- An event the feed shows: its `kind` is a string, and its `timestamp` and its `id`, its
key, convert to primitives. -/
def eventShown (event : JsonValue) : Bool :=
  isString (event.field "kind") && primitiveOk (event.field "timestamp") &&
    primitiveOk (event.field "id")

theorem listShown_of_not_arr {list : JsVal} (notArr : ∀ items, list ≠ some (.arr items))
    (shown : JsonValue → Bool) : listShown shown list = lengthZero list := by
  unfold listShown
  split
  · exact absurd rfl (notArr _)
  · rfl

/-- An item of the feed renders exactly when it passes `eventShown`. -/
theorem renderEvent_eq_ok (event : JsonValue) :
    renderEvent event = .ok () ↔ eventShown event = true := by
  by_cases isNull : event = .null
  · subst isNull
    exact iff_of_false nofun nofun
  · simp only [renderEvent, member_some_of_ne_null isNull, ok_bind, seq_eq_ok,
      renderKind_eq_ok, toPrimitive_eq_ok, eventShown, Bool.and_eq_true, and_assoc]

theorem renderRun_eq_ok (run : JsonValue) :
    (renderRun run = .ok () ∧ runChildren run = .ok ()) ↔ runShown run = true := by
  by_cases isNull : run = .null
  · subst isNull
    exact iff_of_false (fun shown => nomatch shown.1) nofun
  · simp only [renderRun, member_some_of_ne_null isNull, ok_bind, seq_eq_ok,
      callMethod_string_eq_ok, toPrimitive_eq_ok, runChildren, renderChild_eq_ok, runShown,
      Bool.and_eq_true]
    exact ⟨fun ⟨⟨named, status, _⟩, count⟩ => ⟨⟨named, status⟩, count⟩,
      fun ⟨⟨named, status⟩, count⟩ => ⟨⟨named, status, primitiveOk_of_isString named⟩, count⟩⟩

theorem renderAgent_eq_ok (agent : JsonValue) :
    (renderAgent agent = .ok () ∧ agentChildren agent = .ok ()) ↔ agentShown agent = true := by
  by_cases isNull : agent = .null
  · subst isNull
    exact iff_of_false (fun shown => nomatch shown.1) nofun
  · have shown : agentShown agent = (primitiveOk (agent.field "id") &&
        validChild (agent.field "name") && validChild (agent.field "description")) := by
      cases agent <;> first | exact absurd rfl isNull | rfl
    simp only [renderAgent, member_some_of_ne_null isNull, ok_bind, seq_eq_ok,
      toPrimitive_eq_ok, agentChildren, renderChild_eq_ok, shown, Bool.and_eq_true, and_assoc]

theorem renderList_arr_eq_ok (items : List JsonValue)
    (create children : JsonValue → Except TypeError Unit) :
    renderList (some (.arr items)) create children = .ok () ↔
      ∀ item ∈ items, create item = .ok () ∧ children item = .ok () := by
  cases items with
  | nil => exact iff_of_true rfl (by simp)
  | cons item items =>
      have nonEmpty : lengthIsZero (some (.num (item :: items).length)) = false := rfl
      simp only [renderList, mapList, lengthOf, nonEmpty, Bool.false_eq_true, if_false,
        pure_bind, bind_assoc, seq_eq_ok, renderEach_eq_ok]
      exact forall₂_and.symm

theorem renderList_of_not_arr {list : JsVal} (notArr : ∀ items, list ≠ some (.arr items))
    (create children : JsonValue → Except TypeError Unit) :
    renderList list create children = .ok () ↔ lengthZero list = true := by
  unfold renderList mapList lengthZero
  cases lengthOf list with
  | error => exact iff_of_false nofun nofun
  | ok length =>
      simp only [ok_bind]
      split
      · exact iff_of_true rfl ‹_›
      · exact iff_of_false nofun ‹_›

/-- A list view renders exactly when its value passes `listShown`, for item renderers that
throw exactly on the items failing `shown`. -/
theorem renderList_eq_ok (list : JsVal) {create children : JsonValue → Except TypeError Unit}
    {shown : JsonValue → Bool}
    (itemShown : ∀ item, (create item = .ok () ∧ children item = .ok ()) ↔ shown item = true) :
    renderList list create children = .ok () ↔ listShown shown list = true := by
  by_cases isArr : ∃ items, list = some (.arr items)
  · obtain ⟨items, rfl⟩ := isArr
    simp only [renderList_arr_eq_ok, itemShown, listShown, List.all_eq_true]
  · have notArr : ∀ items, list ≠ some (.arr items) := fun items same =>
      isArr ⟨items, same⟩
    rw [renderList_of_not_arr notArr, listShown_of_not_arr notArr]

theorem validChild_of_lengthIsZero {length : JsVal} (zero : lengthIsZero length = true) :
    validChild length = true := by
  unfold lengthIsZero at zero
  split at zero
  · rfl
  · cases zero

/-- The feed of a list of parsed values renders exactly when each value passes
`eventShown`. -/
theorem renderEventFeed_arr_eq_ok (items : List JsonValue) :
    renderEventFeed (some (.arr items)) = .ok () ↔ ∀ item ∈ items, eventShown item = true := by
  cases items with
  | nil => exact iff_of_true rfl (by simp)
  | cons item items =>
      have nonEmpty : lengthIsZero (some (.num (item :: items).length)) = false := rfl
      simp only [renderEventFeed, mapList, lengthOf, nonEmpty, Bool.false_eq_true, if_false,
        pure_bind, bind_assoc, seq_eq_ok, renderEach_eq_ok, renderEvent_eq_ok]
      exact and_iff_left rfl

theorem renderEventFeed_of_not_arr {events : JsVal}
    (notArr : ∀ items, events ≠ some (.arr items)) :
    renderEventFeed events = .ok () ↔ lengthZero events = true := by
  unfold renderEventFeed mapList lengthZero
  cases lengthOf events with
  | error => exact iff_of_false nofun nofun
  | ok length =>
      simp only [ok_bind]
      split
      · simp only [pure_bind, renderChild_eq_ok, validChild_of_lengthIsZero ‹_›, ‹_›]
      · exact iff_of_false nofun ‹_›

/-- The feed renders exactly when its value passes `listShown eventShown`: the count it
prints is then a number, or absent. -/
theorem renderEventFeed_eq_ok (events : JsVal) :
    renderEventFeed events = .ok () ↔ listShown eventShown events = true := by
  by_cases isArr : ∃ items, events = some (.arr items)
  · obtain ⟨items, rfl⟩ := isArr
    simp [renderEventFeed_arr_eq_ok, listShown]
  · have notArr : ∀ items, events ≠ some (.arr items) := fun items same =>
      isArr ⟨items, same⟩
    rw [renderEventFeed_of_not_arr notArr, listShown_of_not_arr notArr]

namespace EventStream

/-- From every reachable state of the hook, the feed its next render shows renders
exactly when each of the hundred most recent messages that parse passes the feed's check:
nothing but a syntax error is filtered out, and a bad event keeps the feed from rendering
until a hundred newer ones have pushed it out. -/
theorem liveFeed_renders_iff_recent_shown (stream : EventStream) (reach : Reachable stream) :
    renderEventFeed (some (.arr stream.events.current)) = .ok () ↔
      ∀ event ∈ expectedBuffer stream.accepted, eventShown event = true := by
  rw [events_current_of_reachable reach, renderEventFeed_arr_eq_ok]

theorem liveFeed_renders_iff_recent_shown_init :
    Reachable init ∧
      (renderEventFeed (some (.arr init.events.current)) = .ok () ↔
        ∀ event ∈ expectedBuffer init.accepted, eventShown event = true) :=
  ⟨.init, liveFeed_renders_iff_recent_shown init .init⟩

end EventStream

namespace Dashboard

/-- `/api/runs` answers with an error status and the body `{"error": "internal"}`. -/
def errorBodyRun : List Action :=
  [.settle 0 (.response false (some (.obj [("error", .str "internal")])))]

/-- Two inputs of valid JSON that is not of the expected shape, each admitted into the
state and each making App's render throw: a WebSocket message `null` enters the live
buffer and the feed reads `null.kind`; an error body of `/api/runs` sets `runs` to
`undefined` and `RunList` reads `runs.length`. -/
theorem shape_invalid_json_crashes_view :
    (∃ dashboard, Reachable dashboard ∧ dashboard.stream.events.rendered = [.null] ∧
      dashboard.render = .error (.readOfNullish "kind")) ∧
    (∃ dashboard, Reachable dashboard ∧ dashboard.runList.runs = none ∧
      dashboard.render = .error (.readOfNullish "length")) :=
  ⟨⟨afterRun nullMessageRun, reachable_afterRun (by decide), rfl, rfl⟩,
    ⟨afterRun errorBodyRun, reachable_afterRun (by decide), rfl, rfl⟩⟩

end Dashboard

end ClawForge
