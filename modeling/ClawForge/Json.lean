import Mathlib.Data.List.Basic

/-!
# Parsed JSON and the JavaScript the dashboard runs on it

Every value the dashboard receives from the backend goes through `JSON.parse` (the
WebSocket handler) or `Response.json()` (the HTTP handlers), and the code then reads it
with plain member access, `||` defaults and method calls, trusting TypeScript casts for
the shape.  This file fixes the values such a parse produces and the few pieces of
JavaScript and React semantics those reads depend on: which expressions throw, which
values are truthy, which values convert to a primitive (for `new Date(...)` and for React's
keys), and which values React accepts as a child.
-/

namespace ClawForge

/-- A value produced by `JSON.parse`.  Numbers are integers here: the dashboard only
compares a number with `0` and prints it, so a fractional number behaves as a nonzero
integer would.  An object lists its fields with distinct keys, as the parser leaves
them. -/
inductive JsonValue where
  | null
  | bool (value : Bool)
  | num (value : Int)
  | str (value : String)
  | arr (items : List JsonValue)
  | obj (fields : List (String × JsonValue))

/-- A JavaScript value read out of parsed JSON; `none` is `undefined`, the value of a
missing field. -/
abbrev JsVal := Option JsonValue

/-- The exceptions the dashboard's expressions can raise on parsed values: `value.key`
where `value` is `null` or `undefined`, `value.method(...)` where `value` has no such
method, a conversion to a primitive that finds no callable `toString` ("Cannot convert
object to primitive value"), and React refusing a plain object as a child ("Objects are
not valid as a React child"). -/
inductive TypeError where
  | readOfNullish (key : String)
  | notAFunction (method : String)
  | noPrimitive
  | objectAsChild
  deriving DecidableEq, Repr

namespace JsonValue

/-- The own field `key` of a parsed value: only objects have fields the code reads. -/
def field : JsonValue → String → JsVal
  | obj fields, key => fields.lookup key
  | _, _ => none

end JsonValue

/-- Member access `value.key`: throws on `null` and `undefined`, and is `undefined` for a
missing field. -/
def member : JsVal → String → Except TypeError JsVal
  | none, key | some .null, key => .error (.readOfNullish key)
  | some value, key => .ok (value.field key)

/-- JavaScript truthiness of a parsed value. -/
def truthy : JsVal → Bool
  | none | some .null => false
  | some (.bool value) => value
  | some (.num value) => value != 0
  | some (.str value) => !value.isEmpty
  | some (.arr _) | some (.obj _) => true

/-- `value || fallback`. -/
def jsOr (value : JsVal) (fallback : JsonValue) : JsonValue :=
  match value with
  | some inner => if truthy value then inner else fallback
  | none => fallback

/-- Whether a value is a string, the only values with `split` and `replace`. -/
def isString : JsVal → Bool
  | some (.str _) => true
  | _ => false

/-- `value === text` for a string literal `text`. -/
def strictEqStr (value : JsVal) (text : String) : Bool :=
  match value with
  | some (.str inner) => inner == text
  | _ => false

/-- `value.method(...)` for a method that only the values `has` accepts carry: reading it
from `null` or `undefined` throws, and on any other value it is not a function. -/
def callMethod (value : JsVal) (method : String) (has : JsonValue → Bool) :
    Except TypeError Unit :=
  match value with
  | none | some .null => throw (.readOfNullish method)
  | some inner => if has inner then pure () else throw (.notAFunction method)

/-- `value.length`, as far as a parsed value has one: arrays and strings carry their
length, objects whatever their `length` field holds. -/
def lengthOf (value : JsVal) : Except TypeError JsVal := do
  match value with
  | some (.arr items) => pure (some (.num items.length))
  | some (.str text) => pure (some (.num text.length))
  | _ => member value "length"

/-- `value.length === 0`. -/
def lengthIsZero (length : JsVal) : Bool :=
  match length with
  | some (.num 0) => true
  | _ => false

namespace JsonValue

/-- Whether React accepts a parsed value as a child: primitives render as text, an array
renders each item, and a plain object throws. -/
def validChild : JsonValue → Bool
  | obj _ => false
  | arr items => allValid items
  | _ => true
where
  /-- Every item of a child array is itself a valid child. -/
  allValid : List JsonValue → Bool
    | [] => true
    | item :: items => validChild item && allValid items

end JsonValue

namespace JsonValue

/-- Whether `ToPrimitive` succeeds on a parsed value.  No parsed value is callable, and the
`valueOf` an object inherits returns the object itself, so an object converts through the
`toString` it inherits, unless an own `toString` field hides it and the conversion
throws.  An array converts through `join`, which converts its items. -/
def toPrimitiveOk : JsonValue → Bool
  | obj fields => (fields.lookup "toString").isNone
  | arr items => allOk items
  | _ => true
where
  /-- Every item of an array converts. -/
  allOk : List JsonValue → Bool
    | [] => true
    | item :: items => toPrimitiveOk item && allOk items

end JsonValue

/-- Whether `ToPrimitive` succeeds on a value; `undefined` is a primitive. -/
def primitiveOk : JsVal → Bool
  | some value => value.toPrimitiveOk
  | none => true

/-- `ToPrimitive(value)`, which `new Date(value)` and React's key coercion `'' + key`
apply to their argument. -/
def toPrimitive (value : JsVal) : Except TypeError Unit :=
  if primitiveOk value then pure () else throw .noPrimitive

/-- Whether React accepts a value as a child; `undefined` renders nothing. -/
def validChild : JsVal → Bool
  | some value => value.validChild
  | none => true

/-- Render `{value}` as a React child. -/
def renderChild (value : JsVal) : Except TypeError Unit :=
  if validChild value then pure () else throw .objectAsChild

@[simp]
theorem member_some_of_ne_null {value : JsonValue} (notNull : value ≠ .null)
    (key : String) : member (some value) key = .ok (value.field key) := by
  cases value <;> first | exact absurd rfl notNull | rfl

@[simp]
theorem strictEqStr_eq_true {value : JsVal} {text : String} :
    strictEqStr value text = true ↔ value = some (.str text) := by
  unfold strictEqStr
  split <;> simp_all

@[simp]
theorem strictEqStr_eq_false {value : JsVal} {text : String} :
    strictEqStr value text = false ↔ value ≠ some (.str text) := by
  rw [ne_eq, ← strictEqStr_eq_true, Bool.not_eq_true]

@[simp]
theorem ok_bind {α β : Type} (value : α) (rest : α → Except TypeError β) :
    (Except.ok value : Except TypeError α) >>= rest = rest value := rfl

/-- A block of two statements runs to its end exactly when both do. -/
@[simp]
theorem seq_eq_ok {first : Except TypeError Unit} {rest : Unit → Except TypeError Unit} :
    first >>= rest = .ok () ↔ first = .ok () ∧ rest () = .ok () := by
  cases first <;> simp [bind, Except.bind]

theorem toPrimitive_eq_ok (value : JsVal) :
    toPrimitive value = .ok () ↔ primitiveOk value = true := by
  unfold toPrimitive
  split <;> simp [*, pure, Except.pure, throw, throwThe, MonadExceptOf.throw]

theorem renderChild_eq_ok (value : JsVal) :
    renderChild value = .ok () ↔ validChild value = true := by
  unfold renderChild
  split <;> simp [*, pure, Except.pure, throw, throwThe, MonadExceptOf.throw]

theorem primitiveOk_of_isString {value : JsVal} (isText : isString value = true) :
    primitiveOk value = true := by
  match value, isText with
  | some (.str _), _ => rfl

/-- A method only strings carry can be called exactly on a string. -/
theorem callMethod_string_eq_ok (value : JsVal) (method : String) :
    callMethod value method (isString ∘ some) = .ok () ↔ isString value = true := by
  match value with
  | some (.str _) => exact iff_of_true rfl rfl
  | none | some .null | some (.bool _) | some (.num _) | some (.arr _) | some (.obj _) =>
      exact iff_of_false nofun nofun

@[simp]
theorem truthy_arr (items : List JsonValue) : truthy (some (.arr items)) = true := rfl

@[simp]
theorem jsOr_none (fallback : JsonValue) : jsOr none fallback = fallback := rfl

end ClawForge
