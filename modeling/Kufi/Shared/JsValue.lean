import Mathlib.Data.List.Defs

set_option autoImplicit false

/-!
# ECMAScript values

What `JSON.parse` makes of a text, together with what an object inherits from
`Object.prototype`.
-/

namespace Shared

inductive JsValue where
  | undefined
  | null
  | bool (value : Bool)
  -- a number by its text
  | number (text : String)
  | string (text : String)
  | array (items : List JsValue)
  -- the own members in the order of `Object.values`
  | object (members : List (String × JsValue))
  | function (source : String)
  | objectPrototype

namespace JsValue

/-- `value === undefined || value === null`. -/
def isMissing : JsValue → Bool
  | .undefined | .null => true
  | _ => false

/-- `!!value && typeof value === 'object' && !Array.isArray(value)`. -/
def isPlainObject : JsValue → Bool
  | .object _ | .objectPrototype => true
  | _ => false

def prototypeMethods : List String :=
  ["hasOwnProperty", "isPrototypeOf", "propertyIsEnumerable", "toLocaleString", "toString",
    "valueOf", "__defineGetter__", "__defineSetter__", "__lookupGetter__", "__lookupSetter__"]

def prototypeMember (name : String) : JsValue :=
  if name = "constructor" then .function "function Object() { [native code] }"
  else if prototypeMethods.contains name then
    .function ("function " ++ name ++ "() { [native code] }")
  else .undefined

/-- `value[name]` on a plain object. -/
def property : JsValue → String → JsValue
  | .object members, name =>
    match members.lookup name with
    | some value => value
    | none => if name = "__proto__" then .objectPrototype else prototypeMember name
  | .objectPrototype, name => if name = "__proto__" then .null else prototypeMember name
  | _, _ => .undefined

mutual

/-- The text of a template literal; `none` when the conversion throws. -/
def toText : JsValue → Option String
  | .undefined => some "undefined"
  | .null => some "null"
  | .bool value => some (if value then "true" else "false")
  | .number text => some text
  | .string text => some text
  | .array items => (itemTexts items).map (String.intercalate ",")
  -- a member that is no function takes the place of `Object.prototype.toString`
  | .object members =>
    if (members.lookup "toString").isSome then none else some "[object Object]"
  | .function source => some source
  | .objectPrototype => some "[object Object]"

def itemTexts : List JsValue → Option (List String)
  | [] => some []
  | item :: rest => do
    let text ← if item.isMissing then some "" else toText item
    let texts ← itemTexts rest
    pure (text :: texts)

end

end JsValue

end Shared
