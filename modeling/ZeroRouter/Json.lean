/-!
# JSON

`serde_json`: its values, and its reader and printer, which live outside the
repository.  An object keeps its keys sorted and each key once.
-/

namespace ZeroRouter

/-- `serde_json::Value`.  A number that is no `i64` or `u64` is a float. -/
inductive Value where
  | null
  | bool (value : Bool)
  | integer (value : Int)
  | float (text : String)
  | string (value : String)
  | array (items : List Value)
  | object (fields : List (String × Value))

namespace Value

/-- `Value::get` of a string key. -/
def get (value : Value) (key : String) : Option Value :=
  match value with
  | .object fields => fields.lookup key
  | _ => none

/-- `Value::as_str`. -/
def asStr : Value → Option String
  | .string value => some value
  | _ => none

/-- `Value::as_array`. -/
def asArray : Value → Option (List Value)
  | .array items => some items
  | _ => none

/-- `Value::as_object`. -/
def asObject : Value → Option (List (String × Value))
  | .object fields => some fields
  | _ => none

/-- `Value::is_object`. -/
def isObject (value : Value) : Bool := value.asObject.isSome

/-- A string field of an object. -/
def str (value : Value) (key : String) : Option String := (value.get key).bind asStr

/-- What `json!` makes of an `Option<String>`. -/
def ofOption : Option String → Value
  | some value => .string value
  | none => .null

end Value

/-- `serde_json::from_str` and `Value::to_string`. -/
structure SerdeJson where
  fromStr : String → Option Value
  toString : Value → String

end ZeroRouter
