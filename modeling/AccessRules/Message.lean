import AccessRules.Json.Parser
import AccessRules.Json.Printer
import AccessRules.Kind

/-!
# Messages

What a client asks to do: a topic, an action, the name of a resource, and the text of a JSON payload
and the path of a patch if there are any. Messages are read from and written as JSON.
-/

namespace AccessRules

/-- A message of a client. -/
structure Message where
  topic : Topic
  action : Action
  name : String
  /-- The text of the payload, which need not be valid JSON. -/
  data : Option String
  path : Option String
deriving DecidableEq, Repr

namespace Message

/-- The document in the payload: `none` if there is no payload, `some none` if it is not valid. -/
def payload? (message : Message) : Option (Option Json) :=
  message.data.map Json.parse?

/-- The message with a payload. -/
def withDocument (message : Message) (document : Json) : Message :=
  { message with data := some document.compact }

/-- Whether the message patches a record. -/
def isPatch (message : Message) : Bool :=
  message.topic == .record && message.action == .patch

/-! ## As JSON -/

/-- The keys of a message, in the order in which they are written. -/
def keys : List String := ["topic", "action", "name", "data", "path"]

/-- The name in a JSON value: a string, or an object with that one key and `null` under it. -/
def variantName? : Json → Option String
  | .string name => some name
  | .object [(name, .null)] => some name
  | _ => none

/-- The text in a JSON value that may be missing. -/
def optionalText? : Json → Option (Option String)
  | .null => some none
  | .string text => some (some text)
  | _ => none

/-- The message with these values, of which the last two may be missing. -/
def ofValues? (topic action name : Option Json) (data path : Option Json) : Option Message := do
  let topic ← Topic.ofName? (← variantName? (← topic))
  let action ← Action.ofName? (← variantName? (← action))
  let name ← match ← name with
    | .string name => some name
    | _ => none
  let data ← optionalText? (data.getD .null)
  let path ← optionalText? (path.getD .null)
  return ⟨topic, action, name, data, path⟩

/-- Whether one of the keys of a message stands among the fields more than once. -/
def repeatsKey (fields : List (String × Json)) : Bool :=
  keys.any fun key => decide (1 < (fields.filter fun field => field.1 == key).length)

/-- The message in a JSON value whose repeated keys have not been merged: an object, in which other
keys do not count, or the values in their order. -/
def ofJson? : Json → Option Message
  | .object fields =>
      if repeatsKey fields then none
      else
        ofValues? (fields.lookup "topic") (fields.lookup "action") (fields.lookup "name")
          (fields.lookup "data") (fields.lookup "path")
  | .array items =>
      if items.length ≤ keys.length then
        ofValues? items[0]? items[1]? items[2]? items[3]? items[4]?
      else none
  | _ => none

/-- The message in a text. -/
def parse? (text : String) : Option Message :=
  (Json.parseSelected? keys.contains text).bind ofJson?

/-- The fields of a message as JSON, those without a value left out. -/
def toJson (message : Message) : Json :=
  .object
    ([("topic", .string message.topic.name), ("action", .string message.action.name),
        ("name", .string message.name)]
      ++ (message.data.toList.map fun data => ("data", .string data))
      ++ (message.path.toList.map fun path => ("path", .string path)))

end Message

end AccessRules
