import Stockroom.Json.Basic
import Stockroom.Text.Quoted

/-!
# Descriptions of JSON values

A description names the type of a value, and for a scalar also the value, for use in a message.
-/

namespace Stockroom.Json

/-- The type of a value, with the value of a scalar. -/
def describe : Json → String
  | null => "null"
  | bool value => if value then "boolean true" else "boolean false"
  | number (.integer value isWord) => "integer " ++ (Number.integer value isWord).text
  | number (.float value) => "float " ++ (Number.float value).text
  | string value => "string " ++ Text.quoted value
  | array _ => "array"
  | object _ => "object"

end Stockroom.Json
