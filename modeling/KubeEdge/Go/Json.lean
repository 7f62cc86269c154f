set_option autoImplicit false

/-!
# Decoded JSON and the unstructured helpers

What `json.Unmarshal` decodes into an `interface{}`: `nil`, a bool, a number, a
string, a `[]interface{}` or a `map[string]interface{}`, whose keys the decoder
gives once each. apimachinery's unstructured helpers read such a map along a
path of keys; `getNestedString` gives `""` where the path is missing, runs
through a value that is no map, or ends at a value that is no string.
-/

namespace KubeEdge.Go

inductive JsonValue where
  | null
  | bool (b : Bool)
  | number (n : String)
  | string (s : String)
  | array (items : List JsonValue)
  | object (fields : List (String × JsonValue))
  deriving Repr

/-- The walk of `NestedFieldNoCopy` from a value: `none` where a field is
    missing, or a value on the way is `nil` or no map (an error the callers
    here drop). -/
def nestedField : JsonValue → List String → Option JsonValue
  | v, [] => some v
  | .object m, field :: rest => (m.lookup field).bind fun v => nestedField v rest
  | _, _ :: _ => none

def NestedFieldNoCopy (obj : List (String × JsonValue)) (fields : List String) : Option JsonValue :=
  nestedField (.object obj) fields

def NestedString (obj : List (String × JsonValue)) (fields : List String) : Option String :=
  match NestedFieldNoCopy obj fields with
  | some (.string s) => some s
  | _ => none

def getNestedString (obj : List (String × JsonValue)) (fields : List String) : String :=
  (NestedString obj fields).getD ""

example : getNestedString [("metadata", .object [("name", .string "a")])] ["metadata", "name"] = "a" := by decide

end KubeEdge.Go
