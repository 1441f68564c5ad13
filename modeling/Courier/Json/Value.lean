import Courier.Keyed
import Courier.Moment
import Courier.Text.Table

namespace Courier.Json

/-- A JSON value. Integers are exact and kept apart from doubles; objects keep their members in
insertion order with distinct names. Data read from YAML may also hold dates and times, mappings
whose keys are not all text, and binary data, each a kind of its own. -/
inductive Value where
  | null
  | bool (b : Bool)
  | int (n : Int)
  | float (x : Float)
  | str (s : String)
  | arr (items : List Value)
  | obj (fields : List (String × Value))
  | moment (m : Moment)
  | mapping (entries : List (Value × Value))
  | bytes (b : List UInt8)
  deriving Inhabited, Repr, BEq

abbrev Fields := List (String × Value)

def Fields.get? (fields : Fields) (name : String) : Option Value :=
  Keyed.get? fields name

/-- Sets member `name`: a present member keeps its position and takes the new value, an absent
one is appended. -/
def Fields.set (fields : Fields) (name : String) (v : Value) : Fields :=
  Keyed.set fields name v

/-- The member `name` of an object; `none` for a non-object or a missing member. -/
def Value.get? : Value → String → Option Value
  | .obj fields, name => Fields.get? fields name
  | _, _ => none

/-- Follows a dotted path of member names (`"_links.next.href"`). The path is split at every
dot, so `""` names the member with the empty name; a missing member or a non-object on the
way gives `none`. -/
def Value.path? (v : Value) (path : String) : Option Value :=
  (Text.splitText path ".").foldlM (fun current name => current.get? name) v

def Value.str? : Value → Option String
  | .str s => some s
  | _ => none

def Value.arr? : Value → Option (List Value)
  | .arr items => some items
  | _ => none

def Value.obj? : Value → Option Fields
  | .obj fields => some fields
  | _ => none

/-- Whether a value counts as true in a condition: `null`, `false`, zero, the empty text and
empty containers count as false. -/
def Value.truthy : Value → Bool
  | .null => false
  | .bool b => b
  | .int n => n != 0
  | .float x => x != 0
  | .str s => !s.isEmpty
  | .arr items => !items.isEmpty
  | .obj fields => !fields.isEmpty
  | .moment _ => true
  | .mapping entries => !entries.isEmpty
  | .bytes b => !b.isEmpty

def Value.kindName : Value → String
  | .null => "NoneType"
  | .bool _ => "bool"
  | .int _ => "int"
  | .float _ => "float"
  | .str _ => "str"
  | .arr _ => "list"
  | .obj _ => "dict"
  | .moment m => if m.clock.isSome then "datetime" else "date"
  | .mapping _ => "dict"
  | .bytes _ => "bytes"

end Courier.Json
