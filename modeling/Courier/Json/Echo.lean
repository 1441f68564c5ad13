import Courier.Json.Writer
import Courier.Text.Quoted

namespace Courier.Json

mutual
/-- A value as it is quoted in messages: text in quotes chosen so that few escapes are needed,
`None`, `True` and `False` for the constants, integers exact, doubles in their shortest form with
`inf` and `nan`, lists in brackets and objects in braces, items separated by a comma and a
space. -/
def Value.echo : Value → String
  | .str s => Text.quoted s
  | .null => "None"
  | .bool b => if b then "True" else "False"
  | .int n => toString n
  | .float x => FloatFormat.echo.write x
  | .arr items => "[" ++ Value.echoItems items ++ "]"
  | .obj fields => "\x7b" ++ Value.echoFields fields ++ "\x7d"
  | .moment m => m.echo
  | .mapping entries => "\x7b" ++ Value.echoEntries entries ++ "\x7d"
  | .bytes b => Text.quotedBytes b

def Value.echoItems : List Value → String
  | [] => ""
  | [v] => v.echo
  | v :: rest => v.echo ++ ", " ++ Value.echoItems rest

/-- Quoted object members, each name and value separated by a colon and a space. -/
def Value.echoFields : List (String × Value) → String
  | [] => ""
  | [(k, v)] => Text.quoted k ++ ": " ++ v.echo
  | (k, v) :: rest => Text.quoted k ++ ": " ++ v.echo ++ ", " ++ Value.echoFields rest

/-- Quoted mapping entries, each key and value separated by a colon and a space. -/
def Value.echoEntries : List (Value × Value) → String
  | [] => ""
  | [(k, v)] => k.echo ++ ": " ++ v.echo
  | (k, v) :: rest => k.echo ++ ": " ++ v.echo ++ ", " ++ Value.echoEntries rest
end

def Value.asText : Value → String
  | .str s => s
  | v => v.echo

end Courier.Json
