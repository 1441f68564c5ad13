import Courier.Json.Reader
import Courier.Json.Writer
import Courier.Text.Blank
import Courier.Text.Quoted
import Courier.Failure

namespace Courier.Json

/-- The outcome of reading a payload that may be missing or malformed: a value, or the reason
there is none. A missing or blank payload is an empty document. -/
inductive Parsed where
  | value (v : Value)
  | failure (reason : String)

/-- Reads a document with `depth` calls in progress: the value, or the reader's message; a
document nested too deeply for the calls left fails. -/
def Value.readText (depth : Nat) (text : String) : Except Failure (Except String Value) :=
  match Value.read depth text with
  | .ok v => .ok (.ok v)
  | .error e =>
    match e.error with
    | .tooDeep _ => .error (Failure.simple .tooDeep (e.message text))
    | _ => .ok (.error (e.message text))

/-- The compact text of a value, written with `depth` calls in progress. The writer is five
calls deep when it meets the value and enters one more call for each array or object, so a
value nested deeper than the calls left fails with a recursion error. -/
def Value.writeText (depth : Nat) (v : Value) : Except Failure String :=
  if depth + 5 + v.nesting > callLimit then
    .error (Failure.simple .tooDeep "maximum recursion depth exceeded while encoding a JSON object")
  else .ok v.write

/-- Reads an optional payload with `depth` calls in progress; reading it is one more. -/
def Parsed.ofText (depth : Nat) : Option String → Except Failure Parsed
  | none => .ok (.failure "empty document")
  | some text =>
    if Text.isBlankText text then .ok (.failure "empty document")
    else do
      match ← Value.readText (depth + 1) text with
      | .ok v => return .value v
      | .error reason => return .failure reason

def Parsed.success : Parsed → Bool
  | .value _ => true
  | .failure _ => false

def Parsed.reason? : Parsed → Option String
  | .value _ => none
  | .failure r => some r

/-- How an outcome describes itself: its success and the kind of value, or the reason. -/
def Parsed.describe : Parsed → String
  | .value v => "JsonResult(success=True, data=" ++ v.kindName ++ ")"
  | .failure r => "JsonResult(success=False, error=" ++ Text.quoted r ++ ")"

end Courier.Json
