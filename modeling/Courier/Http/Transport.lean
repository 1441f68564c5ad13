import Courier.Http.Request
import Courier.Failure
import Courier.Json.Document

/-!
Transports. A scripted transport answers from memory: fixed routes first, matched on the URL
without its query and on the method when the route names one, and never used up; then a queue
of answers, each used once; with neither, it fails as an unreachable host would. Every request
it receives is recorded, in order, whatever its answer. An answer is a response, or a failure
raised in place of one. A response's body is scripted as bytes, as text, or as a document
written in compact JSON; text is sent as its UTF-8 bytes when the answer is served, and a text
holding a surrogate unit fails then, as does a document nested deeper than the calls left
allow.

The live client is described by the call it makes: method, full URL, headers, body bytes and
its two timeouts.
-/

namespace Courier.Http

/-- A response: status and body bytes. -/
structure Response where
  status : Int
  body : List UInt8
  deriving Repr, BEq

def Response.describe (r : Response) : String :=
  "TransportResponse(status_code=" ++ toString r.status ++ ", bytes=" ++ toString r.body.length ++ ")"

/-- The body of a scripted response. -/
inductive Body where
  | bytes (b : List UInt8)
  | text (s : String)
  | document (v : Json.Value)

/-- The bytes a scripted body is served as, with `depth` calls in progress; writing a
document is one more. -/
def Body.encode (depth : Nat) : Body → Except Failure (List UInt8)
  | .bytes b => .ok b
  | .text s => utf8Bytes s
  | .document v => do utf8Bytes (← v.writeText (depth + 1))

/-- A scripted answer. -/
inductive Answer where
  | respond (status : Int) (body : Body)
  | raise (failure : Failure)

/-- A fixed route. -/
structure Route where
  url : String
  method : Option Method
  answer : Answer

/-- A scripted transport: its routes, its remaining queue and the requests it received. -/
structure Script where
  routes : List Route
  queue : List Answer
  received : List Request

/-- A transport with the given routes and queue that has received nothing yet. -/
def Script.ofAnswers (routes : List Route) (queue : List Answer) : Script :=
  ⟨routes, queue, []⟩

def Route.answers (route : Route) (r : Request) : Bool :=
  route.url == r.url && (route.method.map (· == r.method)).getD true

/-- Serves one request with `depth` calls in progress: the outcome and the transport
afterwards. An answer is served by one more call. -/
def Script.execute (s : Script) (depth : Nat) (r : Request) : Except Failure Response × Script :=
  let s := { s with received := s.received ++ [r] }
  let outcome : Answer → Except Failure Response
    | .respond status body => (body.encode (depth + 1)).map (⟨status, ·⟩)
    | .raise failure => .error failure
  match s.routes.find? (·.answers r) with
  | some route => (outcome route.answer, s)
  | none =>
    match s.queue with
    | a :: rest => (outcome a, { s with queue := rest })
    | [] =>
      (.error (Failure.simple (.network .connection)
        ("No mock response for " ++ r.method.name ++ " " ++ r.fullUrl)), s)

def Script.receivedFor (s : Script) (url : String) : List Request :=
  s.received.filter (·.url == url)

/-- The continuation fetches a paged run on this transport is given, growing with the queued
answers, the items wanted and the routes. It is at least the length of the queue, which is
enough for a run over routes that serve only pages that end; a run that links from route to
route forever is cut off once it is spent. -/
def Script.pageBudget (s : Script) (wanted : Nat) : Nat :=
  (s.queue.length + wanted + 1) * (s.routes.length + 2)

/-- The timeouts of the live client, in seconds: connecting and reading. -/
structure Timeouts where
  connect : Float
  read : Float

/-- Twenty seconds to connect, two minutes to read. -/
def Timeouts.standard : Timeouts := ⟨20, 120⟩

/-- The call the live client makes for a request. -/
structure Call where
  method : Method
  url : String
  headers : List (String × String)
  data : Option (List UInt8)
  timeouts : Timeouts

/-- The call for a request: the full URL and the body as UTF-8 bytes; a body holding a
surrogate unit has none, and the call cannot be made. -/
def Call.ofRequest (timeouts : Timeouts) (r : Request) : Except Failure Call := do
  let data ← match r.body with
    | some b => some <$> utf8Bytes b
    | none => pure none
  return ⟨r.method, r.fullUrl, r.headers, data, timeouts⟩

end Courier.Http
