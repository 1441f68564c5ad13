import Courier.Http.Session
import Courier.Url.Join
import Courier.Url.Query
import Courier.Text.Utf8

/-!
Building and sending single requests. A request takes the authentication query parameters after
the caller's query, the authentication headers before the caller's headers, and the body only
when it is a POST with a body that is not blank. Its URL must be an absolute http or https URL
with a readable port. Sending fails on a transport failure or a status other than 200;
otherwise the body is read as UTF-8 with ill-formed parts replaced.
-/

namespace Courier.Http

open Courier.Url

/-- Headers and query parameters that authentication adds to every request. -/
structure Credentials where
  header : List (String × String)
  query : List (String × String)
  deriving Repr, BEq, Inhabited

def Credentials.none : Credentials := ⟨[], []⟩

/-- The caller's query with `name=value` appended for each authentication parameter, outer
ampersands dropped. -/
def buildQuery (query : Option String) (authQuery : List (String × String)) : String :=
  Query.stripAmpersands (some (authQuery.foldl (fun q (k, v) => q ++ "&" ++ k ++ "=" ++ v)
    (query.getD "")))

/-- Sets one header: an entry whose name equals `name` after lowercasing is overwritten in
place and renamed to `name`; with none, the header is appended. -/
def setHeader (headers : List (String × String)) (name value : String) :
    List (String × String) :=
  match headers.find? (fun (k, _) => Text.lower k == Text.lower name) with
  | some (existing, _) =>
    headers.map fun (k, v) => if k == existing then (name, value) else (k, v)
  | none => headers ++ [(name, value)]

def mergeHeaders (authHeaders headers : List (String × String)) : List (String × String) :=
  (authHeaders ++ headers).foldl (fun acc (k, v) => setHeader acc k v) []

/-- Why a URL is no absolute http or https URL with a readable port. -/
def checkRequestUrl (url : Option String) : Except String Parts := do
  let parts ← (Parts.split (url.getD "")).mapError (·.message)
  let _ ← parts.port.mapError (·.message)
  if !(parts.scheme == "http" || parts.scheme == "https") || parts.netloc.isEmpty then
    throw ("not an absolute http(s) URL: " ++ Text.quotedOption url)
  return parts

def prepare (auth : Credentials) (url : Option String) (method body query : Option String)
    (headers : List (String × String)) : Except Failure Request := do
  let query := buildQuery query auth.query
  let checked : Except String (Parts × Option String) := do
    let parts ← checkRequestUrl url
    let combined ← (appendQuery (url.getD "") (some query)).mapError (·.message)
    return (parts, combined)
  match checked with
  | .error reason =>
    throw (Failure.simple .malformedRequest
      ("Invalid request URL " ++ Text.quotedOption url ++ ": " ++ reason))
  | .ok (parts, combined) =>
    let isPost := Text.upper (method.getD "") == "POST"
    let keptBody := if isPost then body.filter (fun b => !Text.isBlankText b) else none
    return { method := if isPost then .post else .get
             url := Parts.join { parts with query := "", fragment := "" }
             query := combined.filter (!·.isEmpty)
             headers := mergeHeaders auth.header headers
             body := keptBody }

/-- Sends a request and reads the body of a 200 response. Network failures become connection
failures naming the URL; other raised failures pass unchanged. The request is sent with
`depth` calls in progress. -/
def fetchText (depth : Nat) (r : Request) : Exchange String := do
  let response ← tryCatch (send (depth + 1) r) fun f =>
    match f.cause with
    | .network _ =>
      throw (Failure.simple .connection ("Error in connecting to " ++ r.url ++ ": " ++ f.message))
    | _ => throw f
  if response.status != 200 then
    throw (Failure.simple (.remoteService response.status)
      ("Error received from remote service (HTTP " ++ toString response.status ++ ")"))
  return Text.textOfBytesLossy response.body

end Courier.Http
