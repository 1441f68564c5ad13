import Courier.Url.Parts
import Courier.Url.Encode
import Courier.Check.Field
import Courier.Json.Echo

namespace Courier.Http

open Courier.Url

/-- The methods a connector issues. -/
inductive Method where
  | get
  | post
  deriving Repr, BEq, Inhabited

def Method.name : Method → String
  | .get => "GET"
  | .post => "POST"

def Method.byName : List (String × Method) :=
  [("GET", .get), ("POST", .post)]

/-- One outbound request: a method, the URL without its query, the raw query, headers in order
and an optional body. A request is never changed in place; a new one is made from it. -/
structure Request where
  method : Method
  url : String
  query : Option String
  headers : List (String × String)
  body : Option String
  deriving Repr, BEq, Inhabited

def Request.fullUrl (r : Request) : String :=
  match r.query with
  | some q => if q.isEmpty then r.url else r.url ++ "?" ++ q
  | none => r.url

/-- The request pointed at `href`: its scheme, network location and path become the URL and
its query the query; a fragment is dropped. -/
def Request.withUrl (r : Request) (href : String) : Except UrlError Request := do
  let p ← Parts.split href
  return { r with url := Parts.join { p with query := "", fragment := "" }
                  query := if p.query.isEmpty then none else some p.query }

/-- The request with its query replaced by form-encoded parameters; none for no parameters. -/
def Request.withQuery (r : Request) (params : List (String × String)) :
    Except Text.EncodeFault Request :=
  if params.isEmpty then .ok { r with query := none }
  else do return { r with query := some (← formEncodePairs params) }

/-- The request with its query replaced by parameters of any value, each value written as plain
text first: text as it is, every other value as messages spell it. -/
def Request.withParams (r : Request) (params : List (String × Json.Value)) :
    Except Text.EncodeFault Request :=
  r.withQuery (params.map fun (k, v) => (k, v.asText))

/-- Checks the fields of a request: `url` is required text, `method` one of `GET` and `POST`
(by default `GET`), `query` and `body` optional text, `headers` text by name. -/
def Request.check (fields : Json.Fields) : Check.Checked Request :=
  (fun method url query headers body => { method, url, query, headers, body })
    <$> Check.field fields "method" (Check.member Method.byName) (some .get)
    <*> Check.field fields "url" Check.text none
    <*> Check.field fields "query" (Check.optional Check.text) (some none)
    <*> Check.field fields "headers" (Check.mapOf Check.text) (some [])
    <*> Check.field fields "body" (Check.optional Check.text) (some none)

end Courier.Http
