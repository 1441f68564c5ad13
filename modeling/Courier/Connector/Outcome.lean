import Courier.Config.Basic
import Courier.Paging.Aggregate
import Courier.Settings
import Courier.Connector.Query
import Courier.Url.Encode

namespace Courier.Connector

open Courier.Json Courier.Http

/-- The outcome of running one query: the query actually run (a preview may set its page size),
the output, and the response text when the connector passes it through in place of the
data's text. -/
structure Outcome where
  query : String
  data : Value
  raw : Option String

def Outcome.text (o : Outcome) : String :=
  o.raw.getD o.data.write

/-- Fetches the response text of an endpoint, with `depth` calls in progress. -/
def fetchEndpoint (c : Config) (depth : Nat) (e : Endpoint) (query : Option String) :
    Exchange String := do
  fetchText (depth + 1) (← Exchange.ofExcept (e.request c query))

/-- The document of a response text, read with `depth` calls in progress; text that is no JSON
is a query failure with the reader's reason, after `prefixText`. -/
def readResponse (prefixText : String) (depth : Nat) (raw : String) : Except Failure Value := do
  match ← Parsed.ofText depth (some raw) with
  | .value v => .ok v
  | .failure reason =>
    .error (Failure.simple .query (prefixText ++ "Malformed response from remote service: " ++ reason))

/-- Fetches a first request and the pages after it, with `depth` calls in progress. The number
of continuation pages is bounded by what the transport can answer and the number of items
wanted. -/
def runPages (s : Paging.Strategy) (depth : Nat) (first : Request) (skip : Bool)
    (maxItems : Option Int) : Exchange Paging.Envelope := do
  Paging.run s depth first skip maxItems ((← get).script.pageBudget ((maxItems.getD 0).toNat))

/-- Runs a query over the pages of an endpoint, with `depth` calls in progress; with a limit,
only the first page, cut to the limit. -/
def aggregate (c : Config) (depth : Nat) (e : Endpoint) (query : Option String)
    (s : Paging.Strategy) (limit : Option Int) : Exchange Paging.Envelope := do
  runPages s (depth + 1) (← Exchange.ofExcept (e.request c query)) limit.isSome limit

def afterEquals (s : String) : Option String :=
  match s.toList.dropWhile (· != '=') with
  | _ :: rest => some (String.ofList rest)
  | [] => none

/-- The decoded values of the named parameters of a query, in the order of the names; a
parameter without `=` has none. -/
def queryParamValues (query : String) (names : List String) : List (String × String) :=
  let segments := if query.isEmpty then [] else Url.Query.params query
  names.foldl (fun acc name =>
    match (Keyed.get? segments name).bind afterEquals with
    | some v => Keyed.set acc name (Url.formDecode v)
    | none => acc) []

end Courier.Connector
