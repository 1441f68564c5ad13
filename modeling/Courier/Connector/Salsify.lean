import Courier.Connector.Rest
import Courier.Connector.Catalog

namespace Courier.Connector

open Courier.Json Courier.Http Courier.Check

/-- A Salsify query document: an optional filter, a page number and a page size, a negative
number meaning not set; a blank query selects everything. -/
structure SalsifyQuery where
  filter : Option String
  page : Int
  perPage : Int
  deriving Repr, BEq

def SalsifyQuery.everything : SalsifyQuery := ⟨none, -1, -1⟩

def SalsifyQuery.check (fields : Fields) : Checked SalsifyQuery :=
  (fun filter page perPage => ({ filter, page, perPage } : SalsifyQuery))
    <$> field fields "filter" (optional text) (some none)
    <*> field fields "page" integer (some (-1))
    <*> field fields "per_page" integer (some (-1))

def SalsifyQuery.filterParam (q : SalsifyQuery) : List (String × String) :=
  match q.filter with
  | some f => if f.isEmpty then [] else [("filter", f)]
  | none => []

/-- The parameters of the first request: the filter, the page when set and the page size when
above zero. -/
def SalsifyQuery.firstPageParams (q : SalsifyQuery) : List (String × String) :=
  q.filterParam ++ (if q.page ≥ 0 then [("page", toString q.page)] else []) ++
    (if q.perPage > 0 then [("per_page", toString q.perPage)] else [])

/-- The parameters kept on cursor requests: only the filter. -/
def SalsifyQuery.carriedParams (q : SalsifyQuery) : List (String × String) :=
  q.filterParam

/-- The query as a compact document; an absent filter is left out. -/
def SalsifyQuery.toQuery (q : SalsifyQuery) : String :=
  (Value.obj ((match q.filter with
    | some f => [("filter", .str f)]
    | none => []) ++ [("page", .int q.page), ("per_page", .int q.perPage)])).write

def SalsifyQuery.invalid (reason : String) : Failure :=
  Failure.simple .malformedQuery ("[Salsify] Invalid query: " ++ reason)

/-- Reads a query with `depth` calls in progress; text that is no JSON object, or members that
fail their checks, is a malformed query. -/
def SalsifyQuery.parse (depth : Nat) (query : Option String) : Except Failure SalsifyQuery :=
  let text := query.getD ""
  if Text.isBlankText text then .ok SalsifyQuery.everything
  else
    match Value.readText (depth + 1) text with
    | .error f => .error f
    | .ok (.error reason) => .error (SalsifyQuery.invalid reason)
    | .ok (.ok (.obj fields)) =>
      match SalsifyQuery.check fields with
      | .ok q => .ok q
      | .failed ps => .error ((Failure.ofProblems ps).wrap .malformedQuery "[Salsify] Invalid query: ")
    | .ok (.ok _) => .error (SalsifyQuery.invalid "query must be a JSON object")

/-- Headers with `Host` set to the host of `url`, or to `url` itself when it names none. -/
def Salsify.hostHeader (headers : List (String × String)) (url : String) :
    List (String × String) :=
  let host := Url.hostnameOf url
  Keyed.set headers "Host" (if host.isEmpty then url else host)

/-- The continuation of every run: cursors, with the total of entries. -/
def Salsify.strategy (carried : List (String × String)) : Paging.Strategy :=
  .cursor "data" "meta.cursor" (some "meta.total_entries") "cursor" carried

/-- Checks that the service answers: the base request is sent to the product list. The check
runs with `depth` calls in progress. -/
def Salsify.probe (c : Config) (depth : Nat) : Exchange (Option Config) := do
  let e ← Exchange.ofExcept (c.resolve none true [])
  let e := { e with url := Url.join e.url (some salsifyProductsPath) (some e.url),
                    headers := Salsify.hostHeader e.headers e.url }
  let _ ← fetchEndpoint c (depth + 1) e none
  return none

/-- Runs a query over all cursor pages, the filter travelling with every cursor request and a
`Host` header naming the service's host on every request. A preview asks for the first page with
the preview size and stops there. The query runs with `depth` calls in progress. -/
def Salsify.runQuery (settings : Settings) (c : Config) (depth : Nat) (q : QueryInfo)
    (limit : Option Int) : Exchange Outcome := do
  let query ← match limit with
    | some _ =>
      let parsed ← Exchange.ofExcept (SalsifyQuery.parse (depth + 2) (some q.query))
      pure { parsed with page := 0, perPage := settings.previewRows }.toQuery
    | none => pure q.query
  let sq ← Exchange.ofExcept (SalsifyQuery.parse (depth + 1) (some query))
  let e ← Exchange.ofExcept (c.resolve q.resourceId false salsifyResources)
  let e := { e with headers := Salsify.hostHeader e.headers e.url }
  let first ← Exchange.ofExcept ((Url.formEncodePairs sq.firstPageParams).mapError Failure.ofEncodeFault)
  let request ← Exchange.ofExcept (e.request c (some first))
  let env ← runPages (Salsify.strategy sq.carriedParams) (depth + 1) request limit.isSome limit
  return ⟨query, .obj [("data", .arr env.items), ("totalRecords", .int (env.total.getD 0))], none⟩

end Courier.Connector
