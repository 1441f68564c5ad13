import Courier.Connector.Outcome

namespace Courier.Connector

open Courier.Json Courier.Http

/-- Checks that the endpoint answers: the base request is sent to the base URL. The check runs
with `depth` calls in progress. -/
def Rest.probe (c : Config) (depth : Nat) : Exchange (Option Config) := do
  let e ← Exchange.ofExcept (c.resolve none true [])
  let _ ← fetchEndpoint c (depth + 1) e none
  return none

/-- The output of a paginated run: the items, and the total when the first page gave one. -/
def envelopeData (env : Paging.Envelope) : Value :=
  .obj ([("items", .arr env.items)] ++ match env.total with
    | some t => [("totalCount", .int t)]
    | none => [])

/-- Runs a query: the trimmed query on the resolved endpoint. Without declared pagination the
response text is the output as it is, once it reads as JSON; with it, the items of all pages
are gathered as `items` with the first page's total as `totalCount` (only the first page, cut
to the limit, for a preview), and the parameters the pagination names are carried from the
query onto cursor requests, decoded. The query runs with `depth` calls in progress. -/
def Rest.runQuery (c : Config) (depth : Nat) (q : QueryInfo) (limit : Option Int) :
    Exchange Outcome := do
  let query := Text.trim q.query
  let e ← Exchange.ofExcept (c.resolve q.resourceId false [])
  match c.pagination with
  | some s =>
    if s.kind != .none then
      let strategy := Paging.Settings.strategy (some s) (queryParamValues query s.carryParams)
      let env ← aggregate c (depth + 1) e (some query) strategy limit
      return ⟨query, envelopeData env, none⟩
    else single query e
  | none => single query e
where
  single (query : String) (e : Endpoint) : Exchange Outcome := do
    let raw ← fetchEndpoint c (depth + 1) e (some query)
    let v ← Exchange.ofExcept (readResponse "" (depth + 1) raw)
    return ⟨query, v, some raw⟩

end Courier.Connector
