import Courier.Connector.Outcome
import Courier.Connector.Catalog
import Courier.Text.Numeral
import Courier.Json.Key

/-!
The Azure DevOps connector. A query is a JSON document naming an optional project and, as
`query`, a comma-separated list of work item ids, WIQL text, or the id of a stored query; the
resource chosen says which. Work items are fetched by id in chunks the service accepts, and
returned in the order of the ids asked for.

Work item ids and references come from the service's documents, whatever their kinds, so the
steps that read them check kinds as they go: a value that is no object has no members to ask
for, a value that is no list or text or object cannot be walked, and only null, booleans,
numbers and text can name a work item.
-/

namespace Courier.Connector

open Courier.Json Courier.Http Courier.Check

def devOpsBaseUrl : String := "https://dev.azure.com"

def devOpsApiVersion : String := "7.0"

/-- The largest number of ids one work item request may name. -/
def maxIdsPerRequest : Nat := 200

/-- An Azure DevOps query document. -/
structure WorkItemQuery where
  project : Option String
  query : String
  deriving Repr, BEq

def WorkItemQuery.check (fields : Fields) : Checked WorkItemQuery :=
  (fun project query => ({ project, query } : WorkItemQuery))
    <$> field fields "project" (optional text) (some none)
    <*> field fields "query" text (some "")

def WorkItemQuery.invalidPrefix : String := "[AzureDevops] Incorrect query format: "

def WorkItemQuery.invalid (reason : String) : Failure :=
  Failure.simple .malformedQuery (WorkItemQuery.invalidPrefix ++ reason)

/-- Reads a query with `depth` calls in progress; an absent query reads as empty text, which is
no JSON. -/
def WorkItemQuery.parse (depth : Nat) (query : Option String) : Except Failure WorkItemQuery :=
  let text := query.getD ""
  match Value.readText (depth + 1) text with
  | .error f => .error f
  | .ok (.error reason) => .error (WorkItemQuery.invalid reason)
  | .ok (.ok (.obj fields)) =>
    match WorkItemQuery.check fields with
    | .ok q => .ok q
    | .failed ps => .error ((Failure.ofProblems ps).wrap .malformedQuery WorkItemQuery.invalidPrefix)
  | .ok (.ok _) => .error (WorkItemQuery.invalid "query must be a JSON object")

/-- The integer one entry of an id list spells, or why it spells none, as integer conversion
reads it in base 10. -/
def workItemId (entry : String) : Except String Int :=
  Text.intOfText entry 10

/-- The ids of a comma-separated list; every entry is trimmed and must be an integer. -/
def parseWorkItemIds (query : String) : Except Failure (List Int) :=
  (Text.splitText query ",").mapM fun part =>
    match workItemId (Text.trim part) with
    | .ok n => .ok n
    | .error reason => .error (WorkItemQuery.invalid reason)

def wrongKind {α : Type} : Except Failure α :=
  .error (Failure.simple .badType typeSummary)

/-- The member `name` of a value that must be an object; null when it is missing. -/
def memberOf (v : Value) (name : String) : Except Failure Value :=
  match v with
  | .obj fields => .ok ((Fields.get? fields name).getD .null)
  | _ => missingMember

/-- The entries of a value walked in order: a list's items, a text's characters, an object's
member names; a value that counts as false has none. -/
def entriesOf (v : Value) : Except Failure (List Value) :=
  if !v.truthy then .ok []
  else match v with
    | .arr items => .ok items
    | .str s => .ok (s.toList.map fun c => .str c.toString)
    | .obj fields => .ok (fields.map fun (k, _) => .str k)
    | _ => wrongKind

def entriesAt (document : Value) (path : String) : Except Failure (List Value) :=
  entriesOf ((document.path? path).getD (.arr []))

/-- One work item entered in the table keyed by `id`: a later item replaces an earlier one of
the same id, under the earlier key. -/
def workItemStep (table : List (Value × Value)) (item : Value) :
    Except Failure (List (Value × Value)) := do
  let key ← memberOf item "id"
  if !key.hashable then wrongKind
  else if table.any (fun (k, _) => k.sameKey key) then
    return table.map fun (k, v) => if k.sameKey key then (k, item) else (k, v)
  else return table ++ [(key, item)]

def workItemsById (items : List Value) : Except Failure (List (Value × Value)) :=
  items.foldlM workItemStep []

/-- Work items in the order of `ids`; ids that no item has are dropped, and an id asked for
twice gives its item twice. -/
def sortByIds (items : List Value) (ids : List Value) : Except Failure (List Value) := do
  let table ← workItemsById items
  ids.filterMapM fun i =>
    if !i.hashable then wrongKind
    else .ok ((table.find? fun (k, _) => k.sameKey i).map (·.2))

def joinTexts (entries : List Value) : Except Failure String := do
  let texts ← entries.mapM fun
    | .str s => Except.ok s
    | _ => wrongKind
  return ",".intercalate texts

/-- Splits a list into chunks of `size` entries, the last one shorter. -/
def chunksOf {α : Type} (size : Nat) (xs : List α) : List (List α) :=
  go xs xs.length
where
  go (rest : List α) : Nat → List (List α)
    | 0 => []
    | fuel + 1 => if rest.isEmpty then [] else rest.take size :: go (rest.drop size) fuel

def AzureDevops.segment (s : String) : Except Failure String :=
  (Url.percentEncode [] s).mapError Failure.ofEncodeFault

def AzureDevops.organizationUrl (organization : String) : Except Failure String := do
  return devOpsBaseUrl ++ "/" ++ (← AzureDevops.segment organization)

/-- The address of a project, or of the organization when no project is named. -/
def AzureDevops.projectUrl (organization : String) (project : Option String) :
    Except Failure String := do
  let base ← AzureDevops.organizationUrl organization
  match project with
  | some p =>
    if Text.isBlankText p then return base
    else return base ++ "/" ++ (← AzureDevops.segment (Text.trim p))
  | none => return base

def AzureDevops.organization : Config → Except Failure String
  | .personal _ organization _ => .ok organization
  | _ => missingMember

/-- Sends one API request and reads its document: parameters and the API version as the
query, commas and dollar signs kept; a body makes it a JSON POST. A response that is no JSON is
a query failure. The request is sent with `depth` calls in progress. -/
def AzureDevops.call (c : Config) (depth : Nat) (url : String) (params : List (String × String))
    (body : Option Value) : Exchange Value := do
  let query ← Exchange.ofExcept ((Url.formEncodePairsKeeping [',', '$']
    (Keyed.set params "api-version" devOpsApiVersion)).mapError Failure.ofEncodeFault)
  let headers := if body.isSome then [("Content-Type", "application/json")] else []
  let method := if body.isSome then "POST" else "GET"
  let credentials ← Exchange.ofExcept c.credentials
  let request ← Exchange.ofExcept
    (prepare credentials (some url) (some method) (body.map (·.write)) (some query) headers)
  let raw ← fetchText (depth + 1) request
  Exchange.ofExcept (readResponse "[AzureDevops] " (depth + 1) raw)

/-- Checks that the organization answers by reading the definition of the `System.Id` field,
with `depth` calls in progress. -/
def AzureDevops.probe (c : Config) (depth : Nat) : Exchange (Option Config) := do
  let organization ← Exchange.ofExcept (AzureDevops.organization c)
  let base ← Exchange.ofExcept (AzureDevops.organizationUrl organization)
  let _ ← AzureDevops.call c (depth + 1) (base ++ "/_apis/wit/fields/" ++ Vendor.azureDevops.validationQuery)
    [] none
  return none

/-- Fetches work items by id, at most `maxIdsPerRequest` per request; a preview keeps only the
first ids. With fields, only those are asked for, at the given time when there is one, and ids
that cannot be read are left out; without, all fields. Entries that count as false are
dropped. The requests are sent with `depth` calls in progress. -/
def AzureDevops.getByIds (c : Config) (depth : Nat) (project : Option String) (ids : List Value)
    (fields : List Value) (asOf : Option Value) (limit : Option Int) : Exchange (List Value) := do
  let ids := match limit with
    | some n => ids.take n.toNat
    | none => ids
  if ids.isEmpty then return []
  let organization ← Exchange.ofExcept (AzureDevops.organization c)
  let url := (← Exchange.ofExcept (AzureDevops.projectUrl organization project)) ++ "/_apis/wit/workitems"
  (chunksOf maxIdsPerRequest ids).foldlM (fun items chunk => do
    let idParam := ",".intercalate (chunk.map (·.asText))
    let params ← if fields.isEmpty then pure [("ids", idParam), ("$expand", "fields")]
      else do
        let names ← Exchange.ofExcept (joinTexts fields)
        pure ([("ids", idParam), ("fields", names)] ++
          (match asOf with
            | some t => [("asOf", t.asText)]
            | none => []) ++ [("errorPolicy", "omit")])
    let response ← AzureDevops.call c (depth + 1) url params none
    let found ← Exchange.ofExcept (entriesAt response "value")
    return items ++ found.filter (·.truthy)) []

/-- Runs WIQL text, then fetches the matching work items with the query's columns, in the
order the query returned them, with `depth` calls in progress. -/
def AzureDevops.getByQuery (c : Config) (depth : Nat) (project : Option String) (wiql : String)
    (limit : Option Int) : Exchange (List Value) := do
  let organization ← Exchange.ofExcept (AzureDevops.organization c)
  let url := (← Exchange.ofExcept (AzureDevops.projectUrl organization project)) ++ "/_apis/wit/wiql"
  let result ← AzureDevops.call c (depth + 1) url [] (some (.obj [("query", .str wiql)]))
  let refs ← Exchange.ofExcept (entriesAt result "workItems")
  let ids ← Exchange.ofExcept (refs.mapM (memberOf · "id"))
  if ids.isEmpty then return []
  let columns ← Exchange.ofExcept (entriesAt result "columns")
  let fields ← Exchange.ofExcept (columns.mapM (memberOf · "referenceName"))
  if fields.isEmpty then return []
  let asOf := (result.path? "asOf").filter (·.truthy)
  let items ← AzureDevops.getByIds c (depth + 1) project ids fields asOf limit
  Exchange.ofExcept (sortByIds items ids)

/-- Loads the WIQL text of a stored query of a project and runs it, with `depth` calls in
progress. -/
def AzureDevops.getByQueryId (c : Config) (depth : Nat) (project : Option String)
    (queryId : String) (limit : Option Int) : Exchange (List Value) := do
  let named := match project with
    | some p => !Text.isBlankText p
    | none => false
  if !named then
    throw (Failure.simple .query "[AzureDevops] Project should not be empty for this resource")
  let organization ← Exchange.ofExcept (AzureDevops.organization c)
  let base ← Exchange.ofExcept (AzureDevops.projectUrl organization project)
  let url := base ++ "/_apis/wit/queries/" ++ (← Exchange.ofExcept (AzureDevops.segment (Text.trim queryId)))
  let stored ← AzureDevops.call c (depth + 1) url [("$expand", "all")] none
  match stored.path? "wiql" with
  | some (.str wiql) =>
    if Text.isBlankText wiql then throw (Failure.simple .query "[AzureDevops] Query is empty")
    else AzureDevops.getByQuery c (depth + 1) project wiql limit
  | _ => throw (Failure.simple .query "[AzureDevops] Query is empty")

/-- Runs a query: the query document is read first, then the selected resource's label says
how its `query` selects work items. The output is the work items under `data`. The query runs
with `depth` calls in progress. -/
def AzureDevops.runQuery (c : Config) (depth : Nat) (q : QueryInfo) (limit : Option Int) :
    Exchange Outcome := do
  let wq ← Exchange.ofExcept (WorkItemQuery.parse (depth + 1) (some q.query))
  let resource ← Exchange.ofExcept (c.selectResource q.resourceId Vendor.azureDevops.defaultResources)
  let items ← match resource.bind (WorkItemSelection.ofLabel ·.name) with
    | none => throw (Failure.simple .query "[AzureDevops] Resource not found")
    | some .byIds =>
      let ids ← Exchange.ofExcept (parseWorkItemIds wq.query)
      let ids := ids.map Value.int
      let items ← AzureDevops.getByIds c (depth + 1) wq.project ids [] none limit
      Exchange.ofExcept (sortByIds items ids)
    | some .byQuery => AzureDevops.getByQuery c (depth + 1) wq.project wq.query limit
    | some .byStoredQuery => AzureDevops.getByQueryId c (depth + 1) wq.project wq.query limit
  return ⟨q.query, .obj [("data", .arr items)], none⟩

end Courier.Connector
