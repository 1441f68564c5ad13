import Courier.Connector.Rest
import Courier.Connector.Catalog

/-!
The Akeneo catalogue connector. Queries are query-string fragments sent to one of the
catalogue's resources. List resources are paginated by next-page links, fetched with the
configured page size and a pause between pages; resources whose path holds a `{code}` slot
fetch one entity, whose code is the query. App credentials are exchanged for an access token
before anything else is sent.
-/

namespace Courier.Connector

open Courier.Json Courier.Http

/-- A query as the catalogue reads it: trimmed, and a lone slash means no query. -/
def Akeneo.normalizeQuery (query : Option String) : String :=
  let q := Text.trim (query.getD "")
  if q == "/" then "" else q

/-- The query with its `limit` parameter set to `limit`, every other parameter kept. -/
def Akeneo.withPageLimit (query : Option String) (limit : Int) : String :=
  Url.Query.setParam (Akeneo.normalizeQuery query) "limit" (toString limit)

/-- The slot of a resource path that the entity code fills. -/
def Akeneo.codeSlot : String := "\x7bcode\x7d"

/-- The continuation of list resources: next-page links, with the configured pause. -/
def Akeneo.strategy (settings : Settings) : Paging.Strategy :=
  .link "_embedded.items" "_links.next.href" settings.pageDelay

/-- The output of a run: the items under `_embedded.items`. -/
def Akeneo.itemsData (items : List Value) : Value :=
  .obj [("_embedded", .obj [("items", .arr items)])]

/-- The access token of a token response read with `depth` calls in progress, when it has a
non-empty one. -/
def Akeneo.tokenOf (depth : Nat) (raw : String) : Except Failure (Option String) := do
  match ← Parsed.ofText depth (some raw) with
  | .value v =>
    match v.path? "access_token" with
    | some (.str t) => return if t.isEmpty then none else some t
    | _ => return none
  | .failure _ => return none

/-- Exchanges app credentials for an access token: the user name and password are posted as
JSON to the token path with the client's basic credentials. A failed fetch or a response
without a token is a connection failure; the configuration carries the token afterwards. The
exchange runs with `depth` calls in progress. -/
def Akeneo.fetchToken (c : Config) (depth : Nat) : Exchange Config := do
  match c with
  | .rest _ base (.app username password _ _ _ _) =>
    let url := Url.join base.url (some akeneoTokenPath) (some base.url)
    let headers := Keyed.set base.headers "Content-Type" "application/json"
    let body := (Value.obj [("username", .str username), ("password", .str password),
      ("grant_type", .str "password")]).write
    let credentials ← Exchange.ofExcept c.tokenRequestCredentials
    let request ← Exchange.ofExcept
      (prepare credentials (some url) (some "POST") (some body) none headers)
    let raw ← tryCatch (fetchText (depth + 1) request) fun f =>
      if f.cause.isConnectorFailure then
        throw (f.wrap .connection "[Akeneo] Failed to get access token: ")
      else throw f
    match ← Exchange.ofExcept (Akeneo.tokenOf (depth + 1) raw) with
    | some token => Exchange.ofExcept (c.withToken token)
    | none =>
      throw (Failure.simple .connection "[Akeneo] Token response did not contain an access token")
  | _ => Exchange.ofExcept missingMember

/-- Checks that the catalogue answers: after fetching a token for app credentials, the base
request is sent to the system information path. The configuration with its token is kept. The
check runs with `depth` calls in progress. -/
def Akeneo.probe (c : Config) (depth : Nat) : Exchange (Option Config) := do
  let c ← if c.scheme == .app then Akeneo.fetchToken c (depth + 1) else pure c
  let e ← Exchange.ofExcept (c.resolve none true [])
  let _ ← fetchEndpoint c (depth + 1) { e with url := Url.join e.url (some akeneoSystemPath) (some e.url) } none
  return some c

/-- Runs a query. On an entity resource the query is the code, slashes at its ends dropped,
and only the entity's page is fetched. On a list resource the query gets the page size (the
preview size for a preview) and all pages are gathered. The query runs with `depth` calls in
progress. -/
def Akeneo.runQuery (settings : Settings) (c : Config) (depth : Nat) (q : QueryInfo)
    (limit : Option Int) : Exchange Outcome := do
  let e ← Exchange.ofExcept (c.resolve q.resourceId false akeneoResources)
  let query := Akeneo.normalizeQuery (some q.query)
  if (Text.splitText e.url Akeneo.codeSlot).length > 1 then
    if query.isEmpty then
      throw (Failure.simple .malformedQuery ("[Akeneo] A code is required for " ++ e.url))
    let code ← Exchange.ofExcept ((Url.percentEncode [] (String.ofList (Url.trimChar '/' query.toList))).mapError
      Failure.ofEncodeFault)
    let e := { e with url := Text.replaceText e.url Akeneo.codeSlot code }
    let env ← runPages Paging.Strategy.standardLink (depth + 1)
      (← Exchange.ofExcept (e.request c none)) true none
    return ⟨query, Akeneo.itemsData env.items, none⟩
  else
    let query := match limit with
      | some _ => Akeneo.withPageLimit (some query) settings.previewRows
      | none => Akeneo.withPageLimit (some query) settings.pageLimit
    let env ← aggregate c (depth + 1) e (some query) (Akeneo.strategy settings) limit
    return ⟨query, Akeneo.itemsData env.items, none⟩

end Courier.Connector
