import Courier.Resource
import Courier.Paging.Settings
import Courier.Http.Invoke
import Courier.Text.Base64

/-!
Data source configurations: what is needed to reach one data source. A REST configuration has
a base URL, the request sent when no resource is selected, optional declared pagination, its
own resources and a way of authenticating; a personal token configuration names an
organization and a token. Each way of authenticating adds its own headers to every request.

Resolving a query's resource gives the request shape for that query: the resource's path is
joined onto the base URL, its method and body replace the base ones, and its headers are set
over the base headers.
-/

namespace Courier

open Courier.Json Courier.Http

/-- The ways of configuring a data source, one per way of authenticating. -/
inductive Scheme where
  | general
  | anonymous
  | bearer
  | app
  | personal
  deriving Repr, BEq

def Scheme.all : List Scheme := [.general, .anonymous, .bearer, .app, .personal]

def Scheme.className : Scheme → String
  | .general => "RestConfig"
  | .anonymous => "NoAuthRestConfig"
  | .bearer => "BearerTokenRestConfig"
  | .app => "AppAccessTokenConfig"
  | .personal => "PersonalAccessTokenConfig"

def Scheme.title : Scheme → String
  | .general => "No authentication config"
  | .anonymous => "No authentication config"
  | .bearer => "Bearer token authentication"
  | .app => "App username password authentication"
  | .personal => "Personal access token"

def Scheme.info : Scheme → String
  | .general => ""
  | .anonymous => "Endpoint without authentication"
  | .bearer =>
    "Bearer authentication (also called token authentication) is an HTTP authentication " ++
    "scheme that involves security tokens called bearer tokens."
  | .app =>
    "An App username password authentication containing the security credentials " ++
    "for Akeneo Connector"
  | .personal =>
    "A personal access token authentication contains the security credentials for " ++
    "Azure DevOps as a token."

/-- The header credentials go in unless a configuration names another. -/
def defaultAuthHeader : String := "Authorization"

/-- The request a REST configuration sends when no resource is selected. -/
structure BaseRequest where
  url : String
  method : Method
  body : Option String
  headers : List (String × String)
  pagination : Option Paging.Settings

/-- How a REST configuration authenticates. -/
inductive RestAccess where
  | general
  | anonymous
  | bearer (token header : String)
  | app (username password clientId secret header : String) (token : Option String)

/-- A data source configuration. -/
inductive Config where
  | rest (resources : List Resource) (base : BaseRequest) (access : RestAccess)
  | personal (resources : List Resource) (organization token : String)

def Config.resources : Config → List Resource
  | .rest resources _ _ => resources
  | .personal resources _ _ => resources

def Config.pagination : Config → Option Paging.Settings
  | .rest _ base _ => base.pagination
  | .personal .. => none

def Config.scheme : Config → Scheme
  | .rest _ _ .general => .general
  | .rest _ _ .anonymous => .anonymous
  | .rest _ _ (.bearer ..) => .bearer
  | .rest _ _ (.app ..) => .app
  | .personal .. => .personal

/-- The headers and query parameters a configuration adds to every request: a bearer token
(for app credentials, the fetched token, empty before), or for a personal token the basic
credentials with an empty user name. -/
def Config.credentials : Config → Except Failure Credentials
  | .rest _ _ .general => .ok .none
  | .rest _ _ .anonymous => .ok .none
  | .rest _ _ (.bearer token header) => .ok ⟨[(header, "Bearer " ++ token)], []⟩
  | .rest _ _ (.app _ _ _ _ header token) => .ok ⟨[(header, "Bearer " ++ token.getD "")], []⟩
  | .personal _ _ token => do
    let encoded ← (Text.base64OfText (":" ++ token)).mapError Failure.ofEncodeFault
    return ⟨[(defaultAuthHeader, "Basic " ++ encoded)], []⟩

/-- The failure of asking a configuration for something its scheme does not have. -/
def missingMember {α : Type} : Except Failure α :=
  .error (Failure.simple .missingMember memberSummary)

/-- The basic credentials of the client id and secret, sent to fetch an access token. -/
def Config.tokenRequestCredentials : Config → Except Failure Credentials
  | .rest _ _ (.app _ _ clientId secret header _) => do
    let encoded ← (Text.base64OfText (clientId ++ ":" ++ secret)).mapError Failure.ofEncodeFault
    return ⟨[(header, "Basic " ++ encoded)], []⟩
  | _ => missingMember

def Config.withToken (c : Config) (token : String) : Except Failure Config :=
  match c with
  | .rest resources base (.app username password clientId secret header _) =>
    .ok (.rest resources base (.app username password clientId secret header (some token)))
  | _ => missingMember

/-- The resources queries choose from: the configuration's own, or else the normalised
`defaults`. -/
def Config.resourceList (c : Config) (defaults : List Resource) :
    Except Failure (List Resource) :=
  if c.resources.isEmpty then Resource.validate defaults else .ok c.resources

def Config.selectResource (c : Config) (wanted : Option String) (defaults : List Resource) :
    Except Failure (Option Resource) := do
  Resource.find (← c.resourceList defaults) wanted

/-- The request shape for one query. -/
structure Endpoint where
  url : String
  method : Method
  body : Option String
  headers : List (String × String)
  resource : Option Resource

def BaseRequest.endpoint (base : BaseRequest) : Endpoint :=
  ⟨base.url, base.method, base.body, base.headers, none⟩

/-- The endpoint of a resource: its path joined onto the base URL (the base URL when joining
fails), its method or GET, its body, and the base headers with the resource's set over them. -/
def BaseRequest.endpointOf (base : BaseRequest) (r : Resource) : Endpoint :=
  { url := Url.join base.url (some r.url) (some base.url)
    method := r.method.getD .get
    body := r.body
    headers := r.headers.foldl (fun acc (k, v) => Keyed.set acc k v) base.headers
    resource := some r }

/-- The endpoint of a query on a REST configuration. With `probe`, resources are ignored and
the base request is used, as for a connectivity check; otherwise the query's resource is
chosen as `Config.selectResource` does. -/
def Config.resolve (c : Config) (wanted : Option String) (probe : Bool)
    (defaults : List Resource) : Except Failure Endpoint :=
  match c with
  | .rest _ base _ =>
    if probe then .ok base.endpoint
    else do
      match ← c.selectResource wanted defaults with
      | none => return base.endpoint
      | some r => return base.endpointOf r
  | .personal .. => missingMember

/-- The request for an endpoint with an optional query, with the configuration's credentials. -/
def Endpoint.request (e : Endpoint) (c : Config) (query : Option String) :
    Except Failure Request :=
  do prepare (← c.credentials) (some e.url) (some e.method.name) e.body query e.headers

end Courier
