import Courier.Config.Form
import Courier.Json.Echo

namespace Courier

open Courier.Json Courier.Http

/-- A kind of data source, one per connector the library offers. A connector is found by its key
or its display name, case and surrounding blanks ignored (`Vendor.byName`). -/
inductive Vendor where
  | rest
  | akeneo
  | salsify
  | azureDevops
  deriving Repr, BEq

def Vendor.all : List Vendor := [.rest, .akeneo, .salsify, .azureDevops]

def Vendor.key : Vendor → String
  | .rest => "rest"
  | .akeneo => "akeneo"
  | .salsify => "salsify"
  | .azureDevops => "azure_devops"

def Vendor.title : Vendor → String
  | .rest => "REST Connector"
  | .akeneo => "Akeneo"
  | .salsify => "Salsify"
  | .azureDevops => "Azure DevOps"

def Vendor.className : Vendor → String
  | .rest => "RestConnector"
  | .akeneo => "AkeneoConnector"
  | .salsify => "SalsifyConnector"
  | .azureDevops => "AzureDevopsConnector"

def Vendor.group : Vendor → String
  | .rest => "REST Connector"
  | .akeneo => "Product Information Management"
  | .salsify => "Product Information Management"
  | .azureDevops => "Project Management"

/-- Who provides the connectors. -/
def Vendor.author (_ : Vendor) : String := "Adobe Systems"

def Vendor.description (v : Vendor) : String :=
  let subject := match v with
    | .rest => "REST"
    | .akeneo => "Akeneo"
    | .salsify => "Salsify"
    | .azureDevops => "Azure DevOps"
  "AEM Guides " ++ subject ++ " data source connector to query and visualize the data."

/-- The configuration schemes a connector accepts; the first is the usual one. -/
def Vendor.schemes : Vendor → List Scheme
  | .rest => [.anonymous, .bearer]
  | .akeneo => [.app, .bearer]
  | .salsify => [.bearer]
  | .azureDevops => [.personal]

def Vendor.moreResourcesAllowed : Vendor → Bool
  | .rest => true
  | _ => false

/-- The catalogue query offered as a first example: products in category `0001`. -/
def akeneoSampleQuery : String :=
  "search=\x7b\"categories\":[\x7b\"operator\":\"IN\",\"value\":[\"0001\"]\x7d]\x7d"

def salsifySampleQuery : String :=
  "\x7b\"filter\": \"<optional filter string> \",\n\t\"page\": \"<optional page number>\",\n" ++
  "\t\"per_page\": \"<optional no of items per page>\"\n\x7d"

def workItemSampleQuery : String :=
  "\x7b\n  \"project\": \"Guides\",\n  \"query\":\"Select [System.Id], [System.Title], " ++
  "[System.State] From WorkItems Where [System.WorkItemType] = 'Task' order by " ++
  "[Microsoft.VSTS.Common.Priority] asc, [System.CreatedDate] desc\" \n\x7d"

def workItemIdsSampleQuery : String :=
  "\x7b\n  \"project\": \"Guides\",\n  \"query\":\"1,2,5,22\" \n\x7d"

def workItemStoredSampleQuery : String :=
  "\x7b\n  \"project\": \"Guides\",\n  \"query\":\"queryid12345\" \n\x7d"

def Vendor.sampleQuery : Vendor → String
  | .rest => ""
  | .akeneo => akeneoSampleQuery
  | .salsify => salsifySampleQuery
  | .azureDevops => workItemSampleQuery

def Vendor.validationQuery : Vendor → String
  | .azureDevops => "System.Id"
  | _ => ""

/-- A resource a connector brings: a GET endpoint, shown by default and enabled. -/
def Resource.builtIn (id name url sampleQuery : String) : Resource :=
  ⟨some (.given id), name, url, some .get, none, [], sampleQuery, true, true⟩

def akeneoCodeSearch (first second : String) : String :=
  "search=\x7b\"code\":[\x7b\"operator\":\"IN\",\"value\":[\"" ++ first ++ "\",\"" ++ second ++
    "\"]\x7d]\x7d"

/-- The Akeneo endpoint listing system information, used to check connectivity. -/
def akeneoSystemPath : String := "/api/rest/v1/system-information"

/-- The Akeneo endpoint that exchanges app credentials for an access token. -/
def akeneoTokenPath : String := "/api/oauth/v1/token"

def salsifyProductsPath : String := "/products"

def akeneoResources : List Resource :=
  [ .builtIn "get_all_products" "Get list of products " "/api/rest/v1/products" akeneoSampleQuery,
    .builtIn "get_product_by_id" "Get a product" "/api/rest/v1/products/\x7bcode\x7d" "10667767",
    .builtIn "get_all_products_uuid" "Get list of products (UUID)" "/api/rest/v1/products-uuid"
      akeneoSampleQuery,
    .builtIn "get_a_product_uuid" "Get a product (UUID)" "/api/rest/v1/products-uuid/\x7bcode\x7d"
      "25566245-55c3-42ce-86d9-8610ac459fa8",
    .builtIn "get_all_families" "Get list of families" "/api/rest/v1/families"
      (akeneoCodeSearch "family_code1" "family_code2"),
    .builtIn "get_all_attributes" "Get list of attributes" "/api/rest/v1/attributes"
      (akeneoCodeSearch "code1" "code2"),
    .builtIn "get_list_categories" "Get list of categories" "/api/rest/v1/categories"
      (akeneoCodeSearch "category_code1" "category_code2"),
    .builtIn "get_list_locales" "Get list of locales" "/api/rest/v1/locales"
      "search=\x7b\"enabled\":[\x7b\"operator\":\"=\",\"value\":true\x7d]\x7d" ]

def salsifyResources : List Resource :=
  [ .builtIn "get_all_products" "Get list of products " salsifyProductsPath salsifySampleQuery,
    .builtIn "get_all_records" "Get list of records" "/records" salsifySampleQuery,
    .builtIn "get_digital_assets" "Get digital assets" "/digital_assets" salsifySampleQuery ]

/-- The ways of selecting work items. -/
inductive WorkItemSelection where
  | byIds
  | byQuery
  | byStoredQuery
  deriving Repr, BEq

def WorkItemSelection.all : List WorkItemSelection := [.byIds, .byQuery, .byStoredQuery]

def WorkItemSelection.name : WorkItemSelection → String
  | .byIds => "BY_ID"
  | .byQuery => "BY_QUERY"
  | .byStoredQuery => "BY_QUERY_ID"

/-- The display name of a selection, which also identifies it in resources. -/
def WorkItemSelection.label : WorkItemSelection → String
  | .byIds => "Work Items by ID"
  | .byQuery => "Work Items by Wiql Query"
  | .byStoredQuery => "Work Items by Wiql Query Id"

def WorkItemSelection.resource (s : WorkItemSelection) : Resource :=
  match s with
  | .byIds => .builtIn "by_id" s.label "_apis/wit/workitems" workItemIdsSampleQuery
  | .byQuery => .builtIn "by_query" s.label "_apis/wit/wiql" workItemSampleQuery
  | .byStoredQuery => .builtIn "by_query_id" s.label "_apis/wit/wiql/\x7bid\x7d"
      workItemStoredSampleQuery

/-- The selection whose label is `label` after trimming, case ignored. -/
def WorkItemSelection.ofLabel (label : String) : Option WorkItemSelection :=
  WorkItemSelection.all.find? fun s => Text.lower s.label == Text.lower (Text.trim label)

def Vendor.defaultResources : Vendor → List Resource
  | .rest => []
  | .akeneo => akeneoResources
  | .salsify => salsifyResources
  | .azureDevops => WorkItemSelection.all.map (·.resource)

/-- A connector as editors receive it: what they show of it, whether more resources may be
added, the form of each scheme it accepts and the resources it brings. -/
def Vendor.describe (v : Vendor) : Value :=
  .obj [("name", .str v.title), ("group", .str v.group), ("author", .str v.author),
    ("description", .str v.description), ("sample_query", .str v.sampleQuery),
    ("validation_query", .str v.validationQuery),
    ("more_resources_allowed", .bool v.moreResourcesAllowed),
    ("configs", .arr (v.schemes.map (·.describe))),
    ("resources", .arr (v.defaultResources.map (·.dump)))]

/-- The connector a name selects: the key or display name it equals after trimming and
lowercasing. Binary data can be trimmed and lowercased but equals no name; another name that is
not text fails as a missing member; an unknown name names the keys. -/
def Vendor.byName (name : Value) : Except Failure Vendor := do
  let wanted ← match name with
    | .str s => pure (some (Text.lower (Text.trim s)))
    | .bytes _ => pure none
    | other =>
      if other.truthy then throw (Failure.simple .missingMember memberSummary) else pure (some "")
  let found := wanted.bind fun w =>
    Vendor.all.find? (fun v => v.key == w || Text.lower v.title == w)
  match found with
  | some v => pure v
  | none => throw (Failure.simple .config ("Unknown connector: " ++ name.echo ++ "; available: " ++
      ", ".intercalate (Vendor.all.map (·.key))))

/-- The scheme an authentication name selects among a connector's: its code name or title after
trimming, case ignored; without a name, the usual one. -/
def Vendor.selectScheme (v : Vendor) (auth : Value) : Except Failure Scheme := do
  if !auth.truthy then
    match v.schemes with
    | s :: _ => return s
    | [] => throw (Failure.simple .config (v.title ++ " declares no config classes"))
  let wanted ← match auth with
    | .str s => pure (some (Text.lower (Text.trim s)))
    | .bytes _ => pure none
    | _ => throw (Failure.simple .missingMember memberSummary)
  let found := wanted.bind fun w =>
    v.schemes.find? (fun s => Text.lower s.className == w || Text.lower s.title == w)
  match found with
  | some s => return s
  | none => throw (Failure.simple .config (v.title ++ " has no authentication type " ++ auth.echo))

end Courier
