import Courier.Check.Field

namespace Courier.Connector

open Courier.Json Courier.Check

/-- A query handed in by the host: its text, its name and two maps of extra information, whose
entry `resourceId` names the resource the query targets. -/
structure QueryInfo where
  query : String
  queryName : String
  queryExtras : List (String × String)
  resourceExtras : List (String × String)
  deriving Repr, Inhabited

/-- The resource a query targets: the `resourceId` entry, when not empty. -/
def QueryInfo.resourceId (q : QueryInfo) : Option String :=
  (Keyed.get? q.resourceExtras "resourceId").filter (!·.isEmpty)

def QueryInfo.ofText (text : String) : QueryInfo :=
  ⟨text, "", [], []⟩

def QueryInfo.check (fields : Fields) : Checked QueryInfo :=
  (fun query queryName queryExtras resourceExtras =>
      ({ query, queryName, queryExtras, resourceExtras } : QueryInfo))
    <$> field fields "query" text (some "")
    <*> field fields "query_name" text (some "")
    <*> field fields "additional_query_info" (mapOf text) (some [])
    <*> field fields "additional_resource_info" (mapOf text) (some [])

/-- The outcome of a preview run: the query and the response text. -/
structure Preview where
  query : String
  response : String

end Courier.Connector
