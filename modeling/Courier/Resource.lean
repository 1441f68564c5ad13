import Courier.Http.Request
import Courier.Url.Join
import Courier.Failure

/-!
Resources: the named endpoints of a data source, each a path under the source's base URL that
a query selects by id. A resource is normalised before use: it must have a name and a URL, an
absolute URL is reduced to its path, a path gets a leading slash, a missing id is generated and
a missing method is GET. Names are unique up to case; ids are matched without regard to case.
-/

namespace Courier

open Courier.Json Courier.Check Courier.Http

/-- A resource id: given by the editor, or generated afresh (and then unlike any other). -/
inductive ResourceId where
  | given (id : String)
  | generated
  deriving Repr, BEq

/-- One selectable endpoint. -/
structure Resource where
  id : Option ResourceId
  name : String
  url : String
  method : Option Method
  body : Option String
  headers : List (String × String)
  sampleQuery : String
  isDefault : Bool
  isEnabled : Bool
  deriving Repr

def Resource.simple (id name url : String) : Resource :=
  ⟨some (.given id), name, url, none, none, [], "", false, true⟩

def Resource.check (fields : Fields) : Checked Resource :=
  (fun id name url method body headers sampleQuery isDefault isEnabled =>
      ({ id := id.map .given, name, url, method, body, headers, sampleQuery, isDefault,
         isEnabled } : Resource))
    <$> field fields "id" (optional text) (some none)
    <*> field fields "name" text (some "")
    <*> field fields "url" text (some "")
    <*> field fields "request_type" (optional (member Method.byName)) (some none)
    <*> field fields "body" (optional text) (some none)
    <*> field fields "headers" (mapOf text) (some [])
    <*> field fields "sample_query" text (some "")
    <*> field fields "is_default" flag (some false)
    <*> field fields "is_enabled" flag (some true)

def Resource.normalize (r : Resource) : Except Failure Resource := do
  if r.name.isEmpty then throw (Failure.simple .config "resource name is empty or blank")
  if r.url.isEmpty then throw (Failure.simple .config "resource url is empty or blank")
  let path ←
    if Url.isAbsolute r.url then
      match Url.pathOf r.url with
      | .ok p => pure p
      | .error e => throw (Failure.simple .config
          ("Unable to get relative path from url " ++ r.url ++ ": " ++ e.message))
    else pure r.url
  let path := if path.startsWith "/" then path else "/" ++ path
  let id := match r.id with
    | some (.given s) => if s.isEmpty then ResourceId.generated else .given s
    | some .generated => .generated
    | none => .generated
  return { r with url := path, id := some id, method := some (r.method.getD .get) }

/-- Normalises every resource and requires names that differ after lowercasing. -/
def Resource.validate (resources : List Resource) : Except Failure (List Resource) := do
  let normalized ← resources.mapM Resource.normalize
  let names := normalized.map (Text.lower ·.name)
  if names.eraseDups.length != normalized.length then
    throw (Failure.simple .config "Resource names are duplicated. Resource name should be unique")
  return normalized

/-- A resource id as the resource is written out; a generated id, which stands for a random
UUID, is written as `<uuid>`. -/
def ResourceId.dump : Option ResourceId → Json.Value
  | some (.given s) => .str s
  | some .generated => .str "<uuid>"
  | none => .null

/-- A resource written out member by member, its method by name and its headers as an object. -/
def Resource.dump (r : Resource) : Json.Value :=
  .obj [("id", ResourceId.dump r.id), ("name", .str r.name), ("url", .str r.url),
    ("request_type", (r.method.map fun m => Json.Value.str m.name).getD .null),
    ("body", (r.body.map Json.Value.str).getD .null),
    ("headers", .obj (r.headers.map fun (k, v) => (k, .str v))),
    ("sample_query", .str r.sampleQuery), ("is_default", .bool r.isDefault),
    ("is_enabled", .bool r.isEnabled)]

/-- Whether a resource has the id `wanted`, lowercased ids compared. -/
def Resource.hasId (r : Resource) (wanted : String) : Bool :=
  match r.id with
  | some (.given s) => !s.isEmpty && Text.lower s == Text.lower wanted
  | _ => false

/-- The resource a query selects: none without resources or without a non-blank id; a
failure when no resource has the id. -/
def Resource.find (resources : List Resource) (wanted : Option String) :
    Except Failure (Option Resource) :=
  match wanted with
  | none => .ok none
  | some w =>
    if resources.isEmpty || Text.isBlankText w then .ok none
    else match resources.find? (·.hasId w) with
      | some r => .ok (some r)
      | none => .error (Failure.simple .query "URL Resource selected for query is invalid")

end Courier
