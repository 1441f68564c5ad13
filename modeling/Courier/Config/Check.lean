import Courier.Config.Basic
import Courier.Check.Field

namespace Courier

open Courier.Json Courier.Check Courier.Http

/-- Text that is not blank, trimmed; blank text is a problem naming `what`. -/
def nonBlankText (what : String) (v : Value) : Checked String :=
  Checked.andThen (text v) fun s =>
    if Text.isBlankText s then Checked.fail (.valueError (what ++ " must not be empty"))
    else .ok (Text.trim s)

/-- A header name: a missing, false-like or blank value means the usual header. -/
def headerName (v : Value) : Checked String :=
  match v with
  | .str s => .ok (if Text.isBlankText s then defaultAuthHeader else s)
  | other => if other.truthy then text other else .ok defaultAuthHeader

/-- The resources member: checked item by item; when all pass, normalised, and a failure of
normalising ends the whole check. -/
def checkResources (fields : Fields) : Except Failure (Checked (List Resource)) :=
  match field fields "resources" (listOf (record Resource.check)) (some []) with
  | .ok rs => Checked.ok <$> Resource.validate rs
  | .failed ps => .ok (.failed ps)

def BaseRequest.check (fields : Fields) : Checked BaseRequest :=
  (fun url method body headers pagination =>
      ({ url, method, body, headers, pagination } : BaseRequest))
    <$> field fields "url" (nonBlankText "url") none
    <*> field fields "request_type" (member Method.byName) (some .get)
    <*> field fields "body" (optional text) (some none)
    <*> field fields "headers" (mapOf text) (some [])
    <*> field fields "pagination" (optional (record Paging.Settings.check)) (some none)

def checkBearer (fields : Fields) : Checked RestAccess :=
  (fun token header => RestAccess.bearer token header)
    <$> field fields "token" text none
    <*> field fields "auth_header_name" headerName (some defaultAuthHeader)

def checkApp (fields : Fields) : Checked RestAccess :=
  (fun username password clientId secret header token =>
      RestAccess.app username password clientId secret header token)
    <$> field fields "username" text none
    <*> field fields "password" text none
    <*> field fields "client_id" text none
    <*> field fields "secret" text none
    <*> field fields "auth_header_name" headerName (some defaultAuthHeader)
    <*> field fields "token" (optional text) (some none)

def checkRest (resources : Checked (List Resource)) (fields : Fields)
    (access : Checked RestAccess) : Checked Config :=
  (fun rs base a => Config.rest rs base a) <$> resources <*> BaseRequest.check fields <*> access

/-- Reads a configuration of a scheme from the members of a document; members it does not know
are ignored. Members are checked in a fixed order, the resources first, then the base request,
then the credentials, and their problems gathered; a resource list that fails to normalise is
the configuration's failure at once. -/
def Config.check (scheme : Scheme) (fields : Fields) : Except Failure Config := do
  let resources ← checkResources fields
  Checked.orFail <| match scheme with
    | .general => checkRest resources fields (.ok .general)
    | .anonymous => checkRest resources fields (.ok .anonymous)
    | .bearer => checkRest resources fields (checkBearer fields)
    | .app => checkRest resources fields (checkApp fields)
    | .personal =>
      (fun rs organization token => Config.personal rs organization token)
        <$> resources
        <*> field fields "organization" (nonBlankText "organization") none
        <*> field fields "token" text none

end Courier
