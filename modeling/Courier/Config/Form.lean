import Courier.Config.Basic

namespace Courier

/-- The kind of input a form entry takes. -/
inductive InputKind where
  | text
  | choice
  | list
  | map
  | record
  deriving Repr, BEq

def InputKind.name : InputKind → String
  | .text => "string"
  | .choice => "enum"
  | .list => "list"
  | .map => "map"
  | .record => "object"

/-- One entry of a form an editor renders to fill in a configuration: its label, whether it is
required, a sentence about it, the kind of input, whether it is secret, its choices and its
default. -/
structure FormEntry where
  name : String
  label : String
  required : Bool
  info : String
  kind : InputKind
  secret : Bool
  choices : List String
  default : Option String
  deriving Repr

def FormEntry.needed (name label info : String) (secret : Bool) : FormEntry :=
  ⟨name, label, true, info, .text, secret, [], none⟩

def FormEntry.optional (name label info : String) (kind : InputKind) : FormEntry :=
  ⟨name, label, false, info, kind, false, [], none⟩

def resourcesEntry : FormEntry :=
  .optional "resources" "Url resource list" "Resource list for multiple url" .list

def baseRequestEntries : List FormEntry :=
  [ .needed "url" "URL" "API URL" false,
    ⟨"request_type", "HTTP method", false, "HTTP method type", .choice, false, ["GET", "POST"],
      some "GET"⟩,
    .optional "body" "Body" "HTTP request body" .text,
    .optional "headers" "Headers" "HTTP headers" .map,
    .optional "pagination" "Pagination" "How results are split across responses" .record ]

def headerEntry : FormEntry :=
  ⟨"auth_header_name", "Authentication header name", false,
    "Header name for bearer authentication default is Authorization", .text, false, [],
    some defaultAuthHeader⟩

/-- The form of a scheme, one entry per member; the fetched access token of app credentials is
in no form. -/
def Scheme.form : Scheme → List FormEntry
  | .general => resourcesEntry :: baseRequestEntries
  | .anonymous => resourcesEntry :: baseRequestEntries
  | .bearer => resourcesEntry :: baseRequestEntries ++
      [.needed "token" "Token" "Bearer Token" true, headerEntry]
  | .app => resourcesEntry :: baseRequestEntries ++
      [ .needed "username" "Username" "App username password authentication" false,
        .needed "password" "Password" "App password" true,
        .needed "client_id" "Clientid" "App client id" false,
        .needed "secret" "Secret" "App secret" true,
        headerEntry ]
  | .personal =>
      [ resourcesEntry,
        .needed "organization" "Organization" "Organization name" false,
        .needed "token" "Personal access token" "Personal access token for authentication"
          true ]

/-- An entry as editors receive it: its name, label, whether it is required, its sentence, its
kind and whether it is secret, then its choices only when it has some and its default only when
it has one. -/
def FormEntry.describe (e : FormEntry) : Json.Value :=
  .obj ([("name", .str e.name), ("label", .str e.label), ("required", .bool e.required),
    ("info", .str e.info), ("type", .str e.kind.name), ("secret", .bool e.secret)] ++
    (if e.choices.isEmpty then [] else [("values", .arr (e.choices.map .str))]) ++
    (match e.default with
      | some d => [("default", .str d)]
      | none => []))

/-- A scheme's form as editors receive it: its name, its sentence and its entries. -/
def Scheme.describe (s : Scheme) : Json.Value :=
  .obj [("name", .str s.title), ("info", .str s.info), ("fields", .arr (s.form.map (·.describe)))]

end Courier
