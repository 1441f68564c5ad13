import Courier.Settings
import Courier.Config.Check
import Courier.Connector.Catalog
import Courier.Yaml.Construct

/-!
Setting up from files: runtime settings and a connector's configuration are read from YAML
files in a working directory. A missing settings file means the usual settings; a missing
configuration file is a failure. In a configuration file, `$NAME` and `${NAME}` in text values
are replaced from the environment, and names the environment lacks stay as written.
-/

namespace Courier

open Courier.Json

abbrev Directory := List (String × String)

/-- A path as it is shown: empty and `.` parts dropped, slashes single, `.` for nothing. -/
def displayPath (path : String) : String :=
  let parts := (Text.splitText path "/").filter (fun p => !p.isEmpty && p != ".")
  let joined := "/".intercalate parts
  if path.startsWith "/" then "/" ++ joined
  else if joined.isEmpty then "." else joined

def Directory.read? (dir : Directory) (path : String) : Option String :=
  Keyed.get? (dir.map fun (p, text) => (displayPath p, text)).reverse (displayPath path)

/-- The members of a value that must name keyword arguments: the empty mapping for a value that
counts as false, none for one that is no object (a mapping with keys that are not text
included). -/
def Json.Value.keywords? (v : Value) : Option Fields :=
  if !v.truthy then some []
  else match v with
    | .obj fields => some fields
    | _ => none

/-- The failure a YAML fault is outside of the places that report it themselves. -/
def Yaml.Fault.failure : Yaml.Fault → Failure
  | .malformed _ => Failure.simple .config "<yaml error>"
  | .badValue message => Failure.simple .badValue message
  | .unknownWord word => Failure.simple .missingKey (Text.quoted word)
  | .emptyNumber => Failure.simple .badIndex "string index out of range"
  | .notATimestamp => Failure.simple .missingMember memberSummary
  | .timestampMapping => Failure.simple .badType typeSummary
  | .codeOutOfRange code =>
    if code ≤ 0x7FFFFFFF then Failure.simple .badValue "chr() arg not in range(0x110000)"
    else Failure.simple .overflow "Python int too large to convert to C int"
  | .tooDeep call => Failure.simple .tooDeep call.message

/-- Settings from the text of a file named `name`: text that is no YAML, a document that is no
mapping, members that fail their checks, and a scalar that is no value of its kind or of the
wrong kind, are a configuration failure naming the file. The text is loaded with `depth` calls
in progress. -/
def Settings.ofText (depth : Nat) (name : String) (text : String) : Except Failure Settings :=
  let why := "Invalid settings file " ++ name ++ ": "
  match Yaml.read depth text with
  | .error (.malformed _) => .error (Failure.simple .config (why ++ "<yaml error>"))
  | .error (.badValue message) => .error (Failure.simple .config (why ++ message))
  | .error .timestampMapping => .error (Failure.simple .config (why ++ typeSummary))
  | .error fault =>
    let f := fault.failure
    if f.cause == .badValue then .error (f.wrap .config why) else .error f
  | .ok doc =>
    match ((doc.map Yaml.Built.value).getD Value.null).keywords? with
    | none => .error (Failure.simple .config (why ++ typeSummary))
    | some fields =>
      match Settings.check fields with
      | .ok s => .ok s
      | .failed ps => .error ((Failure.ofProblems ps).wrap .config why)

/-- The file settings are read from: the given path, else the one the environment names under
`KONNECT_SETTINGS`, else `konnect.yaml`. -/
def Settings.location (path : Option String) (env : List (String × String)) : String :=
  match path with
  | some p => p
  | none => (Keyed.get? env "KONNECT_SETTINGS").getD "konnect.yaml"

/-- Loads settings from a working directory, with `depth` calls in progress; without the file,
the usual settings. -/
def Settings.load (dir : Directory) (depth : Nat) (path : Option String)
    (env : List (String × String)) : Except Failure Settings :=
  let location := Settings.location path env
  match dir.read? location with
  | none => .ok Settings.standard
  | some text => Settings.ofText (depth + 1) (displayPath location) text

/-- Replaces `$NAME` and `${NAME}` from the environment: a name is letters, digits and
underscores, or anything up to the closing brace. A name the environment lacks stays as written,
and replaced text is not looked at again. -/
def expandVariables (env : List (String × String)) (text : String) : String :=
  String.ofList (go text.toList text.length)
where
  isNameChar (c : Char) : Bool := c.isAlphanum || c == '_'
  go (cs : List Char) : Nat → List Char
    | 0 => cs
    | fuel + 1 =>
      match cs with
      | [] => []
      | '$' :: '{' :: rest =>
        let name := rest.takeWhile (· != '}')
        if name.length < rest.length then
          let after := rest.drop (name.length + 1)
          match Keyed.get? env (String.ofList name) with
          | some v => v.toList ++ go after fuel
          | none => '$' :: '{' :: name ++ '}' :: go after fuel
        else '$' :: go ('{' :: rest) fuel
      | '$' :: rest =>
        let name := rest.takeWhile isNameChar
        if name.isEmpty then '$' :: go rest fuel
        else
          let after := rest.drop name.length
          match Keyed.get? env (String.ofList name) with
          | some v => v.toList ++ go after fuel
          | none => '$' :: name ++ go after fuel
      | c :: rest => c :: go rest fuel

/-- Whether replacing variables in a text looks a name up: some `$` is followed by a letter, a
digit or an underscore, or by `{` with a `}` somewhere after it. -/
def hasVariable (text : String) : Bool :=
  go text.toList
where
  go : List Char → Bool
    | '$' :: tail@(c :: rest) =>
      c.isAlphanum || c == '_' || (c == '\x7b' && rest.contains '\x7d') || go tail
    | _ :: rest => go rest
    | [] => false

/-- Where replacing variables in a built document meets the call limit, if it does, when the
walk over node `i` is called with `room` calls left; walking a cycle always does. Every value
is walked in a call. Text is then expanded in a call, and text with a variable in it makes a
native call there and then looks the name up in two calls more. A mapping gets its entries in a
native call and walks their values in a call of its own; a list walks its items in a call of
its own, and the pairs of an ordered mapping are values that are not walked further. Other
values end the walk. Values are walked in order, and the first call that meets the limit
stops it. -/
def expansionLimit? (records : Array (Option Yaml.Record)) : Nat → Nat → Option DeepCall
  | 0, _ => some .function
  | room + 1, i =>
    match records.getD i none with
    | some (.scalar (.str s)) =>
      match room with
      | 0 => some .function
      | 1 => if hasVariable s then some .native else none
      | 2 => if hasVariable s then some .function else none
      | _ + 3 => none
    | some (.mapping entries) =>
      match room with
      | 0 => some .native
      | inner + 1 => entries.findSome? fun (_, v) => expansionLimit? records inner v
    | some (.list items) =>
      match room with
      | 0 => some .function
      | inner + 1 => items.findSome? (expansionLimit? records inner)
    | some (.pairs items) =>
      match room with
      | 0 => some .function
      | 1 => if items.isEmpty then none else some .function
      | _ + 2 => none
    | _ => none

mutual

/-- A document with the variables of its text values replaced; keys stay as written. -/
def Json.Value.expand (env : List (String × String)) : Value → Value
  | .str s => .str (expandVariables env s)
  | .arr items => .arr (Json.Value.expandItems env items)
  | .obj fields => .obj (Json.Value.expandFields env fields)
  | .mapping entries => .mapping (Json.Value.expandEntries env entries)
  | v => v

def Json.Value.expandItems (env : List (String × String)) : List Value → List Value
  | [] => []
  | v :: rest => v.expand env :: Json.Value.expandItems env rest

def Json.Value.expandFields (env : List (String × String)) : Fields → Fields
  | [] => []
  | (k, v) :: rest => (k, v.expand env) :: Json.Value.expandFields env rest

def Json.Value.expandEntries (env : List (String × String)) :
    List (Value × Value) → List (Value × Value)
  | [] => []
  | (k, v) :: rest => (k, v.expand env) :: Json.Value.expandEntries env rest

end

def Json.Value.member? (v : Value) (name : String) : Option Value :=
  match v with
  | .obj fields => Fields.get? fields name
  | .mapping entries => (entries.find? (fun (k, _) => k == .str name)).map (·.2)
  | _ => none

/-- The configuration a connector reads from members, for the scheme an authentication name
selects. Members that are no mapping with text keys fail as a wrong kind; failed checks become
a configuration failure naming the scheme. -/
def Vendor.configOf (v : Vendor) (data : Option Fields) (auth : Value) : Except Failure Config := do
  let scheme ← v.selectScheme auth
  let fields ← match data with
    | some fields => pure fields
    | none => throw (Failure.simple .badType typeSummary)
  match Config.check scheme fields with
  | .ok c => pure c
  | .error f =>
    if f.cause == .invalidData then throw (f.wrap .config ("Invalid " ++ scheme.title ++ ": "))
    else throw f

/-- A loaded configuration file: the connector as the file names it, the connector, and the
configuration. -/
structure ConfigFile where
  connector : String
  vendor : Vendor
  config : Config

/-- Loads a connector configuration file, with `depth` calls in progress. The document must be
a mapping naming a connector under `connector`; `auth` names the scheme and `config` holds the
members. -/
def ConfigFile.load (dir : Directory) (depth : Nat) (path : String)
    (env : List (String × String)) : Except Failure ConfigFile := do
  let shown := displayPath path
  let text ← match dir.read? path with
    | some t => pure t
    | none => throw (Failure.simple .config ("Connector config file not found: " ++ shown))
  let doc ← match Yaml.read (depth + 1) text with
    | .ok doc => pure doc
    | .error (.malformed _) =>
      throw (Failure.simple .config ("Invalid YAML in " ++ shown ++ ": <yaml error>"))
    | .error fault => throw fault.failure
  let (doc, limit) := match doc with
    | some d =>
      if d.value.truthy then (d.value, expansionLimit? d.records (callLimit - (depth + 1)) d.root)
      else (.obj [], none)
    | none => (.obj [], none)
  let named := match doc with
    | .obj _ | .mapping _ => ((doc.member? "connector").map (·.truthy)).getD false
    | _ => false
  if !named then throw (Failure.simple .config (shown ++ " must name a connector"))
  -- replacing variables walks the document, which may meet the call limit
  if let some call := limit then throw (Failure.simple .tooDeep call.message)
  let doc := doc.expand env
  let connector := (doc.member? "connector").getD .null
  let vendor ← Vendor.byName connector
  let data := ((doc.member? "config").getD .null).keywords?
  let auth := (doc.member? "auth").getD .null
  let config ← vendor.configOf data auth
  let name := match connector with
    | .str s => s
    | _ => ""
  return ⟨name, vendor, config⟩

end Courier
