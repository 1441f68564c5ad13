import Courier.Url.Address
import Courier.Text.Case
import Courier.Text.Compatibility
import Courier.Text.Quoted

/-!
A URL split into scheme, network location, path, query and fragment, following the generic
syntax of RFC 3986 with the lenient reading common to web clients. Leading controls and spaces
are dropped and tabs and line breaks are removed anywhere. A scheme is taken only when it
starts with an ASCII letter and holds letters, digits, `+`, `-` and `.`; it is lowercased. A
network location is taken only after `//`, up to the first `/`, `?` or `#`. A host in brackets
must be an IPv6 address or an address of a future version, and no character of the network
location may change into a delimiter under compatibility normalisation.

When the network location holds brackets, they must come in a pair that encloses the host:
after any user information, nothing may stand before the opening bracket, and only a port may
follow the closing one.
-/

namespace Courier.Url

open Courier.Text

/-- The five parts of a URL. -/
structure Parts where
  scheme : String
  netloc : String
  path : String
  query : String
  fragment : String
  deriving Repr, BEq, Inhabited

/-- Why a URL, or its port, cannot be read. -/
inductive UrlError where
  | misplacedBrackets
  | invalidFutureAddress
  | bracketedIPv4
  | notAnAddress (host : String)
  | normalisesToDelimiter (netloc : String)
  | portNotInteger (port : String)
  | portOutOfRange
  deriving Repr, BEq

def UrlError.message : UrlError → String
  | .misplacedBrackets => "Invalid IPv6 URL"
  | .invalidFutureAddress => "IPvFuture address is invalid"
  | .bracketedIPv4 => "An IPv4 address cannot be in brackets"
  | .notAnAddress host => quoted host ++ " does not appear to be an IPv4 or IPv6 address"
  | .normalisesToDelimiter netloc =>
    "netloc " ++ "'" ++ netloc ++ "'" ++ " contains invalid characters under NFKC normalization"
  | .portNotInteger port => "Port could not be cast to integer value as " ++ quoted port
  | .portOutOfRange => "Port out of range 0-65535"

def isSchemeChar (c : Char) : Bool :=
  (c.isAlpha && c.toNat < 128) || (c.isDigit && c.toNat < 128) || c == '+' || c == '-' || c == '.'

/-- Splits at the first occurrence of `sep`: the text before it and, if it occurs, after it. -/
def splitFirst (sep : Char) (cs : List Char) : List Char × Option (List Char) :=
  match cs.idxOf? sep with
  | some i => (cs.take i, some (cs.drop (i + 1)))
  | none => (cs, none)

/-- Splits off a scheme: the text before the first colon, if it starts with an ASCII letter
and holds scheme characters only. -/
def splitScheme (cs : List Char) : Option (String × List Char) :=
  match splitFirst ':' cs with
  | (name@(first :: _), some rest) =>
    if first.isAlpha && name.all isSchemeChar then
      some (String.ofList (name.map Char.toLower), rest)
    else none
  | _ => none

/-- Whether a bracketed host starting with `v` is a future-version address: `v`, hexadecimal
digits, a dot and at least one more character. -/
def isFutureAddress (host : List Char) : Bool :=
  match host with
  | 'v' :: rest =>
    let digits := rest.takeWhile isHexDigit
    match rest.dropWhile isHexDigit with
    | '.' :: _ :: _ => !digits.isEmpty
    | _ => false
  | _ => false

def checkBracketedHost (host : String) : Except UrlError Unit :=
  if host.startsWith "v" then
    if isFutureAddress host.toList then .ok () else .error .invalidFutureAddress
  else if isIPv4 host then .error .bracketedIPv4
  else if isIPv6 host then .ok ()
  else .error (.notAnAddress host)

/-- The text after the last `@` of a network location: its host and port. -/
def afterUserInfo (netloc : List Char) : List Char :=
  (splitText (String.ofList netloc) "@").getLast?.getD "" |>.toList

/-- Checks a network location holding both brackets. After the user information a bracket must
open the host, and after the closing bracket only a port may follow; without an opening bracket
there, the host before any `:` is checked all the same. -/
def checkBracketedNetloc (netloc : List Char) : Except UrlError Unit :=
  let hostAndPort := afterUserInfo netloc
  match splitFirst '[' hostAndPort with
  | (before, some bracketed) =>
    if !before.isEmpty then .error .misplacedBrackets
    else
      let (host, port) := splitFirst ']' bracketed
      match port with
      | some (c :: _) =>
        if c != ':' then .error .misplacedBrackets
        else checkBracketedHost (String.ofList host)
      | _ => checkBracketedHost (String.ofList host)
  | (_, none) => checkBracketedHost (String.ofList (splitFirst ':' hostAndPort).1)

/-- Checks that no character of a network location outside ASCII normalises to text holding a
delimiter; the delimiters it already shows are not counted. -/
def checkNormalForm (netloc : String) : Except UrlError Unit :=
  if netloc.toList.any normalisesToDelimiter then .error (.normalisesToDelimiter netloc)
  else .ok ()

def Parts.split (url : String) : Except UrlError Parts := do
  let cs := (url.toList.dropWhile (fun c => c.toNat ≤ 0x20)).filter
    (fun c => c != '\t' && c != '\r' && c != '\n')
  let (scheme, rest) := (splitScheme cs).getD ("", cs)
  let (netloc, rest) ← match rest with
    | '/' :: '/' :: after =>
      let netloc := after.takeWhile (fun c => c != '/' && c != '?' && c != '#')
      let hasOpen := netloc.contains '['
      let hasClose := netloc.contains ']'
      if hasOpen != hasClose then throw UrlError.misplacedBrackets
      if hasOpen then checkBracketedNetloc netloc
      pure (String.ofList netloc, after.drop netloc.length)
    | _ => pure ("", rest)
  let (rest, fragment) := splitFirst '#' rest
  let (path, query) := splitFirst '?' rest
  checkNormalForm netloc
  return { scheme, netloc, path := String.ofList path, query := String.ofList (query.getD [])
           fragment := String.ofList (fragment.getD []) }

/-- The host and the port text of the network location, after any user information. -/
def Parts.hostAndPort (p : Parts) : String × String :=
  let afterUser := afterUserInfo p.netloc.toList
  match splitFirst '[' afterUser with
  | (_, some bracketed) =>
    let (host, afterHost) := splitFirst ']' bracketed
    let port := match afterHost with
      | some rest => (splitFirst ':' rest).2.getD []
      | none => []
    (String.ofList host, String.ofList port)
  | (_, none) =>
    let (host, port) := splitFirst ':' afterUser
    (String.ofList host, String.ofList (port.getD []))

/-- The host name, lowercased except for an IPv6 zone after `%`; `none` when empty. -/
def Parts.hostname (p : Parts) : Option String :=
  let host := p.hostAndPort.1
  if host.isEmpty then none
  else
    match splitFirst '%' host.toList with
    | (name, some zone) => some (lower (String.ofList name) ++ "%" ++ String.ofList zone)
    | (name, none) => some (lower (String.ofList name))

/-- The port: absent when not written, an error unless it is ASCII digits up to 65535. -/
def Parts.port (p : Parts) : Except UrlError (Option Nat) :=
  let port := p.hostAndPort.2
  if port.isEmpty then .ok none
  else if port.toList.all (fun c => c.isDigit) then
    let n := port.toList.foldl (fun acc d => acc * 10 + (d.toNat - 48)) 0
    if n ≤ 65535 then .ok (some n) else .error .portOutOfRange
  else .error (.portNotInteger port)

def schemesWithNetloc : List String :=
  ["", "ftp", "http", "gopher", "nntp", "telnet", "imap", "wais", "file", "mms", "https",
   "shttp", "snews", "prospero", "rtsp", "rtspu", "rsync", "svn", "svn+ssh", "sftp",
   "nfs", "git", "git+ssh", "ws", "wss"]

/-- Joins parts into a URL. The network location is written after `//`, with a `/` before a
path that lacks one; with no network location, a scheme that expects one still gets the `//`,
unless the path itself starts with `//`. Then come `?` and the query and `#` and the fragment
when they are not empty. -/
def Parts.join (p : Parts) : String :=
  let path :=
    if !p.netloc.isEmpty ||
        (!p.scheme.isEmpty && schemesWithNetloc.contains p.scheme && !p.path.startsWith "//") then
      let path := if !p.path.isEmpty && !p.path.startsWith "/" then "/" ++ p.path else p.path
      "//" ++ p.netloc ++ path
    else p.path
  let withScheme := if p.scheme.isEmpty then path else p.scheme ++ ":" ++ path
  let withQuery := if p.query.isEmpty then withScheme else withScheme ++ "?" ++ p.query
  if p.fragment.isEmpty then withQuery else withQuery ++ "#" ++ p.fragment

end Courier.Url
