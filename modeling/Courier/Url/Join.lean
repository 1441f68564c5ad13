import Courier.Url.Parts
import Courier.Text.Word

namespace Courier.Url

open Courier.Text

/-- Whether a URL is absolute: one or more word characters (letters and digits of any script,
and `_`), then `://`. -/
def isAbsolute (url : String) : Bool :=
  let cs := url.toList
  let name := cs.takeWhile isWordChar
  !name.isEmpty && (cs.drop name.length).take 3 == [':', '/', '/']

/-- The host name of a URL, or the empty text when it has none or cannot be read. -/
def hostnameOf (url : String) : String :=
  match Parts.split url with
  | .ok parts => parts.hostname.getD ""
  | .error _ => ""

def pathOf (url : String) : Except UrlError String :=
  (Parts.split url).map (·.path)

/-- The query of a URL followed by `extra`, joined by `&`; `none` when both are empty. -/
def appendQuery (url : String) (extra : Option String) : Except UrlError (Option String) := do
  let parts ← Parts.split url
  let existing := if parts.query.isEmpty then none else some parts.query
  match extra with
  | some q =>
    if q.isEmpty then return existing
    else return some (match existing with
      | some e => e ++ "&" ++ q
      | none => q)
  | none => return existing

def trimChar (c : Char) (cs : List Char) : List Char :=
  ((cs.dropWhile (· == c)).reverse.dropWhile (· == c)).reverse

def trimEnd (c : Char) (cs : List Char) : List Char :=
  (cs.reverse.dropWhile (· == c)).reverse

/-- The position of the first occurrence of a non-empty `needle` in `hay`. -/
def findSub (needle hay : List Char) : Option Nat :=
  (List.range (hay.length + 1)).find? fun i => (hay.drop i).take needle.length == needle

/-- The path a resource names: the resource itself, or the path of an absolute resource URL. -/
def resourcePath (resource : String) : Option String :=
  if isAbsolute resource then ((Parts.split resource).map (·.path)).toOption else some resource

/-- What is appended of a resource path: what follows the first occurrence of the base path
without trailing slashes, or the whole path when that is empty or does not occur. -/
def remainder (trimmedBase rPath : List Char) : List Char :=
  if trimmedBase.isEmpty then rPath
  else match findSub trimmedBase rPath with
    | some i => rPath.drop (i + trimmedBase.length)
    | none => rPath

def pathSegments (path : List Char) : List String :=
  (Text.splitText (String.ofList path) "/").filter (· ≠ "")

/-- Joins a resource URL onto a base URL.

The base must have a scheme and a network location, else the result is `fallback` (the base
itself when none is given), as it is when a URL cannot be read. An empty resource leaves the
base. The resource's path is the resource itself, or the path of an absolute resource URL.
If it equals the base path up to slashes at either end, the base is kept; otherwise, if it
contains the base path without trailing slashes, only what follows the first occurrence is
used. The result has the base's scheme, network location and query, and the non-empty
segments of both paths. -/
def join (base : String) (resource : Option String) (fallback : Option String) : String :=
  match attempt with
  | some url => url
  | none => fallback.getD base
where
  attempt : Option String := do
    let b ← (Parts.split base).toOption
    if b.scheme.isEmpty || b.netloc.isEmpty then none
    match resource with
    | none => return base
    | some r =>
      if r.isEmpty then return base
      let rPath ← resourcePath r
      let basePath := b.path.toList
      if trimChar '/' rPath.toList == trimChar '/' basePath then return base
      let rest := remainder (trimEnd '/' basePath) rPath.toList
      let segments := pathSegments basePath ++ pathSegments rest
      return Parts.join { scheme := b.scheme, netloc := b.netloc,
                          path := "/" ++ "/".intercalate segments, query := b.query,
                          fragment := "" }

end Courier.Url
