import Courier.Keyed
import Courier.Text.Case
import Courier.Text.Blank
import Courier.Url.Join

/-!
Raw query strings, edited as text. A query is a list of `&`-separated segments; a segment's
name is the text before its first `=`. Values are never decoded or encoded, since editors type
them by hand (`search={"categories":[...]}`). Names compare without regard to case.
-/

namespace Courier.Url.Query

open Courier.Text

def segments (query : String) : List String :=
  Text.splitText query "&"

/-- The name of a segment: the text before its first `=`. -/
def segmentName (segment : String) : String :=
  String.ofList (segment.toList.takeWhile (· ≠ '='))

/-- Drops `&` from both ends of a query; an absent query is empty. -/
def stripAmpersands (query : Option String) : String :=
  String.ofList (trimChar '&' (query.getD "").toList)

/-- Whether some segment is named `key`, lowercased names compared. -/
def hasParam (query key : String) : Bool :=
  (segments query).any fun segment => lower (segmentName segment) == lower key

/-- Each segment under its name without surrounding blanks; a later segment with the same
name takes the place of the earlier one. -/
def params (query : String) : List (String × String) :=
  (segments query).foldl (fun acc segment => Keyed.set acc (trim (segmentName segment)) segment) []

/-- The segments joined by `&`, outer ampersands dropped; empty for no segments. -/
def build (params : List (String × String)) : String :=
  if params.isEmpty then "" else stripAmpersands (some ("&".intercalate (params.map (·.2))))

/-- The rest of a text after `key=` matched at its head with case ignored, and after the value
up to the next `&`. -/
def afterAssignment : List Char → List Char → Option (List Char)
  | [], '=' :: rest => some (rest.dropWhile (· ≠ '&'))
  | k :: ks, c :: rest => if caselessMatch k c then afterAssignment ks rest else none
  | _, _ => none

/-- Replaces the first assignment of `key` (at the start or after an `&`) by `replacement`;
`before` holds the characters passed, last first. -/
def replaceAfterAmpersand (key replacement : List Char) (before : List Char) :
    List Char → List Char
  | [] => before.reverse
  | '&' :: rest =>
    match afterAssignment key rest with
    | some after => before.reverse ++ '&' :: replacement ++ after
    | none => replaceAfterAmpersand key replacement ('&' :: before) rest
  | c :: rest => replaceAfterAmpersand key replacement (c :: before) rest

/-- Replaces the first segment `key=...` (name matched without regard to case) by
`key=value`. A query with no segment named `key`, or whose segments so named have no `=`,
is returned as it is. -/
def replaceParam (query key value : String) : String :=
  if !hasParam query key then query
  else
    let k := key.toList
    let replacement := k ++ '=' :: value.toList
    let cs := query.toList
    match afterAssignment k cs with
    | some after => String.ofList (replacement ++ after)
    | none => String.ofList (replaceAfterAmpersand k replacement [] cs)

/-- Sets `key` to `value`: replaces the first segment named `key` if there is one; otherwise
adds `key=value` under the segment names with blanks trimmed, replacing a segment whose trimmed
name is `key` in place, and joins the segments anew. -/
def setParam (query key value : String) : String :=
  if hasParam query key then replaceParam query key value
  else
    let built := build (Keyed.set (params query) key (key ++ "=" ++ value))
    if built.isEmpty then query else built

end Courier.Url.Query
