import Courier.Http.Request
import Courier.Json.Document
import Courier.Failure

/-!
Continuation strategies: how a vendor lays out a page, and how the request for the next page
is made. A single-document source has no continuation. A link source advertises the URL of the
next page, fetched verbatim after a pause. A cursor source returns an opaque cursor that is
sent back as a query parameter on the same URL, with some parameters of the first request
carried along.
-/

namespace Courier.Paging

open Courier.Json Courier.Http

/-- A fetched page after its strategy read it. -/
structure Page where
  raw : String
  items : List Value
  continuation : Option String
  total : Option Int

/-- Whether a page continues: its continuation holds more than blanks. -/
def Page.hasMore (p : Page) : Bool :=
  match p.continuation with
  | some c => !Text.isBlankText c
  | none => false

/-- A continuation strategy. -/
inductive Strategy where
  | single (itemsPath : Option String)
  | link (itemsPath : String) (nextLinkPath : String) (delay : Float)
  | cursor (itemsPath : String) (cursorPath : String) (totalPath : Option String)
      (cursorParam : String) (carried : List (String × String))

/-- A link strategy built from the arguments given, each one left out taking its default: items
under `_embedded.items`, the next link under `_links.next.href`, a fifteen-second pause. -/
def Strategy.linkWith (itemsPath nextLinkPath : Option String) (delay : Option Float) : Strategy :=
  .link (itemsPath.getD "_embedded.items") (nextLinkPath.getD "_links.next.href") (delay.getD 15)

/-- A cursor strategy built from the arguments given, each one left out taking its default:
items under `data`, the cursor under `meta.cursor`, the total under `meta.total_entries`, the
cursor sent back as `cursor`. A total path given as `none` reads no total. -/
def Strategy.cursorWith (itemsPath cursorPath : Option String) (totalPath : Option (Option String))
    (cursorParam : Option String) (carried : List (String × String)) : Strategy :=
  .cursor (itemsPath.getD "data") (cursorPath.getD "meta.cursor")
    (totalPath.getD (some "meta.total_entries")) (cursorParam.getD "cursor") carried

/-- A link strategy with the usual paths and a fifteen-second pause. -/
def Strategy.standardLink : Strategy :=
  .linkWith none none none

/-- A cursor strategy with the usual paths. -/
def Strategy.standardCursor (carried : List (String × String)) : Strategy :=
  .cursorWith none none none none carried

def Strategy.delay : Strategy → Float
  | .link _ _ d => d
  | _ => 0

/-- The document of a response body, read with `depth` calls in progress; a body that is not
JSON is a query failure. -/
def loadPage (depth : Nat) (raw : String) : Except Failure Value := do
  match ← Parsed.ofText (depth + 1) (some raw) with
  | .value v => .ok v
  | .failure reason =>
    .error (Failure.simple .query ("Malformed response from remote service: " ++ reason))

def listAt? (document : Value) (path : String) : Option (List Value) :=
  (document.path? path).bind Value.arr?

def textAt? (document : Value) (path : String) : Option String :=
  (document.path? path).bind Value.str?

/-- Reads a page. A single document's items are the list at its path, or else the document
itself. A link page's items are the list at its path, or else the page itself when it is a
non-empty object (a single entity), or else none. A cursor page's items are the list at its
path or none, and its total the integer at the total path. The page is read with `depth` calls
in progress. -/
def Strategy.parse (s : Strategy) (depth : Nat) (raw : String) : Except Failure Page := do
  let document ← loadPage (depth + 1) raw
  match s with
  | .single itemsPath =>
    let items := match itemsPath with
      | some path => if path.isEmpty then none else listAt? document path
      | none => none
    return ⟨raw, items.getD [document], none, none⟩
  | .link itemsPath nextLinkPath _ =>
    let items := match listAt? document itemsPath with
      | some items => items
      | none =>
        match document with
        | .obj fields => if fields.isEmpty then [] else [document]
        | _ => []
    return ⟨raw, items, textAt? document nextLinkPath, none⟩
  | .cursor itemsPath cursorPath totalPath _ _ =>
    let total := match totalPath with
      | some path =>
        if path.isEmpty then none
        else match document.path? path with
          | some (.int n) => some n
          | _ => none
      | none => none
    return ⟨raw, (listAt? document itemsPath).getD [], textAt? document cursorPath, total⟩

/-- The request for the page after `page`, fetched with `previous`; none when the page does
not continue. A link is taken verbatim as the next URL, a failure to read it being a bad value;
a cursor replaces the query by the carried parameters and the cursor. -/
def Strategy.next (s : Strategy) (previous : Request) (page : Page) :
    Except Failure (Option Request) :=
  match s, page.continuation with
  | .link _ _ _, some href =>
    if !page.hasMore then .ok none
    else match previous.withUrl href with
      | .ok r => .ok (some r)
      | .error e => .error (Failure.simple .badValue e.message)
  | .cursor _ _ _ cursorParam carried, some c =>
    if !page.hasMore then .ok none
    else match previous.withQuery (Keyed.set carried cursorParam c) with
      | .ok r => .ok (some r)
      | .error e => .error (Failure.ofEncodeFault e)
  | _, _ => .ok none

end Courier.Paging
