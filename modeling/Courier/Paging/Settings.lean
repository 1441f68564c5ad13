import Courier.Paging.Strategy

namespace Courier.Paging

open Courier.Json Courier.Check

/-- How a data source splits results across responses. -/
inductive Kind where
  | none
  | link
  | cursor
  deriving Repr, BEq

def Kind.byName : List (String × Kind) :=
  [("none", .none), ("link", .link), ("cursor", .cursor)]

def Kind.name : Kind → String
  | .none => "none"
  | .link => "link"
  | .cursor => "cursor"

/-- Declared pagination, as a configuration states it: the kind (`none`, `link` or `cursor`),
paths that each have a usual value, and a pause that is not negative. -/
structure Settings where
  kind : Kind
  itemsPath : Option String
  nextLinkPath : String
  cursorPath : String
  totalPath : Option String
  cursorParam : String
  carryParams : List String
  delay : Float

def Settings.check (fields : Fields) : Checked Settings :=
  (fun kind itemsPath nextLinkPath cursorPath totalPath cursorParam carryParams delay =>
      ({ kind, itemsPath, nextLinkPath, cursorPath, totalPath, cursorParam, carryParams,
         delay } : Settings))
    <$> field fields "kind" (member Kind.byName) (some .none)
    <*> field fields "items_path" (optional text) (some none)
    <*> field fields "next_link_path" text (some "_links.next.href")
    <*> field fields "cursor_path" text (some "meta.cursor")
    <*> field fields "total_path" (optional text) (some none)
    <*> field fields "cursor_param" text (some "cursor")
    <*> field fields "carry_params" (listOf text) (some [])
    <*> field fields "delay_seconds" (atLeast 0 real) (some 0)

/-- The strategy declared pagination describes; without settings, a single document. An empty
items path takes the kind's usual one. -/
def Settings.strategy (settings : Option Settings) (carried : List (String × String)) :
    Strategy :=
  match settings with
  | none => .single none
  | some s =>
    let itemsOr := fun (usual : String) => match s.itemsPath with
      | some p => if p.isEmpty then usual else p
      | none => usual
    match s.kind with
    | .none => .single s.itemsPath
    | .link => .link (itemsOr "_embedded.items") s.nextLinkPath s.delay
    | .cursor => .cursor (itemsOr "data") s.cursorPath s.totalPath s.cursorParam carried

end Courier.Paging
