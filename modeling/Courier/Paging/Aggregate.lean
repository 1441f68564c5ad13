import Courier.Paging.Strategy
import Courier.Http.Invoke

/-!
Aggregating pages. The first page is fetched; then, unless only one page is wanted or enough
items are collected, the strategy gives the next request, the session pauses for the
strategy's delay, and that page is fetched, until the strategy gives none. The items of all
pages are kept in order and cut to the wanted number at the end; the total is the first page's.
Any failure ends the run and the items collected are dropped.
-/

namespace Courier.Paging

open Courier.Json Courier.Http

/-- The items of all fetched pages of one query. -/
structure Envelope where
  items : List Value
  total : Option Int
  pagesFetched : Nat

def fetchPage (s : Strategy) (depth : Nat) (r : Request) : Exchange Page := do
  let raw ← fetchText (depth + 1) r
  Exchange.ofExcept (s.parse (depth + 1) raw)

def capped (items : List Value) (maxItems : Option Int) : Bool :=
  match maxItems with
  | some m => (items.length : Int) ≥ m
  | none => false

/-- The first `m` items, counting a negative `m` from the end. -/
def takeItems (items : List Value) (m : Int) : List Value :=
  if m ≥ 0 then items.take m.toNat else items.take (items.length - m.natAbs)

/-- Follows continuations after `page`, fetched by `request`, for at most `fuel` more pages;
`items` holds what was collected so far. Returns the items and the number of pages fetched.
Every page is fetched with `depth` calls in progress. -/
def follow (s : Strategy) (depth : Nat) (skip : Bool) (maxItems : Option Int) :
    Nat → Request → Page → List Value → Nat → Exchange (List Value × Nat)
  | 0, _, _, items, pages => pure (items, pages)
  | fuel + 1, request, page, items, pages => do
    if skip || capped items maxItems then return (items, pages)
    match ← Exchange.ofExcept (s.next request page) with
    | none => return (items, pages)
    | some nextRequest =>
      pause s.delay
      let nextPage ← fetchPage s depth nextRequest
      follow s depth skip maxItems fuel nextRequest nextPage (items ++ nextPage.items) (pages + 1)

/-- Runs a query over all its pages with `depth` calls in progress, fetching at most `fuel`
continuation pages. -/
def run (s : Strategy) (depth : Nat) (first : Request) (skip : Bool) (maxItems : Option Int)
    (fuel : Nat) : Exchange Envelope := do
  let page ← fetchPage s (depth + 1) first
  let (items, pages) ← follow s (depth + 1) skip maxItems fuel first page page.items 1
  let items := match maxItems with
    | some m => takeItems items m
    | none => items
  return ⟨items, page.total, pages⟩

end Courier.Paging
