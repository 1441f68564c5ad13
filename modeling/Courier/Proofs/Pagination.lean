import Courier.Proofs.Exchange

/-! The aggregation loop against its reference: fetch the first page; after each page stop when
only one page is wanted, when enough items are collected, or when the strategy gives no next
request; otherwise pause for the strategy's delay and fetch the next one. The loop is stated as
a derivation over the pages it fetches, and the run with enough fuel gives exactly its result,
its requests and its pauses. -/

namespace Courier.Paging

open Courier.Http Courier.Json

variable {st : Strategy} {depth : Nat} {skip : Bool} {maxItems : Option Int}

theorem follow_zero (request : Request) (page : Page) (items : List Value) (pages : Nat)
    (σ : Session) :
    (follow st depth skip maxItems 0 request page items pages).run' σ =
      (.ok (items, pages), σ) := rfl

theorem follow_stop {fuel pages : Nat} {request : Request} {page : Page} {items : List Value}
    (σ : Session) (stops : (skip || capped items maxItems) = true) :
    (follow st depth skip maxItems (fuel + 1) request page items pages).run' σ =
      (.ok (items, pages), σ) := by
  simp [follow, stops]

theorem follow_last {fuel pages : Nat} {request : Request} {page : Page} {items : List Value}
    (σ : Session) (goes : (skip || capped items maxItems) = false)
    (last : st.next request page = .ok none) :
    (follow st depth skip maxItems (fuel + 1) request page items pages).run' σ =
      (.ok (items, pages), σ) := by
  simp [follow, goes, Exchange.run'_bind, last]

theorem follow_refused {fuel pages : Nat} {request : Request} {page : Page} {items : List Value}
    (σ : Session) (goes : (skip || capped items maxItems) = false) {e : Failure}
    (fails : st.next request page = .error e) :
    (follow st depth skip maxItems (fuel + 1) request page items pages).run' σ = (.error e, σ) := by
  simp [follow, goes, Exchange.run'_bind, fails]

theorem follow_continue {fuel pages : Nat} {request : Request} {page : Page}
    {items : List Value} (σ : Session) (goes : (skip || capped items maxItems) = false)
    {next : Request} (continues : st.next request page = .ok (some next)) :
    (follow st depth skip maxItems (fuel + 1) request page items pages).run' σ =
      (fetchPage st depth next >>= fun nextPage =>
        follow st depth skip maxItems fuel next nextPage (items ++ nextPage.items)
          (pages + 1)).run' (σ.paused st.delay) := by
  simp [follow, goes, Exchange.run'_bind, continues]

theorem follow_skip (fuel : Nat) (request : Request) (page : Page) (items : List Value)
    (pages : Nat) (σ : Session) :
    (follow st depth true maxItems fuel request page items pages).run' σ =
      (.ok (items, pages), σ) := by
  cases fuel with
  | zero => rfl
  | succ fuel => exact follow_stop σ (by simp)

/-- A run asked for one page fetches that page and nothing more: its items are the page's, cut
to the wanted number, and its total is the page's. -/
theorem run_one_page (first : Request) (fuel : Nat) (σ : Session) :
    (run st depth first true maxItems fuel).run' σ =
      match (fetchPage st (depth + 1) first).run' σ with
      | (.ok page, σ₁) =>
        (.ok ⟨match maxItems with
          | some m => takeItems page.items m
          | none => page.items, page.total, 1⟩, σ₁)
      | (.error e, σ₁) => (.error e, σ₁) := by
  unfold run
  rw [Exchange.run'_bind]
  rcases (fetchPage st (depth + 1) first).run' σ with ⟨_ | page, σ₁⟩
  · rfl
  · dsimp only
    rw [Exchange.run'_bind, follow_skip]
    rfl

/-- Whether the reference loop stops before asking for a next request: only one page is
wanted, or a number of items is wanted and at least that many are collected. -/
def Enough (skip : Bool) (maxItems : Option Int) (items : List Value) : Prop :=
  skip = true ∨ ∃ m, maxItems = some m ∧ m ≤ items.length

theorem stops_iff_enough (skip : Bool) (maxItems : Option Int) (items : List Value) :
    (skip || capped items maxItems) = true ↔ Enough skip maxItems items := by
  cases maxItems <;> simp [capped, Enough]

theorem continues_of_short {items : List Value} (short : ¬ Enough skip maxItems items) :
    (skip || capped items maxItems) = false := by
  rw [← stops_iff_enough] at short
  simpa using short

/-- The reference loop after a page fetched by `request`, with `items` collected so far over
all pages: it fetches the continuation pages of `chain`, each with its request, and then
stops (`none`) or fails (`some e`), leaving the last session. -/
inductive Loop (st : Strategy) (depth : Nat) (skip : Bool) (maxItems : Option Int) :
    List Value → Request → Page → Session → List (Request × Page) → Option Failure → Session →
      Prop where
  | stop {items request page σ} (enough : Enough skip maxItems items) :
      Loop st depth skip maxItems items request page σ [] none σ
  | last {items request page σ} (short : ¬ Enough skip maxItems items)
      (exhausted : st.next request page = .ok none) :
      Loop st depth skip maxItems items request page σ [] none σ
  | refused {items request page σ e} (short : ¬ Enough skip maxItems items)
      (fails : st.next request page = .error e) :
      Loop st depth skip maxItems items request page σ [] (some e) σ
  | lost {items request page σ next e σ₁} (short : ¬ Enough skip maxItems items)
      (continues : st.next request page = .ok (some next))
      (fails : (fetchPage st depth next).run' (σ.paused st.delay) = (.error e, σ₁)) :
      Loop st depth skip maxItems items request page σ [] (some e) σ₁
  | fetched {items request page σ next nextPage σ₁ chain outcome σ'}
      (short : ¬ Enough skip maxItems items)
      (continues : st.next request page = .ok (some next))
      (fetches : (fetchPage st depth next).run' (σ.paused st.delay) = (.ok nextPage, σ₁))
      (rest : Loop st depth skip maxItems (items ++ nextPage.items) next nextPage σ₁ chain
        outcome σ') :
      Loop st depth skip maxItems items request page σ ((next, nextPage) :: chain) outcome σ'

/-- With one unit of fuel for every continuation page and one more for a failure, the
fuelled loop ends as the reference loop does. -/
theorem Loop.follow {items : List Value} {request : Request} {page : Page} {σ σ' : Session}
    {chain : List (Request × Page)} {outcome : Option Failure}
    (loop : Loop st depth skip maxItems items request page σ chain outcome σ')
    (pages fuel : Nat) (budget : chain.length + outcome.isSome.toNat ≤ fuel) :
    (follow st depth skip maxItems fuel request page items pages).run' σ =
      ((match outcome with
        | none => .ok (items ++ (chain.map (·.2.items)).flatten, pages + chain.length)
        | some e => .error e), σ') := by
  induction loop generalizing pages fuel with
  | stop enough =>
    cases fuel with
    | zero => simp; rfl
    | succ fuel => simpa using follow_stop _ ((stops_iff_enough _ _ _).2 enough)
  | last short exhausted =>
    cases fuel with
    | zero => simp; rfl
    | succ fuel => simpa using follow_last _ (continues_of_short short) exhausted
  | refused short fails =>
    obtain ⟨fuel, rfl⟩ : ∃ f, fuel = f + 1 := ⟨fuel - 1, by simp at budget; omega⟩
    exact follow_refused _ (continues_of_short short) fails
  | lost short continues fails =>
    obtain ⟨fuel, rfl⟩ : ∃ f, fuel = f + 1 := ⟨fuel - 1, by simp at budget; omega⟩
    rw [follow_continue _ (continues_of_short short) continues, Exchange.run'_bind_error fails]
  | fetched short continues fetches rest ih =>
    obtain ⟨fuel, rfl⟩ : ∃ f, fuel = f + 1 := ⟨fuel - 1, by simp at budget; omega⟩
    rw [follow_continue _ (continues_of_short short) continues, Exchange.run'_bind_ok fetches,
      ih (pages + 1) fuel (by simp at budget ⊢; omega)]
    split <;> simp [Nat.add_assoc, Nat.add_comm 1]

/-- A loop that stops has sent the requests of its pages in order and paused once before
each of them. -/
theorem Loop.session {items : List Value} {request : Request} {page : Page} {σ σ' : Session}
    {chain : List (Request × Page)}
    (loop : Loop st depth skip maxItems items request page σ chain none σ') :
    σ'.script.received = σ.script.received ++ chain.map (·.1) ∧
      σ'.pauses = σ.pauses ++ List.replicate chain.length st.delay := by
  generalize finished : (none : Option Failure) = outcome at loop
  induction loop with
  | stop => simp
  | last => simp
  | refused => cases finished
  | lost => cases finished
  | fetched short continues fetches rest ih =>
    obtain ⟨received, pauses⟩ := ih finished
    obtain rfl := fetchPage_served fetches
    simp [received, pauses, List.replicate_succ]

/-- The reference run: the first page is fetched from the first request, then the loop goes
on after it. `pages` lists every fetched page with the request that fetched it. -/
inductive Aggregates (st : Strategy) (depth : Nat) (skip : Bool) (maxItems : Option Int)
    (first : Request) (σ : Session) :
    List (Request × Page) → Option Failure → Session → Prop where
  | lost {e σ₁} (fails : (fetchPage st (depth + 1) first).run' σ = (.error e, σ₁)) :
      Aggregates st depth skip maxItems first σ [] (some e) σ₁
  | fetched {page σ₁ chain outcome σ'}
      (fetches : (fetchPage st (depth + 1) first).run' σ = (.ok page, σ₁))
      (rest : Loop st (depth + 1) skip maxItems page.items first page σ₁ chain outcome σ') :
      Aggregates st depth skip maxItems first σ ((first, page) :: chain) outcome σ'

/-- The envelope of the pages a run fetched: their items in order, cut to the first `m` when
`m` items are wanted, the first page's total, and the number of pages. -/
def Envelope.ofPages (maxItems : Option Int) (pages : List Page) : Envelope :=
  let items := (pages.map (·.items)).flatten
  ⟨match maxItems with
    | some m => items.take m.toNat
    | none => items, pages.head?.bind (·.total), pages.length⟩

theorem takeItems_of_nonneg (items : List Value) {m : Int} (nonneg : 0 ≤ m) :
    takeItems items m = items.take m.toNat := by
  simp [takeItems, nonneg]

/-- Aggregation behaves as the reference loop. Given fuel for every page the loop fetches
after the first, and one more when it fails, the run fails where the loop fails and otherwise
returns the items of every page in order, cut to the wanted number, with the first page's
total and the number of pages. A run that stops has sent exactly the pages' requests, in
order, and paused for the strategy's delay once before every page but the first. -/
theorem run_eq_reference {first : Request} {σ σ' : Session} {pages : List (Request × Page)}
    {outcome : Option Failure} (fuel : Nat)
    (reference : Aggregates st depth skip maxItems first σ pages outcome σ')
    (wanted : ∀ m, maxItems = some m → 0 ≤ m)
    (budget : pages.length + outcome.isSome.toNat ≤ fuel + 1) :
    (run st depth first skip maxItems fuel).run' σ =
        ((match outcome with
          | none => .ok (Envelope.ofPages maxItems (pages.map (·.2)))
          | some e => .error e), σ') ∧
      (outcome = none → σ'.script.received = σ.script.received ++ pages.map (·.1) ∧
        σ'.pauses = σ.pauses ++ List.replicate (pages.length - 1) st.delay) := by
  cases reference with
  | lost fails =>
    refine ⟨?_, fun finished => by cases finished⟩
    rw [run, Exchange.run'_bind_error fails]
  | fetched fetches rest =>
    refine ⟨?_, fun finished => ?_⟩
    · rw [run, Exchange.run'_bind_ok fetches, Exchange.run'_bind,
        rest.follow 1 fuel (by simp at budget; omega)]
      cases outcome with
      | some e => rfl
      | none =>
        cases maxItems with
        | none => simp [Envelope.ofPages, Function.comp_def, Nat.add_comm]
        | some m =>
          simp [Envelope.ofPages, takeItems_of_nonneg _ (wanted m rfl), Function.comp_def,
            Nat.add_comm]
    · subst finished
      obtain ⟨received, pauses⟩ := rest.session
      obtain rfl := fetchPage_served fetches
      simp [received, pauses]

/-- The request for the first page of a listing. -/
def listingRequest : Request := ⟨.get, "https://h.example/items", none, [], none⟩

/-- A transport whose queue holds two pages of two items each, the first linking to the second
and the second to a third. -/
def twoPageSession : Session :=
  ⟨⟨[], [.respond 200 (.text "\x7b\"_embedded\":\x7b\"items\":[1,2]\x7d,\"_links\":\x7b\"next\":\x7b\"href\":\"https://h.example/page2\"\x7d\x7d\x7d"),
    .respond 200 (.text "\x7b\"_embedded\":\x7b\"items\":[3,4]\x7d,\"_links\":\x7b\"next\":\x7b\"href\":\"https://h.example/page3\"\x7d\x7d\x7d")],
    []⟩, []⟩

/-- A link run over that transport that wants three items follows the first page's link after
one pause, and stops after the second page with four items collected, of which it keeps three,
without following the second page's link. -/
theorem run_follows_link_until_cap :
    ∃ pages σ', Aggregates .standardLink 0 false (some 3) listingRequest twoPageSession pages
        none σ' ∧
      (∀ m, (some 3 : Option Int) = some m → 0 ≤ m) ∧
      pages.map (·.1.url) = ["https://h.example/items", "https://h.example/page2"] ∧
      pages.map (·.2.items.length) = [2, 2] ∧ pages.map (·.2.hasMore) = [true, true] ∧
      (run .standardLink 0 listingRequest false (some 3) 1).run' twoPageSession =
        (.ok (Envelope.ofPages (some 3) (pages.map (·.2))), σ') ∧
      (Envelope.ofPages (some 3) (pages.map (·.2))).items.length = 3 ∧
      σ'.script.received = pages.map (·.1) ∧ σ'.pauses = [Strategy.standardLink.delay] := by
  have checked : (fetchPage .standardLink 1 listingRequest).yields twoPageSession
      (fun first σ₁ => first.items.length == 2 && first.hasMore &&
        (Exchange.ofExcept (Strategy.standardLink.next listingRequest first)).yields σ₁
          fun next? _ => next?.any fun next => next.url == "https://h.example/page2" &&
            (fetchPage .standardLink 1 next).yields (σ₁.paused Strategy.standardLink.delay)
              fun second _ => second.items.length == 2 && second.hasMore) = true := by
    decide +kernel
  obtain ⟨first, σ₁, fetched₁, checked⟩ := Exchange.exists_of_yields checked
  simp only [Bool.and_eq_true, beq_iff_eq] at checked
  obtain ⟨⟨short, more₁⟩, checked⟩ := checked
  obtain ⟨next?, _, linked, checked⟩ := Exchange.exists_of_yields checked
  obtain _ | next := next?
  · cases checked
  simp only [Option.any_some, Bool.and_eq_true, beq_iff_eq] at checked
  obtain ⟨url, checked⟩ := checked
  obtain ⟨second, σ₂, fetched₂, checked⟩ := Exchange.exists_of_yields checked
  simp only [Bool.and_eq_true, beq_iff_eq] at checked
  obtain ⟨full, more₂⟩ := checked
  have continues : Strategy.standardLink.next listingRequest first = .ok (some next) :=
    (Prod.mk.inj linked).1
  have reference : Aggregates .standardLink 0 false (some 3) listingRequest twoPageSession
      [(listingRequest, first), (next, second)] none σ₂ :=
    .fetched fetched₁ (.fetched (by simp [Enough, short]) continues fetched₂
      (.stop (by simp [Enough, short, full])))
  have wanted : ∀ m, (some 3 : Option Int) = some m → 0 ≤ m := by
    rintro m ⟨⟩
    decide
  obtain ⟨result, session⟩ := run_eq_reference 1 reference wanted (by simp)
  obtain ⟨received, pauses⟩ := session rfl
  refine ⟨_, σ₂, reference, wanted, by simp [listingRequest, url], by simp [short, full],
    by simp [more₁, more₂], result, by simp [Envelope.ofPages, short, full], ?_, ?_⟩
  · simpa [twoPageSession] using received
  · simpa [twoPageSession] using pauses

end Courier.Paging
