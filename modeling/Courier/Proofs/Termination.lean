import Courier.Proofs.Pagination
import Courier.Connector.Outcome

/-! Paged runs end within the transport's queue. Routes are never used up, so the loop has no
bound of its own; but a page that a route serves and that does not continue ends the run, and
every other fetch takes a queued answer or fails. So when no route serves a page that
continues, a run sends at most one request more than the queue holds answers, and any fuel at
least the queue's length gives the same outcome and session. -/

namespace Courier.Http

/-- A route serves a page that continues: its answer is a 200 response whose body, read as a
page by `st` at fetch depth `depth`, advertises a continuation. -/
def Route.Continues (st : Paging.Strategy) (depth : Nat) (route : Route) : Prop :=
  ∃ body bytes page, route.answer = .respond 200 body ∧ body.encode (depth + 3) = .ok bytes ∧
    st.parse (depth + 1) (Text.textOfBytesLossy bytes) = .ok page ∧ page.hasMore = true

/-- No route of the transport serves a page that continues. -/
def Script.Quiet (st : Paging.Strategy) (depth : Nat) (s : Script) : Prop :=
  ∀ route ∈ s.routes, ¬ route.Continues st depth

theorem Script.Quiet.serve {st : Paging.Strategy} {depth : Nat} {σ : Session}
    (quiet : σ.script.Quiet st depth) (d : Nat) (r : Request) :
    (σ.serve d r).script.Quiet st depth := by
  intro route kept
  exact quiet route (by rwa [Session.serve, Script.execute_routes] at kept)

theorem Script.queue_le_pageBudget (s : Script) (wanted : Nat) :
    s.queue.length ≤ s.pageBudget wanted := by
  unfold Script.pageBudget
  calc s.queue.length ≤ s.queue.length + wanted + 1 := by omega
    _ ≤ (s.queue.length + wanted + 1) * (s.routes.length + 2) :=
      Nat.le_mul_of_pos_right _ (by omega)

end Courier.Http

namespace Courier.Paging

open Courier.Http Courier.Json

variable {st : Strategy} {depth : Nat} {skip : Bool} {maxItems : Option Int}

theorem Strategy.next_of_ends {request : Request} {page : Page} (ends : page.hasMore = false) :
    st.next request page = .ok none := by
  unfold Strategy.next
  split <;> simp_all

theorem fetchPage_routed_ends {r : Request} {σ σ₁ : Session} {page : Page} {route : Route}
    (quiet : σ.script.Quiet st depth) (routed : σ.script.routes.find? (·.answers r) = some route)
    (fetched : (fetchPage st depth r).run' σ = (.ok page, σ₁)) : page.hasMore = false := by
  obtain ⟨bytes, responds, parsed⟩ := fetchPage_ok_inv fetched
  obtain ⟨body, answer, encoded⟩ := Script.execute_routed routed responds
  cases continues : page.hasMore with
  | false => rfl
  | true =>
    exact absurd ⟨body, bytes, page, answer, encoded, parsed, continues⟩
      (quiet route (List.mem_of_find?_eq_some routed))

theorem fetchPage_queued {r : Request} {σ σ₁ : Session} {page : Page}
    (unrouted : σ.script.routes.find? (·.answers r) = none)
    (fetched : (fetchPage st depth r).run' σ = (.ok page, σ₁)) :
    σ₁.script.queue.length + 1 = σ.script.queue.length := by
  obtain rfl := fetchPage_served fetched
  obtain ⟨bytes, responds, -⟩ := fetchPage_ok_inv fetched
  cases queued : σ.script.queue with
  | nil =>
    obtain ⟨e, fails⟩ : ∃ e, (σ.script.execute (depth + 2) r).1 = .error e :=
      Script.execute_unanswered unrouted queued
    rw [responds] at fails
    cases fails
  | cons a rest =>
    simp [Session.serve, Script.execute_queue_unrouted unrouted, queued]

theorem Loop.of_ends {items : List Value} {request : Request} {page : Page} {σ : Session}
    (ends : page.hasMore = false) : Loop st depth skip maxItems items request page σ [] none σ := by
  by_cases enough : Enough skip maxItems items
  · exact .stop enough
  · exact .last enough (Strategy.next_of_ends ends)

/-- The loop sends one request for each page it fetches, and one more when a fetch fails. -/
theorem Loop.sent {items : List Value} {request : Request} {page : Page} {σ σ' : Session}
    {chain : List (Request × Page)} {outcome : Option Failure}
    (loop : Loop st depth skip maxItems items request page σ chain outcome σ') :
    ∃ sent, σ'.script.received = σ.script.received ++ sent ∧
      sent.length ≤ chain.length + outcome.isSome.toNat := by
  induction loop with
  | stop => exact ⟨[], by simp, by simp⟩
  | last => exact ⟨[], by simp, by simp⟩
  | refused => exact ⟨[], by simp, by simp⟩
  | @lost _ _ _ σ next e σ₁ short continues fails =>
    obtain rfl := fetchPage_served fails
    exact ⟨[next], by simp, by simp⟩
  | @fetched _ _ _ σ next nextPage σ₁ chain outcome σ' short continues fetches rest ih =>
    obtain ⟨sent, received, bound⟩ := ih
    obtain rfl := fetchPage_served fetches
    exact ⟨next :: sent, by simp [received], by simp at bound ⊢; omega⟩

/-- In a quiet transport holding `q` queued answers, the loop after any page ends, having
fetched at most `q + 1` pages, a failed fetch counted as one. -/
theorem Loop.exists_of_quiet (q : Nat) : ∀ (items : List Value) (request : Request) (page : Page)
    {σ : Session}, σ.script.queue.length = q → σ.script.Quiet st depth →
    ∃ chain outcome σ', Loop st depth skip maxItems items request page σ chain outcome σ' ∧
      chain.length + outcome.isSome.toNat ≤ q + 1 := by
  -- the measure is the queue: a routed page ends the loop, a queued one shortens the queue
  induction q using Nat.strongRecOn with
  | ind q ih =>
  intro items request page σ length quiet
  by_cases enough : Enough skip maxItems items
  · exact ⟨[], none, σ, .stop enough, by simp⟩
  rcases continues : st.next request page with e | _ | next
  · exact ⟨[], some e, σ, .refused enough continues, by simp⟩
  · exact ⟨[], none, σ, .last enough continues, by simp⟩
  rcases fetched : (fetchPage st depth next).run' (σ.paused st.delay) with ⟨_ | nextPage, σ₁⟩
  · exact ⟨[], some _, σ₁, .lost enough continues fetched, by simp⟩
  have quiet₁ : σ₁.script.Quiet st depth := by
    rw [fetchPage_served fetched]
    exact quiet.serve _ _
  rcases routed : σ.script.routes.find? (·.answers next) with _ | route
  · have shrinks := fetchPage_queued (σ := σ.paused st.delay) routed fetched
    obtain ⟨chain, outcome, σ', rest, bound⟩ :=
      ih σ₁.script.queue.length (by simp [Session.paused] at shrinks; omega)
        (items ++ nextPage.items) next nextPage rfl quiet₁
    exact ⟨(next, nextPage) :: chain, outcome, σ', .fetched enough continues fetched rest,
      by simp [Session.paused] at shrinks bound ⊢; omega⟩
  · have ends := fetchPage_routed_ends (σ := σ.paused st.delay) quiet routed fetched
    exact ⟨[(next, nextPage)], none, σ₁, .fetched enough continues fetched (.of_ends ends),
      by simp⟩

variable {first : Request}

/-- In a quiet transport, the reference run ends, having fetched at most one page more than the
queue holds answers, a failed fetch counted as one. -/
theorem Aggregates.exists_of_quiet {σ : Session} (quiet : σ.script.Quiet st (depth + 1)) :
    ∃ pages outcome σ', Aggregates st depth skip maxItems first σ pages outcome σ' ∧
      pages.length + outcome.isSome.toNat ≤ σ.script.queue.length + 1 := by
  rcases fetched : (fetchPage st (depth + 1) first).run' σ with ⟨_ | page, σ₁⟩
  · exact ⟨[], some _, σ₁, .lost fetched, by simp⟩
  have quiet₁ : σ₁.script.Quiet st (depth + 1) := by
    rw [fetchPage_served fetched]
    exact quiet.serve _ _
  rcases routed : σ.script.routes.find? (·.answers first) with _ | route
  · have shrinks := fetchPage_queued routed fetched
    obtain ⟨chain, outcome, σ', rest, bound⟩ :=
      Loop.exists_of_quiet σ₁.script.queue.length page.items first page rfl quiet₁
    exact ⟨(first, page) :: chain, outcome, σ', .fetched fetched rest, by simp; omega⟩
  · have ends := fetchPage_routed_ends quiet routed fetched
    exact ⟨[(first, page)], none, σ₁, .fetched fetched (.of_ends ends), by simp⟩

/-- A run sends one request for each page it fetches, and one more when a fetch fails. -/
theorem Aggregates.sent {σ σ' : Session} {pages : List (Request × Page)}
    {outcome : Option Failure}
    (reference : Aggregates st depth skip maxItems first σ pages outcome σ') :
    ∃ sent, σ'.script.received = σ.script.received ++ sent ∧
      sent.length ≤ pages.length + outcome.isSome.toNat := by
  cases reference with
  | lost fails =>
    obtain rfl := fetchPage_served fails
    exact ⟨[first], by simp, by simp⟩
  | fetched fetches rest =>
    obtain ⟨sent, received, bound⟩ := rest.sent
    obtain rfl := fetchPage_served fetches
    exact ⟨first :: sent, by simp [received], by simp at bound ⊢; omega⟩

/-- Given fuel for its pages, a run ends as its reference does, with the same outcome and final
session whatever the fuel. -/
theorem Aggregates.run_fixed {σ σ' : Session} {pages : List (Request × Page)}
    {outcome : Option Failure}
    (reference : Aggregates st depth skip maxItems first σ pages outcome σ') :
    ∃ result, ∀ fuel, pages.length + outcome.isSome.toNat ≤ fuel + 1 →
      (run st depth first skip maxItems fuel).run' σ = (result, σ') := by
  cases reference with
  | lost fails => exact ⟨.error _, fun fuel _ => by rw [run, Exchange.run'_bind_error fails]⟩
  | @fetched page σ₁ chain outcome σ' fetches rest =>
    have runs : ∀ fuel, chain.length + outcome.isSome.toNat ≤ fuel →
        (run st depth first skip maxItems fuel).run' σ =
          (run st depth first skip maxItems (chain.length + outcome.isSome.toNat)).run' σ := by
      intro fuel budget
      rw [run, run, Exchange.run'_bind_ok fetches, Exchange.run'_bind_ok fetches,
        Exchange.run'_bind, Exchange.run'_bind, rest.follow 1 fuel budget,
        rest.follow 1 _ (Nat.le_refl _)]
      cases outcome <;> rfl
    have ends : ((run st depth first skip maxItems (chain.length + outcome.isSome.toNat)).run' σ).2
        = σ' := by
      rw [run, Exchange.run'_bind_ok fetches, Exchange.run'_bind, rest.follow 1 _ (Nat.le_refl _)]
      cases outcome <;> rfl
    refine ⟨((run st depth first skip maxItems (chain.length + outcome.isSome.toNat)).run' σ).1,
      fun fuel budget => ?_⟩
    rw [runs fuel (by simp at budget; omega), ← ends]

/-- A paged run over a transport whose routes serve no page that continues ends after at most
one request more than the queue holds answers: every fuel from the queue's length on gives one
outcome and one final session, the one the connectors' run reaches. -/
theorem run_ends_within_queue {σ : Session} (quiet : σ.script.Quiet st (depth + 1)) :
    ∃ result σ', (∃ sent, σ'.script.received = σ.script.received ++ sent ∧
        sent.length ≤ σ.script.queue.length + 1) ∧
      (Connector.runPages st depth first skip maxItems).run' σ = (result, σ') ∧
      ∀ fuel, σ.script.queue.length ≤ fuel →
        (run st depth first skip maxItems fuel).run' σ = (result, σ') := by
  obtain ⟨pages, outcome, σ', reference, bound⟩ : ∃ pages outcome σ',
      Aggregates st depth skip maxItems first σ pages outcome σ' ∧
        pages.length + outcome.isSome.toNat ≤ σ.script.queue.length + 1 :=
    Aggregates.exists_of_quiet quiet
  obtain ⟨result, runs⟩ := reference.run_fixed
  obtain ⟨sent, received, few⟩ := reference.sent
  have fuelled : ∀ fuel, σ.script.queue.length ≤ fuel →
      (run st depth first skip maxItems fuel).run' σ = (result, σ') :=
    fun fuel enough => runs fuel (by omega)
  refine ⟨result, σ', ⟨sent, received, by omega⟩, ?_, fuelled⟩
  rw [Connector.runPages, Exchange.run'_bind, Exchange.run'_get]
  exact fuelled _ (Script.queue_le_pageBudget _ _)

/-- A transport whose one route serves the empty object `{}`, and whose queue holds a page
that links to that route. -/
def linkedSession : Session :=
  ⟨⟨[⟨"https://h.example/last", none, .respond 200 (.bytes [123, 125])⟩],
    [.respond 200 (.text "\x7b\"_links\":\x7b\"next\":\x7b\"href\":\"https://h.example/last\"\x7d\x7d\x7d")], []⟩, []⟩

theorem linkedSession_quiet : linkedSession.script.Quiet Strategy.standardLink 1 := by
  intro route listed ⟨body, bytes, page, answer, encoded, parsed, continues⟩
  simp only [linkedSession, List.mem_singleton] at listed
  subst listed
  cases answer
  cases encoded
  have ends : ((Strategy.standardLink.parse 2 (Text.textOfBytesLossy [123, 125])).toOption.map
      Page.hasMore) = some false := by decide +kernel
  rw [parsed] at ends
  have stops : page.hasMore = false := Option.some.inj ends
  exact absurd continues (by rw [stops]; decide)

/-- A link run over that transport ends within two requests. -/
theorem quiet_link_run_ends :
    linkedSession.script.Quiet Strategy.standardLink 1 ∧
      ∃ result σ', (∃ sent, σ'.script.received = linkedSession.script.received ++ sent ∧
          sent.length ≤ linkedSession.script.queue.length + 1) ∧
        (Connector.runPages Strategy.standardLink 0 ⟨.get, "https://h.example/items", none, [], none⟩
          false none).run' linkedSession = (result, σ') ∧
        ∀ fuel, linkedSession.script.queue.length ≤ fuel →
          (run Strategy.standardLink 0 ⟨.get, "https://h.example/items", none, [], none⟩ false none
            fuel).run' linkedSession = (result, σ') :=
  ⟨linkedSession_quiet, run_ends_within_queue linkedSession_quiet⟩

end Courier.Paging
