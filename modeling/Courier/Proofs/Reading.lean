import Courier.Proofs.Exchange
import Courier.Connector.Client

/-!
Where a malformed-query failure can come from. Every connector reads its query before it sends
anything: the Salsify and Azure DevOps query documents, the Azure DevOps id lists and the
Akeneo entity codes are checked from the query alone. Every other step fails, if at all, with
another cause, as long as the transport itself raises no malformed-query failure. So running a
query either fails at once, for every session, with a malformed-query failure and nothing sent,
or never fails that way from a clean session and leaves the session clean.
-/

namespace Courier

open Courier.Http

/-- A failure other than that of a query that cannot be read. -/
def Failure.NotMalformed (f : Failure) : Prop :=
  f.cause ≠ .malformedQuery

/-- An outcome that fails, if at all, with a failure other than a malformed query. -/
abbrev Except.NoMalformed (x : Except Failure α) : Prop :=
  Except.FailsWithin Failure.NotMalformed x

@[simp] theorem Failure.notMalformed_simple {c : Cause} {message : String} :
    (Failure.simple c message).NotMalformed ↔ c ≠ .malformedQuery :=
  Iff.rfl

@[simp] theorem Failure.notMalformed_wrap {f : Failure} {c : Cause} {prefixText : String} :
    (f.wrap c prefixText).NotMalformed ↔ c ≠ .malformedQuery :=
  Iff.rfl

@[simp] theorem Failure.notMalformed_ofEncodeFault (e : Text.EncodeFault) :
    (Failure.ofEncodeFault e).NotMalformed :=
  nofun

@[simp] theorem missingMember_noMalformed : Except.NoMalformed (missingMember : Except Failure α) := by
  simp [missingMember]

@[simp] theorem utf8Bytes_noMalformed (s : String) : Except.NoMalformed (utf8Bytes s) := by
  simp [utf8Bytes]

@[simp] theorem Config.credentials_noMalformed (c : Config) : Except.NoMalformed c.credentials := by
  unfold Config.credentials
  split <;> simp

@[simp] theorem Resource.normalize_noMalformed (r : Resource) : Except.NoMalformed r.normalize := by
  unfold Resource.normalize
  simp
  intro _ _ _
  split <;> simp

@[simp] theorem Resource.validate_noMalformed (rs : List Resource) :
    Except.NoMalformed (Resource.validate rs) := by
  unfold Resource.validate
  simp

@[simp] theorem Resource.find_noMalformed (rs : List Resource) (wanted : Option String) :
    Except.NoMalformed (Resource.find rs wanted) := by
  unfold Resource.find
  split <;> simp
  split <;> simp

@[simp] theorem Value.readText_noMalformed (depth : Nat) (text : String) :
    Except.NoMalformed (Json.Value.readText depth text) := by
  unfold Json.Value.readText
  split
  · simp
  · split <;> simp

@[simp] theorem Value.writeText_noMalformed (depth : Nat) (v : Json.Value) :
    Except.NoMalformed (v.writeText depth) := by
  unfold Json.Value.writeText
  simp

@[simp] theorem Parsed.ofText_noMalformed (depth : Nat) (text : Option String) :
    Except.NoMalformed (Json.Parsed.ofText depth text) := by
  unfold Json.Parsed.ofText
  split
  · simp
  · simp only [Except.failsWithin_ite, Except.failsWithin_ok, implies_true, true_and]
    intro _
    refine Except.failsWithin_bind.mpr ⟨Value.readText_noMalformed _ _, fun r _ => ?_⟩
    split <;> simp

@[simp] theorem Http.prepare_noMalformed (auth : Credentials) (url method body query : Option String)
    (headers : List (String × String)) :
    Except.NoMalformed (prepare auth url method body query headers) := by
  unfold prepare
  dsimp only
  split <;> simp

@[simp] theorem Endpoint.request_noMalformed (e : Endpoint) (c : Config) (query : Option String) :
    Except.NoMalformed (e.request c query) := by
  unfold Endpoint.request
  simp

end Courier

namespace Courier.Http

@[simp] theorem Body.encode_noMalformed (depth : Nat) (b : Body) :
    Except.NoMalformed (b.encode depth) := by
  unfold Body.encode
  split <;> simp

/-- Whether a scripted answer raises no malformed-query failure. -/
def Answer.NotMalformed : Answer → Prop
  | .respond _ _ => True
  | .raise f => f.NotMalformed

/-- A session whose transport raises no malformed-query failure, on a route or from its queue. -/
def Session.Clean (σ : Session) : Prop :=
  (∀ route ∈ σ.script.routes, route.answer.NotMalformed) ∧ ∀ a ∈ σ.script.queue, a.NotMalformed

/-- A step that, from a clean session, fails with no malformed-query failure and leaves the
session clean. -/
abbrev Exchange.NoMalformed (m : Exchange α) : Prop :=
  Exchange.Confined Session.Clean Failure.NotMalformed m

theorem Script.execute_noMalformed {σ : Session} (clean : σ.Clean) (depth : Nat) (r : Request) :
    Except.NoMalformed (σ.script.execute depth r).1 := by
  unfold Script.execute
  dsimp only
  split
  · rename_i route found
    have answered := clean.1 route (List.mem_of_find?_eq_some found)
    revert answered
    cases route.answer <;> simp [Answer.NotMalformed]
  · split
    · rename_i a rest queued
      have answered := clean.2 a (by simp [queued])
      revert answered
      cases a <;> simp [Answer.NotMalformed]
    · simp

theorem Session.serve_clean {σ : Session} (clean : σ.Clean) (depth : Nat) (r : Request) :
    (σ.serve depth r).Clean := by
  obtain ⟨routes, queue⟩ := clean
  unfold Session.serve Script.execute
  dsimp only
  split
  · exact ⟨routes, queue⟩
  · split
    · rename_i a rest queued
      exact ⟨routes, fun b kept => queue b (by simp [queued, kept])⟩
    · exact ⟨routes, queue⟩

theorem send_noMalformed (depth : Nat) (r : Request) : Exchange.NoMalformed (send depth r) := by
  intro σ clean
  rw [Exchange.run'_send]
  exact ⟨Session.serve_clean clean depth r, Script.execute_noMalformed clean depth r⟩

theorem pause_noMalformed (seconds : Float) : Exchange.NoMalformed (pause seconds) := by
  intro σ clean
  rw [Exchange.run'_pause]
  exact ⟨clean, fun _ fails => by cases fails⟩

/-- Fetching a text adds only connection and remote-service failures to the transport's own. -/
theorem fetchText_noMalformed (depth : Nat) (r : Request) :
    Exchange.NoMalformed (fetchText depth r) := by
  unfold fetchText
  refine .bind (.tryCatch (send_noMalformed _ _) fun f own => ?_) fun response => ?_
  · split
    · exact .of_throw (by simp)
    · exact .of_throw own
  · dsimp only
    split
    · exact .bind (.of_throw (by simp)) fun _ => .of_pure _
    · exact .of_pure _

/-- A step that fails at once, whatever the session, with a malformed-query failure: it sends
nothing and changes nothing. -/
def Exchange.RejectsQuery (m : Exchange α) : Prop :=
  ∃ f, f.cause = .malformedQuery ∧ ∀ σ, m.run' σ = (.error f, σ)

/-- A step that checks its query before anything else: it rejects the query outright, or never
fails for it. -/
def Exchange.ChecksQueryFirst (m : Exchange α) : Prop :=
  Exchange.RejectsQuery m ∨ Exchange.NoMalformed m

theorem Exchange.RejectsQuery.of_throw {f : Failure} (malformed : f.cause = .malformedQuery) :
    Exchange.RejectsQuery (throw f : Exchange α) :=
  ⟨f, malformed, fun _ => rfl⟩

theorem Exchange.RejectsQuery.bind {m : Exchange α} (first : Exchange.RejectsQuery m)
    (g : α → Exchange β) : Exchange.RejectsQuery (m >>= g) := by
  obtain ⟨f, malformed, rejected⟩ := first
  exact ⟨f, malformed, fun σ => by rw [Exchange.run'_bind, rejected]⟩

theorem Exchange.ChecksQueryFirst.congr {m m' : Exchange α} (same : ∀ σ, m.run' σ = m'.run' σ)
    (checks : Exchange.ChecksQueryFirst m) : Exchange.ChecksQueryFirst m' := by
  rcases checks with ⟨f, malformed, rejected⟩ | confined
  · exact .inl ⟨f, malformed, fun σ => by rw [← same, rejected]⟩
  · exact .inr fun σ clean => by rw [← same]; exact confined σ clean

theorem Exchange.ChecksQueryFirst.bind {m : Exchange α} {g : α → Exchange β}
    (first : Exchange.ChecksQueryFirst m) (rest : ∀ a, Exchange.NoMalformed (g a)) :
    Exchange.ChecksQueryFirst (m >>= g) := by
  rcases first with rejects | confined
  · exact .inl (rejects.bind g)
  · exact .inr (confined.bind rest)

/-- A computed step checks its query first when whatever follows a success does. -/
theorem Exchange.ChecksQueryFirst.ofExcept_bind {x : Except Failure α} {g : α → Exchange β}
    (rest : ∀ a, x = .ok a → Exchange.ChecksQueryFirst (g a)) :
    Exchange.ChecksQueryFirst (Exchange.ofExcept x >>= g) := by
  cases x with
  | error f =>
    by_cases malformed : f.cause = .malformedQuery
    · exact .inl ⟨f, malformed, fun σ => by simp [Exchange.run'_bind]⟩
    · exact .inr fun σ clean =>
        ⟨clean, fun e fails => by simp [Exchange.run'_bind] at fails; exact fails ▸ malformed⟩
  | ok a => exact (rest a rfl).congr fun σ => by simp [Exchange.run'_bind]

end Courier.Http

namespace Courier.Paging

open Courier.Http

@[simp] theorem loadPage_noMalformed (depth : Nat) (raw : String) :
    Except.NoMalformed (loadPage depth raw) := by
  unfold loadPage
  refine Except.failsWithin_bind.mpr ⟨Parsed.ofText_noMalformed _ _, fun parsed _ => ?_⟩
  split <;> simp

@[simp] theorem Strategy.parse_noMalformed (s : Strategy) (depth : Nat) (raw : String) :
    Except.NoMalformed (s.parse depth raw) := by
  unfold Strategy.parse
  refine Except.failsWithin_bind.mpr ⟨loadPage_noMalformed _ _, fun document _ => ?_⟩
  split <;> simp

@[simp] theorem Strategy.next_noMalformed (s : Strategy) (previous : Request) (page : Page) :
    Except.NoMalformed (s.next previous page) := by
  unfold Strategy.next
  split
  · -- a link that cannot be read is a bad value
    split
    · simp
    · split <;> simp
  · -- a cursor that cannot be encoded is an encoding failure
    split
    · simp
    · split <;> simp
  · simp

theorem fetchPage_noMalformed (s : Strategy) (depth : Nat) (r : Request) :
    Exchange.NoMalformed (fetchPage s depth r) :=
  .bind (fetchText_noMalformed _ _) fun _ => .of_ofExcept (Strategy.parse_noMalformed _ _ _)

/-- Following continuations keeps to fetches, pauses and the strategy's next requests; the
induction is on the pages left to fetch. -/
theorem follow_noMalformed (s : Strategy) (depth : Nat) (skip : Bool) (maxItems : Option Int)
    (fuel : Nat) (request : Request) (page : Page) (items : List Json.Value) (pages : Nat) :
    Exchange.NoMalformed (follow s depth skip maxItems fuel request page items pages) := by
  induction fuel generalizing request page items pages with
  | zero => exact .of_pure _
  | succ fuel ih =>
    unfold follow
    split
    · exact .of_pure _
    · refine .bind (.of_ofExcept (Strategy.next_noMalformed _ _ _)) fun next => ?_
      cases next with
      | none => exact .of_pure _
      | some nextRequest =>
        exact .bind (pause_noMalformed _) fun _ =>
          .bind (fetchPage_noMalformed _ _ _) fun _ => ih _ _ _ _

theorem run_noMalformed (s : Strategy) (depth : Nat) (first : Request) (skip : Bool)
    (maxItems : Option Int) (fuel : Nat) :
    Exchange.NoMalformed (run s depth first skip maxItems fuel) :=
  .bind (fetchPage_noMalformed _ _ _) fun _ =>
    .bind (follow_noMalformed _ _ _ _ _ _ _ _ _) fun _ => .of_pure _

end Courier.Paging

namespace Courier.Connector

open Courier.Http

theorem runPages_noMalformed (s : Paging.Strategy) (depth : Nat) (first : Request) (skip : Bool)
    (maxItems : Option Int) : Exchange.NoMalformed (runPages s depth first skip maxItems) :=
  .bind .of_get fun _ => Paging.run_noMalformed _ _ _ _ _ _

@[simp] theorem wrongKind_noMalformed : Except.NoMalformed (wrongKind : Except Failure α) := by
  simp [wrongKind]

@[simp] theorem memberOf_noMalformed (v : Json.Value) (name : String) :
    Except.NoMalformed (memberOf v name) := by
  unfold memberOf
  split <;> simp

@[simp] theorem entriesAt_noMalformed (document : Json.Value) (path : String) :
    Except.NoMalformed (entriesAt document path) := by
  unfold entriesAt entriesOf
  split
  · simp
  · split <;> simp

@[simp] theorem workItemStep_noMalformed (table : List (Json.Value × Json.Value))
    (item : Json.Value) : Except.NoMalformed (workItemStep table item) := by
  unfold workItemStep
  simp

@[simp] theorem sortByIds_noMalformed (items ids : List Json.Value) :
    Except.NoMalformed (sortByIds items ids) := by
  unfold sortByIds workItemsById
  refine Except.failsWithin_bind.mpr ⟨.foldlM (fun table item => by simp) _ _, fun _ _ => ?_⟩
  simp

@[simp] theorem joinTexts_noMalformed (entries : List Json.Value) :
    Except.NoMalformed (joinTexts entries) := by
  unfold joinTexts
  refine Except.failsWithin_bind.mpr ⟨.mapM (fun v => ?_) _, fun _ _ => by simp⟩
  cases v <;> simp

@[simp] theorem AzureDevops.organization_noMalformed (c : Config) :
    Except.NoMalformed (AzureDevops.organization c) := by
  unfold AzureDevops.organization
  split <;> simp

@[simp] theorem AzureDevops.projectUrl_noMalformed (organization : String) (project : Option String) :
    Except.NoMalformed (AzureDevops.projectUrl organization project) := by
  unfold AzureDevops.projectUrl
  refine Except.failsWithin_bind.mpr ⟨by simp [AzureDevops.organizationUrl, AzureDevops.segment],
    fun _ _ => ?_⟩
  split <;> simp [AzureDevops.segment]

end Courier.Connector
