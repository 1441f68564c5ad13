import Courier.Proofs.Pagination
import Courier.Proofs.Connectivity

namespace Courier

/-- Where the output of each kind of connector keeps the items of its pages. -/
def Vendor.itemsPath : Vendor → String
  | .rest => "items"
  | .akeneo => "_embedded.items"
  | .salsify => "data"
  | .azureDevops => "data"

end Courier

namespace Courier.Connector

open Courier.Http Courier.Json

section Pauses

open Exchange.KeepsPauses

theorem fetchEndpoint_keepsPauses (c : Config) (depth : Nat) (e : Endpoint)
    (query : Option String) : Exchange.KeepsPauses (fetchEndpoint c depth e query) :=
  (of_ofExcept _).bind fun r => fetchText_keepsPauses _ r

theorem Akeneo.fetchToken_keepsPauses (c : Config) (depth : Nat) :
    Exchange.KeepsPauses (Akeneo.fetchToken c depth) := by
  unfold Akeneo.fetchToken
  split
  · refine (of_ofExcept _).bind fun _ => (of_ofExcept _).bind fun request => ?_
    refine ((fetchText_keepsPauses _ request).tryCatch fun f => ?_).bind fun raw => ?_
    · split
      · exact of_throw _
      · exact of_throw _
    · refine (of_ofExcept _).bind fun token => ?_
      cases token with
      | some token => exact of_ofExcept _
      | none => exact of_throw _
  · exact of_ofExcept _

theorem Rest.probe_keepsPauses (c : Config) (depth : Nat) :
    Exchange.KeepsPauses (Rest.probe c depth) := by
  unfold Rest.probe
  exact (of_ofExcept _).bind fun e =>
    (fetchEndpoint_keepsPauses c _ e none).bind fun _ => of_pure _

theorem Akeneo.probe_keepsPauses (c : Config) (depth : Nat) :
    Exchange.KeepsPauses (Akeneo.probe c depth) := by
  unfold Akeneo.probe
  dsimp only
  split <;> refine .bind ?_ fun c' => (of_ofExcept _).bind fun e =>
    (fetchEndpoint_keepsPauses c' _ _ none).bind fun _ => of_pure _
  · exact Akeneo.fetchToken_keepsPauses c _
  · exact of_pure c

theorem Salsify.probe_keepsPauses (c : Config) (depth : Nat) :
    Exchange.KeepsPauses (Salsify.probe c depth) := by
  unfold Salsify.probe
  exact (of_ofExcept _).bind fun e =>
    (fetchEndpoint_keepsPauses c _ _ none).bind fun _ => of_pure _

theorem AzureDevops.call_keepsPauses (c : Config) (depth : Nat) (url : String)
    (params : List (String × String)) (body : Option Value) :
    Exchange.KeepsPauses (AzureDevops.call c depth url params body) := by
  unfold AzureDevops.call
  exact (of_ofExcept _).bind fun _ => (of_ofExcept _).bind fun _ =>
    (of_ofExcept _).bind fun request =>
      (fetchText_keepsPauses _ request).bind fun _ => of_ofExcept _

theorem AzureDevops.probe_keepsPauses (c : Config) (depth : Nat) :
    Exchange.KeepsPauses (AzureDevops.probe c depth) := by
  unfold AzureDevops.probe
  exact (of_ofExcept _).bind fun _ => (of_ofExcept _).bind fun _ =>
    (AzureDevops.call_keepsPauses c _ _ _ _).bind fun _ => of_pure _

theorem Client.probe_keepsPauses (k : Client) (c : Config) (depth : Nat) :
    Exchange.KeepsPauses (k.probe c depth) := by
  unfold Client.probe
  split
  · exact Rest.probe_keepsPauses c depth
  · exact Akeneo.probe_keepsPauses c depth
  · exact Salsify.probe_keepsPauses c depth
  · exact AzureDevops.probe_keepsPauses c depth

theorem Client.connect_keepsPauses (k : Client) (c : Config) (depth : Nat) :
    Exchange.KeepsPauses (k.connect c depth) := by
  unfold Client.connect
  dsimp only
  have checked : Exchange.KeepsPauses ((fun connected => connected.getD c) <$>
      tryCatch (k.probe c (depth + 1)) fun f =>
        if f.cause != .connection && f.cause.isConnectorFailure then
          throw (f.wrap .connection ("[" ++ k.vendor.title ++ "] Error in connecting to client: "))
        else throw f) := by
    refine .map _ ((k.probe_keepsPauses c (depth + 1)).tryCatch fun f => ?_)
    split
    · exact of_throw _
    · exact of_throw _
  split
  · exact (of_throw _).bind fun _ => checked
  · exact checked

end Pauses

section OnePage

variable {k : Client} {c : Config} {depth : Nat} {q : QueryInfo} {σ σ' : Session}

/-- A query runs successfully exactly where the connector's own run of it does: the handler
only rethrows. -/
theorem Client.run_ok {limit : Option Int} {o : Outcome}
    (ran : (k.run c depth q limit).run' σ = (.ok o, σ')) :
    (k.runQuery c (depth + 1) q limit).run' σ = (.ok o, σ') := by
  unfold Client.run at ran
  rw [Exchange.run'_tryCatch] at ran
  rcases own : (k.runQuery c (depth + 1) q limit).run' σ with ⟨_ | o', σ₁⟩ <;> rw [own] at ran
  · dsimp only at ran
    split at ran <;> cases ran
  · exact ran

/-- Connecting succeeds only through a successful check, going on with the configuration the
check gives or else the one given. -/
theorem Client.connect_ok_inv {c' : Config} (connected : (k.connect c depth).run' σ = (.ok c', σ')) :
    ∃ given, (k.probe c (depth + 1)).run' σ = (.ok given, σ') ∧ c' = given.getD c := by
  cases accepted : k.vendor.schemes.contains c.scheme
  · rw [Client.connect_refused k c depth σ accepted] at connected
    cases connected
  · rcases probed : (k.probe c (depth + 1)).run' σ with ⟨_ | given, σ₁⟩
    · obtain ⟨g, failed, -⟩ := Client.connect_probe_error k c depth σ accepted probed
      rw [failed] at connected
      cases connected
    · rw [Client.connect_probe_ok k c depth σ accepted probed] at connected
      cases connected
      exact ⟨given, rfl, rfl⟩

theorem Rest.probe_ok {given : Option Config} (probed : (Rest.probe c depth).run' σ = (.ok given, σ')) :
    given = none := by
  unfold Rest.probe at probed
  obtain ⟨e, -, probed⟩ := Exchange.ofExcept_bind_ok probed
  obtain ⟨raw, -, rfl⟩ := Exchange.bind_pure_ok_inv probed
  rfl

/-- A preview that succeeds connected, and then ran its query with the preview size as the
limit; its response is that run's output text. -/
theorem Client.preview_ok_inv {p : Preview} (previewed : (k.preview c depth q).run' σ = (.ok p, σ')) :
    ∃ c' σ₁ o, (k.connect c (depth + 1)).run' σ = (.ok c', σ₁) ∧
      (k.runQuery c' (depth + 2) q (some k.settings.previewRows)).run' σ₁ = (.ok o, σ') ∧
      p.response = o.text := by
  unfold Client.preview at previewed
  obtain ⟨c', σ₁, connected, previewed⟩ := Exchange.bind_ok_inv previewed
  obtain ⟨o, ran, rfl⟩ := Exchange.bind_pure_ok_inv previewed
  exact ⟨c', σ₁, o, connected, Client.run_ok ran, rfl⟩

/-- Pages run for one page only fetch that page from the session they start in. -/
theorem runPages_one_page {s : Paging.Strategy} {first : Request} {maxItems : Option Int}
    {env : Paging.Envelope} (ran : (runPages s depth first true maxItems).run' σ = (.ok env, σ')) :
    ∃ page : Paging.Page, (Paging.fetchPage s (depth + 1) first).run' σ = (.ok page, σ') ∧
      env.items = maxItems.elim page.items (Paging.takeItems page.items) := by
  unfold runPages at ran
  obtain ⟨σ₀, σ₁, got, ran⟩ := Exchange.bind_ok_inv ran
  cases got
  rw [Paging.run_one_page] at ran
  rcases fetched : (Paging.fetchPage s (depth + 1) first).run' σ with ⟨_ | page, σ₂⟩ <;>
    rw [fetched] at ran
  · cases ran
  · cases ran
    refine ⟨page, rfl, ?_⟩
    cases maxItems <;> rfl

/-- A limited run over the pages of an endpoint fetches its first page only, cut to the limit. -/
theorem aggregate_limited {e : Endpoint} {query : Option String} {s : Paging.Strategy} {m : Int}
    {env : Paging.Envelope} (ran : (aggregate c depth e query s (some m)).run' σ = (.ok env, σ')) :
    ∃ r page, (Paging.fetchPage s (depth + 2) r).run' σ = (.ok page, σ') ∧
      env.items = Paging.takeItems page.items m := by
  unfold aggregate at ran
  obtain ⟨r, -, ran⟩ := Exchange.ofExcept_bind_ok ran
  obtain ⟨page, fetched, items⟩ := runPages_one_page ran
  exact ⟨r, page, fetched, items⟩

/-- A REST query over declared pagination, run as a preview, fetches one page and keeps the
first preview-size items of it under `items`. -/
theorem Rest.runQuery_limited {m : Int} {o : Outcome}
    (paged : ∃ s, c.pagination = some s ∧ s.kind ≠ .none)
    (ran : (Rest.runQuery c depth q (some m)).run' σ = (.ok o, σ')) :
    ∃ st d r page, (Paging.fetchPage st d r).run' σ = (.ok page, σ') ∧ o.raw = none ∧
      o.data.path? "items" = some (.arr (Paging.takeItems page.items m)) := by
  obtain ⟨s, declared, kind⟩ := paged
  have paginated : (s.kind != .none) = true := by
    cases own : s.kind
    · exact absurd own kind
    · rfl
    · rfl
  unfold Rest.runQuery at ran
  obtain ⟨e, -, ran⟩ := Exchange.ofExcept_bind_ok ran
  rw [declared] at ran
  simp only [paginated, ↓reduceIte] at ran
  obtain ⟨env, aggregated, rfl⟩ := Exchange.bind_pure_ok_inv ran
  obtain ⟨r, page, fetched, items⟩ := aggregate_limited aggregated
  refine ⟨_, _, r, page, fetched, rfl, ?_⟩
  have split : Text.splitText "items" "." = ["items"] := by decide
  simp [envelopeData, Value.path?, split, Value.get?, Fields.get?, Keyed.get?, items]

theorem Akeneo.itemsData_path (items : List Value) :
    (Akeneo.itemsData items).path? "_embedded.items" = some (.arr items) := by
  have split : Text.splitText "_embedded.items" "." = ["_embedded", "items"] := by decide
  simp [Akeneo.itemsData, Value.path?, split, Value.get?, Fields.get?, Keyed.get?]

/-- An Akeneo query run as a preview fetches one page. An entity resource, whose path holds the
code slot, keeps every item of that page; a list resource keeps the first preview-size ones. -/
theorem Akeneo.runQuery_limited {settings : Settings} {m : Int} {o : Outcome}
    (ran : (Akeneo.runQuery settings c depth q (some m)).run' σ = (.ok o, σ')) :
    ∃ e, c.resolve q.resourceId false akeneoResources = .ok e ∧
      ∃ st d r page, (Paging.fetchPage st d r).run' σ = (.ok page, σ') ∧ o.raw = none ∧
        o.data.path? "_embedded.items" = some (.arr
          (if 1 < (Text.splitText e.url Akeneo.codeSlot).length then page.items
           else Paging.takeItems page.items m)) := by
  unfold Akeneo.runQuery at ran
  obtain ⟨e, resolved, ran⟩ := Exchange.ofExcept_bind_ok ran
  refine ⟨e, resolved, ?_⟩
  split at ran
  · rename_i entity
    dsimp only at ran
    split at ran
    · obtain ⟨_, _, thrown, -⟩ := Exchange.bind_ok_inv ran
      cases thrown
    · obtain ⟨code, -, ran⟩ := Exchange.ofExcept_bind_ok ran
      obtain ⟨r, -, ran⟩ := Exchange.ofExcept_bind_ok ran
      obtain ⟨env, pages, rfl⟩ := Exchange.bind_pure_ok_inv ran
      obtain ⟨page, fetched, items⟩ := runPages_one_page pages
      refine ⟨_, _, r, page, fetched, rfl, ?_⟩
      rw [if_pos entity, ← Akeneo.itemsData_path page.items, items]
      rfl
  · rename_i listed
    obtain ⟨env, aggregated, rfl⟩ := Exchange.bind_pure_ok_inv ran
    obtain ⟨r, page, fetched, items⟩ := aggregate_limited aggregated
    refine ⟨_, _, r, page, fetched, rfl, ?_⟩
    rw [if_neg listed, ← items]
    exact Akeneo.itemsData_path env.items

/-- A Salsify query run as a preview fetches one page and keeps the first preview-size items of
it under `data`. -/
theorem Salsify.runQuery_limited {settings : Settings} {m : Int} {o : Outcome}
    (ran : (Salsify.runQuery settings c depth q (some m)).run' σ = (.ok o, σ')) :
    ∃ st d r page, (Paging.fetchPage st d r).run' σ = (.ok page, σ') ∧ o.raw = none ∧
      o.data.path? "data" = some (.arr (Paging.takeItems page.items m)) := by
  unfold Salsify.runQuery at ran
  obtain ⟨parsed, -, ran⟩ := Exchange.ofExcept_bind_ok ran
  obtain ⟨query, σ₀, built, ran⟩ := Exchange.bind_ok_inv ran
  cases built
  obtain ⟨sq, -, ran⟩ := Exchange.ofExcept_bind_ok ran
  obtain ⟨e, -, ran⟩ := Exchange.ofExcept_bind_ok ran
  obtain ⟨first, -, ran⟩ := Exchange.ofExcept_bind_ok ran
  obtain ⟨r, -, ran⟩ := Exchange.ofExcept_bind_ok ran
  obtain ⟨env, pages, rfl⟩ := Exchange.bind_pure_ok_inv ran
  obtain ⟨page, fetched, items⟩ := runPages_one_page pages
  refine ⟨_, _, r, page, fetched, rfl, ?_⟩
  have split : Text.splitText "data" "." = ["data"] := by decide
  simp [Value.path?, split, Value.get?, Fields.get?, Keyed.get?, items]

/-- The previews that read pages: every Akeneo and Salsify preview, and a REST preview over
declared link or cursor pagination. -/
def Client.PagedPreview (k : Client) (c : Config) : Prop :=
  k.vendor = .akeneo ∨ k.vendor = .salsify ∨
    k.vendor = .rest ∧ ∃ s, c.pagination = some s ∧ s.kind ≠ .none

/-- Whether a preview fetches one entity: an Akeneo query on a resource whose path holds the
code slot. -/
def Client.fetchesEntity (k : Client) (c : Config) (q : QueryInfo) : Bool :=
  match k.vendor, c.resolve q.resourceId false akeneoResources with
  | .akeneo, .ok e => decide (1 < (Text.splitText e.url Akeneo.codeSlot).length)
  | _, _ => false

/-- What a one-page preview keeps of the items of its page: every one for an entity, else the
first preview-size ones. -/
def Client.previewKept (k : Client) (c : Config) (q : QueryInfo) (items : List Value) :
    List Value :=
  if k.fetchesEntity c q then items else Paging.takeItems items k.settings.previewRows

theorem Client.previewKept_prefix (items : List Value) : k.previewKept c q items <+: items := by
  unfold Client.previewKept Paging.takeItems
  split
  · exact List.prefix_refl items
  · split <;> exact List.take_prefix _ _

/-- A preview keeps at most the preview size of items, unless it fetched an entity whose page
holds more. -/
theorem Client.previewKept_length (rows : 0 ≤ k.settings.previewRows) (items : List Value) :
    ((k.previewKept c q items).length : Int) ≤ k.settings.previewRows ↔
      ¬ (k.fetchesEntity c q = true ∧ k.settings.previewRows < items.length) := by
  unfold Client.previewKept
  cases entity : k.fetchesEntity c q
  · simp only [Bool.false_eq_true, ↓reduceIte, false_and, not_false_eq_true, iff_true,
      Paging.takeItems_of_nonneg items rows, List.length_take]
    omega
  · simp

/-- Connecting keeps a preview one that reads pages: the REST check gives no configuration of
its own. -/
theorem Client.PagedPreview.connect {c' : Config} (paged : k.PagedPreview c)
    (connected : (k.connect c depth).run' σ = (.ok c', σ')) : k.PagedPreview c' := by
  rcases paged with akeneo | salsify | ⟨rest, declared⟩
  · exact .inl akeneo
  · exact .inr (.inl salsify)
  · obtain ⟨given, probed, rfl⟩ := Client.connect_ok_inv connected
    have checked : k.probe c (depth + 1) = Rest.probe c (depth + 1) := by
      unfold Client.probe
      rw [rest]
    rw [checked] at probed
    rw [Rest.probe_ok probed]
    exact .inr (.inr ⟨rest, declared⟩)

/-- A preview that reads pages fetches one page and keeps what `previewKept` says of it, where
its kind of output keeps items. -/
theorem Client.runQuery_limited {o : Outcome} (paged : k.PagedPreview c)
    (ran : (k.runQuery c depth q (some k.settings.previewRows)).run' σ = (.ok o, σ')) :
    ∃ st d r page, (Paging.fetchPage st d r).run' σ = (.ok page, σ') ∧ o.raw = none ∧
      o.data.path? k.vendor.itemsPath = some (.arr (k.previewKept c q page.items)) := by
  obtain ⟨vendor, settings⟩ := k
  rcases paged with akeneo | salsify | ⟨rest, declared⟩
  · dsimp only at akeneo
    subst akeneo
    obtain ⟨e, resolved, st, d, r, page, fetched, raw, items⟩ := Akeneo.runQuery_limited ran
    refine ⟨st, d, r, page, fetched, raw, ?_⟩
    simpa [Client.previewKept, Client.fetchesEntity, Vendor.itemsPath, resolved] using items
  · dsimp only at salsify
    subst salsify
    obtain ⟨st, d, r, page, fetched, raw, items⟩ := Salsify.runQuery_limited ran
    exact ⟨st, d, r, page, fetched, raw, by simpa [Client.previewKept, Client.fetchesEntity, Vendor.itemsPath] using items⟩
  · dsimp only at rest
    subst rest
    obtain ⟨st, d, r, page, fetched, raw, items⟩ := Rest.runQuery_limited declared ran
    exact ⟨st, d, r, page, fetched, raw, by simpa [Client.previewKept, Client.fetchesEntity, Vendor.itemsPath] using items⟩

/-- What a preview that succeeded did, from `σ` to `σ'`, answering `p`: it connected, then sent
one more request, read the page that request answered and paused nowhere. Its response is a
document whose items are what `previewKept` keeps of that page: a prefix of the page's items,
within the preview size exactly when it is not an entity preview of a page larger than that. -/
def Client.ReadsOnePage (k : Client) (c : Config) (depth : Nat) (q : QueryInfo) (σ : Session)
    (p : Preview) (σ' : Session) : Prop :=
  ∃ c' σ₁ st d r page, ∃ doc : Value,
    (k.connect c (depth + 1)).run' σ = (.ok c', σ₁) ∧
    (Paging.fetchPage st d r).run' σ₁ = (.ok page, σ') ∧
    σ'.script.received = σ₁.script.received ++ [r] ∧
    σ'.pauses = σ.pauses ∧
    p.response = doc.write ∧
    doc.path? k.vendor.itemsPath = some (.arr (k.previewKept c' q page.items)) ∧
    k.previewKept c' q page.items <+: page.items ∧
    (((k.previewKept c' q page.items).length : Int) ≤ k.settings.previewRows ↔
      ¬ (k.fetchesEntity c' q = true ∧ k.settings.previewRows < page.items.length))

/-- Every successful preview of an Akeneo or Salsify query, or of a REST query over declared
link or cursor pagination, reads one page after connecting and pauses nowhere; it keeps a
prefix of that page's items, at most the preview size of them unless the query names an Akeneo
entity whose page holds more. -/
theorem Client.preview_reads_one_page {p : Preview} (paged : k.PagedPreview c)
    (rows : 0 ≤ k.settings.previewRows) (previewed : (k.preview c depth q).run' σ = (.ok p, σ')) :
    k.ReadsOnePage c depth q σ p σ' := by
  obtain ⟨c', σ₁, o, connected, ran, response⟩ := Client.preview_ok_inv previewed
  obtain ⟨st, d, r, page, fetched, raw, items⟩ :=
    Client.runQuery_limited (paged.connect connected) ran
  have served : σ' = σ₁.serve (d + 2) r := fetchPage_served fetched
  have unpaused : σ₁.pauses = σ.pauses := by
    have kept := k.connect_keepsPauses c (depth + 1) σ
    rwa [connected] at kept
  refine ⟨c', σ₁, st, d, r, page, o.data, connected, fetched, ?_, ?_, ?_, items,
    Client.previewKept_prefix page.items, Client.previewKept_length rows page.items⟩
  · rw [served, Session.serve_received]
  · rw [served, Session.serve_pauses, unpaused]
  · rw [response, Outcome.text, raw, Option.getD_none]

end OnePage

/-- An Akeneo catalogue reached with a bearer token. -/
def productClient : Client := ⟨.akeneo, Settings.standard⟩

def productConfig : Config :=
  .rest [] ⟨"https://pim.example.com", .get, none, [], none⟩ (.bearer "t" "Authorization")

/-- A preview of the product with code `abc`. -/
def productQuery : QueryInfo := ⟨"abc", "q", [], [("resourceId", "get_product_by_id")]⟩

/-- A transport that answers the connectivity check, then a product page of seven items: more
than the usual preview size of five. -/
def productSession : Session :=
  ⟨⟨[], [.respond 200 (.document (.obj [])),
    .respond 200 (.document (.obj [("_embedded", .obj [("items",
      .arr [.int 1, .int 2, .int 3, .int 4, .int 5, .int 6, .int 7])])]))], []⟩, []⟩

theorem productPreview_succeeds :
    ∃ p σ', (productClient.preview productConfig 0 productQuery).run' productSession =
      (.ok p, σ') :=
  Exchange.ok_of_succeeds (by decide +kernel)

theorem product_preview_reads_one_page :
    productClient.PagedPreview productConfig ∧ 0 ≤ productClient.settings.previewRows ∧
      ∃ p σ', (productClient.preview productConfig 0 productQuery).run' productSession =
        (.ok p, σ') ∧ productClient.ReadsOnePage productConfig 0 productQuery productSession p σ' := by
  obtain ⟨p, σ', previewed⟩ := productPreview_succeeds
  have paged : productClient.PagedPreview productConfig := .inl rfl
  have rows : 0 ≤ productClient.settings.previewRows := by decide
  exact ⟨paged, rows, p, σ', previewed, Client.preview_reads_one_page paged rows previewed⟩

/-- The preview of that product answers all seven items of its page. -/
theorem product_preview_keeps_whole_page :
    (match ((productClient.preview productConfig 0 productQuery).run' productSession).1 with
      | .ok p => p.response == "\x7b\"_embedded\":\x7b\"items\":[1,2,3,4,5,6,7]\x7d\x7d"
      | .error _ => false) = true := by decide +kernel

end Courier.Connector
