import Courier.Proofs.Exchange
import Courier.Connector.Client

namespace Courier.Connector

open Courier.Http

variable (k : Client) (c : Config) (depth : Nat) (σ : Session)

theorem Cause.eq_connection {x : Cause} (same : (x != .connection) = false) :
    x = .connection := by
  cases x <;> first | rfl | cases same

theorem Client.connect_refused (refused : k.vendor.schemes.contains c.scheme = false) :
    (k.connect c depth).run' σ = (.error (k.refusal c.scheme), σ) := by
  simp [Client.connect, refused]

theorem Client.connect_probe_ok (accepted : k.vendor.schemes.contains c.scheme = true)
    {connected : Option Config} {σ₁ : Session}
    (probed : (k.probe c (depth + 1)).run' σ = (.ok connected, σ₁)) :
    (k.connect c depth).run' σ = (.ok (connected.getD c), σ₁) := by
  simp [Client.connect, accepted, Exchange.run'_map, Exchange.run'_tryCatch, probed]

/-- A failed check surfaces as a connection failure when it is one of the connector's own,
and unchanged otherwise. -/
theorem Client.connect_probe_error (accepted : k.vendor.schemes.contains c.scheme = true)
    {f : Failure} {σ₁ : Session} (probed : (k.probe c (depth + 1)).run' σ = (.error f, σ₁)) :
    ∃ g, (k.connect c depth).run' σ = (.error g, σ₁) ∧
      (f.cause.isConnectorFailure = true → g.cause = .connection) ∧
      (f.cause.isConnectorFailure = false → g = f) := by
  have unfolded : (k.connect c depth).run' σ =
      ((fun connected => connected.getD c) <$> tryCatch (k.probe c (depth + 1)) fun f =>
        if f.cause != .connection && f.cause.isConnectorFailure then
          throw (f.wrap .connection ("[" ++ k.vendor.title ++ "] Error in connecting to client: "))
        else throw f).run' σ := by
    simp [Client.connect, accepted]
  rw [unfolded, Exchange.run'_map, Exchange.run'_tryCatch, probed]
  cases own : f.cause.isConnectorFailure
  · refine ⟨f, ?_, fun own' => by simp at own', fun _ => rfl⟩
    simp [own]
  · cases other : f.cause != .connection
    · refine ⟨f, ?_, fun _ => Cause.eq_connection other, fun foreign => by simp at foreign⟩
      simp [other]
    · refine ⟨f.wrap .connection ("[" ++ k.vendor.title ++ "] Error in connecting to client: "),
        ?_, fun _ => rfl, fun foreign => by simp at foreign⟩
      simp [other, own]

/-- The connectivity check, with `depth` calls in progress before connecting, failed with a
failure that is none of the connector's own: connecting lets it through unchanged. -/
def Client.Escapes (f : Failure) : Prop :=
  k.vendor.schemes.contains c.scheme = true ∧ ((k.probe c (depth + 1)).run' σ).1 = .error f ∧
    f.cause.isConnectorFailure = false

/-- Connecting fails on a refused scheme, with a connection failure, or with what the check let
through. -/
theorem Client.connect_error_cases {f : Failure}
    (fails : ((k.connect c depth).run' σ).1 = .error f) :
    f = k.refusal c.scheme ∨ f.cause = .connection ∨ k.Escapes c depth σ f := by
  cases accepted : k.vendor.schemes.contains c.scheme
  · rw [Client.connect_refused k c depth σ accepted] at fails
    cases fails
    exact .inl rfl
  · rcases probed : (k.probe c (depth + 1)).run' σ with ⟨_ | connected, σ₁⟩
    · rename_i g
      obtain ⟨g', ran, own, foreign⟩ := Client.connect_probe_error k c depth σ accepted probed
      rw [ran] at fails
      cases fails
      cases mine : g.cause.isConnectorFailure
      · rw [foreign mine]
        exact .inr (.inr ⟨accepted, by rw [probed], mine⟩)
      · exact .inr (.inl (own mine))
    · rw [Client.connect_probe_ok k c depth σ accepted probed] at fails
      cases fails

/-- The failures connecting lets through that are none of the connector's own are exactly those
of the check. -/
theorem Client.connect_foreign (f : Failure) :
    ((k.connect c depth).run' σ).1 = .error f ∧ f.cause.isConnectorFailure = false ↔
      k.Escapes c depth σ f := by
  constructor
  · rintro ⟨fails, foreign⟩
    rcases Client.connect_error_cases k c depth σ fails with refused | lost | escaped
    · rw [refused] at foreign
      cases foreign
    · rw [lost] at foreign
      cases foreign
    · exact escaped
  · rintro ⟨accepted, probed, foreign⟩
    rcases ran : (k.probe c (depth + 1)).run' σ with ⟨r, σ₁⟩
    rw [ran] at probed
    cases probed
    obtain ⟨g, connected, -, unchanged⟩ := Client.connect_probe_error k c depth σ accepted ran
    rw [unchanged foreign] at connected
    exact ⟨by rw [connected], foreign⟩

/-- Connecting reports every failure of the check as a connection failure, except the ones it
lets through. -/
theorem Client.connect_unconverted (f : Failure) :
    ((k.connect c depth).run' σ).1 = .error f ∧ f ≠ k.refusal c.scheme ∧
        f.cause ≠ .connection ↔
      k.Escapes c depth σ f := by
  constructor
  · rintro ⟨fails, other, unconverted⟩
    rcases Client.connect_error_cases k c depth σ fails with refused | lost | escaped
    · exact absurd refused other
    · exact absurd lost unconverted
    · exact escaped
  · intro escaped
    obtain ⟨fails, foreign⟩ := (Client.connect_foreign k c depth σ f).2 escaped
    refine ⟨fails, ?_, ?_⟩
    · rintro rfl
      simp [Client.refusal, Failure.simple, Cause.isConnectorFailure] at foreign
    · intro lost
      rw [lost] at foreign
      cases foreign

theorem Client.run_fails_own (q : QueryInfo) (limit : Option Int) :
    Exchange.FailsWithin (·.cause.isConnectorFailure) (k.run c depth q limit) := by
  intro σ f fails
  unfold Client.run at fails
  rw [Exchange.run'_tryCatch] at fails
  rcases ran : (k.runQuery c (depth + 1) q limit).run' σ with ⟨_ | o, σ₁⟩ <;>
    rw [ran] at fails
  · rename_i f₀
    cases own : f₀.cause.isConnectorFailure
    · simp [own] at fails
      rw [← fails]
      rfl
    · simp [own] at fails
      rw [← fails]
      exact own
  · cases fails

/-- An operation that connects and then fails only with the connector's own failures lets
through exactly what the check lets through. -/
theorem Client.connected_foreign {β : Type} {rest : Config → Exchange β}
    (own : ∀ c', Exchange.FailsWithin (·.cause.isConnectorFailure) (rest c')) (f : Failure) :
    ((k.connect c depth >>= rest).run' σ).1 = .error f ∧ f.cause.isConnectorFailure = false ↔
      k.Escapes c depth σ f := by
  rw [← Client.connect_foreign]
  constructor
  · rintro ⟨fails, foreign⟩
    exact ⟨(Exchange.bind_error_iff own (by simp [foreign])).1 fails, foreign⟩
  · rintro ⟨fails, foreign⟩
    exact ⟨(Exchange.bind_error_iff own (by simp [foreign])).2 fails, foreign⟩

theorem Client.execute_foreign (q : QueryInfo) (f : Failure) :
    ((k.execute c depth q).run' σ).1 = .error f ∧ f.cause.isConnectorFailure = false ↔
      k.Escapes c (depth + 1) σ f :=
  Client.connected_foreign k c (depth + 1) σ
    (fun c' => (Client.run_fails_own k c' (depth + 1) q none).bind fun _ => .of_pure _) f

theorem Client.preview_foreign (q : QueryInfo) (f : Failure) :
    ((k.preview c depth q).run' σ).1 = .error f ∧ f.cause.isConnectorFailure = false ↔
      k.Escapes c (depth + 1) σ f :=
  Client.connected_foreign k c (depth + 1) σ
    (fun c' => (Client.run_fails_own k c' (depth + 1) q _).bind fun _ => .of_pure _) f

/-- A batch fails only where its connection does or with the connector's own failures: a
query's failure is either left out or passed on as it is. -/
theorem Client.executeBatch_foreign (qs : List QueryInfo) (policy : Option BatchPolicy)
    (f : Failure) :
    ((k.executeBatch c depth qs policy).run' σ).1 = .error f ∧
        f.cause.isConnectorFailure = false ↔
      k.Escapes c (depth + 1) σ f := by
  unfold Client.executeBatch
  apply Client.connected_foreign
  intro c'
  refine Exchange.FailsWithin.bind ?_ fun results => .of_pure _
  apply Exchange.FailsWithin.foldlM
  intro results q
  unfold Client.batchStep
  apply Exchange.FailsWithin.bind
  · apply Exchange.FailsWithin.tryCatch ((Client.run_fails_own k c' (depth + 1) q none).map some)
    intro e own
    split
    · exact .of_pure none
    · exact .of_throw own
  · intro outcome
    cases outcome <;> exact .of_pure _

/-- Checking the connection answers whether connecting succeeds, and answers no to the
connector's own failures; any other failure it passes on. -/
theorem Client.validateConnection_run :
    ((k.validateConnection c depth).run' σ).1 =
      match ((k.connect c (depth + 1)).run' σ).1 with
      | .ok _ => .ok true
      | .error f => if f.cause.isConnectorFailure then .ok false else .error f := by
  unfold Client.validateConnection
  rw [Exchange.run'_tryCatch, Exchange.run'_bind]
  rcases (k.connect c (depth + 1)).run' σ with ⟨_ | c', σ₁⟩
  · dsimp only
    split <;> rfl
  · rfl

theorem Client.validateConnection_error (f : Failure) :
    ((k.validateConnection c depth).run' σ).1 = .error f ↔ k.Escapes c (depth + 1) σ f := by
  rw [Client.validateConnection_run, ← Client.connect_foreign]
  rcases (k.connect c (depth + 1)).run' σ with ⟨_ | c', σ₁⟩
  · rename_i g
    cases own : g.cause.isConnectorFailure
    · simp only [own, Bool.false_eq_true, ↓reduceIte]
      constructor
      · intro same
        cases same
        exact ⟨rfl, own⟩
      · rintro ⟨same, -⟩
        cases same
        rfl
    · simp only [own, ↓reduceIte, reduceCtorEq, false_iff, not_and]
      intro same
      cases same
      simp [own]
  · simp

theorem Client.validateConnection_true :
    ((k.validateConnection c depth).run' σ).1 = .ok true ↔
      ∃ c', ((k.connect c (depth + 1)).run' σ).1 = .ok c' := by
  rw [Client.validateConnection_run]
  rcases (k.connect c (depth + 1)).run' σ with ⟨_ | c', σ₁⟩
  · rename_i g
    cases own : g.cause.isConnectorFailure <;> simp [own]
  · simp

theorem Client.validateConnection_false :
    ((k.validateConnection c depth).run' σ).1 = .ok false ↔
      ∃ g, ((k.connect c (depth + 1)).run' σ).1 = .error g ∧ g.cause.isConnectorFailure = true := by
  rw [Client.validateConnection_run]
  rcases (k.connect c (depth + 1)).run' σ with ⟨_ | c', σ₁⟩
  · rename_i g
    cases own : g.cause.isConnectorFailure <;> simp [own]
  · simp

/-- Connectors keep their failures their own, save one way out: a failure of the connectivity
check that is none of the connector's own leaves connecting unchanged, and with it every
operation, checking the connection included. Every failure of the check is otherwise a refused
scheme or a connection failure, every failure of running queries is the connector's own, and
checking the connection answers yes exactly when connecting succeeds. -/
theorem Client.unwrapped_failure_iff_escapes (q : QueryInfo) (qs : List QueryInfo)
    (policy : Option BatchPolicy) (f : Failure) :
    (((k.connect c depth).run' σ).1 = .error f ∧ f ≠ k.refusal c.scheme ∧
        f.cause ≠ .connection ↔ k.Escapes c depth σ f) ∧
    (((k.execute c depth q).run' σ).1 = .error f ∧ f.cause.isConnectorFailure = false ↔
        k.Escapes c (depth + 1) σ f) ∧
    (((k.preview c depth q).run' σ).1 = .error f ∧ f.cause.isConnectorFailure = false ↔
        k.Escapes c (depth + 1) σ f) ∧
    (((k.executeBatch c depth qs policy).run' σ).1 = .error f ∧
        f.cause.isConnectorFailure = false ↔ k.Escapes c (depth + 1) σ f) ∧
    (((k.validateConnection c depth).run' σ).1 = .error f ↔ k.Escapes c (depth + 1) σ f) ∧
    (((k.validateConnection c depth).run' σ).1 = .ok true ↔
        ∃ c', ((k.connect c (depth + 1)).run' σ).1 = .ok c') ∧
    (((k.validateConnection c depth).run' σ).1 = .ok false ↔
        ∃ g, ((k.connect c (depth + 1)).run' σ).1 = .error g ∧
          g.cause.isConnectorFailure = true) :=
  ⟨Client.connect_unconverted k c depth σ f, Client.execute_foreign k c depth σ q f,
    Client.preview_foreign k c depth σ q f, Client.executeBatch_foreign k c depth σ qs policy f,
    Client.validateConnection_error k c depth σ f, Client.validateConnection_true k c depth σ,
    Client.validateConnection_false k c depth σ⟩

/-- A REST endpoint that needs no credentials. -/
def plainClient : Client := ⟨.rest, Settings.standard⟩

def plainConfig : Config := .rest [] ⟨"https://api.example.com/v1", .get, none, [], none⟩ .anonymous

/-- A transport whose first answer raises a value failure instead of responding. -/
def raisingSession : Session := ⟨⟨[], [.raise (Failure.simple .badValue "boom")], []⟩, []⟩

/-- Checking that endpoint's connection raises the value failure of its check instead of
answering no. -/
theorem validateConnection_raises_value_failure :
    (match ((plainClient.validateConnection plainConfig 0).run' raisingSession).1 with
      | .ok _ => false
      | .error f => f.cause == .badValue) = true := by decide +kernel

end Courier.Connector
