import Courier.Paging.Aggregate

/-! How steps of a session run: the shape of `Exchange` as a function of the session, and what
the transport and the pauses leave behind. A fetch records exactly its request and pauses
nowhere; a pause records its seconds and touches nothing else.

What a step may fail with, and what it keeps of the session, is one notion, `Exchange.Confined`:
an invariant of sessions that the step keeps, with the failures it may raise from a session
satisfying it. It goes through binds, branches, handlers and folds one combinator at a time; the
failure classes and the pause frame of later modules are instances of it. -/

namespace Courier.Http

variable {α β : Type}

@[simp] theorem Exchange.run'_pure (a : α) (σ : Session) :
    (pure a : Exchange α).run' σ = (.ok a, σ) := rfl

@[simp] theorem Exchange.run'_ofExcept (e : Except Failure α) (σ : Session) :
    (Exchange.ofExcept e).run' σ = (e, σ) := rfl

@[simp] theorem Exchange.run'_throw (f : Failure) (σ : Session) :
    (throw f : Exchange α).run' σ = (.error f, σ) := rfl

@[simp] theorem Exchange.run'_get (σ : Session) :
    (get : Exchange Session).run' σ = (.ok σ, σ) := rfl

theorem Exchange.run'_bind (m : Exchange α) (f : α → Exchange β) (σ : Session) :
    (m >>= f).run' σ = match m.run' σ with
      | (.ok a, σ₁) => (f a).run' σ₁
      | (.error e, σ₁) => (.error e, σ₁) := by
  simp only [Exchange.run', ExceptT.run, StateT.run]
  simp only [bind, ExceptT.bind, ExceptT.mk, ExceptT.bindCont, StateT.bind]
  rcases m σ with ⟨_ | a, σ₁⟩ <;> rfl

theorem Exchange.run'_map (f : α → β) (m : Exchange α) (σ : Session) :
    (f <$> m).run' σ = match m.run' σ with
      | (.ok a, σ₁) => (.ok (f a), σ₁)
      | (.error e, σ₁) => (.error e, σ₁) := by
  simp only [Exchange.run', ExceptT.run, StateT.run]
  simp only [Functor.map, ExceptT.map, ExceptT.mk, StateT.bind, bind]
  rcases m σ with ⟨_ | a, σ₁⟩ <;> rfl

theorem Exchange.run'_tryCatch (m : Exchange α) (handler : Failure → Exchange α) (σ : Session) :
    (tryCatch m handler).run' σ = match m.run' σ with
      | (.ok a, σ₁) => (.ok a, σ₁)
      | (.error e, σ₁) => (handler e).run' σ₁ := by
  simp only [Exchange.run', ExceptT.run, StateT.run]
  simp only [tryCatch, tryCatchThe, MonadExceptOf.tryCatch, ExceptT.tryCatch, ExceptT.mk,
    StateT.bind, bind]
  rcases m σ with ⟨_ | a, σ₁⟩ <;> rfl

theorem Exchange.run'_bind_ok {m : Exchange α} {σ σ₁ : Session} {a : α}
    (succeeds : m.run' σ = (.ok a, σ₁)) (f : α → Exchange β) :
    (m >>= f).run' σ = (f a).run' σ₁ := by
  rw [Exchange.run'_bind, succeeds]

theorem Exchange.run'_bind_error {m : Exchange α} {σ σ₁ : Session} {e : Failure}
    (fails : m.run' σ = (.error e, σ₁)) (f : α → Exchange β) :
    (m >>= f).run' σ = (.error e, σ₁) := by
  rw [Exchange.run'_bind, fails]

/-- A bound step that succeeds ran both its parts successfully, one after the other. -/
theorem Exchange.bind_ok_inv {m : Exchange α} {f : α → Exchange β} {σ σ' : Session} {b : β}
    (succeeds : (m >>= f).run' σ = (.ok b, σ')) :
    ∃ a σ₁, m.run' σ = (.ok a, σ₁) ∧ (f a).run' σ₁ = (.ok b, σ') := by
  rw [Exchange.run'_bind] at succeeds
  rcases ran : m.run' σ with ⟨_ | a, σ₁⟩ <;> rw [ran] at succeeds
  · cases succeeds
  · exact ⟨a, σ₁, rfl, succeeds⟩

/-- A step that ends by returning a value built from what a first step gave succeeds exactly
where the first step does, in the session the first step leaves. -/
theorem Exchange.bind_pure_ok_inv {m : Exchange α} {g : α → β} {σ σ' : Session} {b : β}
    (succeeds : (m >>= fun a => pure (g a)).run' σ = (.ok b, σ')) :
    ∃ a, m.run' σ = (.ok a, σ') ∧ b = g a := by
  obtain ⟨a, σ₁, ran, returned⟩ := Exchange.bind_ok_inv succeeds
  simp only [Exchange.run'_pure, Prod.mk.injEq, Except.ok.injEq] at returned
  obtain ⟨rfl, rfl⟩ := returned
  exact ⟨a, ran, rfl⟩

/-- A step that reads a computed result succeeds where the result is one. -/
theorem Exchange.ofExcept_bind_ok {x : Except Failure α} {f : α → Exchange β} {σ σ' : Session}
    {b : β} (succeeds : (Exchange.ofExcept x >>= f).run' σ = (.ok b, σ')) :
    ∃ a, x = .ok a ∧ (f a).run' σ = (.ok b, σ') := by
  obtain ⟨a, σ₁, read, rest⟩ := Exchange.bind_ok_inv succeeds
  rw [Exchange.run'_ofExcept] at read
  cases read
  exact ⟨a, rfl, rest⟩

/-- Reading a computed result that is there runs on with it, the session untouched. -/
theorem Exchange.run'_ofExcept_ok_bind {x : Except Failure α} {a : α} (read : x = .ok a)
    (f : α → Exchange β) (σ : Session) : (Exchange.ofExcept x >>= f).run' σ = (f a).run' σ := by
  rw [Exchange.run'_bind, Exchange.run'_ofExcept, read]

/-- A computed outcome that fails, if at all, with a failure satisfying `P`. -/
def Except.FailsWithin (P : Failure → Prop) (x : Except Failure α) : Prop :=
  ∀ f, x = .error f → P f

section OutcomeFailsWithin

variable {P : Failure → Prop}

@[simp] theorem Except.failsWithin_ok (a : α) : Except.FailsWithin P (.ok a : Except Failure α) :=
  fun _ fails => by cases fails

@[simp] theorem Except.failsWithin_pure (a : α) :
    Except.FailsWithin P (pure a : Except Failure α) :=
  fun _ fails => by cases fails

@[simp] theorem Except.failsWithin_error {f : Failure} :
    Except.FailsWithin P (.error f : Except Failure α) ↔ P f :=
  ⟨fun within => within f rfl, fun holds _ fails => by cases fails; exact holds⟩

@[simp] theorem Except.failsWithin_throw {f : Failure} :
    Except.FailsWithin P (throw f : Except Failure α) ↔ P f :=
  Except.failsWithin_error

@[simp] theorem Except.failsWithin_bind {x : Except Failure α} {g : α → Except Failure β} :
    Except.FailsWithin P (x >>= g) ↔
      Except.FailsWithin P x ∧ ∀ a, x = .ok a → Except.FailsWithin P (g a) := by
  cases x with
  | error e =>
    refine ⟨fun within => ⟨fun f fails => ?_, fun _ h => by cases h⟩, fun ⟨within, _⟩ f fails => ?_⟩
    · cases fails; exact within _ rfl
    · cases fails; exact within _ rfl
  | ok a =>
    simp only [Except.failsWithin_ok, true_and]
    exact ⟨fun within _ same => by cases same; exact within, fun within => within a rfl⟩

@[simp] theorem Except.failsWithin_map {x : Except Failure α} {g : α → β} :
    Except.FailsWithin P (g <$> x) ↔ Except.FailsWithin P x := by
  cases x with
  | error e =>
    refine ⟨fun within f fails => ?_, fun within f fails => ?_⟩
    · cases fails; exact within _ rfl
    · cases fails; exact within _ rfl
  | ok a => exact ⟨fun _ => Except.failsWithin_ok a, fun _ => Except.failsWithin_ok (g a)⟩

@[simp] theorem Except.failsWithin_except_map {x : Except Failure α} {g : α → β} :
    Except.FailsWithin P (x.map g) ↔ Except.FailsWithin P x :=
  Except.failsWithin_map

@[simp] theorem Except.failsWithin_ite {c : Prop} [Decidable c] {x y : Except Failure α} :
    Except.FailsWithin P (if c then x else y) ↔
      (c → Except.FailsWithin P x) ∧ (¬ c → Except.FailsWithin P y) := by
  by_cases h : c <;> simp [h]

@[simp] theorem Except.FailsWithin.mapError {x : Except ε α} {g : ε → Failure}
    (always : ∀ e, P (g e)) : Except.FailsWithin P (x.mapError g) := by
  intro f fails
  cases x with
  | error e => cases fails; exact always e
  | ok a => cases fails

@[simp] theorem Except.FailsWithin.mapM {g : α → Except Failure β}
    (each : ∀ a, Except.FailsWithin P (g a)) (xs : List α) : Except.FailsWithin P (xs.mapM g) := by
  induction xs with
  | nil => exact Except.failsWithin_pure []
  | cons x rest ih =>
    simp only [List.mapM_cons, Except.failsWithin_bind, Except.failsWithin_pure, implies_true,
      and_true]
    exact ⟨each x, fun _ _ => ih⟩

@[simp] theorem Except.FailsWithin.filterMapM {g : α → Except Failure (Option β)}
    (each : ∀ a, Except.FailsWithin P (g a)) (xs : List α) :
    Except.FailsWithin P (xs.filterMapM g) := by
  induction xs with
  | nil => exact Except.failsWithin_pure []
  | cons x rest ih =>
    rw [List.filterMapM_cons, Except.failsWithin_bind]
    refine ⟨each x, fun b _ => ?_⟩
    cases b with
    | none => exact ih
    | some b => exact Except.failsWithin_bind.mpr ⟨ih, fun _ _ => Except.failsWithin_pure _⟩

theorem Except.FailsWithin.foldlM {step : β → α → Except Failure β}
    (each : ∀ b a, Except.FailsWithin P (step b a)) (xs : List α) (init : β) :
    Except.FailsWithin P (xs.foldlM step init) := by
  induction xs generalizing init with
  | nil => exact Except.failsWithin_pure init
  | cons x rest ih =>
    simp only [List.foldlM_cons, Except.failsWithin_bind]
    exact ⟨each init x, fun b _ => ih b⟩

end OutcomeFailsWithin

/-- A step that, from a session satisfying `I`, leaves one satisfying `I` and fails only with
failures satisfying `P`. -/
def Exchange.Confined (I : Session → Prop) (P : Failure → Prop) (m : Exchange α) : Prop :=
  ∀ σ, I σ → I (m.run' σ).2 ∧ ∀ f, (m.run' σ).1 = .error f → P f

section Confined

variable {I : Session → Prop} {P : Failure → Prop}

theorem Exchange.Confined.of_pure (a : α) : Exchange.Confined I P (pure a : Exchange α) :=
  fun _ kept => ⟨kept, fun _ fails => by cases fails⟩

theorem Exchange.Confined.of_ofExcept {x : Except Failure α} (within : Except.FailsWithin P x) :
    Exchange.Confined I P (Exchange.ofExcept x) :=
  fun _ kept => ⟨kept, within⟩

theorem Exchange.Confined.of_throw {f : Failure} (holds : P f) :
    Exchange.Confined I P (throw f : Exchange α) :=
  fun _ kept => ⟨kept, fun g fails => by cases fails; exact holds⟩

theorem Exchange.Confined.of_get : Exchange.Confined I P (get : Exchange Session) :=
  fun _ kept => ⟨kept, fun _ fails => by cases fails⟩

theorem Exchange.Confined.bind {m : Exchange α} {g : α → Exchange β}
    (first : Exchange.Confined I P m) (rest : ∀ a, Exchange.Confined I P (g a)) :
    Exchange.Confined I P (m >>= g) := by
  intro σ kept
  obtain ⟨kept₁, within⟩ := first σ kept
  rw [Exchange.run'_bind]
  rcases ran : m.run' σ with ⟨_ | a, σ₁⟩ <;> rw [ran] at kept₁ within
  · refine ⟨kept₁, fun f fails => ?_⟩
    cases fails
    exact within _ rfl
  · exact rest a σ₁ kept₁

theorem Exchange.Confined.map {m : Exchange α} (g : α → β) (first : Exchange.Confined I P m) :
    Exchange.Confined I P (g <$> m) := by
  intro σ kept
  obtain ⟨kept₁, within⟩ := first σ kept
  rw [Exchange.run'_map]
  rcases ran : m.run' σ with ⟨_ | a, σ₁⟩ <;> rw [ran] at kept₁ within
  · refine ⟨kept₁, fun f fails => ?_⟩
    cases fails
    exact within _ rfl
  · exact ⟨kept₁, fun f fails => by cases fails⟩

theorem Exchange.Confined.ite {c : Prop} [Decidable c] {m m' : Exchange α}
    (yes : c → Exchange.Confined I P m) (no : ¬ c → Exchange.Confined I P m') :
    Exchange.Confined I P (if c then m else m') := by
  split
  · exact yes ‹c›
  · exact no ‹¬ c›

/-- A guard that throws a failure within `P` before the rest of a step within `P`. -/
theorem Exchange.Confined.guard {c : Prop} [Decidable c] {f : Failure} {m : Exchange α}
    (holds : P f) (rest : Exchange.Confined I P m) :
    Exchange.Confined I P (if c then (throw f : Exchange PUnit) >>= (fun _ => m) else m) :=
  .ite (fun _ => .bind (.of_throw holds) fun _ => rest) fun _ => rest

/-- A handler given only failures within `P` that keeps to `I` and `P` keeps a step to them. -/
theorem Exchange.Confined.tryCatch {m : Exchange α} {handler : Failure → Exchange α}
    (first : Exchange.Confined I P m) (handled : ∀ e, P e → Exchange.Confined I P (handler e)) :
    Exchange.Confined I P (tryCatch m handler) := by
  intro σ kept
  obtain ⟨kept₁, within⟩ := first σ kept
  rw [Exchange.run'_tryCatch]
  rcases ran : m.run' σ with ⟨_ | a, σ₁⟩ <;> rw [ran] at kept₁ within
  · exact handled _ (within _ rfl) σ₁ kept₁
  · exact ⟨kept₁, fun f fails => by cases fails⟩

theorem Exchange.Confined.foldlM {step : β → α → Exchange β}
    (each : ∀ b a, Exchange.Confined I P (step b a)) (xs : List α) (init : β) :
    Exchange.Confined I P (xs.foldlM step init) := by
  induction xs generalizing init with
  | nil => exact Exchange.Confined.of_pure init
  | cons x rest ih =>
    rw [List.foldlM_cons]
    exact (each init x).bind ih

end Confined

/-- Every failure of a step satisfies `P`, whatever session it starts from. -/
def Exchange.FailsWithin (P : Failure → Prop) (m : Exchange α) : Prop :=
  ∀ σ f, (m.run' σ).1 = .error f → P f

section FailsWithin

variable {P : Failure → Prop}

/-- Failing within `P` is being confined to `P` under no invariant on sessions, so each
combinator's lemma is the one of `Exchange.Confined`. -/
theorem Exchange.FailsWithin.confined {m : Exchange α} (within : Exchange.FailsWithin P m) :
    Exchange.Confined (fun _ => True) P m :=
  fun σ _ => ⟨trivial, within σ⟩

theorem Exchange.Confined.failsWithin {m : Exchange α}
    (confined : Exchange.Confined (fun _ => True) P m) : Exchange.FailsWithin P m :=
  fun σ => (confined σ trivial).2

theorem Exchange.FailsWithin.of_pure (a : α) : Exchange.FailsWithin P (pure a : Exchange α) :=
  (Exchange.Confined.of_pure a).failsWithin

theorem Exchange.FailsWithin.of_throw {f : Failure} (holds : P f) :
    Exchange.FailsWithin P (throw f : Exchange α) :=
  (Exchange.Confined.of_throw holds).failsWithin

theorem Exchange.FailsWithin.bind {m : Exchange α} {g : α → Exchange β}
    (first : Exchange.FailsWithin P m) (rest : ∀ a, Exchange.FailsWithin P (g a)) :
    Exchange.FailsWithin P (m >>= g) :=
  (first.confined.bind fun a => (rest a).confined).failsWithin

theorem Exchange.FailsWithin.map {m : Exchange α} (g : α → β) (first : Exchange.FailsWithin P m) :
    Exchange.FailsWithin P (g <$> m) :=
  (first.confined.map g).failsWithin

/-- A handler that rethrows only failures within `P` keeps a step's failures within `P`. -/
theorem Exchange.FailsWithin.tryCatch {m : Exchange α} {handler : Failure → Exchange α}
    (first : Exchange.FailsWithin P m) (handled : ∀ e, P e → Exchange.FailsWithin P (handler e)) :
    Exchange.FailsWithin P (tryCatch m handler) :=
  (first.confined.tryCatch fun e holds => (handled e holds).confined).failsWithin

theorem Exchange.FailsWithin.foldlM {step : β → α → Exchange β}
    (each : ∀ b a, Exchange.FailsWithin P (step b a)) (xs : List α) (init : β) :
    Exchange.FailsWithin P (xs.foldlM step init) :=
  (Exchange.Confined.foldlM (fun b a => (each b a).confined) xs init).failsWithin

/-- A failure outside `P` of a bound step is one of its first part, when what follows fails
only within `P`. -/
theorem Exchange.bind_error_iff {m : Exchange α} {g : α → Exchange β}
    (rest : ∀ a, Exchange.FailsWithin P (g a)) {σ : Session} {f : Failure} (outside : ¬ P f) :
    ((m >>= g).run' σ).1 = .error f ↔ (m.run' σ).1 = .error f := by
  rw [Exchange.run'_bind]
  rcases m.run' σ with ⟨_ | a, σ₁⟩
  · simp only [Except.error.injEq]
  · constructor
    · intro fails
      exact absurd (rest a σ₁ f fails) outside
    · intro fails
      cases fails

end FailsWithin

def Exchange.succeeds (m : Exchange α) (σ : Session) : Bool :=
  match (m.run' σ).1 with
  | .ok _ => true
  | .error _ => false

theorem Exchange.ok_of_succeeds {m : Exchange α} {σ : Session} (succeeded : m.succeeds σ = true) :
    ∃ a σ', m.run' σ = (.ok a, σ') := by
  unfold Exchange.succeeds at succeeded
  rcases ran : m.run' σ with ⟨_ | a, σ'⟩
  · rw [ran] at succeeded
    cases succeeded
  · exact ⟨a, σ', rfl⟩

/-- Whether a run succeeds with a value and a final session that pass a check; decided on a
concrete run, it names the run's outcome for the proofs that follow. -/
def Exchange.yields (m : Exchange α) (σ : Session) (p : α → Session → Bool) : Bool :=
  match m.run' σ with
  | (.ok a, σ') => p a σ'
  | (.error _, _) => false

theorem Exchange.exists_of_yields {m : Exchange α} {σ : Session} {p : α → Session → Bool}
    (yielded : m.yields σ p = true) : ∃ a σ', m.run' σ = (.ok a, σ') ∧ p a σ' = true := by
  unfold Exchange.yields at yielded
  rcases ran : m.run' σ with ⟨_ | a, σ'⟩
  · rw [ran] at yielded
    cases yielded
  · rw [ran] at yielded
    exact ⟨a, σ', rfl, yielded⟩

def Session.paused (σ : Session) (seconds : Float) : Session :=
  { σ with pauses := σ.pauses ++ [seconds] }

/-- A session after its transport served a request with `depth` calls in progress. -/
def Session.serve (σ : Session) (depth : Nat) (r : Request) : Session :=
  { σ with script := (σ.script.execute depth r).2 }

@[simp] theorem Exchange.run'_pause (seconds : Float) (σ : Session) :
    (pause seconds).run' σ = (.ok (), σ.paused seconds) := rfl

theorem Exchange.run'_send (depth : Nat) (r : Request) (σ : Session) :
    (send depth r).run' σ = ((σ.script.execute depth r).1, σ.serve depth r) := rfl

/-- The session after a bound step whose continuation never touches the session. -/
theorem Exchange.bind_session (m : Exchange α) (f : α → Exchange β) (σ : Session)
    (keeps : ∀ a σ₁, ((f a).run' σ₁).2 = σ₁) : ((m >>= f).run' σ).2 = (m.run' σ).2 := by
  rw [Exchange.run'_bind]
  rcases m.run' σ with ⟨_ | a, σ₁⟩
  · rfl
  · exact keeps a σ₁

/-- The session after a guarded step whose handler never touches the session. -/
theorem Exchange.tryCatch_session (m : Exchange α) (handler : Failure → Exchange α)
    (σ : Session) (keeps : ∀ e σ₁, ((handler e).run' σ₁).2 = σ₁) :
    ((tryCatch m handler).run' σ).2 = (m.run' σ).2 := by
  rw [Exchange.run'_tryCatch]
  rcases m.run' σ with ⟨_ | a, σ₁⟩
  · exact keeps _ σ₁
  · rfl

/-- A step that pauses nowhere: it leaves the pauses of every session as they were. -/
def Exchange.KeepsPauses (m : Exchange α) : Prop :=
  ∀ σ, (m.run' σ).2.pauses = σ.pauses

section KeepsPauses

/-- Keeping the pauses is being confined to sessions with the pauses one started from, whatever
they are, so each combinator's lemma is the one of `Exchange.Confined`. -/
theorem Exchange.KeepsPauses.confined {m : Exchange α} (keeps : Exchange.KeepsPauses m)
    (pauses : List Float) : Exchange.Confined (·.pauses = pauses) (fun _ => True) m :=
  fun σ same => ⟨(keeps σ).trans same, fun _ _ => trivial⟩

theorem Exchange.KeepsPauses.of_confined {m : Exchange α}
    (confined : ∀ pauses, Exchange.Confined (·.pauses = pauses) (fun _ => True) m) :
    Exchange.KeepsPauses m :=
  fun σ => (confined σ.pauses σ rfl).1

theorem Exchange.KeepsPauses.of_pure (a : α) : Exchange.KeepsPauses (pure a : Exchange α) :=
  .of_confined fun _ => .of_pure a

theorem Exchange.KeepsPauses.of_ofExcept (x : Except Failure α) :
    Exchange.KeepsPauses (Exchange.ofExcept x) :=
  .of_confined fun _ => .of_ofExcept fun _ _ => trivial

theorem Exchange.KeepsPauses.of_throw (f : Failure) :
    Exchange.KeepsPauses (throw f : Exchange α) :=
  .of_confined fun _ => .of_throw trivial

theorem Exchange.KeepsPauses.bind {m : Exchange α} {g : α → Exchange β}
    (first : Exchange.KeepsPauses m) (rest : ∀ a, Exchange.KeepsPauses (g a)) :
    Exchange.KeepsPauses (m >>= g) :=
  .of_confined fun pauses => (first.confined pauses).bind fun a => (rest a).confined pauses

theorem Exchange.KeepsPauses.map {m : Exchange α} (g : α → β) (first : Exchange.KeepsPauses m) :
    Exchange.KeepsPauses (g <$> m) :=
  .of_confined fun pauses => (first.confined pauses).map g

theorem Exchange.KeepsPauses.tryCatch {m : Exchange α} {handler : Failure → Exchange α}
    (first : Exchange.KeepsPauses m) (handled : ∀ e, Exchange.KeepsPauses (handler e)) :
    Exchange.KeepsPauses (tryCatch m handler) :=
  .of_confined fun pauses =>
    (first.confined pauses).tryCatch fun e _ => (handled e).confined pauses

end KeepsPauses

theorem Script.execute_received (s : Script) (depth : Nat) (r : Request) :
    (s.execute depth r).2.received = s.received ++ [r] := by
  unfold Script.execute
  dsimp only
  split
  · rfl
  · split <;> rfl

theorem Script.execute_routes (s : Script) (depth : Nat) (r : Request) :
    (s.execute depth r).2.routes = s.routes := by
  unfold Script.execute
  dsimp only
  split
  · rfl
  · split <;> rfl

@[simp] theorem Session.serve_received (σ : Session) (depth : Nat) (r : Request) :
    (σ.serve depth r).script.received = σ.script.received ++ [r] :=
  Script.execute_received σ.script depth r

@[simp] theorem Session.serve_pauses (σ : Session) (depth : Nat) (r : Request) :
    (σ.serve depth r).pauses = σ.pauses := rfl

@[simp] theorem Session.paused_received (σ : Session) (seconds : Float) :
    (σ.paused seconds).script.received = σ.script.received := rfl

@[simp] theorem Session.paused_pauses (σ : Session) (seconds : Float) :
    (σ.paused seconds).pauses = σ.pauses ++ [seconds] := rfl

/-- Fetching a text leaves the session as the transport left it: the request is sent once,
and neither the failure handler nor the status check touches the session. -/
theorem fetchText_session (depth : Nat) (r : Request) (σ : Session) :
    ((fetchText depth r).run' σ).2 = σ.serve (depth + 1) r := by
  unfold fetchText
  rw [Exchange.bind_session _ _ _ (fun response σ₁ => by split <;> simp),
    Exchange.tryCatch_session _ _ _ (fun f σ₁ => by split <;> rfl)]
  rfl

theorem fetchText_keepsPauses (depth : Nat) (r : Request) :
    Exchange.KeepsPauses (fetchText depth r) := by
  intro σ
  rw [fetchText_session]
  rfl

theorem fetchPage_session (st : Paging.Strategy) (depth : Nat) (r : Request) (σ : Session) :
    ((Paging.fetchPage st depth r).run' σ).2 = σ.serve (depth + 2) r := by
  unfold Paging.fetchPage
  rw [Exchange.bind_session _ _ _ (fun raw σ₁ => rfl), fetchText_session]

theorem fetchPage_served {st : Paging.Strategy} {depth : Nat} {r : Request} {σ σ₁ : Session}
    {x : Except Failure Paging.Page} (fetched : (Paging.fetchPage st depth r).run' σ = (x, σ₁)) :
    σ₁ = σ.serve (depth + 2) r := by
  have served := fetchPage_session st depth r σ
  rwa [fetched] at served

/-- A request that a route answers is answered by that route's answer, and the queue is left
alone. -/
theorem Script.execute_routed {s : Script} {depth : Nat} {r : Request} {route : Route}
    (routed : s.routes.find? (·.answers r) = some route) {status : Int} {bytes : List UInt8}
    (responds : (s.execute depth r).1 = .ok ⟨status, bytes⟩) :
    ∃ body, route.answer = .respond status body ∧ body.encode (depth + 1) = .ok bytes := by
  unfold Script.execute at responds
  simp only [routed] at responds
  cases answer : route.answer with
  | raise f => simp [answer] at responds
  | respond status' body =>
    rw [answer] at responds
    cases encoded : body.encode (depth + 1) with
    | error e => simp [encoded, Except.map] at responds
    | ok bytes' =>
      simp [encoded, Except.map] at responds
      obtain ⟨rfl, rfl⟩ := responds
      exact ⟨body, rfl, encoded⟩

/-- A request that no route answers takes the first queued answer, if there is one. -/
theorem Script.execute_queue_unrouted {s : Script} {depth : Nat} {r : Request}
    (unrouted : s.routes.find? (·.answers r) = none) :
    (s.execute depth r).2.queue = s.queue.tail := by
  unfold Script.execute
  simp only [unrouted]
  split <;> simp_all

theorem Script.execute_unanswered {s : Script} {depth : Nat} {r : Request}
    (unrouted : s.routes.find? (·.answers r) = none) (empty : s.queue = []) :
    ∃ e, (s.execute depth r).1 = .error e := by
  unfold Script.execute
  simp only [unrouted, empty]
  exact ⟨_, rfl⟩

/-- A text fetched successfully is the body of a 200 response the transport gave. -/
theorem fetchText_ok_inv {depth : Nat} {r : Request} {σ σ₁ : Session} {raw : String}
    (fetched : (fetchText depth r).run' σ = (.ok raw, σ₁)) :
    ∃ bytes, (σ.script.execute (depth + 1) r).1 = .ok ⟨200, bytes⟩ ∧
      raw = Text.textOfBytesLossy bytes := by
  unfold fetchText at fetched
  rw [Exchange.run'_bind, Exchange.run'_tryCatch, Exchange.run'_send] at fetched
  rcases sent : (σ.script.execute (depth + 1) r).1 with f | ⟨status, bytes⟩ <;> rw [sent] at fetched
  · -- the handler rethrows every failure, converted or not
    dsimp only at fetched
    split at fetched
    · rename_i handled
      split at handled <;> simp at handled
    · simp at fetched
  · dsimp only at fetched
    by_cases ok : status = 200
    · subst ok
      simp at fetched
      exact ⟨bytes, rfl, fetched.1.symm⟩
    · simp [ok] at fetched

/-- A page fetched successfully is read from the body of a 200 response the transport gave. -/
theorem fetchPage_ok_inv {st : Paging.Strategy} {depth : Nat} {r : Request} {σ σ₁ : Session}
    {page : Paging.Page} (fetched : (Paging.fetchPage st depth r).run' σ = (.ok page, σ₁)) :
    ∃ bytes, (σ.script.execute (depth + 2) r).1 = .ok ⟨200, bytes⟩ ∧
      st.parse (depth + 1) (Text.textOfBytesLossy bytes) = .ok page := by
  unfold Paging.fetchPage at fetched
  obtain ⟨raw, σ₂, text, parsed⟩ := Exchange.bind_ok_inv fetched
  obtain ⟨bytes, responds, rfl⟩ := fetchText_ok_inv text
  simp at parsed
  exact ⟨bytes, responds, parsed.1⟩

end Courier.Http
