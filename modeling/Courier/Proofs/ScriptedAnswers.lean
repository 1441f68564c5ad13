import Courier.Proofs.Exchange

namespace Courier.Http

/-- How a scripted answer is served with `depth` calls in progress: a response carrying its
body's bytes, or the failure it raises instead of one. -/
def Answer.serve (depth : Nat) : Answer → Except Failure Response
  | .respond status body => (body.encode (depth + 1)).map (⟨status, ·⟩)
  | .raise failure => .error failure

def Script.unanswered (r : Request) : Failure :=
  Failure.simple (.network .connection)
    ("No mock response for " ++ r.method.name ++ " " ++ r.fullUrl)

def Script.unrouted (s : Script) (r : Request) : Bool :=
  (s.routes.find? (·.answers r)).isNone

/-- Serves calls one after another, each a request with its own number of calls in progress:
the outcomes in order, and the transport afterwards. -/
def Script.executeAll (s : Script) : List (Nat × Request) → List (Except Failure Response) × Script
  | [] => ([], s)
  | (depth, r) :: rest =>
    let step := s.execute depth r
    let run := step.2.executeAll rest
    (step.1 :: run.1, run.2)

/-- The outcome of a request when `used` queued answers were taken before it: the answer of the
first route that answers it; else the queue's entry at position `used`; else the failure of an
unanswered request. -/
def Script.replyAt (s : Script) (depth : Nat) (r : Request) (used : Nat) :
    Except Failure Response :=
  match s.routes.find? (·.answers r) with
  | some route => route.answer.serve depth
  | none => (s.queue[used]?.map (·.serve depth)).getD (.error (Script.unanswered r))

theorem Method.beq_iff (m m' : Method) : (m == m') = true ↔ m = m' := by
  cases m <;> cases m' <;> simp <;> rfl

/-- A route answers a request exactly when it is for the request's URL without its query and
names no method or the request's method. -/
theorem Route.answers_iff (route : Route) (r : Request) :
    route.answers r = true ↔
      route.url = r.url ∧ (route.method = none ∨ route.method = some r.method) := by
  cases method : route.method with
  | none => simp [Route.answers, method]
  | some m => simp [Route.answers, method, Method.beq_iff]

@[simp] theorem Answer.serve_raise (depth : Nat) (failure : Failure) :
    (Answer.raise failure).serve depth = .error failure := rfl

@[simp] theorem Script.executeAll_nil (s : Script) : s.executeAll [] = ([], s) := rfl

@[simp] theorem Script.executeAll_cons (s : Script) (depth : Nat) (r : Request)
    (rest : List (Nat × Request)) :
    s.executeAll ((depth, r) :: rest) =
      ((s.execute depth r).1 :: ((s.execute depth r).2.executeAll rest).1,
        ((s.execute depth r).2.executeAll rest).2) := rfl

section Step

variable {s : Script} {depth : Nat} {r : Request}

theorem Script.execute_of_routed {route : Route}
    (routed : s.routes.find? (·.answers r) = some route) :
    s.execute depth r = (route.answer.serve depth, { s with received := s.received ++ [r] }) := by
  unfold Script.execute
  simp only [routed]
  cases route.answer <;> rfl

theorem Script.execute_of_queued {a : Answer} {rest : List Answer}
    (unrouted : s.routes.find? (·.answers r) = none) (queued : s.queue = a :: rest) :
    s.execute depth r =
      (a.serve depth, { s with received := s.received ++ [r], queue := rest }) := by
  unfold Script.execute
  simp only [unrouted, queued]
  cases a <;> rfl

theorem Script.execute_of_unanswered (unrouted : s.routes.find? (·.answers r) = none)
    (empty : s.queue = []) :
    s.execute depth r =
      (.error (Script.unanswered r), { s with received := s.received ++ [r] }) := by
  unfold Script.execute
  simp only [unrouted, empty]
  rfl

/-- One step in closed form: the outcome is the reply with no queued answer taken yet, and the
queue loses its head exactly when no route answers the request. -/
theorem Script.execute_eq_replyAt :
    s.execute depth r = (s.replyAt depth r 0,
      { s with received := s.received ++ [r],
               queue := s.queue.drop (if s.unrouted r then 1 else 0) }) := by
  cases routed : s.routes.find? (·.answers r) with
  | some route =>
    rw [Script.execute_of_routed routed]
    simp [Script.replyAt, Script.unrouted, routed]
  | none =>
    cases queued : s.queue with
    | nil =>
      rw [Script.execute_of_unanswered routed queued]
      simp [Script.replyAt, Script.unrouted, routed, queued]
    | cons a rest =>
      rw [Script.execute_of_queued routed queued]
      simp [Script.replyAt, Script.unrouted, routed, queued]

end Step

/-- A reply depends on the routes and on the queue from the `used`-th entry on. -/
theorem Script.replyAt_dropped (s : Script) (n : Nat) (received : List Request) (depth : Nat)
    (r : Request) (used : Nat) :
    ({ s with queue := s.queue.drop n, received } : Script).replyAt depth r used =
      s.replyAt depth r (n + used) := by
  simp [Script.replyAt, List.getElem?_drop]

@[simp] theorem Script.unrouted_with (s : Script) (queue : List Answer) (received : List Request)
    (r : Request) : ({ s with queue, received } : Script).unrouted r = s.unrouted r := rfl

/-- The transport after a run: it has received every request, in order, and its queue has lost
one entry for each request that no route answered; its routes are untouched. -/
theorem Script.executeAll_script (s : Script) (calls : List (Nat × Request)) :
    (s.executeAll calls).2 =
      { s with received := s.received ++ calls.map (·.2),
               queue := s.queue.drop (calls.countP (s.unrouted ·.2)) } := by
  induction calls generalizing s with
  | nil => simp
  | cons call rest ih =>
    obtain ⟨depth, r⟩ := call
    rw [Script.executeAll_cons, Script.execute_eq_replyAt, ih]
    simp [List.drop_drop, List.countP_cons, Nat.add_comm]

/-- Request number `i` of a run is answered as `replyAt` says, with the queued answers taken by
the earlier requests that no route answered; past the last request there is no outcome. -/
theorem Script.executeAll_getElem? (s : Script) (calls : List (Nat × Request)) (i : Nat) :
    (s.executeAll calls).1[i]? =
      calls[i]?.map fun c => s.replyAt c.1 c.2 ((calls.take i).countP (s.unrouted ·.2)) := by
  induction calls generalizing s i with
  | nil => simp
  | cons call rest ih =>
    obtain ⟨depth, r⟩ := call
    rw [Script.executeAll_cons, Script.execute_eq_replyAt]
    cases i with
    | zero => simp
    | succ i =>
      simp only [List.getElem?_cons_succ, ih, Script.replyAt_dropped, Script.unrouted_with,
        List.take_succ_cons, List.countP_cons, Nat.add_comm]

/-- A scripted transport over any sequence of requests: afterwards it has received every
request in order, whatever its answer, its routes are those it started with, and its queue has
lost its first `u` entries, `u` being the number of requests that no route answers; and request
number `i` is answered by the first route that answers it, else by queue entry number `k`, `k`
being the number of earlier requests that no route answers, else by the connection failure. -/
theorem Script.executeAll_serves_routes_then_queue (s : Script) (calls : List (Nat × Request)) :
    (s.executeAll calls).2 =
        { s with received := s.received ++ calls.map (·.2),
                 queue := s.queue.drop (calls.countP (s.unrouted ·.2)) } ∧
      ∀ i, (s.executeAll calls).1[i]? =
        calls[i]?.map fun c => s.replyAt c.1 c.2 ((calls.take i).countP (s.unrouted ·.2)) :=
  ⟨Script.executeAll_script s calls, Script.executeAll_getElem? s calls⟩

end Courier.Http
