import Courier.Http.Transport

namespace Courier.Http

/-- A session with a data source: the transport's state and the pauses asked for between
fetches. A failed step keeps everything the session did before it. -/
structure Session where
  script : Script
  pauses : List Float

/-- A step of a session. -/
abbrev Exchange := ExceptT Failure (StateM Session)

def Session.start (script : Script) : Session :=
  ⟨script, []⟩

def Exchange.fail {α : Type} (f : Failure) : Exchange α :=
  throw f

def Exchange.ofExcept {α : Type} (e : Except Failure α) : Exchange α :=
  ExceptT.mk (pure e)

/-- Sends a request over the session's transport, with `depth` calls in progress. -/
def send (depth : Nat) (r : Request) : Exchange Response := do
  let s ← get
  let (outcome, script) := s.script.execute depth r
  set { s with script }
  Exchange.ofExcept outcome

/-- Asks for a pause of some seconds before the next fetch; the session records it. -/
def pause (seconds : Float) : Exchange Unit :=
  modify fun s => { s with pauses := s.pauses ++ [seconds] }

def Exchange.run' {α : Type} (step : Exchange α) (s : Session) : Except Failure α × Session :=
  (ExceptT.run step).run s

end Courier.Http
