import Courier.Check.Problem
import Courier.Text.Utf8

/-!
Failures of the library, by cause. Connector failures tell a data source that cannot be
reached from a query that cannot be run; a check of data that failed carries its problems, and
a failure caused by one carries them too. Messages are written where the failure arises.
-/

namespace Courier

/-- Network failures a transport reports. -/
inductive NetworkFault where
  | connection
  | timeout
  | invalidUrl
  | other
  deriving Repr, BEq

/-- The cause of a failure. -/
inductive Cause where
  | general
  | config
  | connection
  | query
  | malformedRequest
  | remoteService (status : Int)
  | malformedQuery
  | invalidData
  | badValue
  | badType
  | missingMember
  | missingKey
  | badIndex
  | runtime
  | unencodable
  | tooDeep
  | overflow
  | network (fault : NetworkFault)
  deriving Repr, BEq

/-- Whether a cause is one of the connector's own: configuration, connection, query and
remote service failures, and the general one. -/
def Cause.isConnectorFailure : Cause → Bool
  | .general | .config | .connection | .query | .malformedRequest | .remoteService _
  | .malformedQuery => true
  | _ => false

/-- A failure: its cause, its message, and the problems of a failed check behind it. -/
structure Failure where
  cause : Cause
  message : String
  problems : List Check.Problem
  deriving Repr

/-- How a failed check shows in messages; its problems travel beside the message. -/
def checkSummary : String := "<validation error>"

def typeSummary : String := "<TypeError>"

def memberSummary : String := "<AttributeError>"

def Failure.simple (cause : Cause) (message : String) : Failure :=
  ⟨cause, message, []⟩

def Failure.ofEncodeFault (f : Text.EncodeFault) : Failure :=
  Failure.simple .unencodable f.message

def utf8Bytes (s : String) : Except Failure (List UInt8) :=
  (Text.encodeUtf8 s).mapError Failure.ofEncodeFault

def Failure.ofProblems (problems : List Check.Problem) : Failure :=
  ⟨.invalidData, checkSummary, problems⟩

/-- A failure of another cause that wraps this one: the message gets a prefix, the problems
behind it stay. -/
def Failure.wrap (f : Failure) (cause : Cause) (prefixText : String) : Failure :=
  ⟨cause, prefixText ++ f.message, f.problems⟩

def Check.Checked.orFail {α : Type} : Check.Checked α → Except Failure α
  | .ok x => .ok x
  | .failed ps => .error (Failure.ofProblems ps)

end Courier
