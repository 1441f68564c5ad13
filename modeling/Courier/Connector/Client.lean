import Courier.Connector.Rest
import Courier.Connector.Akeneo
import Courier.Connector.Salsify
import Courier.Connector.AzureDevops

/-!
A connector at work: a data source kind with runtime settings. Every operation first connects:
the configuration must be of a scheme the connector accepts, and the data source must answer
its connectivity check, which may also give the configuration to go on with (one carrying a
fresh access token). Queries then run one at a time; a batch gathers the outputs by query name
and, unless told to stop, leaves out queries it cannot read.

Failures keep their kind where a host can act on them: a failed connectivity check is a
connection failure, and a failure of a running query that is none of the connector's own is
reported as a failure to send the request.
-/

namespace Courier.Connector

open Courier.Json Courier.Http

/-- A connector: the kind of data source, with the settings it runs with. -/
structure Client where
  vendor : Vendor
  settings : Settings

/-- The connectivity check of the connector's kind, with `depth` calls in progress. -/
def Client.probe (k : Client) (c : Config) (depth : Nat) : Exchange (Option Config) :=
  match k.vendor with
  | .rest => Rest.probe c depth
  | .akeneo => Akeneo.probe c depth
  | .salsify => Salsify.probe c depth
  | .azureDevops => AzureDevops.probe c depth

/-- Runs one query the way the connector's kind does, with `depth` calls in progress. -/
def Client.runQuery (k : Client) (c : Config) (depth : Nat) (q : QueryInfo) (limit : Option Int) :
    Exchange Outcome :=
  match k.vendor with
  | .rest => Rest.runQuery c depth q limit
  | .akeneo => Akeneo.runQuery k.settings c depth q limit
  | .salsify => Salsify.runQuery k.settings c depth q limit
  | .azureDevops => AzureDevops.runQuery c depth q limit

/-- What a batch keeps of an outcome: its data, or for work items the list under `data`. -/
def Client.batchEntry (k : Client) (o : Outcome) : Value :=
  match k.vendor with
  | .azureDevops => (o.data.get? "data").getD .null
  | _ => o.data

/-- The failure of a configuration whose scheme the connector does not accept. -/
def Client.refusal (k : Client) (s : Scheme) : Failure :=
  Failure.simple .config (k.vendor.title ++ " does not accept " ++ s.className ++
    "; expected one of: " ++ ", ".intercalate (k.vendor.schemes.map (·.className)))

/-- Connects: checks the configuration's scheme, then the data source. A connector failure of
the check other than a connection failure becomes one, naming the connector; the configuration
the check gives, if any, replaces the one given. Connecting starts with `depth` calls in
progress. -/
def Client.connect (k : Client) (c : Config) (depth : Nat) : Exchange Config := do
  if !k.vendor.schemes.contains c.scheme then throw (k.refusal c.scheme)
  let connected ← tryCatch (k.probe c (depth + 1)) fun f =>
    if f.cause != .connection && f.cause.isConnectorFailure then
      throw (f.wrap .connection ("[" ++ k.vendor.title ++ "] Error in connecting to client: "))
    else throw f
  return connected.getD c

/-- Whether the connector connects, asked with `depth` calls in progress; only the connector's
own failures mean it does not. -/
def Client.validateConnection (k : Client) (c : Config) (depth : Nat) : Exchange Bool :=
  tryCatch (do let _ ← k.connect c (depth + 1); return true) fun f =>
    if f.cause.isConnectorFailure then return false else throw f

/-- Runs one query on a connected configuration, with `depth` calls in progress; a failure that
is none of the connector's own becomes a general one naming the connector. -/
def Client.run (k : Client) (c : Config) (depth : Nat) (q : QueryInfo) (limit : Option Int) :
    Exchange Outcome :=
  tryCatch (k.runQuery c (depth + 1) q limit) fun f =>
    if f.cause.isConnectorFailure then throw f
    else throw (f.wrap .general ("[" ++ k.vendor.title ++ "] Error in sending request: "))

/-- Connects and runs one query, with `depth` calls in progress: the output text. -/
def Client.execute (k : Client) (c : Config) (depth : Nat) (q : QueryInfo) : Exchange String := do
  let c ← k.connect c (depth + 1)
  return (← k.run c (depth + 1) q none).text

/-- Connects and runs a preview of one query, with `depth` calls in progress: at most the
preview size of items, from the first page only. -/
def Client.preview (k : Client) (c : Config) (depth : Nat) (q : QueryInfo) : Exchange Preview := do
  let c ← k.connect c (depth + 1)
  let o ← k.run c (depth + 1) q (some k.settings.previewRows)
  return ⟨o.query, o.text⟩

/-- One query of a batch, run with `depth` calls in progress: what it gives is set under its
name in the results, and a query that cannot be read is left out unless the policy says to
stop. -/
def Client.batchStep (k : Client) (c : Config) (depth : Nat) (policy : BatchPolicy)
    (results : Fields) (q : QueryInfo) : Exchange Fields := do
  let outcome ← tryCatch (some <$> k.run c depth q none) fun f =>
    if f.cause == .malformedQuery && policy != .abort then pure none else throw f
  match outcome with
  | some o => pure (Keyed.set results q.queryName (k.batchEntry o))
  | none => pure results

/-- Connects and runs queries in order, gathering what each gives under its name (a later
query of the same name replaces the earlier one's entry). A query that cannot be read is left
out, unless the policy, or else the settings, says to stop. The batch runs with `depth` calls
in progress. -/
def Client.executeBatch (k : Client) (c : Config) (depth : Nat) (qs : List QueryInfo)
    (policy : Option BatchPolicy) : Exchange String := do
  let c ← k.connect c (depth + 1)
  let results ← qs.foldlM (k.batchStep c (depth + 1) (policy.getD k.settings.batchPolicy)) []
  return (Value.obj results).write

end Courier.Connector
