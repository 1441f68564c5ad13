import Courier.Proofs.Reading

namespace Courier.Connector

open Courier.Http

section Batch

variable {k : Client} {c : Config} {depth : Nat} {q : QueryInfo}

end Batch

end Courier.Connector
