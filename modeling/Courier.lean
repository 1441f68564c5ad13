import Courier.CallDepth
import Courier.Keyed
import Courier.Moment
import Courier.Text.Table
import Courier.Text.CodePoint
import Courier.Text.Numeral
import Courier.Text.Case
import Courier.Text.Blank
import Courier.Text.Word
import Courier.Text.Digit
import Courier.Text.Printable
import Courier.Text.Compatibility
import Courier.Text.Quoted
import Courier.Decimal.Shortest
import Courier.Decimal.Nearest
import Courier.Json.Value
import Courier.Json.Writer
import Courier.Json.Echo
import Courier.Json.Reader
import Courier.Json.Document
import Courier.Url.Address
import Courier.Url.Parts
import Courier.Url.Join
import Courier.Url.Query
import Courier.Text.Utf8
import Courier.Url.Encode
import Courier.Check.Problem
import Courier.Check.Field
import Courier.Failure
import Courier.Http.Request
import Courier.Http.Transport
import Courier.Http.Session
import Courier.Http.Invoke
import Courier.Paging.Strategy
import Courier.Paging.Settings
import Courier.Paging.Aggregate
import Courier.Connector.Query
import Courier.Resource
import Courier.Json.Key
import Courier.Text.Base64
import Courier.Settings
import Courier.Config.Basic
import Courier.Config.Check
import Courier.Config.Form
import Courier.Yaml.Token
import Courier.Yaml.Node
import Courier.Yaml.Resolve
import Courier.Yaml.Construct
import Courier.Connector.Catalog
import Courier.Setup
import Courier.Connector.Outcome
import Courier.Connector.Rest
import Courier.Connector.Akeneo
import Courier.Connector.Salsify
import Courier.Connector.AzureDevops
import Courier.Connector.Client
import Courier.Proofs.Exchange
import Courier.Proofs.Pagination
import Courier.Proofs.Connectivity
import Courier.Proofs.Preview
import Courier.Proofs.Reading
import Courier.Proofs.Batch
import Courier.Proofs.Termination
import Courier.Proofs.WorkItems
import Courier.Proofs.NextLink
import Courier.Proofs.Utf8RoundTrip
import Courier.Proofs.FormQuery
import Courier.Proofs.CursorQuery
import Courier.Proofs.QuerySegments
import Courier.Proofs.JoinPath
import Courier.Proofs.EntityCode
import Courier.Proofs.WorkItemChunks
import Courier.Proofs.HeaderMerge
import Courier.Proofs.PreparedRequest
import Courier.Proofs.ResourceList
import Courier.Proofs.ScriptedAnswers
import Courier.Proofs.JsonScalars
import Courier.Proofs.JsonRoundTrip
