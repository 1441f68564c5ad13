import Courier.Check.Field
import Courier.Failure

namespace Courier

open Courier.Json Courier.Check

/-- What a batch does when one query cannot be read. -/
inductive BatchPolicy where
  | skipMalformed
  | abort
  deriving Repr, BEq

def BatchPolicy.byName : List (String × BatchPolicy) :=
  [("skip_malformed", .skipMalformed), ("abort", .abort)]

def BatchPolicy.name : BatchPolicy → String
  | .skipMalformed => "skip_malformed"
  | .abort => "abort"

/-- Settings shared by every connector: how many items a preview shows, the network timeouts,
the pause and page size for link-paginated catalogues, and what a batch does with a query it
cannot read. Every member has a usual value (`Settings.standard`). -/
structure Settings where
  previewRows : Int
  connectTimeout : Float
  readTimeout : Float
  pageDelay : Float
  pageLimit : Int
  batchPolicy : BatchPolicy

/-- The usual settings. -/
def Settings.standard : Settings := ⟨5, 20, 120, 15, 100, .skipMalformed⟩

/-- Reads settings from the members of a document; absent members take their usual values and
unknown members are ignored. -/
def Settings.check (fields : Fields) : Checked Settings :=
  let d := Settings.standard
  (fun previewRows connectTimeout readTimeout pageDelay pageLimit batchPolicy =>
      ({ previewRows, connectTimeout, readTimeout, pageDelay, pageLimit, batchPolicy } : Settings))
    <$> field fields "max_rows_for_preview" (aboveInt 0 integer) (some d.previewRows)
    <*> field fields "connect_timeout" (above 0 real) (some d.connectTimeout)
    <*> field fields "read_timeout" (above 0 real) (some d.readTimeout)
    <*> field fields "akeneo_page_delay" (atLeast 0 real) (some d.pageDelay)
    <*> field fields "akeneo_default_limit" (aboveInt 0 integer) (some d.pageLimit)
    <*> field fields "batch_error_policy" (member BatchPolicy.byName) (some d.batchPolicy)

end Courier
