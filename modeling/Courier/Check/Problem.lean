import Courier.Json.Echo

namespace Courier.Check

/-- One step of a path into data: a member name, an item index, or the key of a mapping entry
whose key is not text. -/
inductive Step where
  | key (name : String)
  | index (i : Nat)
  | entry (key : Json.Value)
  deriving Repr, BEq

/-- How a step of a path is shown: as text or as a number. -/
inductive Label where
  | text (s : String)
  | number (n : Int)
  deriving Repr, BEq

/-- The label of a step: a member name is its text and an index its number. A mapping key that
is an integer within 64 bits is its number, a boolean is `1` or `0`, and any other key is shown
as it is quoted. -/
def Step.label : Step → Label
  | .key name => .text name
  | .index i => .number i
  | .entry (.int n) =>
    if -(Int.ofNat (Nat.pow 2 63)) ≤ n && n < Int.ofNat (Nat.pow 2 63) then .number n
    else .text (toString n)
  | .entry (.bool b) => .number (if b then 1 else 0)
  | .entry k => .text k.echo

/-- The kind of a problem. -/
inductive Issue where
  | missing
  | stringType
  | stringUnicode
  | intType
  | intParsing
  | intParsingSize
  | intFromFloat
  | finiteNumber
  | floatType
  | floatParsing
  | boolType
  | boolParsing
  | enumMember
  | listType
  | dictType
  | modelType
  | greaterThan
  | greaterThanEqual
  | valueError (message : String)
  deriving Repr, BEq

def Issue.code : Issue → String
  | .missing => "missing"
  | .stringType => "string_type"
  | .stringUnicode => "string_unicode"
  | .intType => "int_type"
  | .intParsing => "int_parsing"
  | .intParsingSize => "int_parsing_size"
  | .intFromFloat => "int_from_float"
  | .finiteNumber => "finite_number"
  | .floatType => "float_type"
  | .floatParsing => "float_parsing"
  | .boolType => "bool_type"
  | .boolParsing => "bool_parsing"
  | .enumMember => "enum"
  | .listType => "list_type"
  | .dictType => "dict_type"
  | .modelType => "model_type"
  | .greaterThan => "greater_than"
  | .greaterThanEqual => "greater_than_equal"
  | .valueError _ => "value_error"

/-- A problem at a path. -/
structure Problem where
  loc : List Step
  issue : Issue
  deriving Repr, BEq

/-- The outcome of a check: a value, or every problem found, each at the path where it lies.
Checks of independent fields run side by side and their problems add up in field order; a check
that needs another's value runs after it, and only if it succeeded. -/
inductive Checked (α : Type) where
  | ok (value : α)
  | failed (problems : List Problem)

namespace Checked

/-- Applies a checked function to a checked argument, gathering the problems of both. -/
def apply {α β : Type} (f : Checked (α → β)) (a : Checked α) : Checked β :=
  match f, a with
  | .ok g, .ok x => .ok (g x)
  | .ok _, .failed p => .failed p
  | .failed p, .ok _ => .failed p
  | .failed p, .failed q => .failed (p ++ q)

instance : Functor Checked where
  map f
    | .ok x => .ok (f x)
    | .failed p => .failed p

instance : Applicative Checked where
  pure := .ok
  seq f a := apply f (a ())

def andThen {α β : Type} (a : Checked α) (f : α → Checked β) : Checked β :=
  match a with
  | .ok x => f x
  | .failed p => .failed p

def under {α : Type} (step : Step) : Checked α → Checked α
  | .ok x => .ok x
  | .failed p => .failed (p.map fun pr => { pr with loc := step :: pr.loc })

def fail {α : Type} (issue : Issue) : Checked α :=
  .failed [⟨[], issue⟩]

def toExcept {α : Type} : Checked α → Except (List Problem) α
  | .ok x => .ok x
  | .failed p => .error p

/-- Checks every item of a list, gathering the problems under each item's index. -/
def traverseIndexed {α β : Type} (check : α → Checked β) (items : List α) : Checked (List β) :=
  let rec go : Nat → List α → Checked (List β)
    | _, [] => .ok []
    | i, x :: rest => apply ((fun y ys => y :: ys) <$> under (.index i) (check x)) (go (i + 1) rest)
  go 0 items

end Checked

end Courier.Check
