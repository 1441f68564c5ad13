import Courier.Check.Problem
import Courier.Text.Blank
import Courier.Decimal.Nearest
import Courier.Text.Utf8

/-!
Checks of single values, with the usual lenient conversions: an integer may come as a
boolean, as a double without fraction inside the range of 64-bit integers, or as text of a whole
number of at most 4300 characters; a double as an integer within its range, a boolean or numeric
text (in numeric text, single underscores may stand between characters); a boolean as `0` or `1`
or one of the words `true`, `false`, `yes`, `no`, `on`, `off`, `t`, `f`, `y`, `n` in any case.
Numeric text is read with White_Space trimmed from its ends.

Binary data is read as the UTF-8 text it holds wherever text is read. Text stays text: no other
kind turns into it. Text holding a surrogate unit is accepted as text, but cannot be read as a
number, a boolean or a choice.
-/

namespace Courier.Check

open Courier.Json

def text : Value → Checked String
  | .str s => .ok s
  | .bytes b =>
    match Text.textOfBytes? b with
    | some s => .ok s
    | none => Checked.fail .stringUnicode
  | _ => Checked.fail .stringType

/-- The characters of text or binary data that a number, a boolean or a choice is read from;
`none` for another kind of value. Text holding a surrogate unit cannot be read, nor can binary
data that is no UTF-8 (a problem of kind `unreadable`). -/
def readable? (unreadable : Issue) : Value → Option (Checked String)
  | .str s => some (if Text.hasSurrogate s then Checked.fail .stringUnicode else .ok s)
  | .bytes b =>
    some (match Text.textOfBytes? b with
      | some s => .ok s
      | none => Checked.fail unreadable)
  | _ => none

def digitsValue (ds : List Char) : Nat :=
  ds.foldl (fun acc d => acc * 10 + (d.toNat - 48)) 0

/-- Text with its underscores taken out, unless one stands first or last or two stand together. -/
def withoutUnderscores? (s : String) : Option String :=
  if s.startsWith "_" || s.endsWith "_" || (Text.splitText s "__").length > 1 then none
  else some (Text.replaceText s "_" "")

/-- The integer of a plain integer numeral: an optional minus sign, then `0` or digits that do not
start with `0`. -/
def plainNumeral? (cs : List Char) : Option Int :=
  let (negative, body) := match cs with
    | '-' :: r => (true, r)
    | r => (false, r)
  match body with
  | ['0'] => some 0
  | d :: rest =>
    if d.isDigit && d != '0' && rest.all Char.isDigit then
      let n : Int := digitsValue body
      some (if negative then -n else n)
    else none
  | [] => none

/-- The text before the first point, when one or more zeros and nothing else follow it. -/
def withoutZeroFraction? (s : String) : Option String :=
  match Text.splitText s "." with
  | whole :: rest@(_ :: _) =>
    let fraction := ".".intercalate rest
    if !fraction.isEmpty && fraction.all (· == '0') then some whole else none
  | _ => none

/-- Numeral characters with their leading zeros passed over. Text that starts with a nonzero digit
or a minus sign stays as it is; after a leading `0`, zeros and underscores are passed over up to the
first nonzero digit or minus sign, which starts what is left, and text of zeros and underscores
alone becomes `0`. Any other character met first makes the text no numeral. -/
def withoutLeadingZeros? : List Char → Option (List Char)
  | [] => none
  | c :: rest =>
    if c == '0' then
      let rec afterZero : List Char → Option (List Char)
        | [] => some ['0']
        | d :: more =>
          if d == '0' || d == '_' then afterZero more
          else if ('1' ≤ d && d ≤ '9') || d == '-' then some (d :: more)
          else none
      afterZero rest
    else if ('1' ≤ c && c ≤ '9') || c == '-' then some (c :: rest)
    else none

def integerTextLimit : Nat := 4300

/-- Whether a whole double lies strictly between the bounds of 64-bit integers. -/
def insideWordRange (n : Int) : Bool :=
  -(Int.ofNat (Nat.pow 2 63)) < n && n < Int.ofNat (Nat.pow 2 63)

/-- The integer of numeric text: White_Space trimmed, at most `integerTextLimit` bytes. A leading
plus sign is dropped, then a point followed only by zeros with them, then the underscores if none
stands first or last and no two stand together, then the leading zeros; what is left must be a
plain integer numeral. -/
def integerOfText (s : String) : Checked Int :=
  let t := Text.trimWhiteSpace s
  if t.utf8ByteSize > integerTextLimit then Checked.fail .intParsingSize
  else
    let t := if t.startsWith "+" then String.ofList (t.toList.drop 1) else t
    let whole := (withoutZeroFraction? t).getD t
    let plain := (withoutUnderscores? whole).getD whole
    match (withoutLeadingZeros? plain.toList).bind plainNumeral? with
    | some n => .ok n
    | none => Checked.fail .intParsing

def integer : Value → Checked Int
  | .int n => .ok n
  | .bool b => .ok (if b then 1 else 0)
  | .float x =>
    if x.isNaN || x.isInf then Checked.fail .finiteNumber
    else match Decimal.wholeValue? x with
      | some n => if insideWordRange n then .ok n else Checked.fail .intParsingSize
      | none => Checked.fail .intFromFloat
  | v =>
    match readable? .intParsing v with
    | some (.ok s) => integerOfText s
    | some (.failed ps) => .failed ps
    | none => Checked.fail .intType

/-- A decimal numeral: optional sign, digits with an optional point (at least one digit in
all), an optional exponent; or the words for infinity and not-a-number in any case. -/
def decimalNumber? (s : String) : Option Float :=
  let cs := s.toList
  let (negative, body) := match cs with
    | '-' :: r => (true, r)
    | '+' :: r => (false, r)
    | _ => (false, cs)
  let word := String.ofList (body.map Char.toLower)
  if word == "inf" || word == "infinity" then
    some (if negative then -Decimal.infinity else Decimal.infinity)
  else if word == "nan" then some Decimal.notANumber
  else
    let whole := body.takeWhile Char.isDigit
    let rest := body.drop whole.length
    let (fraction, rest) := match rest with
      | '.' :: r => (r.takeWhile Char.isDigit, r.dropWhile Char.isDigit)
      | _ => ([], rest)
    let exponent? : Option Int := match rest with
      | [] => some 0
      | e :: r =>
        if e == 'e' || e == 'E' then
          let (eneg, ds) := match r with
            | '-' :: d => (true, d)
            | '+' :: d => (false, d)
            | _ => (false, r)
          if !ds.isEmpty && ds.all Char.isDigit then
            let n : Int := digitsValue ds
            some (if eneg then -n else n)
          else none
        else none
    if whole.isEmpty && fraction.isEmpty then none
    else match exponent? with
      | some e => some (Decimal.nearestDouble negative (digitsValue (whole ++ fraction))
          (e - fraction.length))
      | none => none

/-- The double of numeric text: White_Space trimmed, or else the text as it is without its
underscores. -/
def realOfText (s : String) : Checked Float :=
  match (decimalNumber? (Text.trimWhiteSpace s)).orElse fun _ =>
      (withoutUnderscores? s).bind decimalNumber? with
  | some x => .ok x
  | none => Checked.fail .floatParsing

/-- A double; an integer too large for a double is of the wrong kind. -/
def real : Value → Checked Float
  | .float x => .ok x
  | .int n =>
    let x := Decimal.nearestDouble (n < 0) n.natAbs 0
    if x.isInf then Checked.fail .floatType else .ok x
  | .bool b => .ok (if b then 1 else 0)
  | v =>
    match readable? .floatParsing v with
    | some (.ok s) => realOfText s
    | some (.failed ps) => .failed ps
    | none => Checked.fail .floatType

/-- Words read as false and as true, compared without regard to ASCII case. -/
def falseWords : List String := ["0", "off", "f", "false", "n", "no"]

def trueWords : List String := ["1", "on", "t", "true", "y", "yes"]

/-- The boolean of a 64-bit integer: `0` and `1` only. -/
def flagOfWord (n : Int) : Checked Bool :=
  if n == 0 then .ok false else if n == 1 then .ok true else Checked.fail .boolParsing

/-- A boolean. An integer or a whole double is read as `0` or `1` when it fits in 64 bits; one
that does not fit, or a double with a fraction or no finite value, is of the wrong kind. -/
def flag : Value → Checked Bool
  | .bool b => .ok b
  | .int n => if insideWordRange n || n == -(Int.ofNat (Nat.pow 2 63)) then flagOfWord n
    else Checked.fail .boolType
  | .float x =>
    if x.isNaN || x.isInf then Checked.fail .boolType
    else match Decimal.wholeValue? x with
      | some n => if insideWordRange n then flagOfWord n else Checked.fail .boolType
      | none => Checked.fail .boolType
  | v =>
    match readable? .boolParsing v with
    | some (.ok s) =>
      let w := String.ofList (s.toList.map Char.toLower)
      if falseWords.contains w then .ok false
      else if trueWords.contains w then .ok true
      else Checked.fail .boolParsing
    | some (.failed ps) => .failed ps
    | none => Checked.fail .boolType

/-- One of the named members of a choice, given by its exact name. -/
def member {α : Type} (members : List (String × α)) (v : Value) : Checked α :=
  match readable? .stringUnicode v with
  | some (.ok s) =>
    match members.find? (·.1 == s) with
    | some (_, m) => .ok m
    | none => Checked.fail .enumMember
  | some (.failed ps) => .failed ps
  | none => Checked.fail .enumMember

/-- An optional value: `null` is absent. -/
def optional {α : Type} (check : Value → Checked α) : Value → Checked (Option α)
  | .null => .ok none
  | v => some <$> check v

def listOf {α : Type} (check : Value → Checked α) : Value → Checked (List α)
  | .arr items => Checked.traverseIndexed check items
  | _ => Checked.fail .listType

/-- Named entries, each value checked under its name. In a mapping, a key that is not text is
read as text as a value is, a problem with it lying at the key's own step and `[key]`; the value
is checked all the same, under the key as it was. Two keys that read as one name make one entry,
at the place of the first, with the value of the last. -/
def mapOf {α : Type} (check : Value → Checked α) : Value → Checked (List (String × α))
  | .obj fields =>
    let rec go : List (String × Value) → Checked (List (String × α))
      | [] => .ok []
      | (k, v) :: rest =>
        Checked.apply ((fun x xs => (k, x) :: xs) <$> Checked.under (.key k) (check v)) (go rest)
    go fields
  | .mapping entries =>
    let rec walk : List (Value × Value) → Checked (List (String × α))
      | [] => .ok []
      | (.str k, v) :: rest =>
        Checked.apply ((fun x xs => (k, x) :: xs) <$> Checked.under (.key k) (check v))
          (walk rest)
      | (k, v) :: rest =>
        let name := Checked.under (.entry k) (Checked.under (.key "[key]") (text k))
        let item := (fun n x => (n, x)) <$> name <*> Checked.under (.entry k) (check v)
        Checked.apply ((fun x xs => x :: xs) <$> item) (walk rest)
    Keyed.ofPairs <$> walk entries
  | _ => Checked.fail .dictType

/-- The entries of a mapping whose keys are text, as members; the others cannot name one. -/
def textEntries : List (Value × Value) → Fields
  | [] => []
  | (.str k, v) :: rest => (k, v) :: textEntries rest
  | _ :: rest => textEntries rest

/-- A nested record read from an object's members, or from the entries of a mapping whose keys
are text. -/
def record {α : Type} (check : Fields → Checked α) : Value → Checked α
  | .obj fields => check fields
  | .mapping entries => check (textEntries entries)
  | _ => Checked.fail .modelType

/-- The member `name` of a record, checked under its name; an absent member takes the default,
or is a problem when there is none. -/
def field {α : Type} (fields : Fields) (name : String) (check : Value → Checked α)
    (default : Option α) : Checked α :=
  match Fields.get? fields name with
  | some v => Checked.under (.key name) (check v)
  | none =>
    match default with
    | some d => .ok d
    | none => .failed [⟨[.key name], .missing⟩]

def atLeast (bound : Float) (check : Value → Checked Float) (v : Value) : Checked Float :=
  (check v).andThen fun x => if x >= bound then .ok x else Checked.fail .greaterThanEqual

def above (bound : Float) (check : Value → Checked Float) (v : Value) : Checked Float :=
  (check v).andThen fun x => if x > bound then .ok x else Checked.fail .greaterThan

def aboveInt (bound : Int) (check : Value → Checked Int) (v : Value) : Checked Int :=
  (check v).andThen fun x => if x > bound then .ok x else Checked.fail .greaterThan

end Courier.Check
