import Courier.Yaml.Token
import Courier.Text.Table

/-!
The kind a plain scalar takes from its text, as YAML 1.1 resolves untagged scalars: null (`~`,
`null`, empty), a boolean (`yes`, `no`, `true`, `false`, `on`, `off`, each in three cases), a
double (with a point, `.inf` or `.nan`), an integer (decimal, `0b` binary, leading-zero octal,
`0x` hexadecimal, or base 60 with colons; underscores ignored), a timestamp, the merge key `<<`,
the value key `=`, and text otherwise. A double needs a point, so `1e3` is text. Each kind is
named by its tag in full; a node may also name a tag of its own.
-/

namespace Courier.Yaml

def tagPrefix : String := "tag:yaml.org,2002:"

def strTag : String := tagPrefix ++ "str"
def nullTag : String := tagPrefix ++ "null"
def boolTag : String := tagPrefix ++ "bool"
def intTag : String := tagPrefix ++ "int"
def floatTag : String := tagPrefix ++ "float"
def timestampTag : String := tagPrefix ++ "timestamp"
def mergeTag : String := tagPrefix ++ "merge"
def valueTag : String := tagPrefix ++ "value"
def seqTag : String := tagPrefix ++ "seq"
def mapTag : String := tagPrefix ++ "map"
def binaryTag : String := tagPrefix ++ "binary"
def setTag : String := tagPrefix ++ "set"
/-- The tag of ordered mappings, written as sequences of single-pair mappings. -/
def omapTag : String := tagPrefix ++ "omap"
def pairsTag : String := tagPrefix ++ "pairs"

def isDigitMark (c : Char) : Bool :=
  c.isDigit || c == '_'

def dropSign : List Char → List Char
  | '-' :: rest => rest
  | '+' :: rest => rest
  | cs => cs

def isExponentTail : List Char → Bool
  | [] => true
  | e :: s :: ds => (e == 'e' || e == 'E') && (s == '-' || s == '+') && !ds.isEmpty && ds.all Char.isDigit
  | _ => false

def isSixtyPart : List Char → Bool
  | [d] => d.isDigit
  | [a, d] => '0' ≤ a && a ≤ '5' && d.isDigit
  | _ => false

def isDigitRun : List Char → Bool
  | d :: rest => d.isDigit && rest.all isDigitMark
  | [] => false

def colonParts (cs : List Char) : List (List Char) :=
  Text.splitText (String.ofList cs) ":" |>.map String.toList

def spellsNull (text : String) : Bool :=
  ["", "~", "null", "Null", "NULL"].contains text

def spelledBool? (text : String) : Option Bool :=
  if ["yes", "Yes", "YES", "true", "True", "TRUE", "on", "On", "ON"].contains text then some true
  else if ["no", "No", "NO", "false", "False", "FALSE", "off", "Off", "OFF"].contains text then
    some false
  else none

def spellsInt (cs : List Char) : Bool :=
  match dropSign cs with
  | '0' :: 'b' :: r => !r.isEmpty && r.all (fun c => c == '0' || c == '1' || c == '_')
  | '0' :: 'x' :: r => !r.isEmpty && r.all (fun c => isHexChar c || c == '_')
  | ['0'] => true
  | '0' :: r => r.all (fun c => ('0' ≤ c && c ≤ '7') || c == '_')
  | d :: r =>
    '1' ≤ d && d ≤ '9' &&
      (r.all isDigitMark ||
        match colonParts (d :: r) with
        | first :: more@(_ :: _) => first.all isDigitMark && more.all isSixtyPart
        | _ => false)
  | [] => false

def spellsFloat (cs : List Char) : Bool :=
  let body := dropSign cs
  let positional :=
    isDigitRun (body.takeWhile (· != '.')) &&
      match body.dropWhile (· != '.') with
      | '.' :: t => isExponentTail (t.dropWhile isDigitMark)
      | _ => false
  let pointFirst := match cs with
    | '.' :: d :: r => d.isDigit && isExponentTail (r.dropWhile isDigitMark)
    | _ => false
  let sixty := match colonParts body with
    | first :: more@(_ :: _) =>
      let last := more.getLastD []
      let middle := more.dropLast
      isDigitRun first && middle.all isSixtyPart &&
        (match last.dropWhile (· != '.') with
         | '.' :: t => isSixtyPart (last.takeWhile (· != '.')) && t.all isDigitMark
         | _ => false)
    | _ => false
  let infinite := [".inf", ".Inf", ".INF"].contains (String.ofList body)
  let notANumber := [".nan", ".NaN", ".NAN"].contains (String.ofList cs)
  positional || pointFirst || sixty || infinite || notANumber

def digitRun (cs : List Char) : List Char × List Char :=
  (cs.takeWhile Char.isDigit, cs.dropWhile Char.isDigit)

def isSpaceOrTab (c : Char) : Bool :=
  c == ' ' || c == '\t'

/-- Whether a time zone part spells one: nothing, or blanks and then `Z`, or a sign, one or
two digits of hours and perhaps `:` and two digits of minutes. -/
def spellsZone (cs : List Char) : Bool :=
  cs.isEmpty ||
    match cs.dropWhile isSpaceOrTab with
    | ['Z'] => true
    | s :: rest =>
      (s == '-' || s == '+') &&
        let (hours, rest) := digitRun rest
        1 ≤ hours.length && hours.length ≤ 2 &&
          match rest with
          | [] => true
          | [':', a, b] => a.isDigit && b.isDigit
          | _ => false
    | [] => false

/-- Whether the text after a date spells a time of day: `T`, `t` or blanks, hours of one or
two digits, minutes and seconds of two, an optional fraction, and a time zone part. -/
def spellsTime (cs : List Char) : Bool :=
  let afterSeparator := match cs with
    | 'T' :: r => some r
    | 't' :: r => some r
    | c :: r => if isSpaceOrTab c then some (r.dropWhile isSpaceOrTab) else none
    | [] => none
  match afterSeparator with
  | none => false
  | some r =>
    let (hours, r) := digitRun r
    1 ≤ hours.length && hours.length ≤ 2 &&
      match r with
      | ':' :: m1 :: m2 :: ':' :: s1 :: s2 :: r =>
        [m1, m2, s1, s2].all Char.isDigit &&
          spellsZone (match r with
            | '.' :: f => f.dropWhile Char.isDigit
            | _ => r)
      | _ => false

/-- Whether a plain scalar spells a timestamp: a date `yyyy-mm-dd`, or a date with one- or
two-digit month and day followed by a time of day. -/
def spellsTimestamp (cs : List Char) : Bool :=
  let (year, rest) := digitRun cs
  year.length == 4 &&
    match rest with
    | '-' :: rest =>
      let (month, rest) := digitRun rest
      match rest with
      | '-' :: rest =>
        let (day, rest) := digitRun rest
        (month.length == 2 && day.length == 2 && rest.isEmpty) ||
          (1 ≤ month.length && month.length ≤ 2 && 1 ≤ day.length && day.length ≤ 2 &&
            spellsTime rest)
      | _ => false
    | _ => false

/-- The tag an untagged plain scalar takes from its text. A single line break at the end is
ignored, except in a text that is that line break alone, which is text. -/
def implicitTag (full : String) : String :=
  let text := if full.endsWith "\n" then String.ofList full.toList.dropLast else full
  let cs := text.toList
  if full == "\n" then strTag
  else if (spelledBool? text).isSome then boolTag
  else if spellsFloat cs then floatTag
  else if spellsInt cs then intTag
  else if text == "<<" then mergeTag
  else if spellsNull text then nullTag
  else if spellsTimestamp cs then timestampTag
  else if text == "=" then valueTag
  else strTag

end Courier.Yaml
