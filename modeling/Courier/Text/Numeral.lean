import Courier.Text.Digit
import Courier.Text.Blank
import Courier.Text.Quoted
import Courier.Decimal.Nearest

/-!
Numbers written as text, read the way the runtime's integer and float conversions read them.

Before reading, a decimal digit of any script stands for its ASCII digit and any blank beyond
ASCII for a space; a character beyond ASCII that is neither ends the text with one no number
has. Blanks around the numeral are skipped, and a sign may lead. An integer is digits of its
base, with single underscores between digits; in base 2, 8 or 16 a prefix `0b`, `0o` or `0x`
may come first, and one underscore after it. A decimal integer of more than 4300 digits is
refused for its length. A double is digits with an optional point and exponent (one digit at
least), or `inf`, `infinity` or `nan` in any case; underscores may stand between digits.

A numeral that cannot be read is reported with the quoted text, as the conversions report it.
-/

namespace Courier.Text

def integerDigitLimit : Nat := 4300

/-- The report of a decimal numeral with more digits than `integerDigitLimit`. -/
def digitLimitMessage (digits : Nat) : String :=
  "Exceeds the limit (" ++ toString integerDigitLimit ++
    " digits) for integer string conversion: value has " ++ toString digits ++
    " digits; use sys.set_int_max_str_digits() to increase the limit"

/-- The blanks of ASCII that numerals may have around them. -/
def isAsciiSpace (c : Char) : Bool :=
  c == ' ' || c == '\t' || c == '\n' || c == '\x0b' || c == '\x0c' || c == '\r'

/-- The characters of a numeral as they are read: text in ASCII as it is; otherwise digits of
any script as ASCII digits and blanks as spaces, and the first other character beyond ASCII as
a `?` that ends the text. -/
def numeralChars (s : String) : List Char :=
  if s.toList.all (·.toNat < 128) then s.toList else go s.toList
where
  go : List Char → List Char
    | [] => []
    | c :: rest =>
      if c.toNat < 127 then c :: go rest
      else if isBlank c then ' ' :: go rest
      else match digitValue? c with
        | some d => Char.ofNat (48 + d) :: go rest
        | none => ['?']

/-- The value of an ASCII digit or letter as a digit of a base up to 36; 36 for anything else. -/
def asciiDigitValue (c : Char) : Nat :=
  if c.isDigit then c.toNat - 48
  else if 'a' ≤ c && c ≤ 'z' then c.toNat - 87
  else if 'A' ≤ c && c ≤ 'Z' then c.toNat - 55
  else 36

/-- Whether a run of digits and underscores has its underscores between digits only. -/
def wellSeparated (run : List Char) : Bool :=
  run.head? != some '_' && run.getLast? != some '_' &&
    !(run.zip (run.drop 1)).any (fun (a, b) => a == '_' && b == '_')

def basePrefix? (base : Nat) : Option Char :=
  if base == 2 then some 'b' else if base == 8 then some 'o' else if base == 16 then some 'x'
  else none

/-- The integer a text spells in `base`, or the message that reports why it spells none. The
digit limit is applied once the run of digits and underscores is seen to be well formed,
before anything after it is looked at. -/
def intOfText (text : String) (base : Nat) : Except String Int := do
  let invalid := "invalid literal for int() with base " ++ toString base ++ ": " ++
    String.ofList ((quoted text).toList.take 200)
  let cs := (numeralChars text).dropWhile isAsciiSpace
  let (negative, cs) := match cs with
    | '+' :: r => (false, r)
    | '-' :: r => (true, r)
    | r => (false, r)
  let cs := match cs, basePrefix? base with
    | '0' :: p :: r, some letter =>
      if p.toLower == letter then
        match r with
        | '_' :: r' => r'
        | _ => r
      else cs
    | _, _ => cs
  if cs.head? == some '_' then throw invalid
  let run := cs.takeWhile fun c => c == '_' || asciiDigitValue c < base
  let digits := run.filter (· != '_')
  if !wellSeparated run then throw invalid
  let powerOfTwo := base == 2 || base == 4 || base == 8 || base == 16 || base == 32
  if !powerOfTwo && digits.length > integerDigitLimit then
    throw (digitLimitMessage digits.length)
  if digits.isEmpty || !(cs.drop run.length).all isAsciiSpace then throw invalid
  let n := digits.foldl (fun acc c => acc * base + asciiDigitValue c) 0
  return if negative then -(n : Int) else n

/-- The characters of a numeral with its underscores taken out, if each stands between two
digits. -/
def withoutUnderscores (cs : List Char) : Option (List Char) :=
  if !cs.contains '_' then some cs
  else if wellPlaced cs then some (cs.filter (· != '_')) else none
where
  wellPlaced (cs : List Char) : Bool :=
    (cs.zip (cs.drop 1)).all (fun (a, b) =>
      (a != '_' || b.isDigit) && (b != '_' || a.isDigit)) &&
      cs.head? != some '_' && cs.getLast? != some '_'

/-- The double a numeral without blanks or underscores spells: a sign, then a word for infinity
or not-a-number, or a decimal with at least one digit and an optional exponent. -/
def doubleOfChars (cs : List Char) : Option Float :=
  let (negative, body) := match cs with
    | '-' :: r => (true, r)
    | '+' :: r => (false, r)
    | _ => (false, cs)
  let word := String.ofList (body.map Char.toLower)
  if word == "inf" || word == "infinity" then
    some (if negative then -Decimal.infinity else Decimal.infinity)
  else if word == "nan" then some (if negative then -Decimal.notANumber else Decimal.notANumber)
  else
    let whole := body.takeWhile Char.isDigit
    let (fraction, rest) := match body.drop whole.length with
      | '.' :: r => (r.takeWhile Char.isDigit, r.dropWhile Char.isDigit)
      | r => ([], r)
    let exponent? : Option Int := match rest with
      | [] => some 0
      | e :: r =>
        if e == 'e' || e == 'E' then
          let (eneg, ds) := match r with
            | '-' :: d => (true, d)
            | '+' :: d => (false, d)
            | _ => (false, r)
          if !ds.isEmpty && ds.all Char.isDigit then
            let n : Int := ds.foldl (fun acc d => acc * 10 + (d.toNat - 48)) 0
            some (if eneg then -n else n)
          else none
        else none
    if whole.isEmpty && fraction.isEmpty then none
    else exponent?.map fun e =>
      Decimal.nearestDouble negative
        ((whole ++ fraction).foldl (fun acc d => acc * 10 + (d.toNat - 48)) 0)
        (e - fraction.length)

/-- The double a text spells, or the message that reports why it spells none. -/
def floatOfText (text : String) : Except String Float :=
  let invalid := "could not convert string to float: " ++ quoted text
  let cs := numeralChars text
  match withoutUnderscores cs with
  | none => .error invalid
  | some cs =>
    let trimmed := ((cs.dropWhile isAsciiSpace).reverse.dropWhile isAsciiSpace).reverse
    match doubleOfChars trimmed with
    | some x => .ok x
    | none => .error invalid

end Courier.Text
