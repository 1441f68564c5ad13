import Courier.Json.Value
import Courier.Decimal.Nearest
import Courier.Text.CodePoint
import Courier.Text.Numeral
import Courier.CallDepth

/-!
Reading JSON text. Besides the standard grammar the reader takes the words `NaN`, `Infinity`
and `-Infinity`. Blanks are space, tab, line feed and carriage return. A name given twice in
an object keeps its first position and its last value. Reading is one call of the host, which
makes two more before it scans, and the scan is one more call with one more for every array or
object it opens; so the depth of the call that reads bounds how deep arrays and objects may
nest. A failure names its cause and the position where it was found, counted in
code points from zero; its message adds the line and column, counted from one.
-/

namespace Courier.Json

/-- Why a text is not a JSON document. -/
inductive ReadError where
  | expectingValue
  | extraData
  | expectingName
  | expectingColon
  | expectingComma
  | unterminatedString
  | invalidControl
  | invalidEscape
  | invalidUnicodeEscape
  | byteOrderMark
  | tooManyDigits (digits : Nat)
  | tooDeep (array : Bool)
  deriving Repr, BEq

/-- A failure and the position it refers to. -/
structure ReadFailure where
  error : ReadError
  pos : Nat
  deriving Repr, BEq

def maxIntegerDigits : Nat := Text.integerDigitLimit

def ReadError.text : ReadError → String
  | .expectingValue => "Expecting value"
  | .extraData => "Extra data"
  | .expectingName => "Expecting property name enclosed in double quotes"
  | .expectingColon => "Expecting ':' delimiter"
  | .expectingComma => "Expecting ',' delimiter"
  | .unterminatedString => "Unterminated string starting at"
  | .invalidControl => "Invalid control character at"
  | .invalidEscape => "Invalid \\escape"
  | .invalidUnicodeEscape => "Invalid \\uXXXX escape"
  | .byteOrderMark => "Unexpected UTF-8 BOM (decode using utf-8-sig)"
  | .tooManyDigits n => Text.digitLimitMessage n
  | .tooDeep array =>
    "maximum recursion depth exceeded while decoding a JSON " ++
      (if array then "array" else "object") ++ " from a unicode string"

/-- The message of a failure on `text`: the cause, then line, column and position. -/
def ReadFailure.message (f : ReadFailure) (text : String) : String :=
  match f.error with
  | .tooManyDigits _ | .tooDeep _ => f.error.text
  | _ =>
    let before := (Text.codePoints text.toList).take f.pos
    let line := before.count (.char '\n') + 1
    let column := (before.reverse.takeWhile (· != .char '\n')).length + 1
    f.error.text ++ ": line " ++ toString line ++ " column " ++ toString column ++
      " (char " ++ toString f.pos ++ ")"

/-- The result of reading a part: what was read, the rest of the text and its position. -/
abbrev Reading (α : Type) := Except ReadFailure (α × List Char × Nat)

def isSpace (c : Char) : Bool :=
  c == ' ' || c == '\t' || c == '\n' || c == '\r'

def skipSpace : List Char → Nat → List Char × Nat
  | c :: rest, pos => if isSpace c then skipSpace rest (pos + 1) else (c :: rest, pos)
  | [], pos => ([], pos)

def hexDigit? (c : Char) : Option Nat :=
  if c.isDigit then some (c.toNat - 48)
  else if 'a' ≤ c ∧ c ≤ 'f' then some (c.toNat - 87)
  else if 'A' ≤ c ∧ c ≤ 'F' then some (c.toNat - 55)
  else none

def hex4? (a b c d : Char) : Option Nat := do
  return (← hexDigit? a) * 4096 + (← hexDigit? b) * 256 + (← hexDigit? c) * 16 + (← hexDigit? d)

/-- The spelling of a four-digit escape; a lone surrogate is spelled as `Text.ofCodeUnit` says. -/
def charOfCode (n : Nat) : List Char :=
  Text.ofCodeUnit n

def simpleEscape? : Char → Option Char
  | '"' => some '"'
  | '\\' => some '\\'
  | '/' => some '/'
  | 'b' => some '\x08'
  | 'f' => some '\x0c'
  | 'n' => some '\n'
  | 'r' => some '\r'
  | 't' => some '\t'
  | _ => none

/-- Reads a `\u` escape whose `u` is at `pos` and whose digits begin `cs`. A high surrogate
followed by a second escape of a low surrogate makes one character; at least one character
must follow each group of four digits. -/
def readUnicodeEscape (cs : List Char) (pos : Nat) : Reading (List Char) :=
  match cs with
  | a :: b :: c :: d :: rest@(_ :: _) =>
    match hex4? a b c d with
    | none => .error ⟨.invalidUnicodeEscape, pos⟩
    | some high =>
      if 0xd800 ≤ high ∧ high < 0xdc00 ∧ rest.length > 6 then
        match rest with
        | '\\' :: 'u' :: e :: f :: g :: h :: more =>
          match hex4? e f g h with
          | none => .error ⟨.invalidUnicodeEscape, pos + 6⟩
          | some low =>
            if 0xdc00 ≤ low ∧ low < 0xe000 then
              .ok (charOfCode (0x10000 + (high - 0xd800) * 0x400 + (low - 0xdc00)), more, pos + 11)
            else .ok (charOfCode high, rest, pos + 5)
        | _ => .ok (charOfCode high, rest, pos + 5)
      else .ok (charOfCode high, rest, pos + 5)
  | _ => .error ⟨.invalidUnicodeEscape, pos⟩

/-- Reads the body of a string whose opening quote is at `start`; `acc` holds the characters
read so far, last first. Each step consumes a character, so the text's length bounds `fuel`.
A marked character is one code point: it is kept with its mark and counts once. -/
def readStringBody (start : Nat) (acc : List Char) : Nat → List Char → Nat → Reading String
  | 0, _, pos => .error ⟨.unterminatedString, pos⟩
  | _ + 1, [], _ => .error ⟨.unterminatedString, start⟩
  | _ + 1, '"' :: rest, pos => .ok (String.ofList acc.reverse, rest, pos + 1)
  | fuel + 1, '\\' :: rest, pos =>
    match rest with
    | [] => .error ⟨.unterminatedString, start⟩
    | 'u' :: digits =>
      match readUnicodeEscape digits (pos + 1) with
      | .ok (cs, rest', pos') => readStringBody start (cs.reverse ++ acc) fuel rest' pos'
      | .error e => .error e
    | e :: rest' =>
      match simpleEscape? e with
      | some c => readStringBody start (c :: acc) fuel rest' (pos + 2)
      | none => .error ⟨.invalidEscape, pos⟩
  | fuel + 1, c :: rest, pos =>
    if c.toNat < 0x20 then .error ⟨.invalidControl, pos⟩
    else if c == Text.holdMark then
      match rest with
      | d :: more => readStringBody start (d :: c :: acc) fuel more (pos + 1)
      | [] => readStringBody start (c :: acc) fuel rest (pos + 1)
    else readStringBody start (c :: acc) fuel rest (pos + 1)

/-- Reads a string whose opening quote is at `start` and whose body begins `cs`. -/
def readString (cs : List Char) (start : Nat) : Reading String :=
  readStringBody start [] (cs.length + 1) cs (start + 1)

def digitsValue (ds : List Char) : Nat :=
  ds.foldl (fun acc d => acc * 10 + (d.toNat - 48)) 0

/-- The optional exponent of a number: a letter `e` or `E` that is not the last character, an
optional sign that is not the last character, and at least one digit; otherwise nothing is
taken. Returns the exponent's value and what follows it. -/
def readExponent (cs : List Char) : Option (Int × Nat × List Char) :=
  match cs with
  | e :: r@(_ :: _) =>
    if e == 'e' || e == 'E' then
      let (negative, signWidth, body) := match r with
        | '-' :: r'@(_ :: _) => (true, 1, r')
        | '+' :: r'@(_ :: _) => (false, 1, r')
        | _ => (false, 0, r)
      let ds := body.takeWhile Char.isDigit
      if ds.isEmpty then none
      else
        let n : Int := digitsValue ds
        some (if negative then -n else n, 1 + signWidth + ds.length, body.dropWhile Char.isDigit)
    else none
  | _ => none

/-- Reads a number at `pos`: an optional minus, a whole part without leading zeros, an optional
fraction (a point followed by at least one digit) and an optional exponent. With a fraction or
an exponent it is a double, otherwise an integer of at most `maxIntegerDigits` digits. -/
def readNumber (cs : List Char) (pos : Nat) : Reading Value :=
  let (negative, afterSign) := match cs with
    | '-' :: r => (true, r)
    | _ => (false, cs)
  let whole? : Option (List Char × List Char) := match afterSign with
    | '0' :: r => some (['0'], r)
    | d :: r => if '1' ≤ d ∧ d ≤ '9' then some (d :: r.takeWhile Char.isDigit, r.dropWhile Char.isDigit)
      else none
    | [] => none
  match whole? with
  | none => .error ⟨.expectingValue, pos⟩
  | some (whole, afterWhole) =>
    let (fraction, afterFraction) := match afterWhole with
      | '.' :: d :: r => if d.isDigit then (d :: r.takeWhile Char.isDigit, r.dropWhile Char.isDigit)
        else ([], afterWhole)
      | _ => ([], afterWhole)
    let signWidth := if negative then 1 else 0
    let fractionWidth := if fraction.isEmpty then 0 else fraction.length + 1
    let width := signWidth + whole.length + fractionWidth
    match readExponent afterFraction with
    | some (exponent, exponentWidth, rest) =>
      let x := Decimal.nearestDouble negative (digitsValue (whole ++ fraction))
        (exponent - fraction.length)
      .ok (.float x, rest, pos + width + exponentWidth)
    | none =>
      if fraction.isEmpty then
        if whole.length > maxIntegerDigits then .error ⟨.tooManyDigits whole.length, pos⟩
        else
          let n : Int := digitsValue whole
          .ok (.int (if negative then -n else n), afterFraction, pos + width)
      else
        let x := Decimal.nearestDouble negative (digitsValue (whole ++ fraction))
          (-(fraction.length : Int))
        .ok (.float x, afterFraction, pos + width)

mutual
/-- Reads one value at `pos`, where `room` more arrays and objects may open. Each call consumes
fuel, and every second call a character. -/
def readValue : Nat → Nat → List Char → Nat → Reading Value
  | 0, _, _, pos => .error ⟨.expectingValue, pos⟩
  | fuel + 1, room, cs, pos =>
    match cs with
    | [] => .error ⟨.expectingValue, pos⟩
    | '"' :: rest =>
      match readString rest pos with
      | .ok (s, r, p) => .ok (.str s, r, p)
      | .error e => .error e
    | '\x7b' :: rest =>
      match room with
      | 0 => .error ⟨.tooDeep false, pos⟩
      | room + 1 =>
        let (r, p) := skipSpace rest (pos + 1)
        match r with
        | '\x7d' :: r' => .ok (.obj [], r', p + 1)
        | _ => readMembers fuel room [] r p
    | '[' :: rest =>
      match room with
      | 0 => .error ⟨.tooDeep true, pos⟩
      | room + 1 =>
        let (r, p) := skipSpace rest (pos + 1)
        match r with
        | ']' :: r' => .ok (.arr [], r', p + 1)
        | _ => readItems fuel room [] r p
    | 'n' :: 'u' :: 'l' :: 'l' :: rest => .ok (.null, rest, pos + 4)
    | 't' :: 'r' :: 'u' :: 'e' :: rest => .ok (.bool true, rest, pos + 4)
    | 'f' :: 'a' :: 'l' :: 's' :: 'e' :: rest => .ok (.bool false, rest, pos + 5)
    | 'N' :: 'a' :: 'N' :: rest => .ok (.float Decimal.notANumber, rest, pos + 3)
    | 'I' :: 'n' :: 'f' :: 'i' :: 'n' :: 'i' :: 't' :: 'y' :: rest =>
      .ok (.float Decimal.infinity, rest, pos + 8)
    | '-' :: 'I' :: 'n' :: 'f' :: 'i' :: 'n' :: 'i' :: 't' :: 'y' :: rest =>
      .ok (.float (-Decimal.infinity), rest, pos + 9)
    | _ => readNumber cs pos

/-- Reads array items after the opening bracket; `acc` holds the items read, last first. -/
def readItems : Nat → Nat → List Value → List Char → Nat → Reading Value
  | 0, _, _, _, pos => .error ⟨.expectingValue, pos⟩
  | fuel + 1, room, acc, cs, pos =>
    match readValue fuel room cs pos with
    | .error e => .error e
    | .ok (v, r, p) =>
      let (r, p) := skipSpace r p
      match r with
      | ']' :: r' => .ok (.arr (v :: acc).reverse, r', p + 1)
      | ',' :: r' =>
        let (r'', p'') := skipSpace r' (p + 1)
        readItems fuel room (v :: acc) r'' p''
      | _ => .error ⟨.expectingComma, p⟩

/-- Reads object members after the opening brace; `acc` holds the members read. -/
def readMembers : Nat → Nat → Fields → List Char → Nat → Reading Value
  | 0, _, _, _, pos => .error ⟨.expectingName, pos⟩
  | fuel + 1, room, acc, cs, pos =>
    match cs with
    | '"' :: rest =>
      match readString rest pos with
      | .error e => .error e
      | .ok (key, r, p) =>
        let (r, p) := skipSpace r p
        match r with
        | ':' :: r' =>
          let (r, p) := skipSpace r' (p + 1)
          match readValue fuel room r p with
          | .error e => .error e
          | .ok (v, r, p) =>
            let acc := Fields.set acc key v
            let (r, p) := skipSpace r p
            match r with
            | '\x7d' :: r' => .ok (.obj acc, r', p + 1)
            | ',' :: r' =>
              let (r, p) := skipSpace r' (p + 1)
              readMembers fuel room acc r p
            | _ => .error ⟨.expectingComma, p⟩
        | _ => .error ⟨.expectingColon, p⟩
    | _ => .error ⟨.expectingName, pos⟩
end

/-- Reads a whole document where at most `room` arrays and objects may nest: blanks may surround
the value, a byte-order mark may not start it. -/
def Value.readNested (room : Nat) (text : String) : Except ReadFailure Value :=
  let cs := text.toList
  match cs with
  | '\ufeff' :: _ => .error ⟨.byteOrderMark, 0⟩
  | _ =>
    let (r, p) := skipSpace cs 0
    match readValue (2 * cs.length + 2) room r p with
    | .error e => .error e
    | .ok (v, r, p) =>
      let (r, p) := skipSpace r p
      if r.isEmpty then .ok v else .error ⟨.extraData, p⟩

/-- How deep arrays and objects may nest in a document read with `depth` calls in progress: the
calls left after the reading call, the two it makes and the scan. -/
def nestingRoom (depth : Nat) : Nat :=
  callLimit - depth - 4

def Value.read (depth : Nat) (text : String) : Except ReadFailure Value :=
  Value.readNested (nestingRoom depth) text

end Courier.Json
