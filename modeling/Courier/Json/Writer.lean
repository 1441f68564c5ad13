import Courier.Json.Value
import Courier.Decimal.Shortest
import Courier.Text.CodePoint
import Courier.Text.Utf8

/-!
Compact JSON text: no blanks between tokens, members in their order, characters outside ASCII
written as they are (or, in the ASCII form, as `\u` escapes), integers exact, and doubles in
their shortest form that reads back.
-/

namespace Courier.Json

open Courier.Decimal

/-- How a double is written: positional for point positions in a window, otherwise with a
signed exponent of at least some digits; and the words for the special values. -/
structure FloatFormat where
  positionalFrom : Int
  positionalTo : Int
  exponentDigits : Nat
  notANumber : String
  infinity : String

/-- Doubles in documents: positional from `0.0001` up to below `1e16` (which is `1e+16`),
`1e-05` below that, and the words `NaN` and `Infinity`. -/
def FloatFormat.document : FloatFormat := ⟨-3, 16, 2, "NaN", "Infinity"⟩

def zeros (n : Nat) : String :=
  String.ofList (List.replicate n '0')

def padDigits (width : Nat) (n : Nat) : String :=
  let s := toString n
  zeros (width - s.length) ++ s

/-- Doubles quoted in messages and used as text keys: as in documents, with the words `nan` and
`inf`. -/
def FloatFormat.echo : FloatFormat := ⟨-3, 16, 2, "nan", "inf"⟩

def FloatFormat.body (f : FloatFormat) (d : Scientific) : String :=
  let n := d.digits.length
  let p := d.point
  if f.positionalFrom ≤ p ∧ p ≤ f.positionalTo then
    if p ≤ 0 then "0." ++ zeros (-p).toNat ++ String.ofList d.digits
    else if n ≤ p.toNat then String.ofList d.digits ++ zeros (p.toNat - n) ++ ".0"
    else String.ofList (d.digits.take p.toNat) ++ "." ++ String.ofList (d.digits.drop p.toNat)
  else
    let e := p - 1
    let lead := String.ofList (d.digits.take 1)
    let rest := if n > 1 then "." ++ String.ofList (d.digits.drop 1) else ""
    lead ++ rest ++ "e" ++ (if e < 0 then "-" else "+") ++ padDigits f.exponentDigits e.natAbs

/-- The text of a double: the shortest decimal that reads back as it, zero as `0.0`. -/
def FloatFormat.write (f : FloatFormat) (x : Float) : String :=
  match Binary.ofFloat x with
  | .notANumber => f.notANumber
  | .infinite negative => (if negative then "-" else "") ++ f.infinity
  | .finite negative mantissa exponent narrowBelow =>
    let sign := if negative then "-" else ""
    if mantissa = 0 then sign ++ "0.0"
    else sign ++ f.body (shortest mantissa exponent narrowBelow)

def hex4 (n : Nat) : String :=
  let ds := Nat.toDigits 16 n
  String.ofList (List.replicate (4 - ds.length) '0' ++ ds)

/-- The escape of one character inside a JSON string; with `ascii`, everything outside
printable ASCII is escaped, characters beyond the first plane as a surrogate pair. -/
def escapeChar (ascii : Bool) (c : Char) : String :=
  match c with
  | '"' => "\\\""
  | '\\' => "\\\\"
  | '\n' => "\\n"
  | '\r' => "\\r"
  | '\t' => "\\t"
  | '\x08' => "\\b"
  | '\x0c' => "\\f"
  | _ =>
    if c.toNat < 0x20 then "\\u" ++ hex4 c.toNat
    else if ascii && c.toNat > 0x7e then
      if c.toNat < 0x10000 then "\\u" ++ hex4 c.toNat
      else
        let v := c.toNat - 0x10000
        "\\u" ++ hex4 (0xd800 + v / 0x400) ++ "\\u" ++ hex4 (0xdc00 + v % 0x400)
    else String.ofList (Text.spellChar c)

/-- The escape of one code point inside a JSON string: a surrogate unit is escaped as itself
with `ascii`, and kept otherwise. -/
def escapePoint (ascii : Bool) : Text.CodePoint → String
  | .char c => escapeChar ascii c
  | .surrogate n =>
    if ascii then "\\u" ++ hex4 n else String.ofList (Text.CodePoint.surrogate n).spell

def quote (ascii : Bool) (s : String) : String :=
  "\"" ++ String.join ((Text.codePoints s.toList).map (escapePoint ascii)) ++ "\""

/-- The member name a mapping key is written under: text as it is, and numbers, booleans and
`null` as their JSON text. -/
def keyName : Value → String
  | .str s => s
  | .null => "null"
  | .bool b => if b then "true" else "false"
  | .int n => toString n
  | .float x => FloatFormat.document.write x
  | .moment m => m.text
  | _ => ""

mutual
/-- The compact text of a value. A date is written as its text, a mapping as an object whose
member names are its keys written as `keyName` says, and binary data as the text it decodes to,
ill-formed parts replaced. -/
def Value.writeWith (ascii : Bool) : Value → String
  | .null => "null"
  | .bool b => if b then "true" else "false"
  | .int n => toString n
  | .float x => FloatFormat.document.write x
  | .str s => quote ascii s
  | .arr items => "[" ++ writeItems ascii items ++ "]"
  | .obj fields => "\x7b" ++ writeFields ascii fields ++ "\x7d"
  | .moment m => quote ascii m.text
  | .mapping entries => "\x7b" ++ writeEntries ascii entries ++ "\x7d"
  | .bytes b => quote ascii (Text.textOfBytesLossy b)

def writeItems (ascii : Bool) : List Value → String
  | [] => ""
  | [v] => v.writeWith ascii
  | v :: rest => v.writeWith ascii ++ "," ++ writeItems ascii rest

def writeFields (ascii : Bool) : List (String × Value) → String
  | [] => ""
  | [(k, v)] => quote ascii k ++ ":" ++ v.writeWith ascii
  | (k, v) :: rest => quote ascii k ++ ":" ++ v.writeWith ascii ++ "," ++ writeFields ascii rest

def writeEntries (ascii : Bool) : List (Value × Value) → String
  | [] => ""
  | [(k, v)] => quote ascii (keyName k) ++ ":" ++ v.writeWith ascii
  | (k, v) :: rest =>
    quote ascii (keyName k) ++ ":" ++ v.writeWith ascii ++ "," ++ writeEntries ascii rest
end

def Value.write (v : Value) : String :=
  v.writeWith false

def Value.writeAscii (v : Value) : String :=
  v.writeWith true

mutual
/-- How many arrays and objects the writer enters on the deepest path through a value, the
value itself included; a mapping's keys are written as names and add nothing. -/
def Value.nesting : Value → Nat
  | .arr items => nestingOfItems items + 1
  | .obj fields => nestingOfFields fields + 1
  | .mapping entries => nestingOfEntries entries + 1
  | _ => 0

def nestingOfItems : List Value → Nat
  | [] => 0
  | v :: rest => max v.nesting (nestingOfItems rest)

def nestingOfFields : List (String × Value) → Nat
  | [] => 0
  | (_, v) :: rest => max v.nesting (nestingOfFields rest)

def nestingOfEntries : List (Value × Value) → Nat
  | [] => 0
  | (_, v) :: rest => max v.nesting (nestingOfEntries rest)
end

end Courier.Json
