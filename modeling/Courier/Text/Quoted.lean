import Courier.Text.Printable
import Courier.Text.CodePoint

namespace Courier.Text

def quoteChar (q : Char) (c : Char) : String :=
  if c == q || c == '\\' then "\\" ++ c.toString
  else if c == '\t' then "\\t"
  else if c == '\n' then "\\n"
  else if c == '\r' then "\\r"
  else if c.toNat < 0x20 || c.toNat == 0x7f then "\\x" ++ hexDigits 2 c.toNat
  else if c.toNat < 0x7f || isPrintable c then c.toString
  else if c.toNat ≤ 0xff then "\\x" ++ hexDigits 2 c.toNat
  else if c.toNat ≤ 0xffff then "\\u" ++ hexDigits 4 c.toNat
  else "\\U" ++ hexDigits 8 c.toNat

/-- The quoted form of one code point: a surrogate unit as a four-digit escape. -/
def quotePoint (q : Char) : CodePoint → String
  | .char c => quoteChar q c
  | .surrogate n => "\\u" ++ hexDigits 4 n

/-- The quoted form of a text, as messages show a name or a URL. Single quotes enclose it unless
it holds a single quote and no double quote; inside, the enclosing quote and the backslash are
escaped, tab, line feed and carriage return get their letters, and every other character that
is not printable becomes a hexadecimal escape of two, four or eight digits. -/
def quoted (s : String) : String :=
  let q := if s.contains '\'' && !s.contains '"' then '"' else '\''
  q.toString ++ String.join ((codePoints s.toList).map (quotePoint q)) ++ q.toString

/-- The quoted form of binary data: `b` and the bytes in quotes chosen as for text, printable
ASCII as it is, and every other byte as a two-digit escape. -/
def quotedBytes (bytes : List UInt8) : String :=
  let q : UInt8 := if bytes.contains 0x27 && !bytes.contains 0x22 then 0x22 else 0x27
  let byteText := fun (b : UInt8) =>
    if b == q || b == 0x5c then "\\" ++ (Char.ofNat b.toNat).toString
    else if b == 0x09 then "\\t"
    else if b == 0x0a then "\\n"
    else if b == 0x0d then "\\r"
    else if b < 0x20 || b ≥ 0x7f then "\\x" ++ hexDigits 2 b.toNat
    else (Char.ofNat b.toNat).toString
  let quote := (Char.ofNat q.toNat).toString
  "b" ++ quote ++ String.join (bytes.map byteText) ++ quote

/-- The quoted form of an optional text; an absent one is written `None`. -/
def quotedOption : Option String → String
  | some s => quoted s
  | none => "None"

end Courier.Text
