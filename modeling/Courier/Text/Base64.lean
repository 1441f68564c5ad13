import Courier.Text.Utf8

namespace Courier.Text

/-- The character of a six-bit value: `A-Z`, `a-z`, `0-9`, then `+` and `/`. -/
def base64Char (v : Nat) : Char :=
  if v < 26 then Char.ofNat (65 + v)
  else if v < 52 then Char.ofNat (97 + v - 26)
  else if v < 62 then Char.ofNat (48 + v - 52)
  else if v == 62 then '+'
  else '/'

/-- The four characters of a group of up to three bytes; missing bytes count as zero and their
characters are padding. -/
def base64Group (a : UInt8) (b c : Option UInt8) : List Char :=
  let n := a.toNat * 65536 + (b.map UInt8.toNat).getD 0 * 256 + (c.map UInt8.toNat).getD 0
  let digit := fun (k : Nat) => base64Char (n / Nat.pow 64 k % 64)
  [digit 3, digit 2, if b.isSome then digit 1 else '=', if c.isSome then digit 0 else '=']

def base64Chars : List UInt8 → List Char
  | [] => []
  | [a] => base64Group a none none
  | [a, b] => base64Group a (some b) none
  | a :: b :: c :: rest => base64Group a (some b) (some c) ++ base64Chars rest

/-- The base64 text of bytes with the standard alphabet and `=` padding: every three bytes become
four characters, and a last group of one or two bytes is padded to four. -/
def base64 (bytes : List UInt8) : String :=
  String.ofList (base64Chars bytes)

/-- The base64 text of a text's UTF-8 bytes; a text holding a surrogate unit has none. -/
def base64OfText (s : String) : Except EncodeFault String :=
  (encodeUtf8 s).map base64

def base64Value? (c : Char) : Option Nat :=
  if 'A' ≤ c && c ≤ 'Z' then some (c.toNat - 65)
  else if 'a' ≤ c && c ≤ 'z' then some (c.toNat - 71)
  else if '0' ≤ c && c ≤ '9' then some (c.toNat + 4)
  else if c == '+' then some 62
  else if c == '/' then some 63
  else none

/-- Reads base64 characters. `place` is the number of characters of the current group read,
`carry` the bits of the last one not yet written, `pads` the `=` seen since the last character of
the alphabet, and `acc` the bytes so far, last first. -/
def decodeBase64From (place carry pads : Nat) (acc : List UInt8) :
    List Char → Except String (List UInt8)
  | [] =>
    if place == 0 then .ok acc.reverse
    else if place == 1 then
      .error ("Invalid base64-encoded string: number of data characters (" ++
        toString (acc.length / 3 * 4 + 1) ++ ") cannot be 1 more than a multiple of 4")
    else .error "Incorrect padding"
  | c :: rest =>
    if c == '=' then
      if place ≥ 2 then
        if place + pads + 1 ≥ 4 then .ok acc.reverse
        else decodeBase64From place carry (pads + 1) acc rest
      else decodeBase64From place carry pads acc rest
    else match base64Value? c with
      | none => decodeBase64From place carry pads acc rest
      | some v =>
        match place with
        | 0 => decodeBase64From 1 v 0 acc rest
        | 1 => decodeBase64From 2 (v % 16) 0 (UInt8.ofNat (carry * 4 + v / 16) :: acc) rest
        | 2 => decodeBase64From 3 (v % 4) 0 (UInt8.ofNat (carry * 16 + v / 4) :: acc) rest
        | _ => decodeBase64From 0 0 0 (UInt8.ofNat (carry * 64 + v) :: acc) rest

/-- The bytes base64 text stands for, read leniently: characters outside the alphabet and stray
`=` are skipped, padding ends the data once a group holds at least two characters and enough
`=` to fill it, and what is left over must make whole bytes; the reason when it does not. -/
def decodeBase64 (s : String) : Except String (List UInt8) :=
  decodeBase64From 0 0 0 [] s.toList

end Courier.Text
