import Courier.Text.Utf8

/-!
Form encoding of query parameters. A value is written as its UTF-8 bytes (a value holding a
surrogate unit has none, and encoding it fails), ASCII letters,
digits and `_ . - ~` as they are, a space as `+`, and every other byte as `%` and two uppercase
hexadecimal digits. Decoding reads `+` as a space and `%` with two hexadecimal digits as a
byte; the bytes of each ASCII stretch are read as UTF-8 with ill-formed parts replaced, and
characters outside ASCII stay as they are.
-/

namespace Courier.Url

open Courier.Text

def isUnreservedByte (b : UInt8) : Bool :=
  (0x41 ≤ b && b ≤ 0x5a) || (0x61 ≤ b && b ≤ 0x7a) || (0x30 ≤ b && b ≤ 0x39) ||
    b == 0x5f || b == 0x2e || b == 0x2d || b == 0x7e

def upperHexDigit (n : Nat) : Char :=
  if n < 10 then Char.ofNat (48 + n) else Char.ofNat (55 + n)

def encodeByte (b : UInt8) : List Char :=
  if isUnreservedByte b then [Char.ofNat b.toNat]
  else if b == 0x20 then ['+']
  else ['%', upperHexDigit (b.toNat / 16), upperHexDigit (b.toNat % 16)]

def formEncode (s : String) : Except EncodeFault String := do
  return String.ofList ((← encodeUtf8 s).flatMap encodeByte)

/-- Pairs written `name=value` with `encode` on both sides, joined by `&`; the first text that
cannot be encoded, in order, fails it. -/
def encodePairsWith (encode : String → Except EncodeFault String)
    (params : List (String × String)) : Except EncodeFault String := do
  let parts ← params.mapM fun (k, v) => do
    let name ← encode k
    let value ← encode v
    return name ++ "=" ++ value
  return "&".intercalate parts

/-- Parameters as `name=value` pairs joined by `&`, both sides form encoded. -/
def formEncodePairs (params : List (String × String)) : Except EncodeFault String :=
  encodePairsWith formEncode params

/-- The percent encoding of one byte, keeping unreserved bytes and the ASCII characters of
`safe`; with `spaceAsPlus`, a space is `+`. -/
def encodeByteKeeping (safe : List Char) (spaceAsPlus : Bool) (b : UInt8) : List Char :=
  if isUnreservedByte b || (b < 128 && safe.contains (Char.ofNat b.toNat)) then [Char.ofNat b.toNat]
  else if spaceAsPlus && b == 0x20 then ['+']
  else ['%', upperHexDigit (b.toNat / 16), upperHexDigit (b.toNat % 16)]

/-- The percent encoding of a text as a path segment: everything but unreserved bytes and the
characters of `safe` is escaped, a space as `%20`. -/
def percentEncode (safe : List Char) (s : String) : Except EncodeFault String := do
  return String.ofList ((← encodeUtf8 s).flatMap (encodeByteKeeping safe false))

/-- Parameters as `name=value` pairs joined by `&`, both sides form encoded but keeping the
characters of `safe`. -/
def formEncodePairsKeeping (safe : List Char) (params : List (String × String)) :
    Except EncodeFault String :=
  encodePairsWith (fun t => do
    return String.ofList ((← encodeUtf8 t).flatMap (encodeByteKeeping safe true))) params

def hexDigitValue? (c : Char) : Option Nat :=
  if c.isDigit then some (c.toNat - 48)
  else if 'a' ≤ c ∧ c ≤ 'f' then some (c.toNat - 87)
  else if 'A' ≤ c ∧ c ≤ 'F' then some (c.toNat - 55)
  else none

def percentBytes : List Char → List UInt8
  | '%' :: a :: b :: rest =>
    match hexDigitValue? a, hexDigitValue? b with
    | some x, some y => UInt8.ofNat (x * 16 + y) :: percentBytes rest
    | _, _ => 0x25 :: percentBytes (a :: b :: rest)
  | c :: rest => UInt8.ofNat c.toNat :: percentBytes rest
  | [] => []

def asciiStretches : List Char → List (Bool × List Char)
  | [] => []
  | c :: rest =>
    let ascii := decide (c.toNat < 128)
    match asciiStretches rest with
    | (a, run) :: more =>
      if ascii == a then (a, c :: run) :: more else (ascii, [c]) :: (a, run) :: more
    | [] => [(ascii, [c])]

/-- Decodes percent escapes, keeping text without any `%` as it is. -/
def percentDecode (s : String) : String :=
  if !s.contains '%' then s
  else
    String.join ((asciiStretches s.toList).map fun (ascii, run) =>
      if ascii then textOfBytesLossy (percentBytes run) else String.ofList run)

/-- Decodes a form-encoded text: `+` is a space, then percent escapes are read. -/
def formDecode (s : String) : String :=
  percentDecode (s.map fun c => if c == '+' then ' ' else c)

end Courier.Url
