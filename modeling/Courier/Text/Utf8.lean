import Courier.Text.CodePoint

/-!
UTF-8 bytes of text, and text of bytes. A surrogate unit has no UTF-8 form: encoding a text that
holds one fails, naming the run of surrogate units that starts with the first. Decoding either refuses malformed input or replaces
each maximal ill-formed part with the replacement character U+FFFD, the practice the Unicode
standard recommends: a byte that cannot start a sequence is one part, and so is the longest
prefix of a sequence that could still have been completed.
-/

namespace Courier.Text

/-- Why a text has no UTF-8 form: the code points from `start` up to before `stop` are
surrogate units, the first of them `first`. -/
structure EncodeFault where
  start : Nat
  stop : Nat
  first : Nat
  deriving Repr, BEq

/-- The message of an encoding fault: the unit itself when the run has one, else the range of
positions. -/
def EncodeFault.message (f : EncodeFault) : String :=
  let head := "'utf-8' codec can't encode "
  let tail := ": surrogates not allowed"
  if f.stop == f.start + 1 then
    head ++ "character '\\u" ++ hexDigits 4 f.first ++ "' in position " ++ toString f.start ++ tail
  else
    head ++ "characters in position " ++ toString f.start ++ "-" ++ toString (f.stop - 1) ++ tail

def charBytes (c : Char) : List UInt8 :=
  c.toString.toUTF8.toList

def CodePoint.isSurrogate : CodePoint → Bool
  | .surrogate _ => true
  | .char _ => false

/-- The UTF-8 bytes of code points, the first at position `pos`; `acc` holds the bytes of
those before, last first. -/
def encodePoints (acc : List UInt8) (pos : Nat) : List CodePoint → Except EncodeFault (List UInt8)
  | [] => .ok acc.reverse
  | .char c :: rest => encodePoints ((charBytes c).reverse ++ acc) (pos + 1) rest
  | .surrogate n :: rest =>
    .error ⟨pos, pos + 1 + (rest.takeWhile CodePoint.isSurrogate).length, n⟩

def encodeUtf8 (s : String) : Except EncodeFault (List UInt8) :=
  encodePoints [] 0 (codePoints s.toList)

/-- The UTF-8 bytes of a text known to hold no surrogate unit, such as one built from
characters only; a surrogate unit, should one occur, is left out. -/
def cleanBytes (s : String) : List UInt8 :=
  (codePoints s.toList).flatMap fun
    | .char c => charBytes c
    | .surrogate _ => []

def isContinuation (b : UInt8) : Bool :=
  0x80 ≤ b && b ≤ 0xbf

/-- The range allowed for the second byte after a lead byte, and how many continuation bytes
follow the lead; `none` for a byte that cannot lead. -/
def leadShape (b : UInt8) : Option (UInt8 × UInt8 × Nat) :=
  if b < 0xc2 then none
  else if b ≤ 0xdf then some (0x80, 0xbf, 1)
  else if b == 0xe0 then some (0xa0, 0xbf, 2)
  else if b == 0xed then some (0x80, 0x9f, 2)
  else if b ≤ 0xef then some (0x80, 0xbf, 2)
  else if b == 0xf0 then some (0x90, 0xbf, 3)
  else if b ≤ 0xf3 then some (0x80, 0xbf, 3)
  else if b == 0xf4 then some (0x80, 0x8f, 3)
  else none

/-- One decoding step on a non-empty byte list: the character read (`none` for an ill-formed
part) and the bytes after it. At least one byte is consumed. -/
def decodeStep (b : UInt8) (rest : List UInt8) : Option Char × List UInt8 :=
  if b < 0x80 then (some (Char.ofNat b.toNat), rest)
  else
    match leadShape b with
    | none => (none, rest)
    | some (lo, hi, count) =>
      let lead := b.toNat % (if count == 1 then 0x20 else if count == 2 then 0x10 else 0x08)
      match rest with
      | c1 :: r1 =>
        if lo ≤ c1 && c1 ≤ hi then
          let v1 := lead * 64 + (c1.toNat % 64)
          if count == 1 then (some (Char.ofNat v1), r1)
          else
            match r1 with
            | c2 :: r2 =>
              if isContinuation c2 then
                let v2 := v1 * 64 + (c2.toNat % 64)
                if count == 2 then (some (Char.ofNat v2), r2)
                else
                  match r2 with
                  | c3 :: r3 =>
                    if isContinuation c3 then (some (Char.ofNat (v2 * 64 + (c3.toNat % 64))), r3)
                    else (none, r2)
                  | [] => (none, r2)
              else (none, r1)
            | [] => (none, r1)
        else (none, rest)
      | [] => (none, rest)

theorem decodeStep_length (b : UInt8) (rest : List UInt8) :
    (decodeStep b rest).2.length ≤ rest.length := by
  unfold decodeStep
  repeat (first | split | simp_all | omega)

def decodeLossy : List UInt8 → List Char
  | [] => []
  | b :: rest =>
    match h : decodeStep b rest with
    | (c, r) =>
      have : r.length < (b :: rest).length := by
        have := decodeStep_length b rest
        rw [h] at this
        simp only [List.length_cons] at this ⊢
        omega
      c.getD '\ufffd' :: decodeLossy r
termination_by bytes => bytes.length
decreasing_by all_goals exact this

def decodeStrict : List UInt8 → Option (List Char)
  | [] => some []
  | b :: rest =>
    match h : decodeStep b rest with
    | (c, r) =>
      have : r.length < (b :: rest).length := by
        have := decodeStep_length b rest
        rw [h] at this
        simp only [List.length_cons] at this ⊢
        omega
      match c with
      | some c => (decodeStrict r).map (c :: ·)
      | none => none
termination_by bytes => bytes.length
decreasing_by all_goals exact this

def textOfBytesLossy (bytes : List UInt8) : String :=
  String.ofList ((decodeLossy bytes).flatMap spellChar)

def textOfBytes? (bytes : List UInt8) : Option String :=
  (decodeStrict bytes).map fun cs => String.ofList (cs.flatMap spellChar)

def hexOfBytes (bytes : List UInt8) : String :=
  String.join (bytes.map fun b =>
    let ds := Nat.toDigits 16 b.toNat
    String.ofList (if ds.length < 2 then '0' :: ds else ds))

/-- The bytes written as pairs of hexadecimal digits; an odd digit at the end is dropped and a
pair holding another character counts as zero. -/
def bytesOfHex (s : String) : List UInt8 :=
  let digit := fun (c : Char) =>
    if c.isDigit then c.toNat - 48
    else if 'a' ≤ c ∧ c ≤ 'f' then c.toNat - 87
    else if 'A' ≤ c ∧ c ≤ 'F' then c.toNat - 55 else 0
  let rec go : List Char → List UInt8
    | a :: b :: rest => UInt8.ofNat (digit a * 16 + digit b) :: go rest
    | _ => []
  go s.toList

end Courier.Text
