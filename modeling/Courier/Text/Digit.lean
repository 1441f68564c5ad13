import Courier.Text.Table

namespace Courier.Text

/-- Where the digit zero of each script lies, ascending: Unicode keeps each script's digits zero
to nine as ten consecutive code points. -/
def digitZeroTable : Array Nat :=
  (tableWords
    ("30 660 6f0 7c0 966 9e6 a66 ae6 b66 be6 c66 ce6 d66 de6 e50 ed0 f20 1040 1090 17e0 1810 " ++
    "1946 19d0 1a80 1a90 1b50 1bb0 1c40 1c50 a620 a8d0 a900 a9d0 a9f0 aa50 abf0 ff10 104a0 " ++
    "10d30 11066 110f0 11136 111d0 112f0 11450 114d0 11650 116c0 11730 118e0 11950 11c50 11d50 " ++
    "11da0 16a60 16ac0 16b50 1d7ce 1d7d8 1d7e2 1d7ec 1d7f6 1e140 1e2f0 1e950 1fbf0 ")).toArray.map hexValue

def digitValue? (c : Char) : Option Nat :=
  match countKeysAtMost id digitZeroTable c.toNat with
  | 0 => none
  | n + 1 =>
    match digitZeroTable[n]? with
    | some start => if c.toNat < start + 10 then some (c.toNat - start) else none
    | none => none

/-- The integer a decimal numeral spells: an optional sign, then digits of any one or several
scripts, single underscores allowed between digits. -/
def integerOf? (s : String) : Option Int :=
  let (negative, body) := match s.toList with
    | '-' :: r => (true, r)
    | '+' :: r => (false, r)
    | cs => (false, cs)
  let rec go (acc : Nat) (afterDigit : Bool) : List Char → Option Nat
    | [] => if afterDigit then some acc else none
    | '_' :: rest => if afterDigit then
        match rest with
        | c :: _ => if (digitValue? c).isSome then go acc false rest else none
        | [] => none
      else none
    | c :: rest =>
      match digitValue? c with
      | some d => go (acc * 10 + d) true rest
      | none => none
  (go 0 false body).map fun n => if negative then -(n : Int) else n

end Courier.Text
