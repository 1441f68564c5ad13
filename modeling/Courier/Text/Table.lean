namespace Courier.Text

/-- The pieces of `cs` between occurrences of the non-empty separator `sep`, leftmost first;
`skip` counts the characters of a separator just found still to pass over, and `current` is
the piece being read, reversed. -/
def splitPieces (sep : List Char) : List Char → Nat → List Char → List (List Char)
  | [], _, current => [current.reverse]
  | _ :: rest, skip + 1, current => splitPieces sep rest skip current
  | c :: rest, 0, current =>
    if sep.isPrefixOf (c :: rest) then current.reverse :: splitPieces sep rest (sep.length - 1) []
    else splitPieces sep rest 0 (c :: current)

/-- The pieces of a text between occurrences of a separator, leftmost first; the text itself
when the separator is empty. -/
def splitText (s sep : String) : List String :=
  if sep.isEmpty then [s] else (splitPieces sep.toList s.toList 0 []).map String.ofList

/-- The text with every occurrence of a non-empty pattern replaced, leftmost first. -/
def replaceText (s pattern replacement : String) : String :=
  replacement.intercalate (splitText s pattern)

/-- The value of a lowercase hexadecimal numeral; other characters count as zero digits. -/
def hexValue (s : String) : Nat :=
  s.toList.foldl (fun acc c =>
    acc * 16 + (if c.isDigit then c.toNat - 48
      else if 'a' ≤ c ∧ c ≤ 'f' then c.toNat - 87 else 0)) 0

def tableWords (s : String) : List String :=
  (splitText s " ").filter (· ≠ "")

/-- A range of code points. Every Unicode property the library needs is a sorted list of such
ranges, stored as compact hexadecimal text and looked up by binary search. -/
structure CodeRange where
  lo : Nat
  hi : Nat
  deriving Inhabited

/-- Reads `"41-5a 5f"` as the ranges `[0x41, 0x5a]` and `[0x5f, 0x5f]`. -/
def CodeRange.ofText (s : String) : Array CodeRange :=
  (tableWords s).toArray.map fun word =>
    match splitText word "-" with
    | [a, b] => ⟨hexValue a, hexValue b⟩
    | _ => ⟨hexValue word, hexValue word⟩

/-- Reads `"41:61 130:69,307"` as a map from a code point to the code points it becomes. -/
def charMapOfText (s : String) : Array (Nat × List Nat) :=
  (tableWords s).toArray.map fun word =>
    match splitText word ":" with
    | [a, b] => (hexValue a, (splitText b ",").map hexValue)
    | _ => (hexValue word, [])

/-- How many entries of a sorted array have a key at most `c`, by halving the window. -/
def countKeysAtMost {α : Type} (key : α → Nat) (xs : Array α) (c : Nat) : Nat :=
  go 0 xs.size
where
  go (lo hi : Nat) : Nat :=
    if _h : lo < hi then
      match xs[(lo + hi) / 2]? with
      | some x => if key x ≤ c then go ((lo + hi) / 2 + 1) hi else go lo ((lo + hi) / 2)
      | none => lo
    else lo
  termination_by hi - lo
  decreasing_by all_goals omega

def inRanges (table : Array CodeRange) (c : Nat) : Bool :=
  match countKeysAtMost CodeRange.lo table c with
  | 0 => false
  | n + 1 =>
    match table[n]? with
    | some r => c ≤ r.hi
    | none => false

/-- The image of a code point under a sorted character map, if it has one. -/
def lookupChar (table : Array (Nat × List Nat)) (c : Nat) : Option (List Nat) :=
  match countKeysAtMost Prod.fst table c with
  | 0 => none
  | n + 1 =>
    match table[n]? with
    | some (k, v) => if k = c then some v else none
    | none => none

def charsOfCodes (codes : List Nat) : List Char :=
  codes.map Char.ofNat

end Courier.Text
