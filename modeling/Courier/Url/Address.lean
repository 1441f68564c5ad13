import Courier.Text.Table

namespace Courier.Url

/-- Whether a text is a decimal octet: one to three ASCII digits, no leading zero, at most 255. -/
def isOctet (s : String) : Bool :=
  let cs := s.toList
  !cs.isEmpty && cs.all Char.isDigit && cs.length ≤ 3 &&
    (cs == ['0'] || cs.head? != some '0') &&
    cs.foldl (fun acc d => acc * 10 + (d.toNat - 48)) 0 ≤ 255

/-- Whether a text is a dotted IPv4 address, as a bracketed URL host must spell one: four decimal
octets. -/
def isIPv4 (s : String) : Bool :=
  !s.contains '/' &&
    match Text.splitText s "." with
    | [a, b, c, d] => isOctet a && isOctet b && isOctet c && isOctet d
    | _ => false

def isHexDigit (c : Char) : Bool :=
  c.isDigit || ('a' ≤ c && c ≤ 'f') || ('A' ≤ c && c ≤ 'F')

def isHextet (s : String) : Bool :=
  !s.isEmpty && s.all isHexDigit && s.length ≤ 4

/-- Whether the colon-separated groups, some perhaps empty, spell an IPv6 address. Without an
inner empty group there are exactly eight hextets. With one inner empty group (the `::`), an
empty first or last group may stand only beside it, at least one group is left out, and the
groups before and after are hextets. -/
def groupsSpellAddress (parts : List String) : Bool :=
  let n := parts.length
  let inner := (parts.drop 1).dropLast
  match (inner.zipIdx.filter (·.1.isEmpty)).map (·.2) with
  | [] => n == 8 && parts.all isHextet
  | [i] =>
    let skip := i + 1
    let firstEmpty := parts.head? == some ""
    let lastEmpty := parts.getLast? == some ""
    let hi := if firstEmpty then skip - 1 else skip
    let lo := if lastEmpty then n - skip - 2 else n - skip - 1
    hi + lo < 8 && (!firstEmpty || hi == 0) && (!lastEmpty || lo == 0) &&
      (parts.take hi).all isHextet && (parts.reverse.take lo).all isHextet
  | _ => false

/-- The groups of an IPv6 address with an IPv4 tail replaced by two groups; `none` if there
are fewer than three groups, or the tail holds a dot but is no IPv4 address. -/
def ipv6Groups (addr : String) : Option (List String) :=
  let parts := Text.splitText addr ":"
  if parts.length < 3 then none
  else
    match parts.getLast? with
    | some last =>
      if last.contains '.' then
        if isIPv4 last then some (parts.dropLast ++ ["0", "0"]) else none
      else some parts
    | none => none

def isBareIPv6 (addr : String) : Bool :=
  !addr.isEmpty &&
    match ipv6Groups addr with
    | some parts => parts.length ≤ 9 && groupsSpellAddress parts
    | none => false

/-- Whether a text is an IPv6 address, with an optional non-empty zone after one `%`. -/
def isIPv6 (s : String) : Bool :=
  !s.contains '/' &&
    match Text.splitText s "%" with
    | [addr] => isBareIPv6 addr
    | [addr, zone] => !zone.isEmpty && isBareIPv6 addr
    | _ => false

end Courier.Url
