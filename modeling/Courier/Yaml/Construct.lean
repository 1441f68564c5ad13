import Courier.Yaml.Node
import Courier.Json.Key
import Courier.Text.Numeral
import Courier.Text.Case
import Courier.Text.Base64

/-!
What a YAML document denotes: the value each node's tag asks for. Null, booleans, integers,
doubles, text, timestamps and base64 binary data are built from a scalar's text; sequences
become lists and mappings become objects, or mappings when a key is not text. A set is the list
of its mapping's keys; an ordered mapping or a list of pairs, a sequence of single-pair
mappings, is the list of its pairs, each a list of key and value. Any other tag has no value.

A scalar's text is read as the safe loader reads it. A boolean is one of `yes`, `no`, `true`,
`false`, `on`, `off` in any case. An integer loses its underscores and may be signed; `0b`,
`0x` and a leading `0` choose binary, hexadecimal and octal, and colons base 60. A double loses
its underscores, `.inf` and `.nan` are infinity and not-a-number, and colons mean base 60. A
timestamp is a date, `2001-12-14`, or a date and time with an optional fraction and offset,
`2001-12-14t21:59:43.10-05:00`. A mapping tagged as a scalar stands for the value under its
value key `=`.

Mapping keys are values too. Keys that are equal as values (`1`, `1.0` and `true` are one key)
hold one entry, at the first one's place with the last one's value; lists and mappings cannot be
keys. A merge key `<<` brings in the entries of a mapping, or of each mapping of a list (the last
one first), before the mapping's own entries, which win.

Building works on the graph the way the loader works on its nodes. Every node is built once, where
it is first met, and an alias to it is that same value. Nodes are built level by level: a
collection's items and entries are built after everything at the level above, so when several
nodes cannot be built, the failure reported is that of the first one in that order. Resolving a
mapping's merge keys changes the mapping itself, and taking a value key `=` as a mapping key
makes that node text wherever else it stands; both happen when the mapping is built, so they
are seen by every use of those nodes built later.

An alias back to an enclosing collection makes the value cyclic. A node's value is read once,
and where reading it comes back to a node still being read the value holds `null`; what each
node was built into is kept beside the value, so that a walk can follow the cycles.
-/

namespace Courier.Yaml

open Courier.Json

/-- Why a YAML text gives no value. -/
inductive Fault where
  | malformed (reason : String)
  | badValue (message : String)
  | unknownWord (word : String)
  | emptyNumber
  | notATimestamp
  | timestampMapping
  | codeOutOfRange (code : Nat)
  | tooDeep (call : DeepCall)
  deriving Repr, BEq

def Fault.ofIssue : ReadIssue → Fault
  | .malformed reason => .malformed reason
  | .codeOutOfRange code => .codeOutOfRange code
  | .tooDeep call => .tooDeep call

def boolOfScalar (text : String) : Except Fault Bool :=
  let word := Text.lower text
  if ["yes", "true", "on"].contains word then .ok true
  else if ["no", "false", "off"].contains word then .ok false
  else .error (.unknownWord word)

def convertInt (text : String) (base : Nat) : Except Fault Int :=
  (Text.intOfText text base).mapError Fault.badValue

/-- The integer a scalar spells: underscores dropped, a sign, then `0`, or `0b` and binary
digits, `0x` and hexadecimal ones, a leading `0` and octal ones, colon-separated decimal
groups in base 60, or decimal digits. -/
def intOfScalar (text : String) : Except Fault Int := do
  let value := (Text.replaceText text "_" "").toList
  match value with
  | [] => throw .emptyNumber
  | c :: rest =>
    let body := if c == '-' || c == '+' then rest else value
    let signed (n : Int) : Int := if c == '-' then -n else n
    match body with
    | [] => throw .emptyNumber
    | ['0'] => pure 0
    | '0' :: 'b' :: ds => signed <$> convertInt (String.ofList ds) 2
    | '0' :: 'x' :: ds => signed <$> convertInt (String.ofList ds) 16
    | '0' :: _ => signed <$> convertInt (String.ofList body) 8
    | _ =>
      if body.contains ':' then do
        let groups ← (Text.splitText (String.ofList body) ":").mapM (convertInt · 10)
        pure (signed (groups.foldl (fun acc d => acc * 60 + d) 0))
      else signed <$> convertInt (String.ofList body) 10

def convertFloat (text : String) : Except Fault Float :=
  (Text.floatOfText text).mapError Fault.badValue

/-- The double a scalar spells: underscores dropped and lowercased, a sign, then `.inf`,
`.nan`, colon-separated groups in base 60 summed from the last, or a decimal numeral. -/
def floatOfScalar (text : String) : Except Fault Float := do
  let value := (Text.lower (Text.replaceText text "_" "")).toList
  match value with
  | [] => throw .emptyNumber
  | c :: rest =>
    let body := String.ofList (if c == '-' || c == '+' then rest else value)
    let signed (x : Float) : Float := if c == '-' then -x else x
    if body == ".inf" then pure (signed Decimal.infinity)
    else if body == ".nan" then pure Decimal.notANumber
    else if body.contains ':' then do
      let groups ← (Text.splitText body ":").mapM convertFloat
      let (total, _) := groups.reverse.foldl
        (fun (acc, weight) d => (acc + d * weight, weight * 60)) ((0 : Float), (1 : Float))
      pure (signed total)
    else signed <$> convertFloat body

/-- The ASCII digits at the start of a list, as a number, and how many there were. -/
def leadingNumber (cs : List Char) : Nat × Nat × List Char :=
  let ds := cs.takeWhile Char.isDigit
  (ds.foldl (fun acc d => acc * 10 + (d.toNat - 48)) 0, ds.length, cs.drop ds.length)

/-- The offset a time zone part names, in seconds east of UTC: `Z`, or a sign, hours of one or
two digits and optional minutes of two; `none` when the part is no time zone. -/
def zoneOffset? (cs : List Char) : Option (Option Int) :=
  match cs.dropWhile isSpaceOrTab with
  | [] => if cs.isEmpty then some none else none
  | ['Z'] => some (some 0)
  | s :: rest =>
    if s != '-' && s != '+' then none
    else
      let (hours, width, rest) := leadingNumber rest
      let minutes? : Option Nat := match rest with
        | [] => some 0
        | [':', a, b] => if a.isDigit && b.isDigit then some ((a.toNat - 48) * 10 + (b.toNat - 48))
          else none
        | _ => none
      if width < 1 || width > 2 then none
      else minutes?.map fun minutes =>
        let seconds : Int := (hours * 3600 + minutes * 60 : Nat)
        some (if s == '-' then -seconds else seconds)

/-- The fields a timestamp's text holds: year, month and day, then perhaps hour, minute,
second, fraction digits and offset. A single line break may end the text. -/
def timestampFields? (text : String) :
    Option (Nat × Nat × Nat × Option (Nat × Nat × Nat × List Char × Option Int)) := do
  let cs := if text.endsWith "\n" then text.toList.dropLast else text.toList
  let (year, yearWidth, rest) := leadingNumber cs
  guard (yearWidth == 4)
  let rest ← match rest with
    | '-' :: r => some r
    | _ => none
  let (month, monthWidth, rest) := leadingNumber rest
  guard (1 ≤ monthWidth && monthWidth ≤ 2)
  let rest ← match rest with
    | '-' :: r => some r
    | _ => none
  let (day, dayWidth, rest) := leadingNumber rest
  guard (1 ≤ dayWidth && dayWidth ≤ 2)
  if rest.isEmpty then return (year, month, day, none)
  let rest ← match rest with
    | 'T' :: r => some r
    | 't' :: r => some r
    | c :: r => if isSpaceOrTab c then some (r.dropWhile isSpaceOrTab) else none
    | [] => none
  let (hour, hourWidth, rest) := leadingNumber rest
  guard (1 ≤ hourWidth && hourWidth ≤ 2)
  let (minute, second, rest) ← match rest with
    | ':' :: m1 :: m2 :: ':' :: s1 :: s2 :: r =>
      if [m1, m2, s1, s2].all Char.isDigit then
        some ((m1.toNat - 48) * 10 + (m2.toNat - 48), (s1.toNat - 48) * 10 + (s2.toNat - 48), r)
      else none
    | _ => none
  let (fraction, rest) := match rest with
    | '.' :: r => (r.takeWhile Char.isDigit, r.dropWhile Char.isDigit)
    | r => ([], r)
  let offset ← zoneOffset? rest
  return (year, month, day, some (hour, minute, second, fraction, offset))

/-- The moment a timestamp's text denotes. An offset of a day or more is refused first, then
the date's fields and the time's, each with the message that reports it. -/
def momentOfScalar (text : String) : Except Fault Moment := do
  let some (year, month, day, time) := timestampFields? text | throw .notATimestamp
  match time with
  | none =>
    let m : Moment := ⟨year, month, day, none⟩
    match m.problem? with
    | some p => throw (.badValue p)
    | none => pure m
  | some (hour, minute, second, fraction, offset) =>
    if let some o := offset then
      if o.natAbs ≥ 86400 then
        throw (.badValue ("offset must be a timedelta strictly between -timedelta(hours=24) " ++
          "and timedelta(hours=24), not " ++ spanEcho o ++ "."))
    let digits := (fraction.take 6) ++ List.replicate (6 - fraction.length) '0'
    let micro := digits.foldl (fun acc d => acc * 10 + (d.toNat - 48)) 0
    let m : Moment := ⟨year, month, day, some ⟨hour, minute, second, micro, offset⟩⟩
    match m.problem? with
    | some p => throw (.badValue p)
    | none => pure m

def binaryOfScalar (text : String) : Except Fault (List UInt8) :=
  if text.toList.any (fun c => c.toNat ≥ 128) then
    .error (.malformed "failed to convert base64 data into ascii")
  else (Text.decodeBase64 text).mapError fun reason =>
    .malformed ("failed to decode base64 data: " ++ reason)

def scalarTags : List String :=
  [nullTag, boolTag, intTag, floatTag, binaryTag, strTag, timestampTag]

def collectionTags : List String := [seqTag, mapTag, setTag, omapTag, pairsTag]

def Content.kindName : Content → String
  | .scalar _ => "scalar"
  | .seq _ => "sequence"
  | .map _ => "mapping"

def entriesOf (nodes : Array Node) (i : Nat) : List (Nat × Nat) :=
  match (nodes.getD i Node.empty).content with
  | .map entries => entries
  | _ => []

def withEntries (nodes : Array Node) (i : Nat) (entries : List (Nat × Nat)) : Array Node :=
  nodes.modify i fun n => { n with content := .map entries }

def retag (nodes : Array Node) (i : Nat) (tag : String) : Array Node :=
  nodes.modify i fun n => { n with tag := tag }

/-- The text a node stands for as a scalar: a scalar's own text, or the text of the value under
the first key of a mapping that is tagged as the value key. A chain of such mappings longer
than the fuel, which only a cycle makes, is too deep. -/
def scalarText (nodes : Array Node) : Nat → Nat → Except Fault String
  | 0, _ => .error (.tooDeep .function)
  | fuel + 1, i =>
    match (nodes.getD i Node.empty).content with
    | .scalar text => .ok text
    | .seq _ => .error (.malformed "expected a scalar node, but found sequence")
    | .map entries =>
      match entries.find? (fun (k, _) => (nodes.getD k Node.empty).tag == valueTag) with
      | some (_, v) => scalarText nodes fuel v
      | none => .error (.malformed "expected a scalar node, but found mapping")

def scalarValue (nodes : Array Node) (i : Nat) : Except Fault Value := do
  let text ← scalarText nodes (nodes.size + 1) i
  let n := nodes.getD i Node.empty
  let tag := n.tag
  if tag == nullTag then pure .null
  else if tag == boolTag then .bool <$> boolOfScalar text
  else if tag == intTag then .int <$> intOfScalar text
  else if tag == floatTag then .float <$> floatOfScalar text
  else if tag == binaryTag then .bytes <$> binaryOfScalar text
  else if tag == timestampTag then
    match n.content with
    | .scalar _ => .moment <$> momentOfScalar text
    | _ => throw .timestampMapping
  else pure (.str text)

mutual

/-- Resolves the merge keys of mapping `i` from entry `index` on, with `merged` the entries the
merge keys before it brought in. A merge key is taken out of the entries and what it names is
resolved first; a key tagged as the value key becomes text. At the end the merged entries are
put before the mapping's own. The entries are read afresh at every step, since resolving what
a merge key names may have resolved this same mapping already. -/
def flattenFrom : Nat → Nat → Nat → List (Nat × Nat) → Array Node → Except Fault (Array Node)
  | 0, _, _, _, _ => .error (.tooDeep .function)
  | fuel + 1, i, index, merged, nodes =>
    let entries := entriesOf nodes i
    match entries[index]? with
    | none => .ok (if merged.isEmpty then nodes else withEntries nodes i (merged ++ entries))
    | some (k, v) =>
      let keyTag := (nodes.getD k Node.empty).tag
      if keyTag == mergeTag then do
        let (nodes, more) ← mergeSource fuel v (withEntries nodes i (entries.eraseIdx index))
        flattenFrom fuel i index (merged ++ more) nodes
      else if keyTag == valueTag then flattenFrom fuel i (index + 1) merged (retag nodes k strTag)
      else flattenFrom fuel i (index + 1) merged nodes

/-- The entries a merge key brings in, once what it names is resolved: a mapping's, or those
of each mapping of a list with the last one first. -/
def mergeSource : Nat → Nat → Array Node → Except Fault (Array Node × List (Nat × Nat))
  | 0, _, _ => .error (.tooDeep .function)
  | fuel + 1, v, nodes =>
    match (nodes.getD v Node.empty).content with
    | .map _ => do
      let nodes ← flattenFrom fuel v 0 [] nodes
      pure (nodes, entriesOf nodes v)
    | .seq items => do
      let (nodes, groups) ← mergeItems fuel items nodes
      pure (nodes, groups.reverse.flatten)
    | .scalar _ =>
      .error (.malformed "expected a mapping or list of mappings for merging, but found scalar")

def mergeItems : Nat → List Nat → Array Node → Except Fault (Array Node × List (List (Nat × Nat)))
  | 0, _, _ => .error (.tooDeep .function)
  | _ + 1, [], nodes => .ok (nodes, [])
  | fuel + 1, s :: rest, nodes =>
    match (nodes.getD s Node.empty).content with
    | .map _ => do
      let nodes ← flattenFrom fuel s 0 [] nodes
      let (nodes, more) ← mergeItems fuel rest nodes
      pure (nodes, entriesOf nodes s :: more)
    | c => .error (.malformed ("expected a mapping for merging, but found " ++ c.kindName))

end

def entryCount (nodes : Array Node) : Nat :=
  nodes.foldl (fun acc n => match n.content with
    | .map entries => acc + entries.length
    | _ => acc) 0

/-- Enough steps to resolve merge keys: each merge key is taken out once, and a pass over a
mapping at most doubles the entries the graph holds. -/
def mergeFuel (nodes : Array Node) : Nat :=
  Nat.pow 2 (3 * entryCount nodes + 3)

def flattenMapping (nodes : Array Node) (i : Nat) : Except Fault (Array Node) :=
  flattenFrom (mergeFuel nodes) i 0 [] nodes

/-- Sets a key of a mapping: an equal key keeps its place and takes the new value. -/
def setEntry {β : Type} (entries : List (Value × β)) (k : Value) (v : β) : List (Value × β) :=
  if entries.any (·.1.sameKey k) then
    entries.map fun (k', v') => if k'.sameKey k then (k', v) else (k', v')
  else entries ++ [(k, v)]

def textMembers? : List (Value × Value) → Option Fields
  | [] => some []
  | (.str k, v) :: rest => ((k, v) :: ·) <$> textMembers? rest
  | _ :: _ => none

/-- What a node was built into: a scalar's value, or what a collection holds, its nodes named
by number. -/
inductive Record where
  | begun
  | scalar (value : Value)
  | list (items : List Nat)
  | pairs (items : List (Nat × Nat))
  | mapping (entries : List (Value × Nat))
  | set (members : List Value)

/-- What building keeps: the nodes as resolving merge keys leaves them, what each node was built
into so far, and the collections begun at the level being built, the last first. -/
structure Loading where
  nodes : Array Node
  records : Array (Option Record)
  begun : List Nat

def Loading.record (l : Loading) (i : Nat) : Option Record :=
  l.records.getD i none

abbrev Load := StateT Loading (Except Fault)

def keep (i : Nat) (r : Record) : Load Unit :=
  modify fun l => { l with records := l.records.setIfInBounds i (some r) }

def noConstruction (tag : String) : Fault :=
  .malformed ("could not determine a constructor for the tag " ++ tag)

/-- Builds a node where it is met, unless it was built before: a scalar kind is built, and so
may fail; a collection is begun, its contents left for the next level; any other tag fails. -/
def constructNode (i : Nat) : Load Unit := do
  let l ← get
  if (l.record i).isSome then return
  let n := l.nodes.getD i Node.empty
  if scalarTags.contains n.tag then keep i (.scalar (← StateT.lift (scalarValue l.nodes i)))
  else if collectionTags.contains n.tag then
    modify fun l => { l with records := l.records.setIfInBounds i (some .begun), begun := i :: l.begun }
  else throw (noConstruction n.tag)

/-- The pair of a single-pair mapping, the item of an ordered mapping or a list of pairs. -/
def singlePair (nodes : Array Node) (i : Nat) : Except Fault (Nat × Nat) :=
  match (nodes.getD i Node.empty).content with
  | .map [(k, v)] => .ok (k, v)
  | .map entries =>
    .error (.malformed ("expected a single mapping item, but found " ++ toString entries.length ++
      " items"))
  | c => .error (.malformed ("expected a mapping of length 1, but found " ++ c.kindName))

/-- Builds the contents of a begun collection: a sequence's items; the key and value of each
pair of an ordered mapping or list of pairs; or a mapping's or set's entries once its merge
keys are resolved, each key before its value, a key that is a collection failing. -/
def resume (i : Nat) : Load Unit := do
  let n := (← get).nodes.getD i Node.empty
  if n.tag == seqTag then
    match n.content with
    | .seq items => do
      items.forM constructNode
      keep i (.list items)
    | c => throw (.malformed ("expected a sequence node, but found " ++ c.kindName))
  else if n.tag == omapTag || n.tag == pairsTag then
    match n.content with
    | .seq items => do
      let pairs ← items.mapM fun s => do
        let (k, v) ← StateT.lift (singlePair (← get).nodes s)
        constructNode k
        constructNode v
        pure (k, v)
      keep i (.pairs pairs)
    | c => throw (.malformed ("expected a sequence, but found " ++ c.kindName))
  else
    match n.content with
    | .map _ => do
      let nodes ← StateT.lift (flattenMapping (← get).nodes i)
      modify fun l => { l with nodes := nodes }
      let entries ← (entriesOf nodes i).foldlM (fun acc (k, v) => do
        constructNode k
        match (← get).record k with
        | some (.scalar key) =>
          constructNode v
          pure (setEntry acc key v)
        | _ => throw (.malformed "found unhashable key")) []
      if n.tag == setTag then keep i (.set (entries.map (·.1)))
      else keep i (.mapping entries)
    | c => throw (.malformed ("expected a mapping node, but found " ++ c.kindName))

/-- Builds the collections of one level after another, failing at the first node that cannot
be built. Every level begins at least one collection not begun before, so the number of nodes
is enough fuel. -/
def buildLevels : Nat → Load Unit
  | 0 => pure ()
  | fuel + 1 => do
    let pending := (← get).begun
    if pending.isEmpty then return
    modify fun l => { l with begun := [] }
    pending.reverse.forM resume
    buildLevels fuel

/-- The value of mapping entries: an object when every key is text, a mapping otherwise. -/
def mappingValue (entries : List (Value × Value)) : Value :=
  match textMembers? entries with
  | some fields => .obj fields
  | none => .mapping entries

/-- A built document: its value, and what each of its nodes was built into, with the number of
its root. The value holds `null` where reading it came back to a collection still being read; the
records keep the graph itself, cycles and all. -/
structure Built where
  value : Value
  records : Array (Option Record)
  root : Nat

/-- How far reading a node's value has come. -/
inductive Progress where
  | unread
  | reading
  | read (value : Value)

/-- The value of node `i` read from the records. Each node is read once and its value kept;
where reading comes back to a node still being read, the value holds `null`. A way down visits
distinct nodes, so the number of nodes is enough fuel. -/
def valueAt (records : Array (Option Record)) : Nat → Nat → StateM (Array Progress) Value
  | 0, _ => pure .null
  | fuel + 1, i => do
    match (← get).getD i .unread with
    | .reading => return .null
    | .read v => return v
    | .unread =>
      modify (·.setIfInBounds i .reading)
      let v ← match records.getD i none with
        | some (.scalar v) => pure v
        | some (.list items) => do pure (.arr (← items.mapM (valueAt records fuel)))
        | some (.pairs items) => do
          let pairs ← items.mapM fun (k, v) => do
            pure (Value.arr [← valueAt records fuel k, ← valueAt records fuel v])
          pure (.arr pairs)
        | some (.mapping entries) => do
          let members ← entries.mapM fun (k, v) => do pure (k, ← valueAt records fuel v)
          pure (mappingValue members)
        | some (.set members) => pure (.arr members)
        | _ => pure .null
      modify (·.setIfInBounds i (.read v))
      return v

/-- The value of a document: its root is built, then every level below it, so that the first
node that cannot be built in that order is the failure; then the value is read from what the
nodes were built into. -/
def construct (g : Graph) : Except Fault Built := do
  let size := g.nodes.size
  let start : Loading := ⟨g.nodes, Array.replicate size none, []⟩
  let ((), l) ← (do constructNode g.root; buildLevels (size + 1)).run start
  let (value, _) := (valueAt l.records (size + 1) g.root).run (Array.replicate size .unread)
  pure ⟨value, l.records, g.root⟩

/-- The calls left for reading the nodes of a document loaded with `depth` calls in progress:
loading makes eleven calls besides those of the nodes, on the way to the first node and in the
parsing and scanning at the deepest one. -/
def nodeRoom (depth : Nat) : Nat :=
  callLimit - depth - 11

/-- The value of a YAML text loaded with `depth` calls in progress: `none` for a stream without
a document. -/
def read (depth : Nat) (text : String) : Except Fault (Option Built) := do
  let tokens ← (tokenize text).mapError Fault.ofIssue
  match ← (parseStream (nodeRoom depth) tokens).mapError Fault.ofIssue with
  | none => pure none
  | some g => some <$> construct g

end Courier.Yaml
