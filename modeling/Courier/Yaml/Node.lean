import Courier.Yaml.Resolve
import Courier.Keyed

/-!
The node graph of a YAML document, read from its tokens. The grammar is that of YAML 1.1 block
and flow collections: a block sequence or mapping runs to its block end; a mapping value may be
a sequence of `- ` entries at the mapping's own indentation; flow collections separate their
entries with commas; an entry of a flow sequence may be a single pair. A missing key or value is
an empty plain scalar, which reads as null.

Every node gets its tag here. A node's own tag is written with a handle, which `%TAG`
directives may define (`!` and `!!` have their usual prefixes unless redefined), or verbatim.
A scalar without a tag takes the kind its text spells when it is plain and is text when quoted;
the tag `!` alone makes any scalar take the kind its text spells. A collection without a tag,
or with `!`, is a sequence or a mapping. A node with properties and no content is an empty
scalar: null, unless its tag says otherwise. Reading a node takes two calls of the host for each
level it lies at and some more for scanning, so the calls left when reading starts bound how
deep collections nest (see `readingCost`).

Nodes are numbered in the order their reading begins, a collection before its contents, and a
collection names its contents by number. An anchor `&name` names the node it stands before, and
an alias `*name` is that same node again, so a document is a graph: an alias inside the
collection its anchor names makes it cyclic. An anchor may be used once per document, and an
alias must come after it.

A stream holds at most one document: an implicit one, or one started by `---` after its
directives; anything after its end but further document ends is an error.
-/

namespace Courier.Yaml

/-- What a node holds: a scalar's text, or the numbers of a collection's nodes. -/
inductive Content where
  | scalar (text : String)
  | seq (items : List Nat)
  | map (entries : List (Nat × Nat))
  deriving Repr, Inhabited

/-- A node of a YAML document: its tag and what it holds. -/
structure Node where
  tag : String
  content : Content
  deriving Repr, Inhabited

def Node.empty : Node := ⟨nullTag, .scalar ""⟩

/-- A document's nodes by number, and the number of its root. -/
structure Graph where
  nodes : Array Node
  root : Nat

/-- The node with a number; the empty scalar for a number the graph lacks. -/
def Graph.node (g : Graph) (i : Nat) : Node :=
  g.nodes.getD i Node.empty

abbrev Handles := List (String × String)

def defaultHandles : Handles := [("!", "!"), ("!!", tagPrefix)]

/-- The anchors of a document so far, each with the number of the node it names. -/
abbrev Anchors := List (String × Nat)

/-- The kind of a collection, as far as the calls for reading inside it go. -/
inductive Style where
  | flowSequence
  | flowMapping
  | block
  deriving Repr, BEq

/-- What reading nodes keeps track of: the nodes so far, the anchors so far, the collections
that enclose the place read (the innermost first), and the calls left for reading nodes. -/
structure Composing where
  nodes : Array Node
  anchors : Anchors
  enclosing : List Style
  room : Nat

/-- Reading nodes: the nodes, anchors and enclosing collections are the state, and a failure is
the reason. -/
abbrev Compose := StateT Composing (Except ReadIssue)

abbrev Parse := Compose (Nat × List Token)

def nextIs (tokens : List Token) (ts : List Token) : Bool :=
  match tokens with
  | t :: _ => ts.contains t
  | [] => false

/-- A tag in full: a handle's prefix followed by the suffix, or a verbatim tag as it is. -/
def fullTag (handles : Handles) (handle : Option String) (suffix : String) :
    Except ReadIssue String :=
  match handle with
  | none => .ok suffix
  | some h =>
    match Keyed.get? handles h with
    | some pfx => .ok (pfx ++ suffix)
    | none => .error (.malformed ("found undefined tag handle " ++ h))

/-- The properties before a node, an anchor and a tag in either order, and the tokens after
them. -/
def properties (handles : Handles) :
    List Token → Except ReadIssue (Option String × Option String × List Token)
  | .anchor a :: .tag h s :: rest => do return (some a, some (← fullTag handles h s), rest)
  | .anchor a :: rest => .ok (some a, none, rest)
  | .tag h s :: .anchor a :: rest => do return (some a, some (← fullTag handles h s), rest)
  | .tag h s :: rest => do return (none, some (← fullTag handles h s), rest)
  | rest => .ok (none, none, rest)

/-- The tag of a scalar: its own, or else the kind its text spells when it is plain or tagged
`!`, or else text. -/
def scalarTag (tag : Option String) (text : String) (plain : Bool) : String :=
  match tag with
  | some "!" => implicitTag text
  | some t => t
  | none => if plain then implicitTag text else strTag

def collectionTag (tag : Option String) (default : String) : String :=
  match tag with
  | some "!" => default
  | some t => t
  | none => default

def checkAnchor (anchor : Option String) : Compose Unit := do
  if let some a := anchor then
    if (← get).anchors.any (·.1 == a) then throw (.malformed ("found duplicate anchor " ++ a))

def addNode (n : Node) : Compose Nat :=
  modifyGet fun c => (c.nodes.size, { c with nodes := c.nodes.push n })

def fillNode (i : Nat) (content : Content) : Compose Unit :=
  modify fun c => { c with nodes := c.nodes.modify i fun n => { n with content := content } }

def addEmpty : Compose Nat :=
  addNode Node.empty

def nameNode (anchor : Option String) (i : Nat) : Compose Unit :=
  match anchor with
  | some a => modify fun c => { c with anchors := c.anchors ++ [(a, i)] }
  | none => pure ()

def resolveAlias (name : String) : Compose Nat := do
  match Keyed.get? (← get).anchors name with
  | some i => pure i
  | none => throw (.malformed ("found undefined alias " ++ name))

/-- The calls that reading a collection inside `enclosing` takes beyond two for each level, and
the kind of call that meets the limit when there are too few. Inside a flow sequence the scanner
has read ahead of the nodes, so only a collection with content takes two more, for starting on
its first node. Elsewhere the scanner runs at the collection's own level, in native calls: four
more inside flow mappings alone, eight inside a block collection. -/
def readingCost (enclosing : List Style) (hasContent : Bool) : Nat × DeepCall :=
  if enclosing.contains .flowSequence then (if hasContent then 2 else 0, .function)
  else match enclosing with
    | .block :: _ => (8, .native)
    | _ => (4, .native)

/-- Enters a collection of a style, failing when the calls left cannot read it at its level. A
scalar inside needs no check: it never takes more calls than the collection around it. -/
def enterCollection (style : Style) (hasContent : Bool) : Compose Unit := do
  let c ← get
  let (extra, call) := readingCost c.enclosing hasContent
  if 2 * (c.enclosing.length + 1) + extra > c.room then throw (.tooDeep call)
  set { c with enclosing := style :: c.enclosing }

def leaveCollection : Compose Unit :=
  modify fun c => { c with enclosing := c.enclosing.drop 1 }

mutual

/-- A node. With `block`, block collections are allowed; with `indentless`, so is a sequence
of entries without a block of its own (a mapping value at the mapping's indentation). -/
def parseNode (handles : Handles) (fuel : Nat) (block indentless : Bool) (tokens : List Token) :
    Parse :=
  match fuel with
  | 0 => throw (ReadIssue.malformed "the document nests too deeply")
  | fuel + 1 =>
    match tokens with
    | .alias name :: rest => do return (← resolveAlias name, rest)
    | _ => do
      let (anchor, tag, rest) ← StateT.lift (properties handles tokens)
      checkAnchor anchor
      let scalar (text : String) (plain : Bool) (after : List Token) : Parse := do
        let i ← addNode ⟨scalarTag tag text plain, .scalar text⟩
        nameNode anchor i
        return (i, after)
      let empty : Parse :=
        if anchor.isSome || tag.isSome then scalar "" true rest
        else throw (ReadIssue.malformed "expected the node content")
      let collection (tag : String) (mapping : Bool) (style : Style) (hasContent : Bool)
          (body : Compose (Content × List Token)) : Parse := do
        let i ← addNode ⟨tag, if mapping then .map [] else .seq []⟩
        nameNode anchor i
        enterCollection style hasContent
        let (content, after) ← body
        leaveCollection
        fillNode i content
        return (i, after)
      let seqTag := collectionTag tag seqTag
      let mapTag := collectionTag tag mapTag
      match rest with
      | .blockEntry :: _ =>
        if indentless then collection seqTag false .block true (parseIndentless handles fuel rest [])
        else empty
      | .scalar text plain :: after => scalar text plain after
      | .flowSequenceStart :: after =>
        collection seqTag false .flowSequence (!nextIs after [.flowSequenceEnd])
          (parseFlowSeq handles fuel true after [])
      | .flowMappingStart :: after =>
        collection mapTag true .flowMapping (!nextIs after [.flowMappingEnd])
          (parseFlowMap handles fuel true after [])
      | .blockSequenceStart :: after =>
        if block then collection seqTag false .block true (parseBlockSeq handles fuel after [])
        else empty
      | .blockMappingStart :: after =>
        if block then collection mapTag true .block true (parseBlockMap handles fuel after [])
        else empty
      | _ => empty

/-- The entries of a block sequence, up to its block end; `acc` holds those read so far, the
last first. -/
def parseBlockSeq (handles : Handles) (fuel : Nat) (tokens : List Token) (acc : List Nat) :
    Compose (Content × List Token) :=
  match fuel with
  | 0 => throw (ReadIssue.malformed "the document nests too deeply")
  | fuel + 1 =>
    match tokens with
    | .blockEntry :: rest =>
      if nextIs rest [.blockEntry, .blockEnd] then do
        let e ← addEmpty
        parseBlockSeq handles fuel rest (e :: acc)
      else do
        let (item, rest) ← parseNode handles fuel true false rest
        parseBlockSeq handles fuel rest (item :: acc)
    | .blockEnd :: rest => pure (.seq acc.reverse, rest)
    | _ => throw (ReadIssue.malformed "expected <block end>")

/-- The entries of a sequence without its own block: it ends at the first token that is no
entry. `acc` holds those read so far, the last first. -/
def parseIndentless (handles : Handles) (fuel : Nat) (tokens : List Token) (acc : List Nat) :
    Compose (Content × List Token) :=
  match fuel with
  | 0 => throw (ReadIssue.malformed "the document nests too deeply")
  | fuel + 1 =>
    match tokens with
    | .blockEntry :: rest =>
      if nextIs rest [.blockEntry, .key, .value, .blockEnd] then do
        let e ← addEmpty
        parseIndentless handles fuel rest (e :: acc)
      else do
        let (item, rest) ← parseNode handles fuel true false rest
        parseIndentless handles fuel rest (item :: acc)
    | _ => pure (.seq acc.reverse, tokens)

def parseBlockValue (handles : Handles) (fuel : Nat) (tokens : List Token) : Parse :=
  match fuel with
  | 0 => throw (ReadIssue.malformed "the document nests too deeply")
  | fuel + 1 =>
    match tokens with
    | .value :: rest =>
      if nextIs rest [.key, .value, .blockEnd] then do pure (← addEmpty, rest)
      else parseNode handles fuel true true rest
    | _ => do pure (← addEmpty, tokens)

/-- The pairs of a block mapping, up to its block end; `acc` holds those read so far, the last
first. -/
def parseBlockMap (handles : Handles) (fuel : Nat) (tokens : List Token)
    (acc : List (Nat × Nat)) : Compose (Content × List Token) :=
  match fuel with
  | 0 => throw (ReadIssue.malformed "the document nests too deeply")
  | fuel + 1 =>
    match tokens with
    | .key :: rest => do
      let (k, rest) ← if nextIs rest [.key, .value, .blockEnd] then do pure (← addEmpty, rest)
        else parseNode handles fuel true true rest
      let (v, rest) ← parseBlockValue handles fuel rest
      parseBlockMap handles fuel rest ((k, v) :: acc)
    | .blockEnd :: rest => pure (.map acc.reverse, rest)
    | _ => throw (ReadIssue.malformed "expected <block end>")

/-- A single pair inside a flow sequence, after its `?` or before its `:`: a mapping of one
entry. -/
def parseFlowPair (handles : Handles) (fuel : Nat) (tokens : List Token) : Parse :=
  match fuel with
  | 0 => throw (ReadIssue.malformed "the document nests too deeply")
  | fuel + 1 => do
    let pair ← addNode ⟨mapTag, .map []⟩
    enterCollection .flowMapping true
    let (k, rest) ←
      if nextIs tokens [.value, .flowEntry, .flowSequenceEnd] then do pure (← addEmpty, tokens)
      else parseNode handles fuel false false tokens
    let (v, rest) ← match rest with
      | .value :: rest =>
        if nextIs rest [.flowEntry, .flowSequenceEnd] then do pure (← addEmpty, rest)
        else parseNode handles fuel false false rest
      | _ => do pure (← addEmpty, rest)
    leaveCollection
    fillNode pair (.map [(k, v)])
    return (pair, rest)

/-- The entries of a flow sequence, up to `]`; `acc` holds those read so far, the last first. -/
def parseFlowSeq (handles : Handles) (fuel : Nat) (first : Bool) (tokens : List Token)
    (acc : List Nat) : Compose (Content × List Token) :=
  match fuel with
  | 0 => throw (ReadIssue.malformed "the document nests too deeply")
  | fuel + 1 =>
    match tokens with
    | .flowSequenceEnd :: rest => pure (.seq acc.reverse, rest)
    | _ => do
      let tokens ← if first then pure tokens else
        match tokens with
        | .flowEntry :: rest => pure rest
        | _ => throw (ReadIssue.malformed "expected ',' or ']'")
      match tokens with
      | .key :: rest => do
        let (pair, rest) ← parseFlowPair handles fuel rest
        parseFlowSeq handles fuel false rest (pair :: acc)
      | .flowSequenceEnd :: rest => pure (.seq acc.reverse, rest)
      | _ => do
        let (item, rest) ← parseNode handles fuel false false tokens
        parseFlowSeq handles fuel false rest (item :: acc)

/-- The pairs of a flow mapping, up to `}`; `acc` holds those read so far, the last first. -/
def parseFlowMap (handles : Handles) (fuel : Nat) (first : Bool) (tokens : List Token)
    (acc : List (Nat × Nat)) : Compose (Content × List Token) :=
  match fuel with
  | 0 => throw (ReadIssue.malformed "the document nests too deeply")
  | fuel + 1 =>
    match tokens with
    | .flowMappingEnd :: rest => pure (.map acc.reverse, rest)
    | _ => do
      let tokens ← if first then pure tokens else
        match tokens with
        | .flowEntry :: rest => pure rest
        | _ => throw (ReadIssue.malformed "expected ',' or the end of a flow mapping")
      match tokens with
      | .key :: rest => do
        let (k, rest) ← if nextIs rest [.value, .flowEntry, .flowMappingEnd] then do
            pure (← addEmpty, rest)
          else parseNode handles fuel false false rest
        let (v, rest) ← match rest with
          | .value :: rest =>
            if nextIs rest [.flowEntry, .flowMappingEnd] then do pure (← addEmpty, rest)
            else parseNode handles fuel false false rest
          | _ => do pure (← addEmpty, rest)
        parseFlowMap handles fuel false rest ((k, v) :: acc)
      | .flowMappingEnd :: rest => pure (.map acc.reverse, rest)
      | _ => do
        let (k, rest) ← parseNode handles fuel false false tokens
        let v ← addEmpty
        parseFlowMap handles fuel false rest ((k, v) :: acc)

end

def skipDocumentEnds : List Token → List Token
  | .documentEnd :: rest => skipDocumentEnds rest
  | tokens => tokens

/-- The directives before a document and the tokens after them: the handles they define, with
the default handles they leave alone. A second `%YAML`, a version other than 1.x and a handle
defined twice are errors. -/
def readDirectives (tokens : List Token) : Except ReadIssue (Handles × List Token) :=
  go tokens false []
where
  go : List Token → Bool → Handles → Except ReadIssue (Handles × List Token)
    | .directive (.version major _) :: rest, versioned, declared =>
      if versioned then .error (ReadIssue.malformed "found duplicate YAML directive")
      else if major != 1 then .error (ReadIssue.malformed "found incompatible YAML document (version 1.* is required)")
      else go rest true declared
    | .directive (.tagHandle h pfx) :: rest, versioned, declared =>
      if declared.any (·.1 == h) then .error (.malformed ("duplicate tag handle " ++ h))
      else go rest versioned (declared ++ [(h, pfx)])
    | .directive .other :: rest, versioned, declared => go rest versioned declared
    | rest, _, declared =>
      .ok (declared ++ defaultHandles.filter (fun (h, _) => !declared.any (·.1 == h)), rest)

/-- The state before the first node, with `room` calls left for reading nodes: no nodes, no
anchors, no enclosing collection. -/
def Composing.start (room : Nat) : Composing := ⟨#[], [], [], room⟩

/-- The single document of a token stream, read with `room` calls left for reading its nodes:
`none` for a stream without one. -/
def parseStream (room : Nat) (tokens : List Token) : Except ReadIssue (Option Graph) := do
  let fuel := 2 * tokens.length + 2
  let (doc, rest) ← match tokens with
    | .streamEnd :: _ => pure (none, tokens)
    | .directive _ :: _ | .documentStart :: _ => do
      let (handles, rest) ← readDirectives tokens
      match rest with
      | .documentStart :: rest =>
        if nextIs rest [.documentStart, .documentEnd, .streamEnd] ||
            (match rest with
             | .directive _ :: _ => true
             | _ => false) then
          pure (some ⟨#[Node.empty], 0⟩, rest)
        else do
          let ((root, rest), c) ← (parseNode handles fuel true false rest).run
            (Composing.start room)
          pure (some ⟨c.nodes, root⟩, rest)
      | _ => throw (ReadIssue.malformed "expected '<document start>'")
    | _ => do
      let ((root, rest), c) ← (parseNode defaultHandles fuel true false tokens).run
        (Composing.start room)
      pure (some ⟨c.nodes, root⟩, rest)
  match skipDocumentEnds rest with
  | [.streamEnd] => pure doc
  | _ => throw (ReadIssue.malformed "expected a single document in the stream")

end Courier.Yaml
