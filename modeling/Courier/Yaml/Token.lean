import Courier.Text.CodePoint
import Courier.Text.Utf8
import Courier.CallDepth

/-!
The tokens of a YAML stream and the scanner that produces them. The scanner follows the YAML 1.1
token rules as the common safe loaders apply them: block structure comes from indentation (a
deeper column opens a block, a shallower one closes it), a plain or quoted scalar followed on the
same line by `: ` becomes a key (and may open a block mapping there), tabs may not start a
token, and flow collections ignore indentation. Node properties (an anchor `&name` and a tag
`!suffix`, `!!suffix`, `!handle!suffix` or `!<uri>`), aliases `*name` and the directive lines
`%YAML` and `%TAG` at the start of a line are read as tokens of their own.

All loops run on fuel taken from the length of the remaining text; each step of the main loop
consumes at least one character.
-/

namespace Courier.Yaml

/-- What a directive line says. -/
inductive Directive where
  | version (major minor : Nat)
  | tagHandle (handle pfx : String)
  | other
  deriving Repr, BEq, Inhabited

/-- A token of a YAML stream. -/
inductive Token where
  | documentStart
  | documentEnd
  | streamEnd
  | blockSequenceStart
  | blockMappingStart
  | blockEnd
  | flowSequenceStart
  | flowSequenceEnd
  | flowMappingStart
  | flowMappingEnd
  | blockEntry
  | flowEntry
  | key
  | value
  | scalar (text : String) (plain : Bool)
  | directive (d : Directive)
  | alias (name : String)
  | anchor (name : String)
  | tag (handle : Option String) (suffix : String)
  deriving Repr, BEq, Inhabited

/-- A place where a simple key may start: the number of the token it would precede, whether a
key is required there, and its position. -/
structure KeySpot where
  tokenNumber : Nat
  required : Bool
  index : Nat
  line : Nat
  column : Nat

/-- The state of the scanner. -/
structure Scanner where
  rest : List Char
  left : Nat
  index : Nat
  line : Nat
  column : Nat
  flowLevel : Nat
  indent : Int
  indents : List Int
  allowSimpleKey : Bool
  spots : List (Nat × KeySpot)
  tokens : List Token
  count : Nat

/-- Why a text cannot be read into tokens and nodes. -/
inductive ReadIssue where
  | malformed (reason : String)
  | codeOutOfRange (code : Nat)
  | tooDeep (call : DeepCall)
  deriving Repr, BEq

abbrev Scan := Except ReadIssue

def isBreak (c : Char) : Bool :=
  c == '\n' || c == '\r' || c == '\x85' || c == '\u2028' || c == '\u2029'

def isBreakOrEnd (c : Char) : Bool :=
  c == '\x00' || isBreak c

def isBlankOrEnd (c : Char) : Bool :=
  c == ' ' || c == '\t' || isBreakOrEnd c

def isHexChar (c : Char) : Bool :=
  c.isDigit || ('a' ≤ c && c ≤ 'f') || ('A' ≤ c && c ≤ 'F')

/-- A character of an anchor or alias name, a directive name or a tag handle: an ASCII letter
or digit, `-` or `_`. -/
def isNameChar (c : Char) : Bool :=
  c.isDigit || ('A' ≤ c && c ≤ 'Z') || ('a' ≤ c && c ≤ 'z') || c == '-' || c == '_'

def isUriChar (c : Char) : Bool :=
  isNameChar c || "-;/?:@&=+$,_.!~*'()[]%".contains c

/-- A space, a line break or the end of the text: what may follow a tag or a directive
parameter. -/
def endsParameter (c : Char) : Bool :=
  c == ' ' || isBreakOrEnd c

namespace Scanner

def start (text : List Char) : Scanner :=
  ⟨text, text.length, 0, 0, 0, 0, -1, [], true, [], [], 0⟩

def peek (s : Scanner) (k : Nat) : Char :=
  s.rest.getD k '\x00'

def ahead (s : Scanner) (n : Nat) : String :=
  String.ofList (s.rest.take n)

def step (s : Scanner) : Scanner :=
  match s.rest with
  | [] => s
  | c :: r =>
    let s := { s with rest := r, left := s.left - 1, index := s.index + 1 }
    if c == '\n' || c == '\x85' || c == '\u2028' || c == '\u2029' then
      { s with line := s.line + 1, column := 0 }
    else if c == '\uFEFF' then s
    else { s with column := s.column + 1 }

def skip (s : Scanner) : Nat → Scanner
  | 0 => s
  | n + 1 => s.step.skip n

def emit (s : Scanner) (t : Token) : Scanner :=
  { s with tokens := t :: s.tokens, count := s.count + 1 }

/-- Inserts a token before the token numbered `n`: after the `count - n` tokens that come last. -/
def insertAt (s : Scanner) (n : Nat) (t : Token) : Scanner :=
  let later := s.count - n
  { s with tokens := s.tokens.take later ++ t :: s.tokens.drop later, count := s.count + 1 }

/-- Consumes one line break, giving its normal form (`\n` for CR, LF, CRLF and NEL; the
Unicode separators as they are), or the empty text when there is none. -/
def lineBreak (s : Scanner) : Scanner × String :=
  let c := s.peek 0
  if c == '\r' || c == '\n' || c == '\x85' then
    if c == '\r' && s.peek 1 == '\n' then (s.skip 2, "\n") else (s.skip 1, "\n")
  else if c == '\u2028' || c == '\u2029' then (s.skip 1, c.toString)
  else (s, "")

def skipWhile (s : Scanner) (p : Char → Bool) : Scanner :=
  s.skip (s.rest.takeWhile p).length

/-- Whether a document marker (`---` or `...` followed by a blank) stands here. -/
def atDocumentMarker (s : Scanner) : Bool :=
  (s.ahead 3 == "---" || s.ahead 3 == "...") && isBlankOrEnd (s.peek 3)

/-- Skips spaces, comments and line breaks up to the next token; a line break in block context
allows a simple key again. -/
def toNextToken (s : Scanner) : Nat → Scanner
  | 0 => s
  | fuel + 1 =>
    let s := s.skipWhile (· == ' ')
    let s := if s.peek 0 == '#' then s.skipWhile (fun c => !isBreakOrEnd c) else s
    let (s', br) := s.lineBreak
    if br.isEmpty then s
    else
      let s' := if s'.flowLevel == 0 then { s' with allowSimpleKey := true } else s'
      s'.toNextToken fuel

def spotHere (s : Scanner) : Option KeySpot :=
  (s.spots.find? (·.1 == s.flowLevel)).map (·.2)

/-- Drops spots that can no longer be keys: a simple key ends on its line and within 1024
characters. A required key that cannot come is an error. -/
def dropStaleSpots (s : Scanner) : Scan Scanner := do
  let stale := fun (k : KeySpot) => k.line != s.line || s.index - k.index > 1024
  if s.spots.any (fun (_, k) => stale k && k.required) then
    throw (ReadIssue.malformed "could not find expected ':'")
  return { s with spots := s.spots.filter (fun (_, k) => !stale k) }

/-- Forgets the spot of the current flow level; a required one is an error. -/
def removeSpot (s : Scanner) : Scan Scanner :=
  match s.spotHere with
  | some k =>
    if k.required then throw (ReadIssue.malformed "could not find expected ':'")
    else pure { s with spots := s.spots.filter (·.1 != s.flowLevel) }
  | none => pure s

def saveSpot (s : Scanner) : Scan Scanner := do
  if s.allowSimpleKey then
    let required := s.flowLevel == 0 && s.indent == (s.column : Int)
    let s ← s.removeSpot
    let k : KeySpot := ⟨s.count, required, s.index, s.line, s.column⟩
    return { s with spots := s.spots.filter (·.1 != s.flowLevel) ++ [(s.flowLevel, k)] }
  else return s

/-- Closes the blocks deeper than `column`, one block end each; flow context has none. -/
def unwind (s : Scanner) (column : Int) : Scanner :=
  if s.flowLevel > 0 then s else go s s.indents.length
where
  go (s : Scanner) : Nat → Scanner
    | 0 => s
    | fuel + 1 =>
      if s.indent > column then
        match s.indents with
        | i :: rest => go ({ s with indent := i, indents := rest }.emit .blockEnd) fuel
        | [] => s
      else s

def addIndent (s : Scanner) (column : Int) : Scanner × Bool :=
  if s.indent < column then ({ s with indents := s.indent :: s.indents, indent := column }, true)
  else (s, false)

def openBlock (s : Scanner) (t : Token) : Scanner :=
  match s.addIndent s.column with
  | (s, true) => s.emit t
  | (s, false) => s

def fetchStreamEnd (s : Scanner) : Scan Scanner := do
  let s ← (s.unwind (-1)).removeSpot
  return ({ s with allowSimpleKey := false, spots := [] }).emit .streamEnd

def fetchDocumentMarker (s : Scanner) (t : Token) : Scan Scanner := do
  let s ← (s.unwind (-1)).removeSpot
  return ({ s with allowSimpleKey := false }.skip 3).emit t

/-- Opens a flow collection with `[` or `{`: may start a simple key; one flow level deeper. -/
def fetchFlowStart (s : Scanner) (t : Token) : Scan Scanner := do
  let s ← s.saveSpot
  return ({ s with flowLevel := s.flowLevel + 1, allowSimpleKey := true }.skip 1).emit t

def fetchFlowEnd (s : Scanner) (t : Token) : Scan Scanner := do
  let s ← s.removeSpot
  return ({ s with flowLevel := s.flowLevel - 1, allowSimpleKey := false }.skip 1).emit t

def fetchFlowEntry (s : Scanner) : Scan Scanner := do
  let s ← ({ s with allowSimpleKey := true }).removeSpot
  return (s.skip 1).emit .flowEntry

/-- Starts a block sequence entry with `- `, which may open a block sequence. -/
def fetchBlockEntry (s : Scanner) : Scan Scanner := do
  let s ← if s.flowLevel == 0 then do
      if !s.allowSimpleKey then throw (ReadIssue.malformed "sequence entries are not allowed here")
      pure (s.openBlock .blockSequenceStart)
    else pure s
  let s ← ({ s with allowSimpleKey := true }).removeSpot
  return (s.skip 1).emit .blockEntry

def fetchKey (s : Scanner) : Scan Scanner := do
  let s ← if s.flowLevel == 0 then do
      if !s.allowSimpleKey then throw (ReadIssue.malformed "mapping keys are not allowed here")
      pure (s.openBlock .blockMappingStart)
    else pure s
  let s ← ({ s with allowSimpleKey := s.flowLevel == 0 }).removeSpot
  return (s.skip 1).emit .key

/-- Starts a value with `: ` after a key. A saved spot becomes a simple key: a key token goes in
before it, and in block context a block mapping may open at its column. -/
def fetchValue (s : Scanner) : Scan Scanner := do
  let s ← match s.spotHere with
    | some k =>
      let s := { s with spots := s.spots.filter (·.1 != s.flowLevel) }
      let s := s.insertAt k.tokenNumber .key
      let s := if s.flowLevel == 0 then
          match s.addIndent k.column with
          | (s, true) => s.insertAt k.tokenNumber .blockMappingStart
          | (s, false) => s
        else s
      pure { s with allowSimpleKey := false }
    | none => do
      let s ← if s.flowLevel == 0 then do
          if !s.allowSimpleKey then throw (ReadIssue.malformed "mapping values are not allowed here")
          pure (s.openBlock .blockMappingStart)
        else pure s
      ({ s with allowSimpleKey := s.flowLevel == 0 }).removeSpot
  return (s.skip 1).emit .value

/-- Whether a plain scalar may start here: not at a blank or an indicator, except `-`, and in
block context `?` and `:`, before a character that is not blank. -/
def startsPlain (s : Scanner) : Bool :=
  let c := s.peek 0
  !(isBlankOrEnd c || "-?:,[]{}#&*!|>'\"%@`".contains c) ||
    (!isBlankOrEnd (s.peek 1) && (c == '-' || (s.flowLevel == 0 && (c == '?' || c == ':'))))

end Scanner

/-- The length of the run of plain-scalar characters at the start of `cs`: it stops at a blank,
at `:` before a blank, and in flow context at flow indicators and at `:` before one. -/
def plainLength (flow : Bool) : List Char → Nat
  | [] => 0
  | c :: rest =>
    let next := rest.headD '\x00'
    if isBlankOrEnd c || (c == ':' && (isBlankOrEnd next || (flow && ",[]{}".contains next))) ||
        (flow && ",?[]{}".contains c) then 0
    else plainLength flow rest + 1

namespace Scanner

/-- Skips spaces and line breaks inside a plain scalar. Gives the text that joins the next
part: the spaces on one line; a space for one line break, the breaks themselves for more. A
document marker ends the scalar (`none`). -/
def plainSpaces (s : Scanner) : Scanner × Option (List String) :=
  let spaces := String.ofList (s.rest.takeWhile (· == ' '))
  let s := s.skipWhile (· == ' ')
  if isBreak (s.peek 0) then
    let (s, br) := s.lineBreak
    let s := { s with allowSimpleKey := true }
    if s.atDocumentMarker then (s, none)
    else
      match breaks s [] s.left with
      | (s, none) => (s, none)
      | (s, some more) =>
        let joined := if br != "\n" then [br] else if more.isEmpty then [" "] else []
        (s, some (joined ++ more))
  else (s, some (if spaces.isEmpty then [] else [spaces]))
where
  breaks (s : Scanner) (acc : List String) : Nat → Scanner × Option (List String)
    | 0 => (s, some acc)
    | fuel + 1 =>
      let c := s.peek 0
      if c == ' ' then breaks s.step acc fuel
      else if isBreak c then
        let (s, br) := s.lineBreak
        if s.atDocumentMarker then (s, none) else breaks s (acc ++ [br]) fuel
      else (s, some acc)

/-- Scans a plain scalar. It may run over several lines while they are indented deeper than
the current block; a comment or a shallower line ends it. -/
def scanPlain (s : Scanner) : Scanner × String :=
  let indent := s.indent + 1
  let (s, chunks) := go indent s [] [] (s.left + 1)
  (s, String.join chunks)
where
  go (indent : Int) (s : Scanner) (chunks spaces : List String) :
      Nat → Scanner × List String
    | 0 => (s, chunks)
    | fuel + 1 =>
      if s.peek 0 == '#' then (s, chunks) else
      let length := plainLength (s.flowLevel > 0) s.rest
      if length == 0 then (s, chunks) else
      let chunks := chunks ++ spaces ++ [s.ahead length]
      let s := ({ s with allowSimpleKey := false }).skip length
      match s.plainSpaces with
      | (s, none) => (s, chunks)
      | (s, some more) =>
        if more.isEmpty || s.peek 0 == '#' || (s.flowLevel == 0 && (s.column : Int) < indent) then
          (s, chunks)
        else go indent s chunks more fuel

/-- The character a one-letter escape of a double-quoted scalar stands for. -/
def escapeOf (c : Char) : Option Char :=
  match c with
  | '0' => some '\x00'
  | 'a' => some '\x07'
  | 'b' => some '\x08'
  | 't' => some '\t'
  | '\t' => some '\t'
  | 'n' => some '\n'
  | 'v' => some '\x0b'
  | 'f' => some '\x0c'
  | 'r' => some '\r'
  | 'e' => some '\x1b'
  | ' ' => some ' '
  | '"' => some '"'
  | '\\' => some '\\'
  | '/' => some '/'
  | 'N' => some '\x85'
  | '_' => some '\xa0'
  | 'L' => some '\u2028'
  | 'P' => some '\u2029'
  | _ => none

/-- The number of hexadecimal digits after `\x`, `\u` and `\U`. -/
def escapeWidth (c : Char) : Option Nat :=
  match c with
  | 'x' => some 2
  | 'u' => some 4
  | 'U' => some 8
  | _ => none

def hexValue (cs : List Char) : Nat :=
  cs.foldl (fun acc c =>
    acc * 16 + (if c.isDigit then c.toNat - 48 else if c ≤ 'F' then c.toNat - 55 else c.toNat - 87)) 0

/-- Line breaks inside a quoted scalar, with the blanks around them; a document marker there
is an error. -/
def quotedBreaks (s : Scanner) (acc : List String) : Nat → Scan (Scanner × List String)
  | 0 => pure (s, acc)
  | fuel + 1 => do
    if s.atDocumentMarker then throw (ReadIssue.malformed "found unexpected document separator")
    let s := s.skipWhile (fun c => c == ' ' || c == '\t')
    if isBreak (s.peek 0) then
      let (s, br) := s.lineBreak
      quotedBreaks s (acc ++ [br]) fuel
    else pure (s, acc)

/-- The text of a quoted scalar up to the next blank or the closing quote. -/
def quotedText (double : Bool) (s : Scanner) (acc : List String) :
    Nat → Scan (Scanner × List String)
  | 0 => pure (s, acc)
  | fuel + 1 => do
    let run := s.rest.takeWhile (fun c => !("'\"\\".contains c || isBlankOrEnd c))
    let (s, acc) := if run.isEmpty then (s, acc) else (s.skip run.length, acc ++ [String.ofList run])
    let c := s.peek 0
    if !double && c == '\'' && s.peek 1 == '\'' then quotedText double (s.skip 2) (acc ++ ["'"]) fuel
    else if (double && c == '\'') || (!double && (c == '"' || c == '\\')) then
      quotedText double (s.skip 1) (acc ++ [c.toString]) fuel
    else if double && c == '\\' then
      let s := s.skip 1
      let e := s.peek 0
      match escapeOf e, escapeWidth e with
      | some r, _ => quotedText double (s.skip 1) (acc ++ [r.toString]) fuel
      | none, some width =>
        let s := s.skip 1
        let digits := s.rest.take width
        if digits.length < width || !digits.all isHexChar then
          throw (ReadIssue.malformed "expected escape sequence of hexadecimal numbers")
        let code := hexValue digits
        if code ≥ 0x110000 then throw (ReadIssue.codeOutOfRange code)
        quotedText double (s.skip width) (acc ++ [String.ofList (Text.ofCodeUnit code)]) fuel
      | none, none =>
        if isBreak e then
          let (s, _) := s.lineBreak
          let (s, more) ← quotedBreaks s [] s.left
          quotedText double s (acc ++ more) fuel
        else throw (ReadIssue.malformed "found unknown escape character")
    else pure (s, acc)

/-- Blanks inside a quoted scalar: kept on one line; a line break folds to a space, several
keep all but the first. -/
def quotedSpaces (s : Scanner) : Scan (Scanner × List String) := do
  let blanks := String.ofList (s.rest.takeWhile (fun c => c == ' ' || c == '\t'))
  let s := s.skipWhile (fun c => c == ' ' || c == '\t')
  let c := s.peek 0
  if s.rest.isEmpty then throw (ReadIssue.malformed "found unexpected end of stream")
  else if isBreak c then
    let (s, br) := s.lineBreak
    let (s, more) ← quotedBreaks s [] s.left
    let joined := if br != "\n" then [br] else if more.isEmpty then [" "] else []
    pure (s, joined ++ more)
  else pure (s, [blanks])

def scanQuoted (s : Scanner) (double : Bool) : Scan (Scanner × String) := do
  let quote := s.peek 0
  let (s, acc) ← quotedText double (s.skip 1) [] s.left
  let (s, acc) ← go quote s acc (s.left + 1)
  pure (s.skip 1, String.join acc)
where
  go (quote : Char) (s : Scanner) (acc : List String) : Nat → Scan (Scanner × List String)
    | 0 => throw (ReadIssue.malformed "found unexpected end of stream")
    | fuel + 1 => do
      if s.peek 0 == quote then pure (s, acc)
      else
        let (s, more) ← s.quotedSpaces
        let (s, acc) ← quotedText double s (acc ++ more) s.left
        go quote s acc fuel

/-- The indicators after `|` or `>`: chomping (`+` keep, `-` strip) and an indentation
digit from 1 to 9, in either order; then only blanks, a comment and a line break. -/
def blockHeader (s : Scanner) : Scan (Scanner × Option Bool × Option Nat) := do
  let digitOf := fun (c : Char) => if c.isDigit then some (c.toNat - 48) else none
  let (s, chomp, inc) ← match s.peek 0 with
    | '+' | '-' =>
      let chomp := some (s.peek 0 == '+')
      let s := s.skip 1
      match digitOf (s.peek 0) with
      | some 0 => throw (ReadIssue.malformed "expected indentation indicator in the range 1-9")
      | some d => pure (s.skip 1, chomp, some d)
      | none => pure (s, chomp, none)
    | c =>
      match digitOf c with
      | some 0 => throw (ReadIssue.malformed "expected indentation indicator in the range 1-9")
      | some d =>
        let s := s.skip 1
        match s.peek 0 with
        | '+' => pure (s.skip 1, some true, some d)
        | '-' => pure (s.skip 1, some false, some d)
        | _ => pure (s, none, some d)
      | none => pure (s, none, none)
  let c := s.peek 0
  if !(c == ' ' || isBreakOrEnd c) then throw (ReadIssue.malformed "expected chomping or indentation indicators")
  let s := s.skipWhile (· == ' ')
  let s := if s.peek 0 == '#' then s.skipWhile (fun c => !isBreakOrEnd c) else s
  if !isBreakOrEnd (s.peek 0) then throw (ReadIssue.malformed "expected a comment or a line break")
  pure (s.lineBreak.1, chomp, inc)

/-- Leading empty lines of a block scalar and the deepest indentation among them. -/
def blockIndentation (s : Scanner) (acc : List String) (deepest : Nat) :
    Nat → Scanner × List String × Nat
  | 0 => (s, acc, deepest)
  | fuel + 1 =>
    let c := s.peek 0
    if c == ' ' then
      let s := s.step
      blockIndentation s acc (max deepest s.column) fuel
    else if isBreak c then
      let (s, br) := s.lineBreak
      blockIndentation s (acc ++ [br]) deepest fuel
    else (s, acc, deepest)

/-- Line breaks inside a block scalar, skipping the indentation up to `indent`. -/
def blockBreaks (s : Scanner) (indent : Nat) (acc : List String) :
    Nat → Scanner × List String
  | 0 => (s, acc)
  | fuel + 1 =>
    let s := s.skip ((s.rest.takeWhile (· == ' ')).length.min (indent - s.column))
    if isBreak (s.peek 0) then
      let (s, br) := s.lineBreak
      blockBreaks s indent (acc ++ [br]) fuel
    else (s, acc)

def scanBlock (s : Scanner) (folded : Bool) : Scan (Scanner × String) := do
  let (s, chomp, inc) ← blockHeader (s.skip 1)
  let least : Int := max (s.indent + 1) 1
  let (s, breaks0, indent) := match inc with
    | none =>
      let (s, brs, deepest) := blockIndentation s [] 0 s.left
      (s, brs, (max least (deepest : Int)).toNat)
    | some d =>
      let indent := (least + d - 1).toNat
      let (s, brs) := blockBreaks s indent [] s.left
      (s, brs, indent)
  let (s, chunks, lastBreak, breaks) := lines indent s [] "" breaks0 (s.left + 1)
  let chunks := if chomp != some false then chunks ++ [lastBreak] else chunks
  let chunks := if chomp == some true then chunks ++ breaks else chunks
  pure (s, String.join chunks)
where
  lines (indent : Nat) (s : Scanner) (chunks : List String) (lastBreak : String)
      (breaks : List String) : Nat → Scanner × List String × String × List String
    | 0 => (s, chunks, lastBreak, breaks)
    | fuel + 1 =>
      if s.column == indent && !s.rest.isEmpty then
        let chunks := chunks ++ breaks
        let leadingNonSpace := !(s.peek 0 == ' ' || s.peek 0 == '\t')
        let text := s.rest.takeWhile (fun c => !isBreakOrEnd c)
        let chunks := chunks ++ [String.ofList text]
        let s := s.skip text.length
        let (s, br) := s.lineBreak
        let (s, breaks) := blockBreaks s indent [] s.left
        if s.column == indent && !s.rest.isEmpty then
          let chunks :=
            if folded && br == "\n" && leadingNonSpace && !(s.peek 0 == ' ' || s.peek 0 == '\t')
            then (if breaks.isEmpty then chunks ++ [" "] else chunks)
            else chunks ++ [br]
          lines indent s chunks br breaks fuel
        else (s, chunks, br, breaks)
      else (s, chunks, lastBreak, breaks)

/-- The name after `&` or `*`, which must be followed by a blank, a line break, one of
`? : , ] % @`, a closing brace or a backtick. -/
def scanAnchorName (s : Scanner) : Scan (Scanner × String) := do
  let s := s.skip 1
  let name := s.rest.takeWhile isNameChar
  if name.isEmpty then throw (ReadIssue.malformed "expected alphabetic or numeric character")
  let s := s.skip name.length
  let c := s.peek 0
  if !(isBlankOrEnd c || "?:,]\x7d%@`".contains c) then
    throw (ReadIssue.malformed "expected alphabetic or numeric character")
  pure (s, String.ofList name)

/-- A tag handle: `!` before a space, `!!`, or `!name!`. -/
def scanTagHandle (s : Scanner) : Scan (Scanner × String) := do
  if s.peek 0 != '!' then throw (ReadIssue.malformed "expected '!'")
  if s.peek 1 == ' ' then pure (s.skip 1, "!")
  else
    let name := (s.rest.drop 1).takeWhile isNameChar
    if s.peek (name.length + 1) != '!' then throw (ReadIssue.malformed "expected '!'")
    pure (s.skip (name.length + 2), "!" ++ String.ofList name ++ "!")

def scanUriEscapes (s : Scanner) : Scan (Scanner × String) :=
  go s [] (s.left + 1)
where
  go (s : Scanner) (bytes : List UInt8) : Nat → Scan (Scanner × String)
    | 0 => throw (ReadIssue.malformed "expected URI escape sequence of 2 hexadecimal numbers")
    | fuel + 1 => do
      if s.peek 0 == '%' then
        let digits := [s.peek 1, s.peek 2]
        if !digits.all isHexChar then throw (ReadIssue.malformed "expected URI escape sequence of 2 hexadecimal numbers")
        go (s.skip 3) (bytes ++ [(hexValue digits).toUInt8]) fuel
      else
        match Text.textOfBytes? bytes with
        | some text => pure (s, text)
        | none => throw (ReadIssue.malformed "invalid UTF-8 in a URI escape")

/-- A tag URI: URI characters, `%` escapes decoded; it may not be empty. -/
def scanTagUri (s : Scanner) : Scan (Scanner × String) := do
  let (s, chunks) ← go s [] (s.left + 1)
  if chunks.isEmpty then throw (ReadIssue.malformed "expected URI")
  pure (s, String.join chunks)
where
  go (s : Scanner) (chunks : List String) : Nat → Scan (Scanner × List String)
    | 0 => pure (s, chunks)
    | fuel + 1 => do
      let run := s.rest.takeWhile fun c => isUriChar c && c != '%'
      let (s, chunks) := if run.isEmpty then (s, chunks)
        else (s.skip run.length, chunks ++ [String.ofList run])
      if s.peek 0 == '%' then
        let (s, text) ← s.scanUriEscapes
        go s (chunks ++ [text]) fuel
      else pure (s, chunks)

/-- A tag: verbatim `!<uri>`, the lone `!`, a handle with a suffix, or `!` with a suffix. A
second `!` before the next space or line break means a handle. A space, a line break or the
end must follow. -/
def scanTag (s : Scanner) : Scan (Scanner × Token) := do
  let next := s.peek 1
  let (s, handle, suffix) ←
    if next == '<' then do
      let (s, suffix) ← (s.skip 2).scanTagUri
      if s.peek 0 != '>' then throw (ReadIssue.malformed "expected '>'")
      pure (s.skip 1, none, suffix)
    else if isBlankOrEnd next then pure (s.skip 1, none, "!")
    else if ((s.rest.drop 1).takeWhile (fun c => !endsParameter c)).contains '!' then do
      let (s, handle) ← s.scanTagHandle
      let (s, suffix) ← s.scanTagUri
      pure (s, some handle, suffix)
    else do
      let (s, suffix) ← (s.skip 1).scanTagUri
      pure (s, some "!", suffix)
  if !endsParameter (s.peek 0) then throw (ReadIssue.malformed "expected ' '")
  pure (s, .tag handle suffix)

def scanVersionNumber (s : Scanner) : Scan (Scanner × Nat) := do
  let ds := s.rest.takeWhile Char.isDigit
  if ds.isEmpty then throw (ReadIssue.malformed "expected a digit")
  pure (s.skip ds.length, ds.foldl (fun acc d => acc * 10 + (d.toNat - 48)) 0)

/-- A directive line after its `%`: the name, the parameters of `%YAML` and `%TAG`, then only
blanks and a comment up to the line break. -/
def scanDirective (s : Scanner) : Scan (Scanner × Token) := do
  let s := s.skip 1
  let name := s.rest.takeWhile isNameChar
  if name.isEmpty then throw (ReadIssue.malformed "expected alphabetic or numeric character")
  let s := s.skip name.length
  if !endsParameter (s.peek 0) then throw (ReadIssue.malformed "expected alphabetic or numeric character")
  let (s, d) ← match String.ofList name with
    | "YAML" => do
      let (s, major) ← (s.skipWhile (· == ' ')).scanVersionNumber
      if s.peek 0 != '.' then throw (ReadIssue.malformed "expected a digit or '.'")
      let (s, minor) ← (s.skip 1).scanVersionNumber
      if !endsParameter (s.peek 0) then throw (ReadIssue.malformed "expected a digit or ' '")
      pure (s, Directive.version major minor)
    | "TAG" => do
      let (s, handle) ← (s.skipWhile (· == ' ')).scanTagHandle
      if s.peek 0 != ' ' then throw (ReadIssue.malformed "expected ' '")
      let (s, pfx) ← (s.skipWhile (· == ' ')).scanTagUri
      if !endsParameter (s.peek 0) then throw (ReadIssue.malformed "expected ' '")
      pure (s, Directive.tagHandle handle pfx)
    | _ => pure (s.skipWhile (fun c => !isBreakOrEnd c), Directive.other)
  let s := s.skipWhile (· == ' ')
  let s := if s.peek 0 == '#' then s.skipWhile (fun c => !isBreakOrEnd c) else s
  if !isBreakOrEnd (s.peek 0) then throw (ReadIssue.malformed "expected a comment or a line break")
  pure ((s.lineBreak).1, .directive d)

def fetchDirective (s : Scanner) : Scan Scanner := do
  let s ← (s.unwind (-1)).removeSpot
  let (s, t) ← ({ s with allowSimpleKey := false }).scanDirective
  pure (s.emit t)

def fetchAnchorOrAlias (s : Scanner) (isAlias : Bool) : Scan Scanner := do
  let s ← s.saveSpot
  let (s, name) ← ({ s with allowSimpleKey := false }).scanAnchorName
  pure (s.emit (if isAlias then .alias name else .anchor name))

def fetchTag (s : Scanner) : Scan Scanner := do
  let s ← s.saveSpot
  let (s, t) ← ({ s with allowSimpleKey := false }).scanTag
  pure (s.emit t)

def fetch (s : Scanner) : Scan Scanner := do
  let s := s.toNextToken (s.left + 1)
  let s ← s.dropStaleSpots
  let s := s.unwind s.column
  let c := s.peek 0
  if s.rest.isEmpty then s.fetchStreamEnd
  else if c == '%' && s.column == 0 then s.fetchDirective
  else if c == '-' && s.column == 0 && s.ahead 3 == "---" && isBlankOrEnd (s.peek 3) then
    s.fetchDocumentMarker .documentStart
  else if c == '.' && s.column == 0 && s.ahead 3 == "..." && isBlankOrEnd (s.peek 3) then
    s.fetchDocumentMarker .documentEnd
  else if c == '[' then s.fetchFlowStart .flowSequenceStart
  else if c == '{' then s.fetchFlowStart .flowMappingStart
  else if c == ']' then s.fetchFlowEnd .flowSequenceEnd
  else if c == '}' then s.fetchFlowEnd .flowMappingEnd
  else if c == ',' then s.fetchFlowEntry
  else if c == '-' && isBlankOrEnd (s.peek 1) then s.fetchBlockEntry
  else if c == '?' && (s.flowLevel > 0 || isBlankOrEnd (s.peek 1)) then s.fetchKey
  else if c == ':' && (s.flowLevel > 0 || isBlankOrEnd (s.peek 1)) then s.fetchValue
  else if c == '*' || c == '&' then s.fetchAnchorOrAlias (c == '*')
  else if c == '!' then s.fetchTag
  else if (c == '|' || c == '>') && s.flowLevel == 0 then do
    let s ← ({ s with allowSimpleKey := true }).removeSpot
    let (s, text) ← s.scanBlock (c == '>')
    pure (s.emit (.scalar text false))
  else if c == '\'' || c == '"' then do
    let s ← s.saveSpot
    let (s, text) ← ({ s with allowSimpleKey := false }).scanQuoted (c == '"')
    pure (s.emit (.scalar text false))
  else if s.startsPlain then do
    let s ← s.saveSpot
    let (s, text) := ({ s with allowSimpleKey := false }).scanPlain
    pure (s.emit (.scalar text true))
  else throw (ReadIssue.malformed ("found character " ++ c.toString ++ " that cannot start any token"))

def run (s : Scanner) : Nat → Scan (List Token)
  | 0 => throw (ReadIssue.malformed "the scanner did not finish")
  | fuel + 1 => do
    let s ← s.fetch
    if s.tokens.head? == some .streamEnd then pure s.tokens.reverse else s.run fuel

end Scanner

/-- Characters a YAML stream may hold: tab, line feed, carriage return, printable ASCII, NEL,
and the printable rest of Unicode (no surrogates, no U+FFFE or U+FFFF). -/
def isStreamChar (c : Char) : Bool :=
  let n := c.toNat
  n == 0x09 || n == 0x0A || n == 0x0D || (0x20 ≤ n && n ≤ 0x7E) || n == 0x85 ||
    (0xA0 ≤ n && n ≤ 0xD7FF) || (0xE000 ≤ n && n ≤ 0xFFFD) || (0x10000 ≤ n && n ≤ 0x10FFFF)

/-- Line breaks as a file read in text mode gives them: CRLF and lone CR become LF. -/
def normalizeBreaks : List Char → List Char
  | [] => []
  | '\r' :: '\n' :: rest => '\n' :: normalizeBreaks rest
  | '\r' :: rest => '\n' :: normalizeBreaks rest
  | c :: rest => c :: normalizeBreaks rest

/-- The tokens of a stream, ending with the stream end; a byte order mark at the start is
skipped. -/
def tokenize (text : String) : Scan (List Token) := do
  let cs := normalizeBreaks text.toList
  let streamPoint : Text.CodePoint → Bool
    | .char c => isStreamChar c
    | .surrogate _ => false
  if !(Text.codePoints cs).all streamPoint then throw (ReadIssue.malformed "special characters are not allowed")
  let s := Scanner.start cs
  let s := if s.peek 0 == '\uFEFF' then s.step else s
  s.run (cs.length + 2)

end Courier.Yaml
