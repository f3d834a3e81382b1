/-! # Tokens of a YAML text

A text is cut into tokens: indicators, properties, scalars, and the spaces, newlines and comments
between them.  Nothing is thrown away, so every later decision about spacing and indentation can be
made on the tokens alone; each of them knows the indentation of its line up to where it starts.

What a character means depends on where it stands.  The scan remembers whether it is between
documents, in a block or in a flow collection, how deep lines have to be indented to continue a
scalar, and whether a colon right after a flow item separates a key from its value.
-/

namespace ConsoleHarness.Yaml

/-- The kinds of tokens. -/
inductive Kind where
  | byteOrderMark
  /-- A document begins without a marker. -/
  | documentMode
  | documentStart
  | documentEnd
  /-- A flow collection is cut off by a line that is indented too little. -/
  | flowCutOff
  | newline
  | space
  | comment
  | directive
  | itemMark
  | keyMark
  | valueMark
  | mapOpen
  | mapClose
  | seqOpen
  | seqClose
  | comma
  | alias
  | anchor
  | tag
  | singleQuoted
  | doubleQuoted
  | blockHeader
  | blockBody
  | plain
  /-- Something that is no token. -/
  | stray
  deriving DecidableEq, Repr, Inhabited

/-- A token, the indentation before it, and its place in the text. -/
structure Token where
  kind : Kind
  text : String
  indent : Nat := 0
  offset : Nat := 0
  deriving DecidableEq, Repr, Inhabited

/-! ## Characters -/

/-- White space or the end of the text. -/
def isGap : Option Char → Bool
  | none => true
  | some c => c == ' ' || c == '\n' || c == '\r' || c == '\t'

def isSpace (c : Char) : Bool := c == ' '
def isSpaceOrTab (c : Char) : Bool := c == ' ' || c == '\t'

/-- The characters that structure a flow collection. -/
def isFlowMark (c : Char) : Bool := c == ',' || c == '[' || c == ']' || c == '{' || c == '}'

/-- The same for what may be the end of the text. -/
def isFlowMark? : Option Char → Bool
  | none => false
  | some c => isFlowMark c

/-- The characters of an anchor or alias name. -/
def isNameChar (c : Char) : Bool := !isFlowMark c && !isGap (some c)

def isHexDigit (c : Char) : Bool :=
  c.isDigit || ('a' ≤ c && c ≤ 'f') || ('A' ≤ c && c ≤ 'F')

/-- The characters that stand for themselves in a tag. -/
def isTagChar (c : Char) : Bool :=
  c.isAlphanum || "-#;/?:@&=+$_.!~*'()".toList.contains c

/-! ## Looking ahead -/

/-- The first place from `i` on whose character is not in a class. -/
def skipWhile (src : Array Char) (inClass : Char → Bool) (i : Nat) : Nat :=
  if h : i < src.size then
    if inClass src[i] then skipWhile src inClass (i + 1) else i
  else i
  termination_by src.size - i

/-- The place of the next occurrence of a character. -/
def findFrom (src : Array Char) (c : Char) (i : Nat) : Option Nat :=
  let found := skipWhile src (· != c) i
  if found < src.size then some found else none

/-- The text between two places. -/
def slice (src : Array Char) (start stop : Nat) : String :=
  String.ofList (src.extract start stop).toList

/-- The end of a line, before its newline. -/
def lineStop (src : Array Char) (i : Nat) : Nat :=
  let stop := skipWhile src (· != '\n') i
  if stop < src.size && i < stop && src[stop - 1]? == some '\r' then stop - 1 else stop

/-- Whether nothing but spaces and a comment is left of a line. -/
def atLineEnd (src : Array Char) (i : Nat) : Bool :=
  let j := skipWhile src isSpaceOrTab i
  match src[j]? with
  | none | some '#' | some '\n' => true
  | some '\r' => src[j + 1]? == some '\n'
  | some _ => false

/-- Whether a document marker stands at a place. -/
def isMarker (src : Array Char) (i : Nat) : Bool :=
  let marker := slice src i (i + 3)
  (marker == "---" || marker == "...") && isGap src[i + 3]?

/-- Where a scalar goes on in the line that starts at `i`, if it does: lines have to be indented by
`least`, and at the top level a document marker ends the scalar. -/
def continueAt? (src : Array Char) (least i : Nat) : Option Nat :=
  if 0 < least then
    let j := skipWhile src isSpace i
    if src[j]? == some '\r' && src[j + 1]? == some '\n' then some (j + 1)
    else if src[j]? == some '\n' || least ≤ j - i then some j
    else none
  else if isMarker src i then none
  else some i

/-- The end of a plain scalar: `stop` is the end of what belongs to it so far. -/
def plainStop (src : Array Char) (inFlow : Bool) (least i stop : Nat) : Nat :=
  if h : i < src.size then
    let c := src[i]
    if c == ':' then
      let next := src[i + 1]?
      if isGap next || (inFlow && isFlowMark? next) then stop
      else plainStop src inFlow least (i + 1) (i + 1)
    else if isGap (some c) then
      let crlf := c == '\r' && src[i + 1]? == some '\n'
      let last := if crlf then i + 1 else i
      let stop := if c == '\r' && !crlf then i + 1 else stop
      let next := src[last + 1]?
      if next == some '#' || (inFlow && isFlowMark? next) then stop
      else if c == '\n' || crlf then
        match continueAt? src least (last + 1) with
        | none => stop
        | some goOn =>
          -- The character before the next word is looked at again: a comment may follow it.
          plainStop src inFlow least (max last (goOn - 2) + 1) stop
      else plainStop src inFlow least (last + 1) stop
    else if inFlow && isFlowMark c then stop
    else plainStop src inFlow least (i + 1) (i + 1)
  else stop
  termination_by src.size - i
  decreasing_by all_goals grind

/-- The end of a single-quoted scalar, after its closing quote. -/
def singleStop? (src : Array Char) : Nat → Nat → Option Nat
  | 0, _ => none
  | fuel + 1, i =>
    match findFrom src '\'' i with
    | none => none
    | some found =>
      if src[found + 1]? == some '\'' then singleStop? src fuel (found + 2) else some found

/-- How many backslashes stand right before a place. -/
def backslashesBefore (src : Array Char) : Nat → Nat
  | 0 => 0
  | i + 1 => if src[i]? == some '\\' then backslashesBefore src i + 1 else 0

/-- The place of the closing quote of a double-quoted scalar. -/
def doubleStop? (src : Array Char) : Nat → Nat → Option Nat
  | 0, _ => none
  | fuel + 1, i =>
    match findFrom src '"' i with
    | none => none
    | some found =>
      if backslashesBefore src found % 2 = 0 then some found
      else doubleStop? src fuel (found + 1)

/-- The first newline of a quoted scalar after which the scalar does not go on. -/
def brokenLine? (src : Array Char) (least stop : Nat) : Nat → Nat → Option Nat
  | 0, _ => none
  | fuel + 1, i =>
    match findFrom src '\n' i with
    | none => none
    | some newline =>
      if stop ≤ newline then none
      else
        match continueAt? src least (newline + 1) with
        | none => some newline
        | some goOn => brokenLine? src least stop fuel goOn

/-- The last newline of the lines of a block scalar that are indented enough, or the end of the
text. -/
def blockStop (src : Array Char) (least : Nat) : Nat → Nat → Nat
  | 0, newline => newline
  | fuel + 1, newline =>
    match continueAt? src least (newline + 1) with
    | none => newline
    | some goOn =>
      match findFrom src '\n' goOn with
      | none => src.size
      | some next => blockStop src least fuel next

/-- The indentation of the first line of a block scalar that is not empty, from `i` on. -/
def firstIndent (src : Array Char) (i indent : Nat) : Nat × Option Nat :=
  if h : i < src.size then
    let c := src[i]
    if c == ' ' then firstIndent src (i + 1) (indent + 1)
    else if c == '\n' then
      let (found, newline) := firstIndent src (i + 1) 0
      (found, newline <|> some i)
    else if c == '\r' && src[i + 1]? == some '\n' then firstIndent src (i + 1) indent
    else (indent, none)
  else (indent, none)
  termination_by src.size - i

/-- Drops empty lines at the end of a block scalar that are not indented more than its text. -/
def dropEmptyLines (src : Array Char) (start indent : Nat) : Nat → Nat → Nat
  | 0, newline => newline
  | fuel + 1, newline =>
    if newline = 0 then newline
    else
      let before := newline - 1
      let last := if src[before]? == some '\r' then before - 1 else before
      let blanks := ((List.range (last + 1)).reverse.takeWhile fun k => src[k]? == some ' ').length
      if blanks ≤ last then
        let i := last - blanks
        if src[i]? == some '\n' && start ≤ i && last < i + 1 + indent then
          dropEmptyLines src start indent fuel i
        else newline
      else newline

/-! ## The scan -/

/-- What the next token may be. -/
inductive Place where
  | between
  | block
  | flow
  deriving DecidableEq, Repr

/-- The state of a scan. -/
structure Scan where
  pos : Nat := 0
  /-- The tokens so far, newest first. -/
  tokens : List Token := []
  atNewLine : Bool := true
  lineIndent : Nat := 0
  /-- The indentation of the current line, with its indicators. -/
  column : Nat := 0
  /-- How deep a line has to be indented to continue a scalar. -/
  least : Nat := 0
  depth : Nat := 0
  /-- A colon may follow without a space after it. -/
  afterFlowKey : Bool := false
  deriving Repr, Inhabited

namespace Scan

/-- Takes the next characters as a token. -/
def push (s : Scan) (src : Array Char) (kind : Kind) (count : Nat) : Scan :=
  let token : Token := ⟨kind, slice src s.pos (s.pos + count), s.lineIndent, s.pos⟩
  let (atNewLine, lineIndent) :=
    match kind with
    | .newline | .blockBody => (true, 0)
    | .space =>
      (s.atNewLine,
        if s.atNewLine && src[s.pos]? == some ' ' then s.lineIndent + count else s.lineIndent)
    | .keyMark | .valueMark | .itemMark =>
      (s.atNewLine, if s.atNewLine then s.lineIndent + count else s.lineIndent)
    | .documentMode | .flowCutOff => (s.atNewLine, s.lineIndent)
    | _ => (false, s.lineIndent)
  { s with tokens := token :: s.tokens, pos := s.pos + count, atNewLine, lineIndent }

/-- Takes characters as a token, unless there are none. -/
def pushSome (s : Scan) (src : Array Char) (kind : Kind) (count : Nat) : Scan :=
  if count = 0 then s else s.push src kind count

/-- Takes spaces; the number of spaces taken comes with the scan. -/
def pushSpaces (s : Scan) (src : Array Char) (tabs : Bool) : Scan × Nat :=
  let stop := skipWhile src (if tabs then isSpaceOrTab else isSpace) s.pos
  (s.pushSome src .space (stop - s.pos), stop - s.pos)

/-- Takes spaces and tabs. -/
def pushBlanks (s : Scan) (src : Array Char) : Scan := (s.pushSpaces src true).1

/-- Takes a newline, if one is next. -/
def pushNewline (s : Scan) (src : Array Char) : Scan :=
  if src[s.pos]? == some '\n' then s.push src .newline 1
  else if src[s.pos]? == some '\r' && src[s.pos + 1]? == some '\n' then s.push src .newline 2
  else s

/-- Takes the rest of a line that should be a comment. -/
def pushComment (s : Scan) (src : Array Char) : Scan :=
  let count := lineStop src s.pos - s.pos
  s.pushSome src (if src[s.pos]? == some '#' then .comment else .stray) count

/-- The end of the name that starts at a place. -/
def nameStop (src : Array Char) (i : Nat) : Nat := skipWhile src isNameChar i

/-- The end of the tag characters from a place on. -/
def tagCharsStop (src : Array Char) : Nat → Nat → Nat
  | 0, i => i
  | fuel + 1, i =>
    match src[i]? with
    | none => i
    | some c =>
      if isTagChar c then tagCharsStop src fuel (i + 1)
      else if c == '%' && (src[i + 1]?.any isHexDigit) && (src[i + 2]?.any isHexDigit) then
        tagCharsStop src fuel (i + 3)
      else i

/-- The end of the tag that starts at a place. -/
def tagStop (src : Array Char) (i : Nat) : Nat :=
  if src[i + 1]? == some '<' then
    let stop := skipWhile src (fun c => !isGap (some c) && c != '>') (i + 2)
    if src[stop]? == some '>' then stop + 1 else stop
  else tagCharsStop src src.size (i + 1)

/-- Takes tags, anchors and indicators, with the spaces after them. -/
def pushProperties (src : Array Char) : Nat → Scan → Scan
  | 0, s => s
  | fuel + 1, s =>
    match src[s.pos]? with
    | some '!' =>
      pushProperties src fuel ((s.push src .tag (tagStop src s.pos - s.pos)).pushBlanks src)
    | some '&' =>
      pushProperties src fuel ((s.push src .anchor (nameStop src s.pos - s.pos)).pushBlanks src)
    | some c =>
      if c == '-' || c == '?' || c == ':' then
        let inFlow := 0 < s.depth
        let next := src[s.pos + 1]?
        if isGap next || (inFlow && isFlowMark? next) then
          let s := if inFlow then { s with afterFlowKey := false }
            else { s with least := s.column + 1 }
          let kind : Kind := if c == '-' then .itemMark else if c == '?' then .keyMark
            else .valueMark
          pushProperties src fuel ((s.push src kind 1).pushBlanks src)
        else s
      else s
    | none => s

/-- The place that the scan is in after a scalar. -/
def place (s : Scan) : Place := if 0 < s.depth then .flow else .block

/-- Takes the indicators at the start of a line. -/
def pushLineMarks (src : Array Char) : Nat → Scan → Scan
  | 0, s => s
  | fuel + 1, s =>
    match src[s.pos]? with
    | some c =>
      if (c == '-' || c == '?' || c == ':') && isGap src[s.pos + 1]? then
        let kind : Kind := if c == '-' then .itemMark else if c == '?' then .keyMark
          else .valueMark
        let (s', spaces) := (s.push src kind 1).pushSpaces src true
        pushLineMarks src fuel { s' with least := s.column + 1, column := s.column + 1 + spaces }
      else s
    | none => s

/-- Takes the start of a line. -/
def startLine (s : Scan) (src : Array Char) : Scan × Place :=
  let c := src[s.pos]?
  if (c == some '-' || c == some '.') && isMarker src s.pos then
    let starts := c == some '-'
    let s := s.push src (if starts then .documentStart else .documentEnd) 3
    ({ s with column := 0, least := 0 }, if starts then .block else .between)
  else
    let (s, spaces) := s.pushSpaces src false
    let least := if spaces < s.least && !isGap src[s.pos + 1]? then spaces else s.least
    (pushLineMarks src src.size { s with column := spaces, least }, .block)

/-- Takes a quoted scalar.  Where its closing quote is missing, or one of its lines is indented too
little, the token ends without a quote. -/
def pushQuoted (s : Scan) (src : Array Char) (single : Bool) : Scan × Place :=
  let close := if single then singleStop? src src.size (s.pos + 1)
    else doubleStop? src src.size (s.pos + 1)
  let stop :=
    match close with
    | none => src.size
    | some found =>
      match brokenLine? src s.least found src.size s.pos with
      | none => found + 1
      | some newline => if src[newline - 1]? == some '\r' then newline - 1 else newline
  let s := s.push src (if single then .singleQuoted else .doubleQuoted) (stop - s.pos)
  (s, s.place)

/-- Takes a plain scalar. -/
def pushPlain (s : Scan) (src : Array Char) : Scan × Place :=
  let stop := plainStop src (0 < s.depth) s.least s.pos s.pos
  let s := s.push src .plain (stop - s.pos)
  (s, s.place)

/-- The indentation that a block scalar's header asks for. -/
def headerIndent (header : String) : Option Nat :=
  header.toList.foldl
    (fun found c => if '1' ≤ c && c ≤ '9' then some (c.toNat - '0'.toNat) else found) none

/-- Takes a block scalar: its header, the rest of that line, and its lines. -/
def pushBlockScalar (s : Scan) (src : Array Char) : Scan × Place :=
  let signs := skipWhile src (fun c => c == '+' || c == '-' || ('1' ≤ c && c ≤ '9')) (s.pos + 1)
  let header := slice src s.pos signs
  let headerStop := skipWhile src (fun c => !isGap (some c) && c != '#') s.pos
  let s := s.push src .blockHeader (headerStop - s.pos)
  let s := ((s.pushBlanks src).pushComment src).pushNewline src
  let start := s.pos
  let (indent, lastNewline) := firstIndent src start 0
  let newline := lastNewline.getD (start - 1)
  let (least, newline) :=
    if s.least ≤ indent then
      let least := match headerIndent header with
        | none => indent
        | some asked => asked - 1 + (if s.least = 0 then 1 else s.least)
      (least, blockStop src least src.size newline)
    else (s.least, newline)
  -- Tabs after the last line are taken along, so that they can be refused.
  let afterSpaces := skipWhile src isSpace (newline + 1)
  let newline :=
    if src[afterSpaces]? == some '\t' then
      skipWhile src (fun c => isGap (some c)) afterSpaces - 1
    else if header.toList.contains '+' then newline
    else dropEmptyLines src start indent src.size newline
  let stop := min (newline + 1) src.size
  startLine ({ s with least }.push src .blockBody (stop - s.pos)) src

/-! ## Steps -/

/-- A step between documents. -/
def stepBetween (s : Scan) (src : Array Char) : Scan × Place :=
  let s := if src[s.pos]? == some (Char.ofNat 0xFEFF) then s.push src .byteOrderMark 1 else s
  if src[s.pos]? == some '%' then
    let stop := lineStop src s.pos
    let line := slice src s.pos stop
    let chars := line.toList
    let comment := (List.range chars.length).find? fun i =>
      chars[i]? == some '#' && 0 < i && (chars[i - 1]?.any isSpaceOrTab)
    let text := (chars.take (comment.getD chars.length)).reverse.dropWhile isSpaceOrTab
    ((((s.push src .directive text.length).pushBlanks src).pushComment src), .between)
  else if atLineEnd src s.pos then
    ((((s.pushBlanks src).pushComment src).pushNewline src), .between)
  else startLine (s.push src .documentMode 0) src

/-- A step in a block. -/
def stepBlock (s : Scan) (src : Array Char) : Scan × Place :=
  let s := s.pushBlanks src
  let stop := lineStop src s.pos
  let s := pushProperties src src.size s
  if stop ≤ s.pos then startLine (s.pushNewline src) src
  else
    match src[s.pos]? with
    | none => startLine s src
    | some '#' => startLine ((s.pushComment src).pushNewline src) src
    | some '{' => ({ s.push src .mapOpen 1 with afterFlowKey := false, depth := 1 }, .flow)
    | some '[' => ({ s.push src .seqOpen 1 with afterFlowKey := false, depth := 1 }, .flow)
    | some '}' => (s.push src .mapClose 1, .block)
    | some ']' => (s.push src .seqClose 1, .block)
    | some '*' => (s.push src .alias (nameStop src s.pos - s.pos), .block)
    | some '"' => s.pushQuoted src false
    | some '\'' => s.pushQuoted src true
    | some '|' | some '>' => s.pushBlockScalar src
    | some _ => s.pushPlain src

/-- Takes newlines and spaces in a flow collection; the indentation of the last line comes with the
scan, if a new line was begun. -/
def pushFlowGap (src : Array Char) : Nat → Option Nat → Scan → Scan × Option Nat
  | 0, indent, s => (s, indent)
  | fuel + 1, indent, s =>
    let next := s.pushNewline src
    if s.pos < next.pos then
      let (next, spaces) := next.pushSpaces src false
      pushFlowGap src fuel (some spaces) { next.pushBlanks src with column := spaces }
    else
      let (next, spaces) := s.pushSpaces src true
      if spaces = 0 then (next, indent) else pushFlowGap src fuel indent next

/-- Takes commas. -/
def pushCommas (src : Array Char) : Nat → Scan → Scan
  | 0, s => s
  | fuel + 1, s =>
    if src[s.pos]? == some ',' then
      pushCommas src fuel { (s.push src .comma 1).pushBlanks src with afterFlowKey := false }
    else s

/-- Whether a line in a flow collection is indented too little to belong to it.  The bracket that
closes the outermost collection may stand one column to the left. -/
def cutsOff (s : Scan) (src : Array Char) (indent : Option Nat) : Bool :=
  match indent with
  | none => false
  | some indent =>
    let c := src[s.pos]?
    let closes := indent + 1 = s.least && s.depth = 1 && (c == some ']' || c == some '}')
    ((indent < s.least && c != some '#') || (indent = 0 && isMarker src s.pos)) && !closes

/-- A step in a flow collection. -/
def stepFlow (s : Scan) (src : Array Char) : Scan × Place :=
  let (s, indent) := pushFlowGap src src.size none s
  if s.cutsOff src indent then
    startLine ({ s with depth := 0 }.push src .flowCutOff 0) src
  else
    let stop := lineStop src s.pos
    let s := pushProperties src src.size (pushCommas src src.size s)
    if stop ≤ s.pos then (s, .flow)
    else
      match src[s.pos]? with
      | none => (s, .flow)
      | some '#' => (s.pushComment src, .flow)
      | some '{' =>
        ({ s.push src .mapOpen 1 with afterFlowKey := false, depth := s.depth + 1 }, .flow)
      | some '[' =>
        ({ s.push src .seqOpen 1 with afterFlowKey := false, depth := s.depth + 1 }, .flow)
      | some '}' =>
        let s := { s.push src .mapClose 1 with afterFlowKey := true, depth := s.depth - 1 }
        (s, s.place)
      | some ']' =>
        let s := { s.push src .seqClose 1 with afterFlowKey := true, depth := s.depth - 1 }
        (s, s.place)
      | some '*' => (s.push src .alias (nameStop src s.pos - s.pos), .flow)
      | some '"' => { s with afterFlowKey := true }.pushQuoted src false
      | some '\'' => { s with afterFlowKey := true }.pushQuoted src true
      | some ':' =>
        let next := src[s.pos + 1]?
        if s.afterFlowKey || isGap next || next == some ',' then
          (({ s with afterFlowKey := false }.push src .valueMark 1).pushBlanks src, .flow)
        else { s with afterFlowKey := false }.pushPlain src
      | some _ => { s with afterFlowKey := false }.pushPlain src

/-- Scans to the end of the text.  Every step takes a character or changes the place, which it
cannot do twice in a row. -/
def run (src : Array Char) : Nat → Place → Scan → Scan
  | 0, _, s => s
  | fuel + 1, place, s =>
    if s.pos < src.size then
      let (s, place) :=
        match place with
        | .between => s.stepBetween src
        | .block => s.stepBlock src
        | .flow => s.stepFlow src
      run src fuel place s
    else s

end Scan

/-- The tokens of a text. -/
def tokens (text : String) : List Token :=
  let src := text.toList.toArray
  (Scan.run src (3 * src.size + 3) .between {}).tokens.reverse

end ConsoleHarness.Yaml
