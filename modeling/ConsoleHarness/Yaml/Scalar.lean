import ConsoleHarness.Yaml.Fault
import ConsoleHarness.Yaml.Token

/-! # The text of scalars

What a scalar's token stands for.  Scalars on lines of text are *folded*: blanks around a newline
are dropped, a single newline becomes a space, and of several newlines all but the first are kept.
A block scalar keeps its lines, or folds them where they are not indented more than the others.
-/

namespace ConsoleHarness.Yaml

/-! ## Lines -/

/-- The lines of a text, without the newlines between them. -/
def linesOf : List Char → List (List Char)
  | [] => [[]]
  | c :: rest =>
    if c = '\n' then [] :: linesOf rest
    else
      match linesOf rest with
      | [] => [[c]]
      | line :: lines => (c :: line) :: lines

/-- A line without blanks at its start. -/
def trimStart (line : List Char) : List Char := line.dropWhile isSpaceOrTab

/-- A line without blanks at its end. -/
def trimEnd (line : List Char) : List Char := (line.reverse.dropWhile isSpaceOrTab).reverse

/-- A line without the carriage return of its newline. -/
def dropReturn (line : List Char) : List Char :=
  if line.getLast? = some '\r' then line.dropLast else line

/-! ## Folding -/

/-- Folds the lines after the first one; what separates the next line from the text before it is
still pending. -/
def foldLines (pending : Char) : List (List Char) → List Char
  | [] => []
  | [last] => pending :: trimStart last
  | line :: rest =>
    let line := trimStart (trimEnd (dropReturn line))
    if line.isEmpty then
      if pending = '\n' then '\n' :: foldLines '\n' rest else foldLines '\n' rest
    else pending :: line ++ foldLines ' ' rest

/-- A text with its lines folded. -/
def folded (text : List Char) : List Char :=
  match linesOf text with
  | [] => []
  | [only] => only
  | first :: rest => trimEnd (dropReturn first) ++ foldLines ' ' rest

/-! ## Plain and quoted scalars -/

/-- The characters that a plain scalar cannot start with. -/
def isReservedStart (c : Char) : Bool :=
  c == '\t' || c == ',' || c == '%' || c == '|' || c == '>' || c == '@' || c == Char.ofNat 0x60

/-- The text of a plain scalar. -/
def plainText (source : List Char) : Except Fault (List Char) :=
  if source.head?.any isReservedStart then .error .scalarStart else .ok (folded source)

/-- What stands between two quotes. -/
def unquoted? (quote : Char) (source : List Char) : Option (List Char) :=
  match source with
  | first :: rest =>
    if first = quote && rest.getLast? = some quote then some rest.dropLast else none
  | [] => none

/-- Two quotes for one. -/
def unpairQuotes : List Char → List Char
  | '\'' :: '\'' :: rest => '\'' :: unpairQuotes rest
  | c :: rest => c :: unpairQuotes rest
  | [] => []

/-- The text of a single-quoted scalar. -/
def singleText (source : List Char) : Except Fault (List Char) :=
  match unquoted? '\'' source with
  | none => .error .openQuote
  | some inner => .ok (unpairQuotes (folded inner))

/-- The character that a letter after a backslash stands for. -/
def escapes : List (Char × Char) :=
  [('0', Char.ofNat 0), ('a', Char.ofNat 7), ('b', Char.ofNat 8), ('e', Char.ofNat 0x1B),
    ('f', Char.ofNat 0xC), ('n', '\n'), ('r', '\r'), ('t', '\t'), ('v', Char.ofNat 0xB),
    ('N', Char.ofNat 0x85), ('_', Char.ofNat 0xA0), ('L', Char.ofNat 0x2028),
    ('P', Char.ofNat 0x2029), (' ', ' '), ('"', '"'), ('/', '/'), ('\\', '\\'), ('\t', '\t')]

/-- The value of a hexadecimal digit. -/
def hexDigit? (c : Char) : Option Nat :=
  if c.isDigit then some (c.toNat - '0'.toNat)
  else if 'a' ≤ c && c ≤ 'f' then some (c.toNat - 'a'.toNat + 10)
  else if 'A' ≤ c && c ≤ 'F' then some (c.toNat - 'A'.toNat + 10)
  else none

/-- The greatest code point. -/
def greatestCode : Nat := 0x10FFFF

/-- Whether a code is the first half of a pair. -/
def isHighHalf (code : Nat) : Bool := 0xD800 ≤ code && code ≤ 0xDBFF

/-- Whether a code is the second half of a pair. -/
def isLowHalf (code : Nat) : Bool := 0xDC00 ≤ code && code ≤ 0xDFFF

/-- The character of a code; half a pair gives the replacement character. -/
def charOf (code : Nat) : Char :=
  if isHighHalf code || isLowHalf code then Char.ofNat 0xFFFD else Char.ofNat code

/-- The character of two halves. -/
def joinHalves (high low : Nat) : Char :=
  Char.ofNat (0x10000 + (high - 0xD800) * 0x400 + (low - 0xDC00))

/-- A piece of a double-quoted scalar. -/
inductive Piece where
  /-- A character that stands for itself. -/
  | raw (c : Char)
  /-- The code that an escape sequence stands for. -/
  | code (n : Nat)
  /-- A newline that is escaped, and joins two lines without a space. -/
  | joint
  deriving DecidableEq, Repr

/-- What is left of an escape sequence. -/
inductive Pending where
  | none
  | letter
  | digits (left value : Nat)
  deriving DecidableEq, Repr

/-- Cuts what stands between double quotes into pieces. -/
def piecesOf (pending : Pending) (source : List Char) : Except Fault (List Piece) :=
  match source with
  | [] => if pending = .none then .ok [] else .error .escape
  | c :: rest =>
    match pending with
    | .none =>
      if c = '\\' then piecesOf .letter rest else (piecesOf .none rest).map (.raw c :: ·)
    | .letter =>
      if c = '\n' then (piecesOf .none rest).map (.joint :: ·)
      else if c = '\r' && rest.head? = some '\n' then piecesOf .letter rest
      else if c = 'x' then piecesOf (.digits 2 0) rest
      else if c = 'u' then piecesOf (.digits 4 0) rest
      else if c = 'U' then piecesOf (.digits 8 0) rest
      else
        match escapes.lookup c with
        | some char => (piecesOf .none rest).map (.code char.toNat :: ·)
        | none => .error .escape
    | .digits left value =>
      match hexDigit? c with
      | none => .error .escape
      | some digit =>
        let value := 16 * value + digit
        if 1 < left then piecesOf (.digits (left - 1) value) rest
        else if greatestCode < value then .error .escape
        else (piecesOf .none rest).map (.code value :: ·)

/-- Whether a piece is a blank that is not escaped. -/
def Piece.isBlank : Piece → Bool
  | .raw c => isSpaceOrTab c
  | _ => false

/-- Whether pieces begin with a newline that is not escaped. -/
def startsLine : List Piece → Bool
  | .raw '\n' :: _ | .raw '\r' :: .raw '\n' :: _ => true
  | _ => false

/-- Where the folding of pieces is. -/
inductive FoldState where
  | text
  /-- After an escaped newline. -/
  | joined
  /-- After a newline; whether another one has followed. -/
  | broken (again : Bool)
  deriving DecidableEq, Repr

/-- The space that a single newline becomes. -/
def FoldState.space : FoldState → List Char
  | .broken false => [' ']
  | _ => []

/-- Folds the newlines among pieces. -/
def foldPieces (state : FoldState) (pieces : List Piece) : List Char :=
  match pieces with
  | [] => state.space
  | .raw c :: rest =>
    if state ≠ .text && isSpaceOrTab c then foldPieces state rest
    else if c = '\r' && startsLine (.raw c :: rest) then foldPieces state rest
    else if c = '\n' then
      match state with
      | .broken _ => '\n' :: foldPieces (.broken true) rest
      | _ => foldPieces (.broken false) rest
    else if isSpaceOrTab c && startsLine (rest.dropWhile Piece.isBlank) then
      foldPieces state rest
    else state.space ++ c :: foldPieces .text rest
  | .joint :: rest => state.space ++ foldPieces .joined rest
  | .code high :: .code low :: rest =>
    if isHighHalf high && isLowHalf low then
      state.space ++ joinHalves high low :: foldPieces .text rest
    else state.space ++ charOf high :: foldPieces .text (.code low :: rest)
  | .code code :: rest => state.space ++ charOf code :: foldPieces .text rest

/-- The text of a double-quoted scalar. -/
def doubleText (source : List Char) : Except Fault (List Char) :=
  match unquoted? '"' source with
  | none => .error .openQuote
  | some inner => (piecesOf .none inner).map (foldPieces .text)

/-! ## Block scalars -/

/-- What happens to the newlines at the end of a block scalar. -/
inductive Chomp where
  | clip
  | strip
  | keep
  deriving DecidableEq, Repr

/-- The header of a block scalar. -/
structure BlockHeader where
  isFolded : Bool
  /-- The indentation that is asked for, more than that of the node around. -/
  indent : Option Nat := none
  chomp : Option Chomp := none
  deriving DecidableEq, Repr

/-- Reads the signs after the first one of a header. -/
def readSigns (header : BlockHeader) : List Char → Except Fault BlockHeader
  | [] => .ok header
  | c :: rest =>
    if header.chomp.isNone && (c = '-' || c = '+') then
      readSigns { header with chomp := some (if c = '-' then .strip else .keep) } rest
    else if header.indent.isNone && '1' ≤ c && c ≤ '9' then
      readSigns { header with indent := some (c.toNat - '0'.toNat) } rest
    else .error .blockHeader

/-- Checks the tokens after a header. -/
def checkHeaderRest (spaced : Bool) : List Token → Except Fault Unit
  | [] => .ok ()
  | t :: rest =>
    match t.kind with
    | .space => checkHeaderRest true rest
    | .newline => checkHeaderRest spaced rest
    | .comment => if spaced then checkHeaderRest spaced rest else .error .missingSpace
    | _ => .error .unexpected

/-- Reads a header with the tokens on its line. -/
def readHeader : List Token → Except Fault BlockHeader
  | [] => .error .blockHeader
  | t :: rest => do
    let header ← readSigns { isFolded := t.text.startsWith ">" } (t.text.toList.drop 1)
    checkHeaderRest false rest
    .ok header

/-- A line of a block scalar. -/
structure BlockLine where
  indent : Nat
  content : List Char
  deriving DecidableEq, Repr

namespace BlockLine

/-- A line, cut after its indentation. -/
def ofChars (line : List Char) : BlockLine :=
  let spaces := line.takeWhile isSpace
  ⟨spaces.length, line.drop spaces.length⟩

/-- Whether a line holds no text. -/
def isEmpty (l : BlockLine) : Bool := l.content = [] || l.content = ['\r']

/-- The spaces of a line after the common indentation. -/
def extra (l : BlockLine) (trim : Nat) : List Char := List.replicate (l.indent - trim) ' '

end BlockLine

/-- The indentation that is cut off, and the number of empty lines before the first text. -/
def trimOf (header : BlockHeader) (trim skipped : Nat) :
    List BlockLine → Except Fault (Nat × Nat)
  | [] => .ok (trim, 0)
  | line :: rest =>
    if line.isEmpty then
      trimOf header (if header.indent.isNone then max trim line.indent else trim) (skipped + 1) rest
    else if line.indent < trim then .error .blockIndent
    else .ok (if header.indent.isNone then line.indent else trim, skipped)

/-- The lines of a literal block scalar. -/
def literalLines (trim : Nat) : List BlockLine → Except Fault (List (List Char))
  | [] => .ok []
  | line :: rest =>
    let content := dropReturn line.content
    if !content.isEmpty && line.indent < trim then .error .blockIndent
    else (literalLines trim rest).map ((line.extra trim ++ content) :: ·)

/-- What stands between two lines of a folded block scalar. -/
inductive Gap where
  | none
  | space
  | newline
  | twoNewlines
  deriving DecidableEq, Repr

/-- The characters of a gap. -/
def Gap.chars : Gap → List Char
  | .none => []
  | .space => [' ']
  | .newline => ['\n']
  | .twoNewlines => ['\n', '\n']

/-- The gap before a line that is indented more. -/
def Gap.beforeMore (afterMore : Bool) : Gap → Gap
  | .space => .newline
  | .newline => if afterMore then .newline else .twoNewlines
  | other => other

/-- The text of a folded block scalar.  Newlines around lines that are indented more are kept. -/
def foldedBlock (trim : Nat) (gap : Gap) (afterMore : Bool) :
    List BlockLine → Except Fault (List Char)
  | [] => .ok []
  | line :: rest =>
    let content := dropReturn line.content
    if !content.isEmpty && line.indent < trim then .error .blockIndent
    else if trim < line.indent || content.head? = some '\t' then
      (foldedBlock trim .newline true rest).map
        ((gap.beforeMore afterMore).chars ++ line.extra trim ++ content ++ ·)
    else if content.isEmpty then
      if gap = .newline then (foldedBlock trim gap afterMore rest).map ('\n' :: ·)
      else foldedBlock trim .newline afterMore rest
    else (foldedBlock trim .space false rest).map (gap.chars ++ content ++ ·)

/-- The text of a block scalar that has text. -/
def blockBody (header : BlockHeader) (trim skipped : Nat) (lines tail : List BlockLine) :
    Except Fault (List Char) := do
  let before := (lines.take skipped).flatMap fun line => line.extra trim ++ ['\n']
  let shown := lines.drop skipped
  let body ←
    if header.isFolded then foldedBlock trim .none false shown
    else (literalLines trim shown).map (List.intercalate ['\n'])
  let body := before ++ body
  match header.chomp.getD .clip with
  | .strip => .ok body
  | .clip => .ok (body ++ ['\n'])
  | .keep =>
    let kept := body ++ tail.flatMap fun line => '\n' :: line.extra trim
    .ok (if kept.getLast? = some '\n' then kept else kept ++ ['\n'])

/-- The text of a block scalar; `indent` is the indentation of the node around it. -/
def blockText (atRoot : Bool) (indent : Nat) (headerTokens : List Token) (source : List Char) :
    Except Fault (List Char) := do
  let header ← readHeader headerTokens
  let lines := if source.isEmpty then [] else (linesOf source).map BlockLine.ofChars
  let emptyTail := (lines.reverse.takeWhile BlockLine.isEmpty).length
  if emptyTail = lines.length then
    .ok (if header.chomp = some .keep && !lines.isEmpty then
      List.replicate (max 1 (lines.length - 1)) '\n' else [])
  else
    let shown := lines.length - emptyTail
    let (trim, skipped) ← trimOf header (indent + header.indent.getD 0) 0 (lines.take shown)
    if trim = 0 && !atRoot then .error .blockIndent
    else
      -- Empty lines that are indented more than the text belong to it.
      let more := ((lines.drop shown).reverse.dropWhile fun line => line.indent ≤ trim).length
      blockBody header trim skipped (lines.take (shown + more)) (lines.drop (shown + more))

end ConsoleHarness.Yaml
