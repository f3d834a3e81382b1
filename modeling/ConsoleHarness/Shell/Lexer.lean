import ConsoleHarness.Shell.Syntax

/-! # Cutting a script into words and signs

Blanks end a word unless they are quoted; signs end it as well and stand for themselves.
-/

namespace ConsoleHarness.Shell

/-- A token of a script. -/
inductive Token where
  | word (word : Word)
  | sign (text : String)
  | newline
  | redirect (descriptor : Nat) (kind : RedirectKind)
  deriving DecidableEq, Repr, Inhabited

namespace Lexer

/-! ## Characters -/

def isBlank (c : Char) : Bool := c == ' ' || c == '\t'

/-- The characters that end a word. -/
def isMeta (c : Char) : Bool := isBlank c || "\n;&|()<>".toList.contains c

def isNameStart (c : Char) : Bool := c.isAlpha || c == '_'
def isNameChar (c : Char) : Bool := c.isAlphanum || c == '_'

/-- The parameters whose names are single signs. -/
def isSpecial (c : Char) : Bool := c.isDigit || "?$#@*!-".toList.contains c

/-! ## Expansions -/

/-- The text up to the parenthesis that closes one, and what follows it. -/
def upToClosing (depth : Nat) (taken : List Char) : List Char → Option (List Char × List Char)
  | [] => none
  | c :: rest =>
    if c = '(' then upToClosing (depth + 1) (c :: taken) rest
    else if c = ')' then
      if depth = 0 then some (taken.reverse, rest)
      else upToClosing (depth - 1) (c :: taken) rest
    else upToClosing depth (c :: taken) rest

/-- The text up to a character, and what follows it. -/
def upTo (stop : Char) (text : List Char) : Option (List Char × List Char) :=
  let before := text.takeWhile (· != stop)
  match text.drop before.length with
  | _ :: rest => some (before, rest)
  | [] => none

/-- The piece that stands between braces after a dollar sign. -/
def bracedPiece (text : List Char) (isQuoted : Bool) : Option Piece :=
  match text with
  | '#' :: c :: rest => some (.length (String.ofList (c :: rest)))
  | _ =>
    let name :=
      match text with
      | c :: _ => if isNameStart c then text.takeWhile isNameChar else text.take 1
      | [] => []
    let name' := String.ofList name
    match text.drop name.length with
    | [] => if name.isEmpty then none else some (.parameter name' none isQuoted)
    | ':' :: '-' :: rest | '-' :: rest =>
      some (.parameter name' (some (String.ofList rest)) isQuoted)
    | _ => none

/-- What follows a dollar sign. -/
def dollar (isQuoted : Bool) (text : List Char) : Option (Piece × List Char) :=
  match text with
  | '(' :: '(' :: rest =>
    (upToClosing 0 [] rest).bind fun (expression, rest) =>
      match rest with
      | ')' :: rest => some (.arithmetic (String.ofList expression), rest)
      | _ => none
  | '(' :: rest =>
    (upToClosing 0 [] rest).map fun (script, rest) =>
      (.command (String.ofList script) isQuoted, rest)
  | '{' :: rest =>
    (upTo '}' rest).bind fun (inner, rest) => (bracedPiece inner isQuoted).map (·, rest)
  | c :: rest =>
    if isNameStart c then
      let name := text.takeWhile isNameChar
      some (.parameter (String.ofList name) none isQuoted, text.drop name.length)
    else if isSpecial c then some (.parameter (String.singleton c) none isQuoted, rest)
    else some (if isQuoted then .quoted "$" else .bare "$", text)
  | [] => some (if isQuoted then .quoted "$" else .bare "$", [])

/-! ## Words -/

/-- The pieces between double quotes, newest first, and what follows. -/
def double (pieces : List Piece) : Nat → List Char → Option (List Piece × List Char)
  | 0, _ => none
  | fuel + 1, text =>
    match text with
    | [] => none
    | '"' :: rest => some (pieces, rest)
    | '\\' :: c :: rest =>
      if c = '\n' then double pieces fuel rest
      else if c = '$' || c = '"' || c = '\\' || c = Char.ofNat 0x60 then
        double (.quoted (String.singleton c) :: pieces) fuel rest
      else double (.quoted (String.ofList ['\\', c]) :: pieces) fuel rest
    | '$' :: rest =>
      match dollar true rest with
      | some (piece, rest) => double (piece :: pieces) fuel rest
      | none => none
    | c :: rest =>
      if c = Char.ofNat 0x60 then
        match upTo c rest with
        | some (script, rest) => double (.command (String.ofList script) true :: pieces) fuel rest
        | none => none
      else double (.quoted (String.singleton c) :: pieces) fuel rest

/-- The pieces of a word, newest first, and what follows it. -/
def word (pieces : List Piece) : Nat → List Char → Option (List Piece × List Char)
  | 0, _ => none
  | fuel + 1, text =>
    match text with
    | [] => some (pieces, [])
    | '\\' :: '\n' :: rest => word pieces fuel rest
    | '\\' :: c :: rest => word (.quoted (String.singleton c) :: pieces) fuel rest
    | '\'' :: rest =>
      match upTo '\'' rest with
      | some (inner, rest) => word (.quoted (String.ofList inner) :: pieces) fuel rest
      | none => none
    | '"' :: rest =>
      match double (.quoted "" :: pieces) fuel rest with
      | some (pieces, rest) => word pieces fuel rest
      | none => none
    | '$' :: rest =>
      match dollar false rest with
      | some (piece, rest) => word (piece :: pieces) fuel rest
      | none => none
    | c :: rest =>
      if isMeta c then some (pieces, text)
      else if c = Char.ofNat 0x60 then
        match upTo c rest with
        | some (script, rest) => word (.command (String.ofList script) false :: pieces) fuel rest
        | none => none
      else word (.bare (String.singleton c) :: pieces) fuel rest

/-! ## Tokens -/

/-- The redirection whose signs come next; a descriptor may stand before them. -/
def redirect? (text : List Char) : Option (Token × List Char) :=
  let (given, text) :=
    match text with
    | c :: rest => if c.isDigit then (some (c.toNat - '0'.toNat), rest) else (none, text)
    | [] => (none, [])
  match text with
  | '>' :: '>' :: rest => some (.redirect (given.getD 1) .append, rest)
  | '>' :: '&' :: rest => some (.redirect (given.getD 1) .duplicate, rest)
  | '>' :: '|' :: rest | '>' :: rest => some (.redirect (given.getD 1) .write, rest)
  | '<' :: '&' :: rest => some (.redirect (given.getD 0) .duplicate, rest)
  | '<' :: '<' :: _ => none
  | '<' :: rest => some (.redirect (given.getD 0) .read, rest)
  | _ => none

/-- The sign that comes next. -/
def sign? (text : List Char) : Option (Token × List Char) :=
  match text with
  | '&' :: '&' :: rest => some (.sign "&&", rest)
  | '|' :: '|' :: rest => some (.sign "||", rest)
  | ';' :: ';' :: rest => some (.sign ";;", rest)
  | '\n' :: rest => some (.newline, rest)
  | c :: rest => if ";&|()".toList.contains c then some (.sign (String.singleton c), rest) else none
  | [] => none

/-- The tokens of a script. -/
def tokens : Nat → List Char → Option (List Token)
  | 0, _ => none
  | fuel + 1, text =>
    match text with
    | [] => some []
    | '\\' :: '\n' :: rest => tokens fuel rest
    | c :: rest =>
      if isBlank c then tokens fuel rest
      else if c = '#' then tokens fuel (rest.dropWhile (· != '\n'))
      else
        match redirect? text <|> sign? text with
        | some (token, rest) => (tokens fuel rest).map (token :: ·)
        | none =>
          match word [] (fuel + 1) text with
          | some (pieces, rest) => (tokens fuel rest).map (.word pieces.reverse :: ·)
          | none => none

end Lexer

/-- The tokens of a script; `none` if a quotation or an expansion is not closed. -/
def tokens? (script : String) : Option (List Token) :=
  Lexer.tokens (script.length + 1) script.toList

end ConsoleHarness.Shell
