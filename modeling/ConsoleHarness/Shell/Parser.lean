import ConsoleHarness.Shell.Lexer

/-! # Reading commands

A script is a list of commands.  Certain words begin and end compound commands, but only where a
command begins.
-/

namespace ConsoleHarness.Shell.Parser

/-- The words that end a list of commands. -/
def closers : List String := ["then", "else", "elif", "fi", "do", "done", "esac", "\x7d"]

/-- The bare word that comes next. -/
def keyword? (tokens : List Token) : Option String :=
  match tokens with
  | .word word :: _ => Word.bareText? word
  | _ => none

/-- Whether a list of commands ends here. -/
def atEnd (tokens : List Token) : Bool :=
  match tokens with
  | [] | .sign ")" :: _ | .sign ";;" :: _ => true
  | _ => (keyword? tokens).any closers.contains

/-- Takes a word that has to come next. -/
def expect (word : String) (tokens : List Token) : Option (List Token) :=
  if keyword? tokens = some word then some tokens.tail else none

/-- Takes a sign that has to come next. -/
def expectSign (text : String) (tokens : List Token) : Option (List Token) :=
  if tokens.head? = some (.sign text) then some tokens.tail else none

/-- Drops newlines. -/
def skipNewlines (tokens : List Token) : List Token := tokens.dropWhile (· = .newline)

/-- Drops newlines and semicolons. -/
def skipEnds (tokens : List Token) : List Token :=
  tokens.dropWhile fun t => t = .newline || t = .sign ";"

/-- Takes redirections. -/
def redirects (tokens : List Token) : List Redirect × List Token :=
  match tokens with
  | .redirect descriptor kind :: .word target :: rest =>
    let (more, rest) := redirects rest
    (⟨descriptor, kind, target⟩ :: more, rest)
  | _ => ([], tokens)

/-- A word as an assignment. -/
def assignment? (word : Word) : Option (String × Word) :=
  let isBare : Piece → Bool
    | .bare text => text ≠ "="
    | _ => false
  let name := word.takeWhile isBare
  match Word.bareText? name, word.drop name.length with
  | some text, .bare "=" :: value =>
    let chars := text.toList
    if (chars.head?.any Lexer.isNameStart) && chars.all Lexer.isNameChar then some (text, value)
    else none
  | _, _ => none

/-- The parts of a simple command. -/
structure Simple where
  assignments : List (String × Word) := []
  words : List Word := []
  redirects : List Redirect := []

/-- Takes a simple command. -/
def simple (done : Simple) (tokens : List Token) : Simple × List Token :=
  match tokens with
  | .word word :: rest =>
    match done.words, assignment? word with
    | [], some assignment =>
      simple { done with assignments := done.assignments ++ [assignment] } rest
    | _, _ => simple { done with words := done.words ++ [word] } rest
  | .redirect descriptor kind :: .word target :: rest =>
    simple { done with redirects := done.redirects ++ [⟨descriptor, kind, target⟩] } rest
  | _ => (done, tokens)

/-- Takes words up to the end of a command. -/
def words (tokens : List Token) : List Word × List Token :=
  match tokens with
  | .word word :: rest =>
    let (more, rest) := words rest
    (word :: more, rest)
  | _ => ([], tokens)

/-- Takes the patterns of a branch, with the parenthesis after them. -/
def patterns (tokens : List Token) : Option (List Word × List Token) :=
  match tokens with
  | .word word :: .sign "|" :: rest => (patterns rest).map fun (more, rest) => (word :: more, rest)
  | .word word :: .sign ")" :: rest => some ([word], rest)
  | _ => none

mutual

/-- A list of commands. -/
def list : Nat → List Token → Option (Command × List Token)
  | 0, _ => none
  | fuel + 1, tokens => do
    let tokens := skipEnds tokens
    if atEnd tokens then return (.nothing, tokens)
    let (first, tokens) ← chain fuel tokens
    let (first, tokens, isCut) :=
      match tokens with
      | .sign "&" :: rest => (Command.beside first, rest, true)
      | .sign ";" :: _ | .newline :: _ => (first, tokens, true)
      | _ => (first, tokens, false)
    if isCut then
      let (rest, tokens) ← list fuel tokens
      match rest with
      | .nothing => return (first, tokens)
      | rest => return (.sequence first rest, tokens)
    else if atEnd tokens then return (first, tokens)
    else none

/-- Commands joined by `&&` and `||`. -/
def chain : Nat → List Token → Option (Command × List Token)
  | 0, _ => none
  | fuel + 1, tokens => do
    let (first, tokens) ← pipeline fuel tokens
    chainRest fuel first tokens

/-- What follows a command in a chain. -/
def chainRest : Nat → Command → List Token → Option (Command × List Token)
  | 0, _, _ => none
  | fuel + 1, first, tokens =>
    match tokens with
    | .sign "&&" :: rest => do
      let (second, tokens) ← pipeline fuel (skipNewlines rest)
      chainRest fuel (.both first second) tokens
    | .sign "||" :: rest => do
      let (second, tokens) ← pipeline fuel (skipNewlines rest)
      chainRest fuel (.either first second) tokens
    | _ => some (first, tokens)

/-- Commands joined by pipes. -/
def pipeline : Nat → List Token → Option (Command × List Token)
  | 0, _ => none
  | fuel + 1, tokens =>
    if keyword? tokens = some "!" then do
      let (command, tokens) ← pipeline fuel tokens.tail
      return (.negated command, tokens)
    else do
      let (first, tokens) ← command fuel tokens
      match tokens with
      | .sign "|" :: rest => do
        let (second, tokens) ← pipeline fuel (skipNewlines rest)
        return (.pipe first second, tokens)
      | _ => return (first, tokens)

/-- A single command. -/
def command : Nat → List Token → Option (Command × List Token)
  | 0, _ => none
  | fuel + 1, tokens =>
    match tokens with
    | .sign "(" :: rest => do
      let (body, tokens) ← list fuel rest
      let tokens ← expectSign ")" tokens
      let (redirects, tokens) := redirects tokens
      return (.apart body redirects, tokens)
    | .word name :: .sign "(" :: .sign ")" :: rest => do
      let name ← Word.bareText? name
      let (body, tokens) ← command fuel (skipNewlines rest)
      return (.function name body, tokens)
    | _ =>
      match keyword? tokens with
      | some "\x7b" => do
        let (body, tokens) ← list fuel tokens.tail
        let tokens ← expect "\x7d" tokens
        let (redirects, tokens) := redirects tokens
        return (.group body redirects, tokens)
      | some "if" => do
        let (body, tokens) ← conditional fuel tokens.tail
        let (redirects, tokens) := redirects tokens
        return (.group body redirects, tokens)
      | some "while" => loop fuel false tokens.tail
      | some "until" => loop fuel true tokens.tail
      | some "for" => each fuel tokens.tail
      | some "case" =>
        match tokens.tail with
        | .word word :: rest => do
          let tokens ← expect "in" (skipNewlines rest)
          let (branches, tokens) ← branches fuel (skipNewlines tokens)
          return (.select word branches, tokens)
        | _ => none
      | _ =>
        let (parts, rest) := simple {} tokens
        if parts.assignments.isEmpty && parts.words.isEmpty && parts.redirects.isEmpty then none
        else some (.simple parts.assignments parts.words parts.redirects, rest)

/-- A conditional, after `if` or `elif`. -/
def conditional : Nat → List Token → Option (Command × List Token)
  | 0, _ => none
  | fuel + 1, tokens => do
    let (test, tokens) ← list fuel tokens
    let tokens ← expect "then" tokens
    let (yes, tokens) ← list fuel tokens
    match keyword? tokens with
    | some "elif" =>
      let (no, tokens) ← conditional fuel tokens.tail
      return (.choice test yes no, tokens)
    | some "else" =>
      let (no, tokens) ← list fuel tokens.tail
      let tokens ← expect "fi" tokens
      return (.choice test yes no, tokens)
    | _ =>
      let tokens ← expect "fi" tokens
      return (.choice test yes .nothing, tokens)

/-- A loop, after its first word. -/
def loop : Nat → Bool → List Token → Option (Command × List Token)
  | 0, _, _ => none
  | fuel + 1, isUntil, tokens => do
    let (test, tokens) ← list fuel tokens
    let (body, tokens) ← body fuel tokens
    let (redirects, tokens) := redirects tokens
    return (.group (.loop isUntil test body) redirects, tokens)

/-- A loop over words, after `for`. -/
def each : Nat → List Token → Option (Command × List Token)
  | 0, _ => none
  | fuel + 1, tokens => do
    let name ← keyword? tokens
    let tokens := skipNewlines tokens.tail
    let (list, tokens) :=
      if keyword? tokens = some "in" then
        let (list, tokens) := words tokens.tail
        (some list, tokens)
      else (none, tokens)
    let (body, tokens) ← body fuel (skipEnds tokens)
    return (.each name list body, tokens)

/-- The body of a loop. -/
def body : Nat → List Token → Option (Command × List Token)
  | 0, _ => none
  | fuel + 1, tokens => do
    let tokens ← expect "do" tokens
    let (body, tokens) ← list fuel tokens
    let tokens ← expect "done" tokens
    return (body, tokens)

/-- The branches of a selection, with the word that ends it. -/
def branches : Nat → List Token → Option (List (List Word × Command) × List Token)
  | 0, _ => none
  | fuel + 1, tokens => do
    if keyword? tokens = some "esac" then return ([], tokens.tail)
    let tokens := if tokens.head? = some (.sign "(") then tokens.tail else tokens
    let (patterns, tokens) ← patterns tokens
    let (body, tokens) ← list fuel tokens
    match tokens with
    | .sign ";;" :: rest =>
      let (more, tokens) ← branches fuel (skipNewlines rest)
      return ((patterns, body) :: more, tokens)
    | _ =>
      let tokens ← expect "esac" tokens
      return ([(patterns, body)], tokens)

end

end Parser

/-- The commands of a script; `none` if it is not well formed. -/
def parse? (script : String) : Option Command := do
  let tokens ← tokens? script
  let (command, rest) ← Parser.list (8 * tokens.length + 8) tokens
  if rest.isEmpty then return command else none

end ConsoleHarness.Shell
