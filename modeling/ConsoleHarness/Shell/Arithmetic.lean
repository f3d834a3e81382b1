import ConsoleHarness.Shell.Lexer

/-! # Arithmetic, tests and patterns

The small languages inside the command language: integer expressions, conditions on texts and
numbers, and patterns that texts may match.
-/

namespace ConsoleHarness.Shell

namespace Arithmetic

/-- A token of an expression. -/
inductive Term where
  | number (value : Int)
  | name (text : String)
  | sign (text : String)
  deriving DecidableEq, Repr

/-- The signs of two characters. -/
def longSigns : List String := ["<=", ">=", "==", "!=", "&&", "||"]

/-- The tokens of an expression. -/
def terms : Nat → List Char → List Term
  | 0, _ => []
  | fuel + 1, text =>
    match text with
    | [] => []
    | c :: rest =>
      if c.isDigit then
        let digits := text.takeWhile Char.isDigit
        .number ((String.ofList digits).toNat?.getD 0) :: terms fuel (text.drop digits.length)
      else if Lexer.isNameStart c then
        let name := text.takeWhile Lexer.isNameChar
        .name (String.ofList name) :: terms fuel (text.drop name.length)
      else if Lexer.isBlank c || c = '$' || c = '\n' then terms fuel rest
      else if longSigns.contains (String.ofList (text.take 2)) then
        .sign (String.ofList (text.take 2)) :: terms fuel rest.tail
      else .sign (String.singleton c) :: terms fuel rest

/-- The operators, from the weakest to the strongest. -/
def levels : List (List String) :=
  [["||"], ["&&"], ["==", "!="], ["<", "<=", ">", ">="], ["+", "-"], ["*", "/", "%"]]

/-- A truth value as a number. -/
def truth (b : Bool) : Int := if b then 1 else 0

/-- The value of an operator; `none` for a division by zero. -/
def apply (operator : String) (a b : Int) : Option Int :=
  match operator with
  | "||" => some (truth (a ≠ 0 || b ≠ 0))
  | "&&" => some (truth (a ≠ 0 && b ≠ 0))
  | "==" => some (truth (a = b))
  | "!=" => some (truth (a ≠ b))
  | "<" => some (truth (a < b))
  | "<=" => some (truth (a ≤ b))
  | ">" => some (truth (b < a))
  | ">=" => some (truth (b ≤ a))
  | "+" => some (a + b)
  | "-" => some (a - b)
  | "*" => some (a * b)
  | "/" => if b = 0 then none else some (a.tdiv b)
  | "%" => if b = 0 then none else some (a.tmod b)
  | _ => none

mutual

/-- The value of an expression with the operators of some levels. -/
def level (value : String → Int) :
    Nat → List (List String) → List Term → Option (Int × List Term)
  | 0, _, _ => none
  | fuel + 1, [], terms => operand value fuel terms
  | fuel + 1, operators :: stronger, terms => do
    let (first, terms) ← level value fuel stronger terms
    levelRest value fuel operators stronger first terms

/-- What follows an operand on a level. -/
def levelRest (value : String → Int) :
    Nat → List String → List (List String) → Int → List Term → Option (Int × List Term)
  | 0, _, _, _, _ => none
  | fuel + 1, operators, stronger, first, terms =>
    match terms with
    | .sign operator :: rest =>
      if operators.contains operator then do
        let (second, terms) ← level value fuel stronger rest
        let result ← apply operator first second
        levelRest value fuel operators stronger result terms
      else some (first, terms)
    | _ => some (first, terms)

/-- The value of an operand. -/
def operand (value : String → Int) : Nat → List Term → Option (Int × List Term)
  | 0, _ => none
  | fuel + 1, terms =>
    match terms with
    | .number n :: rest => some (n, rest)
    | .name name :: rest => some (value name, rest)
    | .sign "-" :: rest => (operand value fuel rest).map fun (n, rest) => (-n, rest)
    | .sign "+" :: rest => operand value fuel rest
    | .sign "!" :: rest => (operand value fuel rest).map fun (n, rest) => (truth (n = 0), rest)
    | .sign "(" :: rest => do
      let (n, rest) ← level value fuel levels rest
      match rest with
      | .sign ")" :: rest => some (n, rest)
      | _ => none
    | _ => none

end

/-- The value of an expression. -/
def evaluate (value : String → Int) (expression : String) : Option Int := do
  let terms := terms (expression.length + 1) expression.toList
  if terms.isEmpty then return 0
  let (n, rest) ← level value (16 * terms.length + 16) levels terms
  if rest.isEmpty then return n else none

end Arithmetic

/-! ## Patterns -/

/-- A character of a pattern, and whether it may stand for others. -/
abbrev Pattern := List (Char × Bool)

namespace Pattern

/-- Whether a character is in the class that stands between brackets. -/
def inClass (c : Char) : List Char → Bool
  | low :: '-' :: high :: rest => (low ≤ c && c ≤ high) || inClass c rest
  | other :: rest => c = other || inClass c rest
  | [] => false

/-- Whether a text matches a pattern. -/
def covers (pattern : Pattern) (text : List Char) : Bool :=
  match pattern, text with
  | [], text => text.isEmpty
  | ('*', true) :: rest, [] => covers rest []
  | ('*', true) :: rest, c :: text => covers rest (c :: text) || covers (('*', true) :: rest) text
  | ('?', true) :: rest, _ :: text => covers rest text
  | ('[', true) :: rest, c :: text =>
    let inner := (rest.takeWhile (·.1 != ']')).map (·.1)
    let holds :=
      match inner with
      | '!' :: inner => !inClass c inner
      | inner => inClass c inner
    holds && covers (rest.drop (inner.length + 1)) text
  | (p, _) :: rest, c :: text => p = c && covers rest text
  | _ :: _, [] => false
  termination_by pattern.length + text.length
  decreasing_by all_goals simp_all <;> omega

end Pattern

/-! ## Conditions -/

/-- A condition on two texts. -/
def compare (operator : String) (a b : String) : Option Bool :=
  let m := a.toInt?
  let n := b.toInt?
  let numbers (holds : Int → Int → Bool) : Option Bool :=
    match m, n with
    | some m, some n => some (holds m n)
    | _, _ => none
  match operator with
  | "=" | "==" => some (a = b)
  | "!=" => some (a ≠ b)
  | "-eq" => numbers fun m n => m = n
  | "-ne" => numbers fun m n => m ≠ n
  | "-lt" => numbers fun m n => m < n
  | "-le" => numbers fun m n => m ≤ n
  | "-gt" => numbers fun m n => n < m
  | "-ge" => numbers fun m n => n ≤ m
  | _ => none

end ConsoleHarness.Shell
