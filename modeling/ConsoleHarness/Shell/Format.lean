import ConsoleHarness.Text.Utf8

/-! # Formats and escape sequences

What a backslash stands for in the texts that programs print, and how a format is filled in.
-/

namespace ConsoleHarness.Shell.Format

/-- The byte that a letter after a backslash stands for. -/
def letters : List (Char × UInt8) :=
  [('a', 7), ('b', 8), ('f', 12), ('n', 10), ('r', 13), ('t', 9), ('v', 11), ('\\', 92)]

def isOctal (c : Char) : Bool := '0' ≤ c && c ≤ '7'

/-- The value of the octal digits at the start of a text, at most `limit` of them, and the rest. -/
def octal (value : Nat) : Nat → List Char → Nat × List Char
  | 0, text => (value, text)
  | limit + 1, text =>
    match text with
    | c :: rest =>
      if isOctal c then octal (8 * value + (c.toNat - '0'.toNat)) limit rest else (value, text)
    | [] => (value, [])

/-- The bytes of one character. -/
def bytesOf (c : Char) : List UInt8 := Text.encode (String.singleton c)

/-- The bytes after a backslash, and the rest.  `zero` says that octal digits may follow a zero
that does not count. -/
def escape (zero : Bool) (text : List Char) : List UInt8 × List Char :=
  match text with
  | [] => ([92], [])
  | c :: rest =>
    if isOctal c then
      let (value, rest) := octal 0 3 (if zero && c = '0' then rest else text)
      ([UInt8.ofNat value], rest)
    else
      match letters.lookup c with
      | some byte => ([byte], rest)
      | none => ([92], text)

/-- The bytes of a text with escape sequences, and whether one of them ends the output. -/
def unescape : Nat → List Char → List UInt8 × Bool
  | 0, _ => ([], false)
  | fuel + 1, text =>
    match text with
    | [] => ([], false)
    | '\\' :: 'c' :: _ => ([], true)
    | '\\' :: rest =>
      let (bytes, rest) := escape true rest
      let (more, stops) := unescape fuel rest
      (bytes ++ more, stops)
    | c :: rest =>
      let (more, stops) := unescape fuel rest
      (bytesOf c ++ more, stops)

/-- The bytes of a text with escape sequences. -/
def unescaped (text : String) : List UInt8 × Bool := unescape (text.length + 1) text.toList

/-! ## Formats -/

/-- A place in a format that an argument goes to. -/
structure Hole where
  atLeft : Bool
  zeros : Bool
  width : Nat
  precision : Option Nat
  conversion : Char
  deriving DecidableEq, Repr

/-- A part of a format. -/
inductive Part where
  | bytes (content : List UInt8)
  | hole (hole : Hole)
  deriving DecidableEq, Repr

/-- The number at the start of a text, and the rest. -/
def number (text : List Char) : Option Nat × List Char :=
  let digits := text.takeWhile Char.isDigit
  ((String.ofList digits).toNat?, text.drop digits.length)

/-- The hole after a percent sign. -/
def hole? (text : List Char) : Option (Hole × List Char) :=
  let signs := text.takeWhile fun c => c == '-' || c == '0' || c == '+' || c == ' ' || c == '#'
  let (width, text) := number (text.drop signs.length)
  let (precision, text) :=
    match text with
    | '.' :: rest =>
      let (n, rest) := number rest
      (some (n.getD 0), rest)
    | _ => (none, text)
  match text with
  | c :: rest =>
    if "sbcdiuxXo".toList.contains c then
      some (⟨signs.contains '-', signs.contains '0', width.getD 0, precision, c⟩, rest)
    else none
  | [] => none

/-- The parts of a format. -/
def parts : Nat → List Char → List Part
  | 0, _ => []
  | fuel + 1, text =>
    match text with
    | [] => []
    | '\\' :: rest =>
      let (bytes, rest) := escape false rest
      .bytes bytes :: parts fuel rest
    | '%' :: '%' :: rest => .bytes [37] :: parts fuel rest
    | '%' :: rest =>
      match hole? rest with
      | some (hole, rest) => .hole hole :: parts fuel rest
      | none => .bytes [37] :: parts fuel rest
    | c :: rest => .bytes (bytesOf c) :: parts fuel rest

/-- The integer that an argument spells; zero if it spells none. -/
def integer (text : String) : Int :=
  let digits (base : Nat) (text : List Char) : Nat :=
    (text.takeWhile fun c => c.isAlphanum).foldl (fun n c =>
      base * n + (if c.isDigit then c.toNat - 48 else c.toLower.toNat - 87)) 0
  let natural (text : List Char) : Nat :=
    match text with
    | '0' :: 'x' :: rest => digits 16 rest
    | '0' :: rest => digits 8 rest
    | _ => digits 10 (text.takeWhile Char.isDigit)
  match text.toList with
  | '\'' :: c :: _ | '"' :: c :: _ => c.toNat
  | '-' :: rest => -(natural rest : Int)
  | '+' :: rest => natural rest
  | rest => natural rest

/-- The digits of a number in some base. -/
def based (base : Nat) (isUpper : Bool) (n : Nat) : List Char :=
  let digits := Nat.toDigits base n
  if isUpper then digits.map Char.toUpper else digits

/-- What goes into a hole. -/
def fill (hole : Hole) (arg : Option String) : List UInt8 :=
  let text := arg.getD ""
  let digits (chars : List Char) : List Char :=
    List.replicate (hole.precision.getD 0 - chars.length) '0' ++ chars
  let content : List UInt8 :=
    match hole.conversion with
    | 's' =>
      let bytes := Text.encode text
      bytes.take (hole.precision.getD bytes.length)
    | 'b' => (unescaped text).1
    | 'c' => (text.toList.head?.map bytesOf).getD []
    | 'x' | 'X' =>
      Text.encode (String.ofList
        (digits (based 16 (hole.conversion = 'X') (integer text).toNat)))
    | 'o' => Text.encode (String.ofList (digits (based 8 false (integer text).toNat)))
    | _ =>
      let n := integer text
      Text.encode ((if n < 0 then "-" else "") ++ String.ofList (digits (based 10 false n.natAbs)))
  let missing := hole.width - content.length
  if hole.atLeft then content ++ List.replicate missing 32
  else if hole.zeros && hole.conversion ≠ 's' then List.replicate missing 48 ++ content
  else List.replicate missing 32 ++ content

/-- Fills the parts of a format once; the arguments that are left come with the bytes. -/
def fillOnce (parts : List Part) (args : List String) : List UInt8 × List String :=
  parts.foldl (fun (done, args) part =>
    match part with
    | .bytes content => (done ++ content, args)
    | .hole hole => (done ++ fill hole args.head?, args.tail)) ([], args)

/-- Fills a format until all arguments are used. -/
def fillAll (parts : List Part) : Nat → List String → List UInt8
  | 0, _ => []
  | fuel + 1, args =>
    let (bytes, rest) := fillOnce parts args
    if rest.isEmpty || rest.length = args.length then bytes
    else bytes ++ fillAll parts fuel rest

/-- The output of a format with arguments. -/
def printed (format : String) (args : List String) : List UInt8 :=
  fillAll (parts (format.length + 1) format.toList) (args.length + 1) args

end ConsoleHarness.Shell.Format
