import ConsoleHarness.Config.Value
import ConsoleHarness.Yaml.Scalar

/-! # Values of scalars

A plain scalar without a tag is `null`, a flag or a number if it is spelled like one, and a text
otherwise; any other scalar without a tag is a text.  A tag asks for one kind of value; if the text
does not spell a value of that kind, it stays a text.
-/

namespace ConsoleHarness.Yaml

/-! ## Spellings -/

/-- The spellings of `null`. -/
def readNull (text : List Char) : Option Value :=
  if ["", "~", "null", "Null", "NULL"].contains (String.ofList text) then some .null else none

/-- The spellings of flags. -/
def readFlag (text : List Char) : Option Value :=
  let text := String.ofList text
  if ["true", "True", "TRUE"].contains text then some (.flag true)
  else if ["false", "False", "FALSE"].contains text then some (.flag false)
  else none

/-- The digits of a number in some base. -/
def digits? (base : Nat) (text : List Char) : Option Nat :=
  if text.isEmpty then none
  else
    text.foldl (fun value c => value.bind fun n =>
      (hexDigit? c).bind fun d => if d < base then some (base * n + d) else none) (some 0)

/-- A text without its sign, and whether the sign is a minus. -/
def splitSign (text : List Char) : Bool × List Char :=
  match text with
  | '-' :: rest => (true, rest)
  | '+' :: rest => (false, rest)
  | rest => (false, rest)

/-- Octal integers. -/
def readOctal (text : List Char) : Option Value :=
  match text with
  | '0' :: 'o' :: rest => (digits? 8 rest).map fun n => .number (.ofInt n)
  | _ => none

/-- Decimal integers. -/
def readDecimal (text : List Char) : Option Value :=
  let (negative, rest) := splitSign text
  (digits? 10 rest).map fun n => .number (.ofDecimal negative n 0)

/-- Hexadecimal integers. -/
def readHex (text : List Char) : Option Value :=
  match text with
  | '0' :: 'x' :: rest => (digits? 16 rest).map fun n => .number (.ofInt n)
  | _ => none

/-- The infinities, and what is no number. -/
def readSpecial (text : List Char) : Option Value :=
  if [".nan", ".NaN", ".NAN"].contains (String.ofList text) then some (.number .notANumber)
  else
    let (negative, rest) := splitSign text
    if [".inf", ".Inf", ".INF"].contains (String.ofList rest) then
      some (.number (.infinite negative))
    else none

/-- The digits of a number with at most one point, as one number, and how many follow the point. -/
def readPoint (text : List Char) : Option (Nat × Nat) :=
  let whole := text.takeWhile Char.isDigit
  match text.drop whole.length with
  | [] => (digits? 10 whole).map (·, 0)
  | '.' :: rest => if rest.all Char.isDigit then (digits? 10 (whole ++ rest)).map (·, rest.length)
    else none
  | _ => none

/-- Numbers with an exponent. -/
def readExponent (text : List Char) : Option Value :=
  let (negative, rest) := splitSign text
  let mantissa := rest.takeWhile fun c => c != 'e' && c != 'E'
  match readPoint mantissa, rest.drop mantissa.length with
  | some (value, places), _ :: exponent =>
    let (below, exponent) := splitSign exponent
    (digits? 10 exponent).map fun e =>
      .number (.ofDecimal negative value ((if below then -(e : Int) else e) - places))
  | _, _ => none

/-- Numbers with a point. -/
def readFraction (text : List Char) : Option Value :=
  let (negative, rest) := splitSign text
  if rest.contains '.' then
    (readPoint rest).map fun (value, places) => .number (.ofDecimal negative value (-places))
  else none

/-! ## Tags -/

/-- The start of the names of the tags that are known. -/
def coreTag (name : String) : String := "tag:yaml.org,2002:" ++ name

/-- The spellings of values that are no texts, each with the tag that asks for it.  The first one
that fits counts. -/
def spellings : List (String × (List Char → Option Value)) :=
  [(coreTag "null", readNull), (coreTag "bool", readFlag), (coreTag "int", readOctal),
    (coreTag "int", readDecimal), (coreTag "int", readHex), (coreTag "float", readSpecial),
    (coreTag "float", readExponent), (coreTag "float", readFraction)]

/-- The tags of scalars whose value has no keys that could be read. -/
def foreignTags : List String := [coreTag "binary", coreTag "timestamp"]

/-- The value of a text, if one of some spellings fits. -/
def spell? (among : List (String × (List Char → Option Value))) (text : List Char) :
    Option Value :=
  among.findSome? fun (_, read) => read text

/-- The value of a scalar. -/
def scalarValue (tag : Option String) (isPlain : Bool) (text : List Char) : Value :=
  match tag with
  | none =>
    if isPlain then (spell? spellings text).getD (.text (String.ofList text))
    else .text (String.ofList text)
  | some tag =>
    if foreignTags.contains tag then .mapping []
    else
      (spell? (spellings.filter (·.1 = tag)) text).getD (.text (String.ofList text))

end ConsoleHarness.Yaml
