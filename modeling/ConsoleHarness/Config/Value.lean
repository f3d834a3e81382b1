import ConsoleHarness.Number.Shortest

/-! # Configuration values

What a configuration document can hold.  A mapping lists its keys in *enumeration order*: keys that
spell an index come first, by number, and all others stand in the order of their first insertion.
`null` also stands for a value that is missing.
-/

namespace ConsoleHarness

/-- A value of a configuration document. -/
inductive Value where
  | null
  | flag (value : Bool)
  | number (value : Number)
  | text (value : String)
  | list (items : List Value)
  | mapping (entries : List (String × Value))
  deriving Inhabited

namespace Value

/-! ## Order of keys -/

/-- The greatest index that a key can spell. -/
def greatestIndex : Nat := 4294967294

/-- The index that a key spells: decimal digits without a leading zero. -/
def index? (key : String) : Option Nat :=
  match key.toList with
  | [] => none
  | ['0'] => some 0
  | '0' :: _ => none
  | digits =>
    if digits.all Char.isDigit then
      let index := digits.foldl (fun n c => 10 * n + (c.toNat - '0'.toNat)) 0
      if index ≤ greatestIndex then some index else none
    else none

/-- Whether a key stands before another one in every mapping that has both. -/
def precedes (key other : String) : Bool :=
  match index? key, index? other with
  | some i, some j => i < j
  | some _, none => true
  | none, _ => false

/-- Sets the value of a key.  A key that is there keeps its place; a new one comes after all keys
that it does not precede. -/
def insertEntry (key : String) (value : Value) :
    List (String × Value) → List (String × Value)
  | [] => [(key, value)]
  | (other, old) :: rest =>
    if key = other then (key, value) :: rest
    else if precedes key other then (key, value) :: (other, old) :: rest
    else (other, old) :: insertEntry key value rest

/-- The mapping that results from setting keys one after the other. -/
def ofEntries (entries : List (String × Value)) : Value :=
  .mapping (entries.foldl (fun done (key, value) => insertEntry key value done) [])

/-! ## Reading -/

/-- Whether a value counts as missing. -/
def isNull : Value → Bool
  | .null => true
  | _ => false

/-- The name of a value's type in messages: a list and `null` count as objects. -/
def typeName : Value → String
  | .flag _ => "boolean"
  | .number _ => "number"
  | .text _ => "string"
  | .null | .list _ | .mapping _ => "object"

/-- The value of a key; a key that is not there has the value `null`. -/
def lookup (key : String) : List (String × Value) → Value
  | [] => .null
  | (other, value) :: rest => if key = other then value else lookup key rest

@[simp] theorem lookup_nil (key : String) : lookup key [] = .null := rfl

@[simp] theorem lookup_cons (key other : String) (value : Value)
    (rest : List (String × Value)) :
    lookup key ((other, value) :: rest) = if key = other then value else lookup key rest := rfl

mutual

/-- The plain text of a value: the items of a list are joined by commas, a mapping has no text of
its own. -/
def spelled : Value → String
  | .null => "null"
  | .flag value => if value then "true" else "false"
  | .number value => value.text
  | .text value => value
  | .list items => String.intercalate "," (spelledItems items)
  | .mapping _ => "[object Object]"

/-- The plain texts of the items of a list; an item that is missing has none. -/
def spelledItems : List Value → List String
  | [] => []
  | .null :: rest => "" :: spelledItems rest
  | item :: rest => item.spelled :: spelledItems rest

end

end Value

end ConsoleHarness
