import ConsoleHarness.Text.Blank
import ConsoleHarness.Yaml.Compose

/-! # YAML documents

A text with exactly one document has a value, and so has a text with none: `null`.  Aliases are
replaced by the value of the last node before them that has their name.  Since a short text could
stand for a huge value that way, aliases are counted.
-/

namespace ConsoleHarness.Yaml

/-! ## Aliases -/

/-- A node with a name. -/
structure Anchor where
  name : String
  /-- Its value as far as it is known: a collection is empty while its items are read. -/
  value : Value
  content : Content
  uses : Nat := 1
  weight : Nat := 0
  deriving Inhabited

/-- The anchors so far, newest first. -/
abbrev Anchors := List Anchor

/-- The greatest product of uses and weight of an anchor. -/
def greatestUse : Nat := 100

/-- The newest anchor of a name. -/
def Anchors.find? (anchors : Anchors) (name : String) : Option Anchor :=
  List.find? (·.name = name) anchors

/-- The anchors with the newest one of its name replaced. -/
def Anchors.update (anchors : Anchors) (anchor : Anchor) : Anchors :=
  List.modify anchors (anchors.findIdx (·.name = anchor.name)) fun _ => anchor

mutual

/-- How often aliases in a node lead to other nodes; a scalar counts once. -/
def weight (anchors : Anchors) : Content → Nat
  | .alias name => ((anchors.find? name).map fun a => a.uses * a.weight).getD 0
  | .list _ items => weightItems anchors items
  | .mapping _ entries => weightEntries anchors entries
  | .scalar .. | .foreign _ => 1

/-- The greatest weight of some nodes. -/
def weightItems (anchors : Anchors) : List Content → Nat
  | [] => 0
  | content :: rest => max (weight anchors content) (weightItems anchors rest)

/-- The greatest weight of keys and values. -/
def weightEntries (anchors : Anchors) : List (Content × Option Content) → Nat
  | [] => 0
  | entry :: rest => max (weightEntry anchors entry) (weightEntries anchors rest)

/-- The weight of an entry. -/
def weightEntry (anchors : Anchors) : Content × Option Content → Nat
  | (key, value) => max (weight anchors key) (weightPart anchors value)

/-- The weight of a value that may be missing. -/
def weightPart (anchors : Anchors) : Option Content → Nat
  | none => 1
  | some content => weight anchors content

end

/-- Uses an alias: its value, and the anchors with the use counted. -/
def Anchors.use (anchors : Anchors) (name : String) : Except Fault (Value × Anchors) :=
  match anchors.find? name with
  | none => .error .unknownAlias
  | some anchor =>
    let anchor :=
      { anchor with
        uses := anchor.uses + 1
        weight := if anchor.weight = 0 then weight anchors anchor.content else anchor.weight }
    if greatestUse < anchor.uses * anchor.weight then .error .manyAliases
    else .ok (anchor.value, anchors.update anchor)

/-- Begins a node: its anchor, if it has one, comes first. -/
def Anchors.begin (anchors : Anchors) (name : Option String) (content : Content) (value : Value) :
    Anchors :=
  match name with
  | none => anchors
  | some name => ⟨name, value, content, 1, 0⟩ :: anchors

/-- Ends a node that began when there were `depth` anchors. -/
def Anchors.finish (anchors : Anchors) (name : Option String) (depth : Nat) (value : Value) :
    Anchors :=
  match name with
  | none => anchors
  | some _ => List.modify anchors (anchors.length - depth - 1) fun anchor => { anchor with value }

/-! ## Keys -/

mutual

/-- The text of a node on one line. -/
def lineText : Content → String
  | .scalar _ value => value.spelled
  | .alias name => "*" ++ name
  | .list _ [] => "[]"
  | .list _ items => "[ " ++ String.intercalate ", " (lineTexts items) ++ " ]"
  | .mapping _ [] | .foreign _ => "\x7b\x7d"
  | .mapping _ entries => "\x7b " ++ String.intercalate ", " (entryTexts entries) ++ " \x7d"

/-- The texts of nodes. -/
def lineTexts : List Content → List String
  | [] => []
  | content :: rest => lineText content :: lineTexts rest

/-- The texts of entries. -/
def entryTexts : List (Content × Option Content) → List String
  | [] => []
  | entry :: rest => entryText entry :: entryTexts rest

/-- The text of an entry. -/
def entryText : Content × Option Content → String
  | (key, value) => lineText key ++ partText value

/-- The text of a value in an entry. -/
def partText : Option Content → String
  | none => ""
  | some content => ": " ++ lineText content

end

/-- The key that a node with some value spells. -/
def keyText (content : Content) (value : Value) : String :=
  match value with
  | .null => ""
  | .flag _ | .number _ | .text _ => value.spelled
  | .list _ | .mapping _ => lineText content

/-! ## Values -/

mutual

/-- The value of a node. -/
def valueOf (anchors : Anchors) : Content → Except Fault (Value × Anchors)
  | .scalar name value => .ok (value, anchors.begin name (.scalar name value) value)
  | .foreign name => .ok (.mapping [], anchors.begin name (.foreign name) (.mapping []))
  | .alias name => anchors.use name
  | .list name items => do
    let (values, after) ← valuesOf (anchors.begin name (.list name items) (.list [])) items
    .ok (.list values, after.finish name anchors.length (.list values))
  | .mapping name entries => do
    let (pairs, after) ←
      pairsOf (anchors.begin name (.mapping name entries) (.mapping [])) entries
    let value := Value.ofEntries pairs
    .ok (value, after.finish name anchors.length value)

/-- The values of nodes. -/
def valuesOf (anchors : Anchors) : List Content → Except Fault (List Value × Anchors)
  | [] => .ok ([], anchors)
  | content :: rest => do
    let (value, anchors) ← valueOf anchors content
    let (values, anchors) ← valuesOf anchors rest
    .ok (value :: values, anchors)

/-- The keys of entries with their values. -/
def pairsOf (anchors : Anchors) :
    List (Content × Option Content) → Except Fault (List (String × Value) × Anchors)
  | [] => .ok ([], anchors)
  | entry :: rest => do
    let (pair, anchors) ← pairOf anchors entry
    let (pairs, anchors) ← pairsOf anchors rest
    .ok (pair :: pairs, anchors)

/-- The key of an entry with its value. -/
def pairOf (anchors : Anchors) :
    Content × Option Content → Except Fault ((String × Value) × Anchors)
  | (key, held) => do
    let (keyValue, anchors) ← valueOf anchors key
    let (value, anchors) ← partOf anchors held
    .ok ((keyText key keyValue, value), anchors)

/-- The value of a node that may be missing. -/
def partOf (anchors : Anchors) : Option Content → Except Fault (Value × Anchors)
  | none => .ok (.null, anchors)
  | some content => valueOf anchors content

end

/-! ## Documents -/

/-- The words of a directive. -/
def wordsOf (text : List Char) : List (List Char) :=
  (text.foldr (fun c (words : List (List Char)) =>
    if isSpaceOrTab c then [] :: words
    else
      match words with
      | [] => [[c]]
      | word :: rest => (c :: word) :: rest) [[]]).filter (!·.isEmpty)

/-- Whether a text is the number of a version. -/
def isVersion (text : List Char) : Bool :=
  let major := text.takeWhile Char.isDigit
  match text.drop major.length with
  | '.' :: minor => !major.isEmpty && !minor.isEmpty && minor.all Char.isDigit
  | _ => false

/-- Reads a directive.  One that is not known is passed over. -/
def readDirective (handles : Handles) (text : String) : Except Fault Handles :=
  match (wordsOf (Text.trim text).toList).map String.ofList with
  | "%TAG" :: words =>
    match words with
    | [handle, start] => .ok ((handle, start) :: handles)
    | _ => .error .directive
  | "%YAML" :: words =>
    match words with
    | [version] => if isVersion version.toList then .ok handles else .error .directive
    | _ => .error .directive
  | _ => .ok handles

/-- The value of a document. -/
def documentValue (handles : Handles) (d : DocumentTree) : Except Fault Value := do
  let p ← readProperties
    { indicator := .documentStart, follower := .of d.root d.after, parentIndent := 0
      atNewline := true } d.start
  if p.found.isSome && d.root.any Tree.isBlockCollection && !p.hasNewline then .error .rootLine
  else
    let content ←
      match d.root with
      | some tree => compose handles true p tree
      | none => composeEmpty handles p
    checkEnd false d.after
    (valueOf [] content).map (·.1)

/-- The value of the parts of a text.  Directives have to be followed by a document that is marked
as one. -/
def readParts (handles : Handles) (directed : Bool) (done : Option Value) :
    List Part → Except Fault Value
  | [] => if directed && done.isNone then .error .missingStart else .ok (done.getD .null)
  | part :: rest =>
    match part with
    | .directive text => do readParts (← readDirective handles text) true done rest
    | .document d =>
      if done.isSome then .error .manyDocuments
      else if directed && !has .documentStart d.start then .error .missingStart
      else do readParts handles false (some (← documentValue handles d)) rest
    | .finished after => do
      checkEnd true after
      readParts handles directed done rest
    | .misplaced _ => .error .unexpected

/-- The value of a text. -/
def parse (text : String) : Except Fault Value :=
  readParts .defaults false none (partsOf (tokens text))

end ConsoleHarness.Yaml
