import ConsoleHarness.Yaml.Core
import ConsoleHarness.Yaml.Properties

/-! # The content of a document

From a tree of tokens to its content: values, lists, mappings and aliases.  On the way everything is
checked that the tokens alone do not show: where keys may stand, which items belong together, and
that no key comes twice.
-/

namespace ConsoleHarness.Yaml

/-- The content of a node, with the name that it is given. -/
inductive Content where
  | scalar (anchor : Option String) (value : Value)
  | alias (name : String)
  | list (anchor : Option String) (items : List Content)
  | mapping (anchor : Option String) (entries : List (Content × Option Content))
  /-- A collection of a kind that cannot be read by keys. -/
  | foreign (anchor : Option String)
  deriving Inhabited

/-! ## Tags -/

/-- The handles of tags with what they stand for. -/
abbrev Handles := List (String × String)

/-- The handles that need not be declared. -/
def Handles.defaults : Handles := [("!!", coreTag "")]

/-- The bytes of a text with its percent signs resolved. -/
def percentBytes (escaped : Option (List Nat)) : List Char → Option (List UInt8)
  | [] => if escaped.isNone then some [] else none
  | c :: rest =>
    match escaped with
    | none =>
      if c = '%' then percentBytes (some []) rest
      else (percentBytes none rest).map ((String.singleton c).toUTF8.toList ++ ·)
    | some [] => (hexDigit? c).bind fun d => percentBytes (some [d]) rest
    | some (high :: _) =>
      (hexDigit? c).bind fun d =>
        (percentBytes none rest).map (UInt8.ofNat (16 * high + d) :: ·)

/-- A text with its percent signs resolved. -/
def percentDecoded? (text : List Char) : Option String :=
  (percentBytes none text).bind fun bytes => String.fromUTF8? ⟨bytes.toArray⟩

/-- Splits a tag after its last exclamation mark. -/
def splitHandle (tag : List Char) : List Char × List Char :=
  let suffix := (tag.reverse.takeWhile (· != '!')).reverse
  (tag.take (tag.length - suffix.length), suffix)

/-- The full name of a tag; `!` stands for itself. -/
def tagName (handles : Handles) (tag : String) : Except Fault String :=
  match tag.toList with
  | ['!'] => .ok tag
  | '!' :: '<' :: rest =>
    let name := String.ofList rest.dropLast
    if rest.getLast? ≠ some '>' || name = "!" || name = "!!" then .error .tag else .ok name
  | chars =>
    let (handle, suffix) := splitHandle chars
    if suffix.isEmpty then .error .tag
    else
      match handles.lookup (String.ofList handle) with
      | some start =>
        match percentDecoded? suffix with
        | some suffix => .ok (start ++ suffix)
        | none => .error .tag
      | none => if handle = ['!'] then .ok tag else .error .tag

/-- The tag among properties. -/
def Properties.tagName? (p : Properties) (handles : Handles) : Except Fault (Option String) :=
  match p.tag with
  | none => .ok none
  | some tag => (tagName handles tag.text).map some

/-- The name that properties give to a node. -/
def Properties.name? (p : Properties) : Option String :=
  p.anchor.map fun t => String.ofList (t.text.toList.drop 1)

/-! ## Scalars -/

/-- The text of a scalar that is no block. -/
def scalarText (t : Token) : Except Fault (List Char) :=
  match t.kind with
  | .plain => plainText t.text.toList
  | .singleQuoted => singleText t.text.toList
  | .doubleQuoted => doubleText t.text.toList
  | _ => .error .unexpected

/-- A scalar with its properties. -/
def composeScalar (handles : Handles) (p : Properties) (isPlain : Bool) (text : List Char) :
    Except Fault Content := do
  let tag ← p.tagName? handles
  .ok (.scalar p.name? (scalarValue tag isPlain text))

/-- A node that is not there. -/
def composeEmpty (handles : Handles) (p : Properties) : Except Fault Content :=
  composeScalar handles p true []

/-- A scalar or an alias. -/
def composeLine (handles : Handles) (p : Properties) (t : Token) (after : List Token) :
    Except Fault Content := do
  checkEnd true after
  if t.kind = .alias then
    if p.isTagged then .error .aliasProperties
    else if t.text = "*" then .error .emptyName
    else .ok (.alias (String.ofList (t.text.toList.drop 1)))
  else composeScalar handles p (t.kind = .plain) (← scalarText t)

/-! ## Keys -/

/-- Whether two values are the same as keys. -/
def sameScalar : Value → Value → Bool
  | .null, .null => true
  | .flag a, .flag b => a = b
  | .number a, .number b => a = b && a ≠ .notANumber
  | .text a, .text b => a = b
  | _, _ => false

/-- Whether two keys are the same.  Only scalars are compared. -/
def sameKey : Content → Content → Bool
  | .scalar _ a, .scalar _ b => sameScalar a b
  | _, _ => false

/-- Whether a key comes twice. -/
def hasDuplicate : List (Content × Option Content) → Bool
  | [] => false
  | (key, _) :: rest => rest.any (fun (other, _) => sameKey key other) || hasDuplicate rest

/-- The mapping of some entries. -/
def mappingOf (handles : Handles) (p : Properties) (entries : List (Content × Option Content)) :
    Except Fault Content := do
  let tag ← p.tagName? handles
  if hasDuplicate entries then .error .duplicateKey
  else if tag = some (coreTag "set") then
    let isEmpty : Option Content → Bool
      | none => true
      | some (.scalar _ value) => value.isNull
      | some _ => false
    if entries.all (isEmpty ·.2) then .ok (.foreign p.name?) else .error .tag
  else .ok (.mapping p.name? entries)

/-- The list of some items. -/
def listOf (handles : Handles) (p : Properties) (items : List Content) : Except Fault Content := do
  let tag ← p.tagName? handles
  .ok (if tag = some (coreTag "omap") then .foreign p.name? else .list p.name? items)

/-- The indentation of a node. -/
def Tree.indent : Tree → Nat
  | .scalar token _ | .misplaced token => token.indent
  | .block indent .. | .map indent .. | .seq indent .. | .flow indent .. => indent

/-- The place of a node in the text. -/
def Tree.offset : Tree → Nat
  | .scalar token _ | .misplaced token | .flow _ token .. => token.offset
  | .block _ header _ => (header.head?.map (·.offset)).getD 0
  | .map _ offset _ | .seq _ offset _ => offset

/-- Whether a node is a block collection. -/
def Tree.isBlockCollection : Tree → Bool
  | .map .. | .seq .. => true
  | _ => false

/-- Whether a node is a block mapping. -/
def Tree.isBlockMap : Tree → Bool
  | .map .. => true
  | _ => false

/-- Whether a node is a block scalar. -/
def Tree.isBlockScalar : Tree → Bool
  | .block .. => true
  | _ => false

/-- How far the mark of a value may be from the start of its key. -/
def keyReach : Nat := 1024

/-- Whether a key is too far from its mark. -/
def isTooFar (p : Properties) (key : Option Tree) (mark : Token) : Bool :=
  p.start.getD ((key.map Tree.offset).getD mark.offset) + keyReach < mark.offset

/-- Checks a key of a block mapping that is not announced by a mark. -/
def checkKey (indent : Nat) (key : Option Tree) : Except Fault Unit :=
  match key with
  | none => .ok ()
  | some (.seq ..) => .error .sequenceKey
  | some key => if key.indent = indent then .ok () else .error .itemColumn

/-- Checks that properties before a block sequence are followed by a newline. -/
def checkSequenceProperties (p : Properties) : Except Fault Unit :=
  let last := max ((p.anchor.map (·.offset)).getD 0) ((p.tag.map (·.offset)).getD 0)
  if p.isTagged && !p.newlineAfter.any (last ≤ ·) then .error .missingNewline else .ok ()

/-- Checks the end of a flow collection. -/
def checkClosing (opening : Token) (closing : List Token) : Except Fault Unit :=
  match closing with
  | t :: rest =>
    if t.kind = (if opening.kind = .mapOpen then .mapClose else .seqClose) then checkEnd true rest
    else .error .openFlow
  | [] => .error .openFlow

/-! ## Items of a flow collection -/

/-- An item of a flow collection: a value or a pair. -/
inductive Member where
  | value (content : Content)
  | pair (key : Content) (value : Option Content)
  deriving Inhabited

/-- A member as an entry of a mapping. -/
def Member.entry : Member → Content × Option Content
  | .value content => (content, none)
  | .pair key held => (key, held)

/-- A member as an item of a list. -/
def Member.item : Member → Content
  | .value content => content
  | .pair key held => .mapping none [(key, held)]

/-- Checks the separation of the items of a flow collection. -/
def checkComma (isFirst : Bool) (p : Properties) : Except Fault Unit :=
  if isFirst && p.comma then .error .unexpected
  else if !isFirst && !p.comma then .error .missingComma
  else .ok ()

/-- Checks that a node in a flow collection is no block. -/
def checkFlow (tree : Option Tree) : Except Fault Unit :=
  if tree.any Tree.isBlockCollection then .error .blockInFlow else .ok ()

/-- Whether a newline stands before the mark of a value. -/
def newlineBeforeMark (sep : List Token) : Bool :=
  has .newline (sep.takeWhile (·.kind ≠ .valueMark))

/-- Where the tokens before an item of a collection stand. -/
def keySetting (indent : Nat) (inFlow : Bool) (key : Option Tree) (sep : Option (List Token)) :
    Setting :=
  { indicator := .keyMark, inFlow, follower := .of key (sep.getD []), parentIndent := indent
    atNewline := !inFlow }

/-- Where the tokens before the value of an item stand. -/
def valueSetting (indent : Nat) (inFlow : Bool) (key value : Option Tree) : Setting :=
  { indicator := .valueMark, inFlow, follower := .of value [], parentIndent := indent
    atNewline := !inFlow && key.all Tree.isBlockScalar }

/-! ## Composing -/

mutual

/-- The content of a node. -/
def compose (handles : Handles) (atRoot : Bool) (p : Properties) : Tree → Except Fault Content
  | .scalar token after => composeLine handles p token after
  | .block indent header text => do
    composeScalar handles p false (← blockText atRoot indent header text.toList)
  | .map indent _ items => do mappingOf handles p (← composeEntries handles indent items)
  | .seq indent _ items => do
    checkSequenceProperties p
    listOf handles p (← composeItems handles indent items)
  | .flow indent opening items closing => do
    let isMap := opening.kind = .mapOpen
    let members ← composeMembers handles indent isMap true items
    checkClosing opening closing
    if isMap then mappingOf handles p (members.map Member.entry)
    else listOf handles p (members.map Member.item)
  | .misplaced _ => .error .unexpected

/-- The content of a node that may be missing. -/
def composePart (handles : Handles) (p : Properties) : Option Tree → Except Fault Content
  | none => composeEmpty handles p
  | some tree => compose handles false p tree

/-- The entries of a block mapping. -/
def composeEntries (handles : Handles) (indent : Nat) :
    List (Item Tree) → Except Fault (List (Content × Option Content))
  | [] => .ok []
  | item :: rest => do
    let entry ← composeEntry handles indent item
    let entries ← composeEntries handles indent rest
    .ok (entry.toList ++ entries)

/-- An entry of a block mapping; an item that holds only space and comments is none. -/
def composeEntry (handles : Handles) (indent : Nat) :
    Item Tree → Except Fault (Option (Content × Option Content))
  | ⟨start, key, sep, value, _⟩ => do
    let p ← readProperties (keySetting indent false key sep) start
    match p.found with
    | some mark => if mark.indent ≠ indent then .error .itemColumn else .ok ()
    | none => checkKey indent key
    if p.found.isNone && !p.isTagged && sep.isNone then .ok none
    else if p.found.isNone && (p.newlineAfter.isSome || key.any Tree.isMultiline) then
      .error .keyLine
    else
      let keyContent ← composePart handles p key
      let v ← readProperties (valueSetting indent false key value) (sep.getD [])
      match v.found with
      | none => if p.found.isNone then .error .missingValue else .ok (some (keyContent, none))
      | some mark =>
        if p.found.isNone && value.any Tree.isBlockMap && !v.hasNewline then
          .error .nestedMapping
        else if p.found.isNone && isTooFar p key mark then .error .longKey
        else
          let valueContent ← composePart handles v value
          .ok (some (keyContent, some valueContent))

/-- The items of a block sequence. -/
def composeItems (handles : Handles) (indent : Nat) :
    List (Item Tree) → Except Fault (List Content)
  | [] => .ok []
  | item :: rest => do
    let content ← composeItem handles indent item
    let contents ← composeItems handles indent rest
    .ok (content.toList ++ contents)

/-- An item of a block sequence; one that holds only space and comments is none. -/
def composeItem (handles : Handles) (indent : Nat) :
    Item Tree → Except Fault (Option Content)
  | ⟨start, _, _, value, _⟩ => do
    let p ← readProperties
      { indicator := .itemMark, follower := .of value [], parentIndent := indent
        atNewline := true } start
    if p.found.isSome then (composePart handles p value).map some
    else if p.isTagged || value.isSome then .error .missingItemMark
    else .ok none

/-- The items of a flow collection. -/
def composeMembers (handles : Handles) (indent : Nat) (isMap isFirst : Bool) :
    List (Item Tree) → Except Fault (List Member)
  | [] => .ok []
  | item :: rest => do
    let member ← composeMember handles indent isMap isFirst rest.isEmpty item
    let members ← composeMembers handles indent isMap false rest
    .ok (member.toList ++ members)

/-- An item of a flow collection; only the last one may be empty. -/
def composeMember (handles : Handles) (indent : Nat) (isMap isFirst isLast : Bool) :
    Item Tree → Except Fault (Option Member)
  | ⟨start, key, sep, value, _⟩ => do
    let p ← readProperties (keySetting indent true key sep) start
    if p.found.isNone && !p.isTagged && sep.isNone && value.isNone then
      if (isFirst && p.comma) || !isLast then .error .unexpected else .ok none
    else
      checkComma isFirst p
      if !isMap && sep.isNone && p.found.isNone then
        checkFlow value
        (composePart handles p value).map fun content => some (.value content)
      else if !isMap && p.found.isNone && key.any Tree.isMultiline then .error .keyLine
      else
        checkFlow key
        checkFlow value
        let keyContent ← composePart handles p key
        let v ← readProperties (valueSetting indent true key value) (sep.getD [])
        match v.found with
        | none =>
          if value.isSome then .error .missingComma else .ok (some (.pair keyContent none))
        | some mark =>
          if !isMap && p.found.isNone && newlineBeforeMark (sep.getD []) then .error .keyLine
          else if !isMap && p.found.isNone && isTooFar p key mark then .error .longKey
          else
            let valueContent ← composePart handles v value
            .ok (some (.pair keyContent (some valueContent)))

end

end ConsoleHarness.Yaml
