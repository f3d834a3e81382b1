import ConsoleHarness.Yaml.Fault
import ConsoleHarness.Yaml.Tree

/-! # Properties and spacing

Before a node stand its indicator, its anchor and its tag, and spaces, newlines and comments.  They
are checked here, and what matters later is kept.
-/

namespace ConsoleHarness.Yaml

/-- What comes after the tokens before a node, as far as they have to be set off from it. -/
inductive Follower where
  | nothing
  /-- A token that is set off by itself. -/
  | gap
  | flow
  | block
  | other
  deriving DecidableEq, Repr

/-- A token as a follower. -/
def Follower.ofToken (t : Token) : Follower :=
  match t.kind with
  | .space | .newline | .comma => .gap
  | _ => .other

/-- A node as a follower. -/
def Follower.ofTree : Tree → Follower
  | .map .. | .seq .. => .block
  | .flow .. => .flow
  | .scalar token _ => if token.kind = .plain && token.text.isEmpty then .gap else .other
  | .block .. | .misplaced _ => .other

/-- A node, or else the first of some tokens, as a follower. -/
def Follower.of (tree : Option Tree) (tokens : List Token) : Follower :=
  match tree, tokens with
  | some tree, _ => .ofTree tree
  | none, token :: _ => .ofToken token
  | none, [] => .nothing

/-- Where tokens before a node stand. -/
structure Setting where
  /-- The indicator that may stand there. -/
  indicator : Kind
  inFlow : Bool := false
  follower : Follower
  parentIndent : Nat
  /-- They begin on a new line. -/
  atNewline : Bool
  deriving Repr

/-- What tokens before a node say. -/
structure Properties where
  found : Option Token := none
  comma : Bool := false
  anchor : Option Token := none
  tag : Option Token := none
  /-- The place of the last newline after an anchor or a tag. -/
  newlineAfter : Option Nat := none
  hasNewline : Bool := false
  /-- The place of the first anchor or tag. -/
  start : Option Nat := none
  deriving Repr

/-- Whether there are an anchor or a tag. -/
def Properties.isTagged (p : Properties) : Bool := p.anchor.isSome || p.tag.isSome

/-- The state of reading properties. -/
structure PropertyState where
  read : Properties := {}
  atNewline : Bool
  spaced : Bool
  /-- An anchor or a tag came last. -/
  needsSpace : Bool := false
  /-- The indentation before a tab that came last. -/
  tab : Option Nat := none
  deriving Repr

/-- Reads an anchor or a tag. -/
def PropertyState.property (s : PropertyState) (read : Properties) (t : Token) : PropertyState :=
  { s with
    read := { read with start := read.start <|> some t.offset }
    atNewline := false, spaced := false, needsSpace := true }

/-- Reads one token before a node. -/
def readProperty (setting : Setting) (s : PropertyState) (t : Token) :
    Except Fault PropertyState :=
  if s.needsSpace && !(t.kind = .space || t.kind = .newline || t.kind = .comma) then
    .error .missingSpace
  else if s.tab.isSome && s.atNewline && !(t.kind = .comment || t.kind = .newline) then
    .error .tabIndent
  else
    let s := { s with needsSpace := false, tab := none }
    let read := s.read
    if t.kind = setting.indicator then
      if read.isTagged then .error .propertyOrder
      else if read.found.isSome then .error .unexpected
      else
        .ok
          { s with
            read := { read with found := some t }
            atNewline := t.kind = .itemMark || t.kind = .keyMark, spaced := false }
    else
      match t.kind with
      | .space =>
        let counts := !setting.inFlow &&
          (setting.indicator ≠ .documentStart || setting.follower ≠ .flow)
        let tab := if counts && t.text.toList.contains '\t' then some t.indent else none
        .ok { s with spaced := true, tab }
      | .comment => if s.spaced then .ok { s with atNewline := false } else .error .missingSpace
      | .newline =>
        let newlineAfter := if read.isTagged then some t.offset else read.newlineAfter
        .ok
          { s with
            read := { read with newlineAfter, hasNewline := true }
            atNewline := true, spaced := true }
      | .anchor =>
        if read.anchor.isSome then .error .manyAnchors
        else if t.text = "&" then .error .emptyName
        else .ok (s.property { read with anchor := some t } t)
      | .tag =>
        if read.tag.isSome then .error .manyTags
        else .ok (s.property { read with tag := some t } t)
      | .comma =>
        if !setting.inFlow || read.comma then .error .unexpected
        else .ok { s with read := { read with comma := true }, atNewline := false, spaced := false }
      | _ => .error .unexpected

/-- Reads the tokens before a node. -/
def readProperties (setting : Setting) (tokens : List Token) : Except Fault Properties := do
  let s ← tokens.foldlM (readProperty setting)
    { atNewline := setting.atNewline, spaced := setting.atNewline }
  let follower := setting.follower
  if s.needsSpace && !(follower = .nothing || follower = .gap) then .error .missingSpace
  else if s.tab.any fun indent =>
      (s.atNewline && indent ≤ setting.parentIndent) || follower = .block then
    .error .tabIndent
  else .ok s.read

/-- Checks the tokens after a node, which can only be spaces, newlines and comments. -/
def checkEnd (needsSpace : Bool) : List Token → Except Fault Unit
  | [] => .ok ()
  | t :: rest =>
    match t.kind with
    | .space | .newline => checkEnd false rest
    | .comment => if needsSpace then .error .missingSpace else checkEnd false rest
    | _ => .error .unexpected

mutual

/-- Whether a key goes over several lines. -/
def Tree.isMultiline : Tree → Bool
  | .scalar token after => token.text.toList.contains '\n' || has .newline after
  | .flow _ _ items _ => anyMultiline items
  | .map .. | .seq .. | .block .. | .misplaced _ => true

/-- Whether one of some items goes over several lines. -/
def anyMultiline : List (Item Tree) → Bool
  | [] => false
  | item :: rest => itemMultiline item || anyMultiline rest

/-- Whether an item goes over several lines. -/
def itemMultiline : Item Tree → Bool
  | ⟨start, key, sep, value, _⟩ =>
    has .newline start || has .newline (sep.getD []) || partMultiline key || partMultiline value

/-- Whether there is a node that goes over several lines. -/
def partMultiline : Option Tree → Bool
  | none => false
  | some tree => tree.isMultiline

end

end ConsoleHarness.Yaml
