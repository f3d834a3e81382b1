import ConsoleHarness.Yaml.Token

/-! # The tree of a YAML text

Tokens are put together to a tree that still holds all of them: scalars, blocks and flow
collections, with the spaces, comments and properties around them at the place where they belong.
What is wrong with a text is not decided here, except where a token fits nowhere.

The tree grows at its right edge.  A *growth* is that edge, the innermost open node first; a token
either goes into the innermost node, or closes it and is offered to the next.
-/

namespace ConsoleHarness.Yaml

/-- An entry of a collection: what stands before its key or value, the key, what stands between key
and value, and the value. -/
structure Item (τ : Type) where
  start : List Token := []
  key : Option τ := none
  /-- Present as soon as there is a key or the mark of a value. -/
  sep : Option (List Token) := none
  value : Option τ := none
  /-- The key was announced by a mark. -/
  explicit : Bool := false
  deriving Repr, Inhabited

/-- A node of the tree. -/
inductive Tree where
  /-- A scalar on one or more lines of text: its token, and what stands after it. -/
  | scalar (token : Token) (after : List Token)
  /-- A block scalar: its indentation, its header and the tokens on that line, and its text. -/
  | block (indent : Nat) (header : List Token) (text : String)
  | map (indent offset : Nat) (items : List (Item Tree))
  | seq (indent offset : Nat) (items : List (Item Tree))
  /-- A flow collection: its opening token, and what stands from its closing token on. -/
  | flow (indent : Nat) (opening : Token) (items : List (Item Tree)) (closing : List Token)
  /-- A token that fits nowhere. -/
  | misplaced (token : Token)
  deriving Inhabited

/-- A document: what stands before its root node, the root, and what stands after it. -/
structure DocumentTree where
  start : List Token := []
  root : Option Tree := none
  after : List Token := []
  deriving Inhabited

/-- The parts of a whole text. -/
inductive Part where
  | directive (text : String)
  | document (tree : DocumentTree)
  /-- The end of a document, with what stands after it. -/
  | finished (after : List Token)
  /-- A token outside of any document. -/
  | misplaced (token : Token)
  deriving Inhabited

/-- An open node.  The items of a collection are listed newest first. -/
inductive Open where
  | document (tree : DocumentTree)
  | scalar (token : Token) (after : List Token)
  | block (indent : Nat) (header : List Token)
  | map (indent offset : Nat) (items : List (Item Tree))
  | seq (indent offset : Nat) (items : List (Item Tree))
  | flow (indent : Nat) (opening : Token) (items : List (Item Tree)) (closing : List Token)
  | finished (after : List Token)
  deriving Inhabited

/-! ## Token lists -/

/-- Whether a list has a token of a kind. -/
def has (kind : Kind) (tokens : List Token) : Bool := tokens.any (·.kind = kind)

/-- Whether a token only keeps others apart. -/
def Token.isFiller (t : Token) : Bool :=
  t.kind = .space || t.kind = .comment || t.kind = .newline

/-- Splits off the properties at the end of a list that belong to the key of a mapping which begins
after it: what stands after the last indicator or newline, without the spaces there. -/
def splitKeyProperties (tokens : List Token) : List Token × List Token :=
  let stops (t : Token) : Bool :=
    t.kind = .documentStart || t.kind = .keyMark || t.kind = .valueMark || t.kind = .itemMark ||
      t.kind = .newline
  let backwards := tokens.reverse
  let tail := (backwards.takeWhile (!stops ·)).reverse
  let spaces := tail.takeWhile (·.kind = .space)
  let kept := tokens.take (tokens.length - tail.length + spaces.length)
  (kept, tail.drop spaces.length)

/-! ## Nodes -/

/-- Whether a node is a flow node: a scalar or alias on lines of text, or a flow collection. -/
def Tree.isFlow : Tree → Bool
  | .scalar .. | .flow .. => true
  | _ => false

/-- Adds tokens after a flow node. -/
def Tree.addAfter (more : List Token) : Tree → Tree
  | .scalar token after => .scalar token (after ++ more)
  | .flow indent opening items closing => .flow indent opening items (closing ++ more)
  | other => other

/-- An item of a flow sequence that has no colon is a value and no key. -/
def settleItem (item : Item Tree) : Item Tree :=
  match item.sep, item.value with
  | some sep, none =>
    if has .keyMark item.start || has .valueMark sep then item
    else
      match item.key with
      | some key =>
        if key.isFlow then { item with key := none, sep := none, value := some (key.addAfter sep) }
        else
          { item with key := none, sep := none, value := some key, start := item.start ++ sep }
      | none => { item with sep := none, start := item.start ++ sep }
  | _, _ => item

/-- The items of a flow collection that is complete. -/
def settleItems (opening : Token) (items : List (Item Tree)) : List (Item Tree) :=
  if opening.kind = .seqOpen then items.map settleItem else items

/-- The node that an open node is when nothing is added to it. -/
def Open.toTree : Open → Option Tree
  | .scalar token after => some (.scalar token after)
  | .block indent header => some (.block indent header "")
  | .map indent offset items => some (.map indent offset items.reverse)
  | .seq indent offset items => some (.seq indent offset items.reverse)
  | .flow indent opening items closing =>
    some (.flow indent opening (settleItems opening items.reverse) closing)
  | .document _ | .finished _ => none

/-- The indentation of an open node, zero for a document. -/
def Open.indent : Open → Nat
  | .map indent .. | .seq indent .. | .flow indent .. | .block indent .. => indent
  | .scalar token _ => token.indent
  | .document _ | .finished _ => 0

/-- Puts a node into the newest item of a collection: as its value if there is a separator, as its
key otherwise; a new item is begun if the newest is complete. -/
def putNode (items : List (Item Tree)) (tree : Tree) : List (Item Tree) :=
  match items with
  | [] => [{ key := some tree, sep := some [] }]
  | item :: rest =>
    if item.value.isSome then { key := some tree, sep := some [] } :: items
    else if item.sep.isSome then { item with value := some tree } :: rest
    else { item with key := some tree, sep := some [] } :: rest

/-- The trailing tokens of a block collection that belong to the node around it: an item at its end
that holds nothing but space and comments of lesser indentation. -/
def splitTail (tree : Tree) : Tree × Option (List Token) :=
  let split (indent : Nat) (items : List (Item Tree)) :
      Option (List (Item Tree) × List Token) :=
    match items.getLast? with
    | some last =>
      let outer := indent = 0 ||
        last.start.all fun t => t.kind ≠ .comment || t.indent < indent
      if last.sep.isNone && last.value.isNone && !last.start.isEmpty &&
          last.start.all Token.isFiller && outer then
        some (items.dropLast, last.start)
      else none
    | none => none
  match tree with
  | .map indent offset items =>
    match split indent items with
    | some (items, tail) => (.map indent offset items, some tail)
    | none => (tree, none)
  | .seq indent offset items =>
    match split indent items with
    | some (items, tail) => (.seq indent offset items, some tail)
    | none => (tree, none)
  | other => (other, none)

/-! ## Growth -/

/-- The right edge of the tree, and the parts that are complete, newest first. -/
structure Growth where
  edge : List Open := []
  /-- The current line holds a key. -/
  onKeyLine : Bool := false
  parts : List Part := []
  deriving Inhabited

namespace Growth

/-- Puts a complete node into the open node around it. -/
def place (tree : Tree) (parent : Open) (onKeyLine : Bool) : Open × Bool :=
  match parent with
  | .document d =>
    let tree := match tree with
      | .flow _ opening items closing => .flow 0 opening items closing
      | other => other
    let (tree, tail) := splitTail tree
    (.document { d with root := some tree, after := d.after ++ tail.getD [] }, onKeyLine)
  | .map indent offset items =>
    let isValue := items.head?.any fun item => item.value.isNone && item.sep.isSome
    if isValue then
      let (tree, tail) := splitTail tree
      let items := putNode items tree
      (.map indent offset (match tail with
        | some tail => { start := tail } :: items
        | none => items), onKeyLine)
    else
      let complete := items.head?.any (·.value.isSome)
      let explicit := items.head?.any (·.explicit)
      (.map indent offset (putNode items tree), complete || !explicit)
  | .seq indent offset items =>
    let (tree, tail) := splitTail tree
    let items := match items with
      | item :: rest =>
        if item.value.isSome then { value := some tree } :: items
        else { item with value := some tree } :: rest
      | [] => [{ value := some tree }]
    (.seq indent offset (match tail with
      | some tail => { start := tail } :: items
      | none => items), onKeyLine)
  | .flow indent opening items closing =>
    (.flow indent opening (putNode items tree) closing, onKeyLine)
  | other => (other, onKeyLine)

/-- The tree of a node that is closed inside another one.  A block scalar without lines is indented
like the node around it. -/
def closedTree (node parent : Open) : Option Tree :=
  match node with
  | .block _ header => some (.block parent.indent header "")
  | other => other.toTree

/-- Closes the innermost open node. -/
def close (g : Growth) : Growth :=
  match g.edge with
  | [] => g
  | .document d :: rest => { g with edge := rest, parts := .document d :: g.parts }
  | .finished after :: rest => { g with edge := rest, parts := .finished after :: g.parts }
  | node :: [] =>
    -- Only documents stand at the bottom.
    { g with edge := [], parts := (node.toTree.map fun tree =>
        Part.document { root := some tree }).toList ++ g.parts }
  | node :: parent :: rest =>
    match closedTree node parent with
    | none => { g with edge := parent :: rest }
    | some tree =>
      let (parent, onKeyLine) := place tree parent g.onKeyLine
      { g with edge := parent :: rest, onKeyLine }

/-- Opens a node inside the innermost one. -/
def openNode (g : Growth) (node : Open) : Growth := { g with edge := node :: g.edge }

/-- Replaces the innermost open node. -/
def replace (g : Growth) (node : Open) : Growth := { g with edge := node :: g.edge.tail }

/-- Replaces the two innermost open nodes. -/
def replaceTwo (g : Growth) (node parent : Open) : Growth :=
  { g with edge := node :: parent :: g.edge.tail.tail }

theorem length_close_lt {g : Growth} (h : g.edge ≠ []) :
    g.close.edge.length < g.edge.length := by
  unfold close
  split
  · simp_all
  · simp [*]
  · simp [*]
  · simp [*]
  · split <;> simp [*]

/-- Closes everything. -/
def closeAll (g : Growth) : Growth :=
  if _ : g.edge = [] then g else closeAll g.close
  termination_by g.edge.length
  decreasing_by exact length_close_lt ‹_›

/-! ## Opening nodes -/

/-- The properties at the end of what an open node ends with, taken from it. -/
def takeProperties (parent : Open) : Open × List Token :=
  match parent with
  | .document d =>
    let (kept, taken) := splitKeyProperties d.start
    (.document { d with start := kept }, taken)
  | .map indent offset (item :: rest) =>
    match item.sep with
    | some sep =>
      let (kept, taken) := splitKeyProperties sep
      (.map indent offset ({ item with sep := some kept } :: rest), taken)
    | none =>
      let (kept, taken) := splitKeyProperties item.start
      (.map indent offset ({ item with start := kept } :: rest), taken)
  | .seq indent offset (item :: rest) =>
    let (kept, taken) := splitKeyProperties item.start
    (.seq indent offset ({ item with start := kept } :: rest), taken)
  | other => (other, [])

/-- The node that a token opens inside another one, which may lose properties to it; whether a key
begins with it comes last. -/
def opened? (parent : Open) (t : Token) : Option (Open × Open × Bool) :=
  match t.kind with
  | .alias | .plain | .singleQuoted | .doubleQuoted => some (.scalar t [], parent, false)
  | .blockHeader => some (.block t.indent [t], parent, false)
  | .mapOpen | .seqOpen => some (.flow t.indent t [] [], parent, false)
  | .itemMark => some (.seq t.indent t.offset [{ start := [t] }], parent, false)
  | .keyMark =>
    let (parent, taken) := takeProperties parent
    some (.map t.indent t.offset [{ start := taken ++ [t], explicit := true }], parent, true)
  | .valueMark =>
    let (parent, taken) := takeProperties parent
    some (.map t.indent t.offset [{ start := taken, sep := some [t] }], parent, true)
  | _ => none

/-- A growth with a node opened by `opened?`. -/
def openWith (g : Growth) (node parent : Open) (key : Bool) : Growth :=
  { g.replaceTwo node parent with
    edge := node :: parent :: g.edge.tail, onKeyLine := g.onKeyLine || key }

/-! ## What the innermost node does with a token

Each answer is the growth with the token taken in, or `none` if the node is to be closed and the
token offered to the next one. -/

/-- A token after a scalar, a flow collection or a root node. -/
def atLineEnd (g : Growth) (t : Token) (taken : Open) : Option Growth :=
  match t.kind with
  | .comma | .documentStart | .documentEnd | .seqClose | .mapClose | .valueMark => none
  | .newline => some { g.replace taken with onKeyLine := false }.close
  | _ => some (g.replace taken)

/-- Tokens before the first newline but one, and those from it on, of a separator that may belong
to the item after it. -/
def splitSeparator (indent : Nat) (sep : List Token) : List Token × List Token :=
  let (_, newlines) := sep.foldl (fun (i, newlines) t =>
    match t.kind with
    | .newline => (i + 1, newlines ++ [i])
    | .space => (i + 1, newlines)
    | .comment => (i + 1, if indent < t.indent then [] else newlines)
    | _ => (i + 1, [])) (0, ([] : List Nat))
  match newlines[1]? with
  | some cut => (sep.take cut, sep.drop cut)
  | none => (sep, [])

/-- Moves a comment that is indented more than a collection to the end of the value before it. -/
def moveComment? (indent : Nat) (t : Token) (items : List (Item Tree)) :
    Option (List (Item Tree)) :=
  match items with
  | item :: before :: rest =>
    if t.kind = .comment && indent < t.indent &&
        item.start.all fun s => s.kind = .newline || s.kind = .space then
      match before.value with
      | some (.scalar token after) =>
        if after.isEmpty then none
        else
          some ({ before with value := some (.scalar token (after ++ item.start ++ [t])) } :: rest)
      | some (.flow indent opening items closing) =>
        some ({ before with
          value := some (.flow indent opening items (closing ++ item.start ++ [t])) } :: rest)
      | _ => none
    else none
  | _ => none

/-- Whether a value ends with a comment, to which a newline then belongs. -/
def endsWithComment (tree : Tree) : Bool :=
  match tree with
  | .scalar _ after | .flow _ _ _ after => after.getLast?.any (·.kind = .comment)
  | _ => false

/-- A newline in a block collection. -/
def addNewline (t : Token) (items : List (Item Tree)) (keyed : Bool) : List (Item Tree) :=
  match items with
  | [] => [{ start := [t] }]
  | item :: rest =>
    match item.value with
    | some value =>
      if endsWithComment value then { item with value := some (value.addAfter [t]) } :: rest
      else { start := [t] } :: items
    | none =>
      match keyed, item.sep with
      | true, some sep => { item with sep := some (sep ++ [t]) } :: rest
      | _, _ => { item with start := item.start ++ [t] } :: rest

/-- A space or a comment in a block collection. -/
def addFiller (indent : Nat) (t : Token) (items : List (Item Tree)) (keyed : Bool) :
    List (Item Tree) :=
  match items with
  | [] => [{ start := [t] }]
  | item :: rest =>
    if item.value.isSome then { start := [t] } :: items
    else
      match keyed, item.sep with
      | true, some sep => { item with sep := some (sep ++ [t]) } :: rest
      | _, _ =>
        match moveComment? indent t items with
        | some items => items
        | none => { item with start := item.start ++ [t] } :: rest

/-- The mark of a value in a block mapping. -/
def addValueMark (g : Growth) (t : Token) (indent offset : Nat) (item : Item Tree)
    (rest : List (Item Tree)) (atNext : Bool) (start : List Token) : Growth :=
  let map (items : List (Item Tree)) : Open := .map indent offset items
  let inner (start : List Token) (key : Option Tree) (sep : List Token) : Open :=
    .map t.indent t.offset [{ start, key, sep := some sep }]
  match item.sep with
  | none =>
    if item.explicit && !has .newline item.start then
      let (kept, taken) := splitKeyProperties item.start
      { g.replace (map ({ item with start := kept } :: rest)) with onKeyLine := true }.openNode
        (inner taken none [t])
    else
      { g.replace (map ({ item with sep := some [t] } :: rest)) with onKeyLine := true }
  | some sep =>
    let g := { g with onKeyLine := true }
    if item.explicit then
      if item.value.isSome then g.replace (map ({ sep := some [t] } :: item :: rest))
      else if has .valueMark sep then
        (g.replace (map (item :: rest))).openNode (inner start none [t])
      else if (item.key.any Tree.isFlow) && !has .newline sep then
        let (kept, taken) := splitKeyProperties item.start
        (g.replace (map ({ item with start := kept, key := none, sep := none } :: rest))).openNode
          (inner taken item.key (sep ++ [t]))
      else g.replace (map ({ item with sep := some (sep ++ start ++ [t]) } :: rest))
    else if item.value.isSome || atNext then
      g.replace (map ({ start, sep := some [t] } :: item :: rest))
    else if has .valueMark sep then
      (g.replace (map (item :: rest))).openNode (inner [] none [t])
    else g.replace (map ({ item with sep := some (sep ++ [t]) } :: rest))

/-- A token in a block mapping. -/
def inMap (g : Growth) (t : Token) (indent offset : Nat) (items : List (Item Tree)) :
    Option Growth :=
  let map (items : List (Item Tree)) : Open := .map indent offset items
  match items with
  | [] => none
  | item :: rest =>
    match t.kind with
    | .newline => some { g.replace (map (addNewline t items true)) with onKeyLine := false }
    | .space | .comment => some (g.replace (map (addFiller indent t items true)))
    | _ =>
      if t.indent < indent then none
      else
        let atIndent := !g.onKeyLine && t.indent = indent
        let atNext := atIndent && (item.sep.isSome || item.explicit) && t.kind ≠ .itemMark
        -- A value that is missing leaves empty lines to the next item.
        let (item, start) :=
          match atNext, item.sep, item.value with
          | true, some sep, none =>
            let (kept, start) := splitSeparator indent sep
            ({ item with sep := some kept }, start)
          | _, _, _ => (item, [])
        let keyed : Growth := { g with onKeyLine := true }
        match t.kind with
        | .anchor | .tag =>
          if atNext || item.value.isSome then
            some (keyed.replace (map ({ start := start ++ [t] } :: item :: rest)))
          else
            match item.sep with
            | some sep => some (g.replace (map ({ item with sep := some (sep ++ [t]) } :: rest)))
            | none => some (g.replace (map ({ item with start := item.start ++ [t] } :: rest)))
        | .keyMark =>
          if item.sep.isNone && !item.explicit then
            some (keyed.replace
              (map ({ item with start := item.start ++ [t], explicit := true } :: rest)))
          else if atNext || item.value.isSome then
            some (keyed.replace
              (map ({ start := start ++ [t], explicit := true } :: item :: rest)))
          else
            some ((keyed.replace (map (item :: rest))).openNode
              (.map t.indent t.offset [{ start := [t], explicit := true }]))
        | .valueMark => some (g.addValueMark t indent offset item rest atNext start)
        | .alias | .plain | .singleQuoted | .doubleQuoted =>
          if atNext || item.value.isSome then
            some (keyed.replace
              (map ({ start, key := some (.scalar t []), sep := some [] } :: item :: rest)))
          else if item.sep.isSome then
            some ((g.replace (map (item :: rest))).openNode (.scalar t []))
          else
            some (keyed.replace
              (map ({ item with key := some (.scalar t []), sep := some [] } :: rest)))
        | _ =>
          match opened? (map (item :: rest)) t with
          | none => none
          | some (node, parent, key) =>
            if t.kind = .itemMark then
              if !item.explicit && (item.sep.any (!has .newline ·)) then
                -- A sequence cannot begin on the line of its key.
                let (parent, onKeyLine) := place (.misplaced t) parent g.onKeyLine
                some { g.replace parent with onKeyLine }
              else some ((g.replace parent).openWith node parent key)
            else if atIndent then
              let parent := map ({ start } :: item :: rest)
              some ((g.replace parent).openWith node parent key)
            else some ((g.replace parent).openWith node parent key)

/-- A token in a block sequence. -/
def inSeq (g : Growth) (t : Token) (indent offset : Nat) (items : List (Item Tree)) :
    Option Growth :=
  let seq (items : List (Item Tree)) : Open := .seq indent offset items
  let opening : Option Growth :=
    if indent < t.indent then
      (opened? (seq items) t).map fun (node, parent, key) =>
        (g.replace parent).openWith node parent key
    else none
  match items with
  | [] => none
  | item :: rest =>
    match t.kind with
    | .newline => some (g.replace (seq (addNewline t items false)))
    | .space | .comment => some (g.replace (seq (addFiller indent t items false)))
    | .anchor | .tag =>
      if item.value.isSome || t.indent ≤ indent then opening
      else some (g.replace (seq ({ item with start := item.start ++ [t] } :: rest)))
    | .itemMark =>
      if t.indent ≠ indent then opening
      else if item.value.isSome || has .itemMark item.start then
        some (g.replace (seq ({ start := [t] } :: items)))
      else some (g.replace (seq ({ item with start := item.start ++ [t] } :: rest)))
    | _ => opening

/-- A token in a flow collection that is not closed yet. -/
def inFlow (g : Growth) (t : Token) (indent : Nat) (opener : Token) (items : List (Item Tree)) :
    Option Growth :=
  let flow (items : List (Item Tree)) : Open := .flow indent opener items []
  let newest := items.head?
  let complete := newest.all (·.value.isSome)
  match t.kind with
  | .comma | .keyMark =>
    match items with
    | item :: rest =>
      if item.sep.isSome then some (g.replace (flow ({ start := [t] } :: items)))
      else some (g.replace (flow ({ item with start := item.start ++ [t] } :: rest)))
    | [] => some (g.replace (flow [{ start := [t] }]))
  | .valueMark =>
    match items with
    | item :: rest =>
      if complete then some (g.replace (flow ({ sep := some [t] } :: items)))
      else
        some (g.replace (flow ({ item with sep := some (item.sep.getD [] ++ [t]) } :: rest)))
    | [] => some (g.replace (flow [{ sep := some [t] }]))
  | .space | .comment | .newline | .anchor | .tag =>
    match items with
    | item :: rest =>
      if complete then some (g.replace (flow ({ start := [t] } :: items)))
      else
        match item.sep with
        | some sep => some (g.replace (flow ({ item with sep := some (sep ++ [t]) } :: rest)))
        | none => some (g.replace (flow ({ item with start := item.start ++ [t] } :: rest)))
    | [] => some (g.replace (flow [{ start := [t] }]))
  | .alias | .plain | .singleQuoted | .doubleQuoted =>
    if newest.any fun item => item.value.isNone && item.sep.isSome then
      some (g.openNode (.scalar t []))
    else some (g.replace (flow (putNode items (.scalar t []))))
  | .mapClose | .seqClose => some (g.replace (.flow indent opener items [t]))
  | _ =>
    (opened? (flow items) t).map fun (node, parent, key) =>
      (g.replace parent).openWith node parent key

/-- A scalar or flow collection that turns out to be the key of a block mapping. -/
def becomeKey (g : Growth) (t : Token) (key : Tree) (sep : List Token) (indent offset : Nat) :
    Growth :=
  match g.edge with
  | _ :: parent :: _ =>
    let (parent, taken) := takeProperties parent
    let entry := { start := taken, key := some key, sep := some (sep ++ [t]) }
    { g.replaceTwo (.map indent offset [entry]) parent with onKeyLine := true }
  | _ =>
    { g.replace (.map indent offset [{ key := some key, sep := some (sep ++ [t]) }]) with
      onKeyLine := true }

/-- A token after a flow collection that is closed. -/
def afterFlow (g : Growth) (t : Token) (indent : Nat) (opening : Token) (items : List (Item Tree))
    (closing : List Token) : Option Growth :=
  let lineEnd := g.atLineEnd t (.flow indent opening items (closing ++ [t]))
  let becomesKey : Growth :=
    let complete := .flow indent opening (settleItems opening items.reverse) (closing.take 1)
    g.becomeKey t complete (closing.drop 1) indent opening.offset
  match g.edge.tail.head? with
  | some (.map outer _ (newest :: _)) =>
    if (t.kind = .valueMark && outer = indent) || (t.kind = .newline && newest.sep.isNone) then none
    else if t.kind = .valueMark then some becomesKey
    else lineEnd
  | some (.flow ..) => lineEnd
  | _ => if t.kind = .valueMark then some becomesKey else lineEnd

/-- Closes flow collections that are cut off. -/
def cutOff (g : Growth) : Growth :=
  match _ : g.edge with
  | .flow .. :: _ => cutOff g.close
  | _ => g
  termination_by g.edge.length
  decreasing_by exact length_close_lt (by simp [*])

/-- A token in a document. -/
def inDocument (g : Growth) (t : Token) (d : DocumentTree) : Option Growth :=
  if d.root.isSome then g.atLineEnd t (.document { d with after := d.after ++ [t] })
  else
    match t.kind with
    | .documentStart =>
      if d.start.all Token.isFiller then
        some (g.replace (.document { d with start := d.start ++ [t] }))
      else none
    | .anchor | .tag | .space | .comment | .newline =>
      some (g.replace (.document { d with start := d.start ++ [t] }))
    | _ =>
      match opened? (.document d) t with
      | some (node, parent, key) => some ((g.replace parent).openWith node parent key)
      | none => some { g with parts := .misplaced t :: g.parts }

/-- A token outside of any document. -/
def between (g : Growth) (t : Token) : Growth :=
  match t.kind with
  | .directive => { g with parts := .directive t.text :: g.parts }
  | .byteOrderMark | .space | .comment | .newline => g
  | .documentMode => g.openNode (.document {})
  | .documentStart => g.openNode (.document { start := [t] })
  | _ => { g with parts := .misplaced t :: g.parts }

/-- What the innermost node does with a token. -/
def offer (g : Growth) (t : Token) : Option Growth :=
  match g.edge with
  | [] => some (g.between t)
  | .document d :: _ => g.inDocument t d
  | .scalar token after :: _ =>
    if t.kind = .valueMark then
      some (g.becomeKey t (.scalar token []) after token.indent token.offset)
    else g.atLineEnd t (.scalar token (after ++ [t]))
  | .block indent header :: _ =>
    match t.kind with
    | .space | .comment | .newline => some (g.replace (.block indent (header ++ [t])))
    | .blockBody =>
      match g.edge with
      | _ :: parent :: rest =>
        let (parent, onKeyLine) := place (.block parent.indent header t.text) parent g.onKeyLine
        some { g with edge := parent :: rest, onKeyLine }
      | _ => none
    | _ => none
  | .map indent offset items :: _ => g.inMap t indent offset items
  | .seq indent offset items :: _ => g.inSeq t indent offset items
  | .flow indent opening items [] :: _ =>
    if t.kind = .flowCutOff then some g.cutOff else g.inFlow t indent opening items
  | .flow indent opening items closing :: _ =>
    if t.kind = .flowCutOff then some g.cutOff else g.afterFlow t indent opening items closing
  | .finished after :: _ =>
    match t.kind with
    | .documentMode => some g
    | .newline => some (g.replace (.finished (after ++ [t]))).close
    | _ => some (g.replace (.finished (after ++ [t])))

/-- Closes nodes until one takes the token. -/
def add (g : Growth) (t : Token) : Growth :=
  match g.offer t with
  | some grown => grown
  | none => if _ : g.edge = [] then g else add g.close t
  termination_by g.edge.length
  decreasing_by exact length_close_lt ‹_›

/-- Adds a token.  The end of a document closes everything, unless it follows another one. -/
def next (g : Growth) (t : Token) : Growth :=
  match t.kind, g.edge with
  | .stray, _ => { g with parts := .misplaced t :: g.parts }
  | .documentEnd, .finished _ :: _ => g.add t
  | .documentEnd, _ => g.closeAll.openNode (.finished [])
  | _, _ => g.add t

end Growth

/-- The parts of a text, from its tokens. -/
def partsOf (tokens : List Token) : List Part :=
  (tokens.foldl Growth.next {}).closeAll.parts.reverse

end ConsoleHarness.Yaml
