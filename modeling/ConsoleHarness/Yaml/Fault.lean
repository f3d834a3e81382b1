/-! # What can be wrong with a YAML text

A text with a fault has no value, whatever else it holds.
-/

namespace ConsoleHarness.Yaml

/-- A reason why a text is no document. -/
inductive Fault where
  /-- A token stands where none of its kind may. -/
  | unexpected
  | scalarStart
  | openQuote
  | escape
  | blockHeader
  | blockIndent
  /-- A comment, tag or anchor is not set off by a space. -/
  | missingSpace
  | tabIndent
  | manyAnchors
  | manyTags
  | propertyOrder
  | emptyName
  | itemColumn
  | missingItemMark
  | missingComma
  | missingValue
  | keyLine
  | longKey
  | sequenceKey
  | nestedMapping
  | duplicateKey
  | missingNewline
  | blockInFlow
  | openFlow
  | tag
  | directive
  | missingStart
  | rootLine
  | manyDocuments
  | aliasProperties
  | unknownAlias
  | manyAliases
  deriving DecidableEq, Repr

/-- The text of a fault. -/
def Fault.text : Fault → String
  | .unexpected => "Unexpected token"
  | .scalarStart => "Plain value cannot start with this character"
  | .openQuote => "Missing closing quote"
  | .escape => "Invalid escape sequence"
  | .blockHeader => "Block scalar header includes extra characters"
  | .blockIndent => "Block scalar is not indented enough"
  | .missingSpace => "Tokens must be separated by white space"
  | .tabIndent => "Tabs are not allowed as indentation"
  | .manyAnchors => "A node can have at most one anchor"
  | .manyTags => "A node can have at most one tag"
  | .propertyOrder => "Anchors and tags must be after the indicator"
  | .emptyName => "A name cannot be an empty string"
  | .itemColumn => "All items must start at the same column"
  | .missingItemMark => "Sequence item without - indicator"
  | .missingComma => "Missing , between flow collection items"
  | .missingValue => "Implicit map keys need to be followed by map values"
  | .keyLine => "Implicit keys need to be on a single line"
  | .longKey => "The : indicator is too far after the start of an implicit key"
  | .sequenceKey => "A block sequence may not be used as an implicit map key"
  | .nestedMapping => "Nested mappings are not allowed in compact mappings"
  | .duplicateKey => "Map keys must be unique"
  | .missingNewline => "Missing newline after block sequence props"
  | .blockInFlow => "Block collections are not allowed within flow collections"
  | .openFlow => "Flow collection is not closed"
  | .tag => "Could not resolve tag"
  | .directive => "Malformed directive"
  | .missingStart => "Missing directives-end indicator line"
  | .rootLine => "Block collection cannot start on same line with directives-end marker"
  | .manyDocuments => "Source contains multiple documents"
  | .aliasProperties => "An alias node must not specify any properties"
  | .unknownAlias => "Unresolved alias"
  | .manyAliases => "Excessive alias count"

end ConsoleHarness.Yaml
