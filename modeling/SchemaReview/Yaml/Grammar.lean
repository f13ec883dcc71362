import SchemaReview.Yaml.Reader

/-!
# Nodes from tokens

The tree of nodes that tokens spell. The item or value after an indicator may be missing; it is then
an empty plain scalar. An alias stands for the node whose anchor it names, and no two nodes have one
anchor.
-/
namespace SchemaReview.Yaml.Reader

/-- Whether an item or value is missing before a token of a block collection. -/
def endsBlockValue (kind : TokenKind) : Bool :=
  kind = .key || kind = .value || kind = .blockEnd

/-- Whether an item or value is missing before a token inside brackets. -/
def endsFlowValue (closing kind : TokenKind) : Bool := kind = .flowEntry || kind = closing

mutual

/-- A node. Inside of brackets there are no block collections; as a value of a block mapping a
sequence may do without an indentation of its own. -/
def node (inBlock mayBeIndentless : Bool) : Nat → Reader Node
  | 0 => refused .unexpectedToken
  | fuel + 1 => do
    match ← nextKind with
    | .alias name =>
      let token ← take
      match (← get).anchors.lookup name with
      | some (some node) => return node
      | some none => return .enclosing token.start
      | none => refused .undefinedAlias
    | _ =>
      let p ← properties
      let start := p.start.getD (← next).start
      if let some name := p.anchor then
        if ((← get).anchors.lookup name).isSome then refused .repeatedAnchor
      setAnchor p.anchor none
      let node ← content inBlock mayBeIndentless p start fuel
      setAnchor p.anchor (some node)
      return node

/-- What follows the properties of a node. -/
def content (inBlock mayBeIndentless : Bool) (p : Properties) (start : Mark) : Nat → Reader Node
  | 0 => refused .unexpectedToken
  | fuel + 1 => do
    let sequence (items : List Node) : Node := .sequence (tagOr p.tag .seq) items start
    let mapping (entries : List (Node × Node)) : Node := .mapping (tagOr p.tag .map) entries start
    match ← nextKind with
    | .blockEntry =>
      if mayBeIndentless then return sequence (← indentlessItems fuel)
      else missingContent p start
    | .scalar text isPlain =>
      let _ ← take
      return .scalar (scalarTag p.tag text isPlain) text start
    | .flowSequenceStart =>
      let _ ← take
      return sequence (← flowItems true fuel)
    | .flowMappingStart =>
      let _ ← take
      return mapping (← flowEntries true fuel)
    | .blockSequenceStart =>
      if inBlock then
        let _ ← take
        return sequence (← blockItems fuel)
      else missingContent p start
    | .blockMappingStart =>
      if inBlock then
        let _ ← take
        return mapping (← blockEntries fuel)
      else missingContent p start
    | _ => missingContent p start

/-- The empty scalar that properties alone stand for. -/
def missingContent (p : Properties) (start : Mark) : Reader Node :=
  if p.anchor.isSome || p.tag.isSome then return .scalar (scalarTag p.tag "" true) "" start
  else refused .unexpectedToken

/-- The items of a sequence in a block of its own, up to its end. -/
def blockItems : Nat → Reader (List Node)
  | 0 => refused .unexpectedToken
  | fuel + 1 => do
    let token ← next
    if token.kind = .blockEntry then
      let _ ← take
      let kind ← nextKind
      let item ←
        if kind = .blockEntry || kind = .blockEnd then pure (empty token.stop)
        else node true false fuel
      return item :: (← blockItems fuel)
    else
      expect .blockEnd
      return []

/-- The items of a sequence without an indentation of its own. -/
def indentlessItems : Nat → Reader (List Node)
  | 0 => refused .unexpectedToken
  | fuel + 1 => do
    let token ← next
    if token.kind = .blockEntry then
      let _ ← take
      let kind ← nextKind
      let item ←
        if kind = .blockEntry || endsBlockValue kind then pure (empty token.stop)
        else node true false fuel
      return item :: (← indentlessItems fuel)
    else return []

/-- The key or value after an indicator in a block mapping. -/
def blockPart (stop : Mark) : Nat → Reader Node
  | 0 => refused .unexpectedToken
  | fuel + 1 => do
    if endsBlockValue (← nextKind) then return empty stop else node true true fuel

/-- The entries of a block mapping, up to its end. -/
def blockEntries : Nat → Reader (List (Node × Node))
  | 0 => refused .unexpectedToken
  | fuel + 1 => do
    let token ← next
    if token.kind = .key then
      let _ ← take
      let key ← blockPart token.stop fuel
      let token ← next
      let value ←
        if token.kind = .value then
          let _ ← take
          blockPart token.stop fuel
        else pure (empty token.start)
      return (key, value) :: (← blockEntries fuel)
    else
      expect .blockEnd
      return []

/-- The part after an indicator inside brackets, or what stands for it. -/
def flowPart (closing indicator : TokenKind) : Nat → Reader Node
  | 0 => refused .unexpectedToken
  | fuel + 1 => do
    let token ← next
    if token.kind = indicator then
      let _ ← take
      let kind ← nextKind
      if endsFlowValue closing kind || (indicator = .key && kind = .value) then
        return empty token.stop
      else node false false fuel
    else return empty token.start

/-- The items between brackets. An entry of a mapping is an item by itself. -/
def flowItems (isFirst : Bool) : Nat → Reader (List Node)
  | 0 => refused .unexpectedToken
  | fuel + 1 => do
    if ← accept .flowSequenceEnd then return []
    if !isFirst then expect .flowEntry
    let token ← next
    if token.kind = .key then
      let key ← flowPart .flowSequenceEnd .key fuel
      let value ← flowPart .flowSequenceEnd .value fuel
      return .mapping .map [(key, value)] token.start :: (← flowItems false fuel)
    else if token.kind = .flowSequenceEnd then
      let _ ← take
      return []
    else
      let item ← node false false fuel
      return item :: (← flowItems false fuel)

/-- The entries between braces. A key may stand without a value. -/
def flowEntries (isFirst : Bool) : Nat → Reader (List (Node × Node))
  | 0 => refused .unexpectedToken
  | fuel + 1 => do
    if ← accept .flowMappingEnd then return []
    if !isFirst then expect .flowEntry
    let token ← next
    if token.kind = .key then
      let key ← flowPart .flowMappingEnd .key fuel
      let value ← flowPart .flowMappingEnd .value fuel
      return (key, value) :: (← flowEntries false fuel)
    else if token.kind = .flowMappingEnd then
      let _ ← take
      return []
    else
      let key ← node false false fuel
      let value := empty (← next).start
      return (key, value) :: (← flowEntries false fuel)

end

end SchemaReview.Yaml.Reader
