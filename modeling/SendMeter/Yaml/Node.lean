import SendMeter.Yaml.Tag
import SendMeter.Yaml.Token

namespace SendMeter.Yaml

inductive Content where
  | scalar (text : List Text.Point)
  | sequence (items : List Nat)
  | mapping (entries : List (Nat × Nat))
deriving DecidableEq, Repr

structure Node where
  tag : Tag
  content : Content
deriving DecidableEq, Repr

/-- The nodes of a document, and the number of the outermost one; a text without a document has
none. -/
structure Graph where
  nodes : Array Node
  root : Option Nat

/-- Reading of nodes from tokens. -/
structure Composer where
  tokens : List Token
  nodes : Array Node
  anchors : List (String × Nat)
  /-- What the handles of tags stand for. -/
  handles : List (String × String)
  /-- Collections are nested at most this deep. -/
  depthLimit : Nat
  /-- The number of collections that are open. -/
  depth : Nat

namespace Composer

abbrev Compose := StateT Composer (Except Fault)

/-- The next token; where the text is broken, there is none to be had. -/
def peek? : Compose (Option Token) := do
  match (← get).tokens.head? with
  | some (.broken fault) => throw fault
  | t => return t

def pass : Compose Unit :=
  modify fun c => { c with tokens := c.tokens.tail }

/-- Passes a token if it is the next one. -/
def accept (t : Token) : Compose Bool := do
  if (← peek?) = some t then
    pass
    return true
  else return false

def nextIs (ts : List Token) : Compose Bool :=
  return (← peek?).any ts.contains

def require (t : Token) : Compose Unit := do
  if !(← accept t) then throw .unreadable

/-- A new node. -/
def add (n : Node) : Compose Nat := do
  let c ← get
  set { c with nodes := c.nodes.push n }
  return c.nodes.size

/-- The content of a node, once it is read. -/
def fill (number : Nat) (content : Content) : Compose Unit :=
  modify fun c => { c with nodes := c.nodes.modify number fun n => { n with content } }

/-- A node under the name of an anchor. No name is given twice. -/
def setAnchor (name : Option String) (number : Nat) : Compose Unit := do
  match name with
  | none => return
  | some name => modify fun c => { c with anchors := (name, number) :: c.anchors }

/-- What is left out stands for nothing. -/
def addEmpty : Compose Nat :=
  add ⟨.null, .scalar []⟩

/-- The anchor and the tag in front of a node. -/
structure Properties where
  anchor : Option String
  tag : Option TagName

def anchor? : Compose (Option String) := do
  match ← peek? with
  | some (.anchor name) => pass; return some name
  | _ => return none

def tag? : Compose (Option TagName) := do
  match ← peek? with
  | some (.tag name) => pass; return some name
  | _ => return none

def properties : Compose Properties := do
  match ← anchor? with
  | some name => return ⟨some name, ← tag?⟩
  | none =>
    let tag ← tag?
    let anchor ← if tag.isSome then anchor? else pure none
    return ⟨anchor, tag⟩

/-- The whole name of a tag, with what its handle stands for. -/
def fullName (name : TagName) : Compose String := do
  match name.handle with
  | none => return name.suffix
  | some handle =>
    match (← get).handles.lookup handle with
    | some expansion => return expansion ++ name.suffix
    | none => throw .unreadable

/-- The tag by which a node says that its text tells what it is. -/
def plainTag : String := "!"

/-- The tag of a scalar. -/
def scalarTag (name : Option String) (plain : Bool) (text : List Text.Point) : Tag :=
  match name with
  | none => if plain then .ofPoints text else .text
  | some name => if name = plainTag then .ofPoints text else .ofName name

def collectionTag (name : Option String) (standard : Tag) : Tag :=
  match name with
  | none => standard
  | some name => if name = plainTag then standard else .ofName name

/-- A named node whose content is still to be read. -/
def addOpen (anchor : Option String) (tag : Tag) : Compose Nat := do
  let number ← add ⟨tag, .scalar []⟩
  setAnchor anchor number
  return number

def addScalar (anchor : Option String) (tag : Tag) (text : List Text.Point) : Compose Nat := do
  let number ← add ⟨tag, .scalar text⟩
  setAnchor anchor number
  return number

/-- A collection with a tag, and the content that is read next. -/
def addCollection (anchor : Option String) (tag : Tag) (content : Compose Content) :
    Compose Nat := do
  let number ← addOpen anchor tag
  let { depthLimit, depth, .. } ← get
  if depthLimit ≤ depth then throw .tooDeep
  modify fun c => { c with depth := depth + 1 }
  fill number (← content)
  modify fun c => { c with depth }
  return number

/-- Where a node may stand: between brackets, in a block, or in a block whose sequences need not be
indented. -/
inductive Place where
  | flow
  | block
  | indentless
deriving DecidableEq, Repr

mutual

/-- The next node; at most `fuel` tokens deep. -/
def node (place : Place) : Nat → Compose Nat
  | 0 => throw .unreadable
  | fuel + 1 => do
    if let some (.alias name) ← peek? then
      pass
      match (← get).anchors.lookup name with
      | some number => return number
      | none => throw .unreadable
    else
      let p ← properties
      let name ← p.tag.mapM fullName
      let isNew (anchor : String) := ((·.anchors.lookup anchor |>.isNone) <$> get : Compose Bool)
      if let some anchor := p.anchor then
        if !(← isNew anchor) then throw .unreadable
      match ← peek? with
      | some (.scalar text plain) =>
        pass
        addScalar p.anchor (scalarTag name plain text) text
      | some .flowSequenceStart =>
        pass
        addCollection p.anchor (collectionTag name .list) (.sequence <$> flowItems true [] fuel)
      | some .flowMappingStart =>
        pass
        addCollection p.anchor (collectionTag name .map) (.mapping <$> flowEntries true [] fuel)
      | some .blockEntry =>
        if place ≠ .indentless then emptyNode p name
        else
          addCollection p.anchor (collectionTag name .list) (.sequence <$> indentlessItems [] fuel)
      | some .blockSequenceStart =>
        if place = .flow then emptyNode p name
        else
          pass
          addCollection p.anchor (collectionTag name .list) (.sequence <$> blockItems [] fuel)
      | some .blockMappingStart =>
        if place = .flow then emptyNode p name
        else
          pass
          addCollection p.anchor (collectionTag name .map) (.mapping <$> blockEntries [] fuel)
      | _ => emptyNode p name

/-- A node of which only an anchor or a tag is written. -/
def emptyNode (p : Properties) (name : Option String) : Compose Nat :=
  if p.anchor.isNone && p.tag.isNone then throw .unreadable
  else addScalar p.anchor (scalarTag name true []) []

/-- Items of a sequence in a block; those before them stand in reverse. -/
def blockItems (done : List Nat) : Nat → Compose (List Nat)
  | 0 => throw .unreadable
  | fuel + 1 => do
    if ← accept .blockEntry then
      let item ←
        if ← nextIs [.blockEntry, .blockEnd] then addEmpty else node .block fuel
      blockItems (item :: done) fuel
    else
      require .blockEnd
      return done.reverse

/-- Items of a sequence that is not indented. -/
def indentlessItems (done : List Nat) : Nat → Compose (List Nat)
  | 0 => throw .unreadable
  | fuel + 1 => do
    if ← accept .blockEntry then
      let item ←
        if ← nextIs [.blockEntry, .key, .value, .blockEnd] then addEmpty else node .block fuel
      indentlessItems (item :: done) fuel
    else return done.reverse

/-- A key or a value in a block. -/
def blockPart : Nat → Compose Nat
  | 0 => throw .unreadable
  | fuel + 1 => do
    if ← nextIs [.key, .value, .blockEnd] then addEmpty else node .indentless fuel

def blockEntries (done : List (Nat × Nat)) : Nat → Compose (List (Nat × Nat))
  | 0 => throw .unreadable
  | fuel + 1 => do
    if ← accept .key then
      let key ← blockPart fuel
      let value ← if ← accept .value then blockPart fuel else addEmpty
      blockEntries ((key, value) :: done) fuel
    else
      require .blockEnd
      return done.reverse

/-- An entry between brackets, behind the mark of its key. -/
def flowEntry (closing : Token) : Nat → Compose (Nat × Nat)
  | 0 => throw .unreadable
  | fuel + 1 => do
    let key ← if ← nextIs [.value, .flowEntry, closing] then addEmpty else node .flow fuel
    if ← accept .value then
      let value ← if ← nextIs [.flowEntry, closing] then addEmpty else node .flow fuel
      return (key, value)
    else return (key, ← addEmpty)

/-- Items between brackets. An entry with a key is a mapping of its own. -/
def flowItems (first : Bool) (done : List Nat) : Nat → Compose (List Nat)
  | 0 => throw .unreadable
  | fuel + 1 => do
    if ← accept .flowSequenceEnd then return done.reverse
    if !first then require .flowEntry
    if ← accept .key then
      let number ← addCollection none .map do
        let entry ← flowEntry .flowSequenceEnd fuel
        return .mapping [entry]
      flowItems false (number :: done) fuel
    else if ← accept .flowSequenceEnd then return done.reverse
    else
      let item ← node .flow fuel
      flowItems false (item :: done) fuel

def flowEntries (first : Bool) (done : List (Nat × Nat)) : Nat → Compose (List (Nat × Nat))
  | 0 => throw .unreadable
  | fuel + 1 => do
    if ← accept .flowMappingEnd then return done.reverse
    if !first then require .flowEntry
    if ← accept .key then
      let entry ← flowEntry .flowMappingEnd fuel
      flowEntries false (entry :: done) fuel
    else if ← accept .flowMappingEnd then return done.reverse
    else
      let key ← node .flow fuel
      let value ← addEmpty
      flowEntries false ((key, value) :: done) fuel

end

/-- The directives in front of a document: at most one version, and every handle once. -/
def directives (version : Bool) (handles : List (String × String)) : Nat →
    Compose (List (String × String))
  | 0 => throw .unreadable
  | fuel + 1 => do
    match ← peek? with
    | some (.directive d) =>
      pass
      match d with
      | .version major =>
        if version || major ≠ 1 then throw .unreadable
        directives true handles fuel
      | .handle handle expansion =>
        if (handles.lookup handle).isSome then throw .unreadable
        directives version ((handle, expansion) :: handles) fuel
      | .unknown => directives version handles fuel
    | _ => return handles

def standardHandles : List (String × String) :=
  [("!", "!"), ("!!", Tag.standardStart)]

def skipDocumentEnds : Nat → Compose Unit
  | 0 => return
  | fuel + 1 => do
    if ← accept .documentEnd then skipDocumentEnds fuel

/-- The one document of a text, if there is one. What follows it is read up to the start of another
one. -/
def document (fuel : Nat) : Compose (Option Nat) := do
  let isMarked := match ← peek? with
    | some (.directive _) => true
    | some .documentStart => true
    | _ => false
  if ← accept .streamEnd then return none
  let root ←
    if isMarked then
      let handles ← directives false [] fuel
      modify fun c => { c with handles := handles ++ standardHandles }
      require .documentStart
      let isEmpty := match ← peek? with
        | some (.directive _) => true
        | some .documentStart => true
        | some .documentEnd => true
        | some .streamEnd => true
        | _ => false
      if isEmpty then addEmpty else node .block fuel
    else node .block fuel
  skipDocumentEnds fuel
  if !(← accept .streamEnd) then
    let _ ← directives false [] fuel
    throw .unreadable
  return some root

end Composer

/-- The nodes that tokens describe, where collections are nested at most so deep. -/
def Graph.ofTokens (depthLimit : Nat) (tokens : List Token) : Except Fault Graph := do
  let start : Composer :=
    { tokens, nodes := #[], anchors := [], handles := Composer.standardHandles, depthLimit,
      depth := 0 }
  let (root, c) ← (Composer.document (4 * tokens.length + 4)).run start
  return { nodes := c.nodes, root }

end SendMeter.Yaml
