import SendMeter.Text.Utf8
import SendMeter.Yaml.Merge
import SendMeter.Yaml.Scalar
import SendMeter.Yaml.Token.Stream

namespace SendMeter.Yaml

/-- What a node stands for; parts of collections are still nodes. -/
inductive Meaning where
  | single (v : Value)
  /-- A collection whose parts have not been met. -/
  | waiting
  | list (items : List Nat)
  | pairs (entries : List (Nat × Nat))
  | map (entries : List (Value × Nat))
  | set (entries : List (Value × Nat))

def meaningAt? (meanings : Array (Option Meaning)) (number : Nat) : Option Meaning :=
  (meanings[number]?).bind id

/-- Nodes with what is known of their meaning, and the collections that wait for their turn. -/
structure Builder where
  nodes : Array Node
  meanings : Array (Option Meaning)
  queue : List Nat

namespace Builder

abbrev Build := StateT Builder (Except Fault)

/-- The text of a scalar. A mapping with a value key has the text of the value under it; such keys
are followed at most `fuel` deep, for a mapping may have itself as its value. -/
def textOf (nodes : Array Node) : Nat → Nat → Except Fault (List Text.Point)
  | 0, _ => .error .tooDeep
  | fuel + 1, number =>
    match contentAt? nodes number with
    | some (.scalar text) => .ok text
    | some (.mapping entries) =>
      match entries.find? fun entry => tagAt nodes entry.1 = .value with
      | some entry => textOf nodes fuel entry.2
      | none => .error .unreadable
    | _ => .error .unreadable

def isCollection (tag : Tag) : Bool :=
  [Tag.list, .map, .set, .orderedMap, .pairs].contains tag

def setMeaning (number : Nat) (m : Meaning) : Build Unit :=
  modify fun b => { b with meanings := b.meanings.setIfInBounds number (some m) }

/-- Gives a node its meaning, or has it wait if it is a collection. -/
def meet (number : Nat) : Build Unit := do
  let b ← get
  if (meaningAt? b.meanings number).isSome then return
  let tag := tagAt b.nodes number
  if isCollection tag then
    setMeaning number .waiting
    modify fun b => { b with queue := b.queue ++ [number] }
  else
    let text ← (textOf b.nodes (b.nodes.size + 1) number : Except Fault (List Text.Point))
    if tag = .moment && (entriesAt? b.nodes number).isSome then throw .momentOfMapping
    let v ← (scalarValue tag number text : Except Fault Value)
    setMeaning number (.single v)

def meetPair (entry : Nat × Nat) : Build Unit := do
  meet entry.1
  meet entry.2

/-- Entries with one more; the key has to be a single value. -/
def meetEntry (entries : List (Value × Nat)) (entry : Nat × Nat) : Build (List (Value × Nat)) := do
  meet entry.1
  match meaningAt? (← get).meanings entry.1 with
  | some (.single key) =>
    meet entry.2
    return Value.put entries key entry.2
  | _ => throw .unreadable

/-- The entries of a mapping, merge keys carried out. -/
def meetEntries (number : Nat) : Build (List (Value × Nat)) := do
  let nodes ← (flatten (← get).nodes number : Except Fault (Array Node))
  modify fun b => { b with nodes }
  match entriesAt? nodes number with
  | some entries => entries.foldlM meetEntry []
  | none => throw .unreadable

/-- Meets the parts of a collection. -/
def expand (number : Nat) : Build Unit := do
  let b ← get
  let tag := tagAt b.nodes number
  match tag, contentAt? b.nodes number with
  | .map, _ => setMeaning number (.map (← meetEntries number))
  | .set, _ => setMeaning number (.set (← meetEntries number))
  | .list, some (.sequence items) =>
    items.forM meet
    setMeaning number (.list items)
  | _, some (.sequence items) =>
    let entries ← items.mapM fun item =>
      match entriesAt? b.nodes item with
      | some [entry] => do
        meetPair entry
        return entry
      | _ => throw .unreadable
    setMeaning number (.pairs entries)
  | _, _ => throw .unreadable

/-- Meets the parts of all collections that wait; at most `fuel` of them. -/
def run : Nat → Build Unit
  | 0 => return
  | fuel + 1 => do
    match (← get).queue with
    | [] => return
    | number :: queue =>
      modify fun b => { b with queue }
      expand number
      run fuel

end Builder

/-- The value of a node down to a number of levels; collections below them are empty. -/
def valueTo (meanings : Array (Option Meaning)) : Nat → Nat → Value
  | 0, number =>
    match meaningAt? meanings number with
    | some (.single v) => v
    | some (.map _) => .map []
    | some (.set _) => .set []
    | _ => .list []
  | levels + 1, number =>
    let value := valueTo meanings levels
    match meaningAt? meanings number with
    | some (.single v) => v
    | some (.map entries) => .map (entries.map fun entry => (entry.1, value entry.2))
    | some (.set entries) => .set (entries.map (·.1))
    | some (.list items) => .list (items.map value)
    | some (.pairs entries) => .list (entries.map fun entry => .list [value entry.1, value entry.2])
    | _ => .list []

/-- Settings lie three levels deep; one more tells whether a collection is empty. -/
def levels : Nat := 4

def Graph.value (g : Graph) : Except Fault Value :=
  match g.root with
  | none => .ok .null
  | some root => do
    let start : Builder :=
      { nodes := g.nodes, meanings := Array.replicate g.nodes.size none, queue := [] }
    let build : Builder.Build Unit := do
      Builder.meet root
      Builder.run (g.nodes.size + 1)
    let ((), b) ← build.run start
    return valueTo b.meanings levels root

/-- The value of the document in a text whose collections are nested at most so deep; a text without
a document stands for null. -/
def Value.ofText (depthLimit : Nat) (cs : List Char) : Except Fault Value := do
  let graph ← Graph.ofTokens depthLimit (Token.ofText cs)
  graph.value

/-- What reads the value of a document from its text. -/
class Loader where
  ofText : List Char → Except Fault Value

/-- The loader that has room on its stack for so many collections, one within the other. -/
@[reducible] def Loader.ofDepth (depthLimit : Nat) : Loader :=
  ⟨Value.ofText depthLimit⟩

/-- The collections that are held by a stack of 1000 calls where nothing but the loading of the
configuration stands on it. It is an assumption on where the loader runs. -/
def stackDepth : Nat := 489

instance : Loader := .ofDepth stackDepth

end SendMeter.Yaml
