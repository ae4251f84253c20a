import SendMeter.Yaml.Node

namespace SendMeter.Yaml

namespace Node

def entries? (n : Node) : Option (List (Nat × Nat)) :=
  match n.content with
  | .mapping entries => some entries
  | _ => none

end Node

def contentAt? (nodes : Array Node) (number : Nat) : Option Content :=
  nodes[number]?.map (·.content)

def entriesAt? (nodes : Array Node) (number : Nat) : Option (List (Nat × Nat)) :=
  nodes[number]?.bind Node.entries?

def tagAt (nodes : Array Node) (number : Nat) : Tag :=
  (nodes[number]?.map (·.tag)).getD .unknown

def setEntries (nodes : Array Node) (number : Nat) (entries : List (Nat × Nat)) : Array Node :=
  nodes.modify number fun n => { n with content := .mapping entries }

/-- Nodes, with the entries that are merged and those that are kept. -/
structure Merging where
  nodes : Array Node
  merged : List (Nat × Nat)
  kept : List (Nat × Nat)

/-- The mappings that a merge key refers to, the last of them first. -/
def mergeSources (nodes : Array Node) (number : Nat) : Except Fault (List Nat) :=
  match contentAt? nodes number with
  | some (.mapping _) => .ok [number]
  | some (.sequence items) =>
    if items.all fun item => (entriesAt? nodes item).isSome then .ok items else .error .unreadable
  | _ => .error .unreadable

/-- One entry of a mapping: it is kept, or the entries that it refers to are merged. `flatten`
merges within a mapping that is referred to. -/
def addEntry (flatten : Array Node → Nat → Except Fault (Array Node)) (number : Nat)
    (later : List (Nat × Nat)) (m : Merging) (entry : Nat × Nat) : Except Fault Merging :=
  match tagAt m.nodes entry.1 with
  | .merge => do
    let sources ← mergeSources m.nodes entry.2
    let nodes ← sources.foldlM flatten (setEntries m.nodes number (m.kept ++ later))
    let merged := sources.reverse.flatMap fun source => (entriesAt? nodes source).getD []
    return { m with nodes, merged := m.merged ++ merged }
  | .value =>
    let nodes := m.nodes.modify entry.1 fun n => { n with tag := .text }
    .ok { m with nodes, kept := m.kept ++ [entry] }
  | _ => .ok { m with kept := m.kept ++ [entry] }

def addEntries (flatten : Array Node → Nat → Except Fault (Array Node)) (number : Nat)
    (m : Merging) : List (Nat × Nat) → Except Fault Merging
  | [] => .ok m
  | entry :: later =>
    (addEntry flatten number later m entry).bind fun m => addEntries flatten number m later

/-- The nodes with the merge keys of a mapping carried out; references are followed at most `fuel`
deep. -/
def flattenTo : Nat → Array Node → Nat → Except Fault (Array Node)
  | 0, _, _ => .error .unreadable
  | fuel + 1, nodes, number =>
    match entriesAt? nodes number with
    | none => .ok nodes
    | some entries =>
      (addEntries (flattenTo fuel) number ⟨nodes, [], []⟩ entries).map fun m =>
        setEntries m.nodes number (m.merged ++ m.kept)

/-- The nodes with the merge keys of a mapping carried out. Every reference uses up a merge key,
so there are no more of them than entries. -/
def flatten (nodes : Array Node) (number : Nat) : Except Fault (Array Node) :=
  let entries := nodes.foldl (fun count n => count + (n.entries?.getD []).length) 0
  flattenTo (entries + 1) nodes number

end SendMeter.Yaml
