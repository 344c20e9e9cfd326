import ManifestGrading.Value.Key
import ManifestGrading.Yaml.Node
import ManifestGrading.Yaml.ScalarValue

/-! The values that documents stand for. Every node has one value, however often it is named. Scalars get theirs
when they are first met; collections are met empty and are filled in the order in which they were met, so of
several faults in a document the one that is met first counts. Merges are carried out where a mapping is filled,
once and for all: the entries that a merge brings come before the mapping's own, which may replace them. -/

namespace ManifestGrading.Yaml

/-- The nodes of a document, the values of those that were met, by their numbers, the contents of the collections
that were filled and the collections to fill, the last one first. The value of a collection is a cell with its
number. -/
structure Builder where
  graph : Graph
  met : Array (Option Value)
  filled : List (Nat × Value)
  waiting : List Nat

abbrev Build := StateT Builder (Except Fault)

namespace Build

/-- The document has no value. -/
def refuse {α : Type} : Build α := throw .malformed

def nodeAt (place : Nat) : Build Node := return (← get).graph.getD place .empty

/-- The entries of a mapping; other nodes have none. -/
def entriesAt (place : Nat) : Build (List (Nat × Nat)) := do
  match ← nodeAt place with
  | .mapping _ entries => return entries
  | _ => return []

def replace (place : Nat) (node : Node) : Build Unit :=
  modify fun b => { b with graph := b.graph.setIfInBounds place node }

def replaceEntries (place : Nat) (entries : List (Nat × Nat)) : Build Unit := do
  replace place (.mapping (← nodeAt place).tag entries)

/-- The node with a number becomes one of another kind. -/
def retag (tag : Tag) (place : Nat) : Build Unit := do
  replace place ((← nodeAt place).withTag tag)

/-- The text of a scalar, or of the default value of a mapping. -/
def textAt : (bound : Nat) → (place : Nat) → Build RawText
  | 0, _ => throw .tooDeep
  | bound + 1, place => do
    match ← nodeAt place with
    | .scalar _ text => return text
    | .sequence _ _ => refuse
    | .mapping _ entries =>
      match ← entries.findM? fun e => return (← nodeAt e.1).tag = .value with
      | some (_, value) => textAt bound value
      | none => refuse

/-- A number that exceeds that of the nodes. -/
def nodeCount : Build Nat := return (← get).graph.size + 1

def scalarAt (place : Nat) (tag : Tag) : Build Value := do
  let text ← textAt (← nodeCount) place
  match tag, ← nodeAt place with
  | .timestamp, .mapping _ _ => throw .mappedInstant
  | tag, _ =>
    match scalarValue? place text tag with
    | some (.ok v) => return v
    | some (.error fault) => throw fault
    | none => refuse

/-- The value of a node. A collection that is met for the first time waits to be filled. -/
def valueAt (place : Nat) : Build Value := do
  match (← get).met.getD place none with
  | some v => return v
  | none =>
    let v ← match (← nodeAt place).tag with
      | .seq | .map | .set | .omap | .pairs => do
        modify fun b => { b with waiting := place :: b.waiting }
        pure (Value.cell place)
      | .merge | .value | .other => refuse
      | tag => scalarAt place tag
    modify fun b => { b with met := b.met.setIfInBounds place (some v) }
    return v

/-- The entries that a merge of a node brings: those of a mapping, or those of the mappings of a sequence, the
last mapping first. `flatten` carries out the merges of a mapping. -/
def mergedFrom (flatten : Nat → Build Unit) (place : Nat) : Build (List (Nat × Nat)) := do
  match ← nodeAt place with
  | .scalar _ _ => refuse
  | .mapping _ _ =>
    flatten place
    entriesAt place
  | .sequence _ items =>
    let lists ← items.mapM fun item => do
      match ← nodeAt item with
      | .mapping _ _ =>
        flatten item
        entriesAt item
      | _ => refuse
    return lists.reverse.flatten

/-- The merges of a mapping are carried out from the entry at `index` on; `brought` is what earlier ones brought.
A key that is the sign of a default value becomes a text. -/
def flatten : (bound : Nat) → (place index : Nat) → (brought : List (Nat × Nat)) → Build Unit
  | 0, _, _, _ => throw .tooDeep
  | bound + 1, place, index, brought => do
    let entries ← entriesAt place
    match entries[index]? with
    | none => unless brought.isEmpty do replaceEntries place (brought ++ entries)
    | some (key, value) =>
      match (← nodeAt key).tag with
      | .merge =>
        replaceEntries place (entries.eraseIdx index)
        let more ← mergedFrom (fun other => flatten bound other 0 []) value
        flatten bound place index (brought ++ more)
      | .value =>
        retag .str key
        flatten bound place (index + 1) brought
      | _ => flatten bound place (index + 1) brought

/-- A bound for the steps of all merges of a document with so many nodes. -/
def mergeBound (nodes : Nat) : Nat := Nat.pow nodes 4

/-- The entries of a mapping, of which the last one under each key counts. -/
def fillEntries (entries : Entries) : List (Nat × Nat) → Build Entries
  | [] => return entries
  | (key, value) :: rest => do
    let k ← valueAt key
    if !k.isHashable then refuse
    let v ← valueAt value
    fillEntries (Entries.put k v entries) rest

/-- The entries of a mapping after its merges. -/
def mappingAt (place : Nat) : Build Entries := do
  match ← nodeAt place with
  | .mapping _ _ =>
    flatten (mergeBound (← nodeCount)) place 0 []
    fillEntries [] (← entriesAt place)
  | _ => refuse

/-- The pair that the entry of a mapping with no other one stands for. -/
def pairAt (place : Nat) : Build Value := do
  match ← nodeAt place with
  | .mapping _ [(key, value)] =>
    let k ← valueAt key
    let v ← valueAt value
    return .tuple [k, v]
  | _ => refuse

/-- What stands in a collection. -/
def contentAt (place : Nat) : Build Value := do
  match ← nodeAt place with
  | .sequence .seq items => return .list (← items.mapM valueAt)
  | .sequence .omap items | .sequence .pairs items => return .list (← items.mapM pairAt)
  | .mapping .map _ => return .map (← mappingAt place)
  | .mapping .set _ => return .set ((← mappingAt place).map Prod.fst)
  | _ => refuse

def fill (place : Nat) : Build Unit := do
  let content ← contentAt place
  modify fun b => { b with filled := (place, content) :: b.filled }

/-- The collections that wait are filled, and then those that were met meanwhile. The bound exceeds the number of
collections. -/
def fillAll : (bound : Nat) → Build Unit
  | 0 => return
  | bound + 1 => do
    let round := (← get).waiting.reverse
    unless round.isEmpty do
      modify fun b => { b with waiting := [] }
      round.forM fill
      fillAll bound

end Build

/-- Whole values of collections, by the numbers of their nodes. -/
abbrev WholeValues := Array (Option Value)

/-- A part of a collection with whole values in place of cells, if all of them are known. -/
def wholePart? (whole : WholeValues) : Value → Option Value
  | .cell place => whole.getD place none
  | .tuple [a, b] => do return .tuple [← partOf a, ← partOf b]
  | v => some v
where
  /-- A part of a pair. -/
  partOf : Value → Option Value
    | .cell place => whole.getD place none
    | v => some v

/-- A collection with whole values in place of cells, if all of them are known. -/
def wholeValue? (whole : WholeValues) : Value → Option Value
  | .list items => (items.mapM (wholePart? whole)).map .list
  | .map entries => (entries.mapM fun (e : Value × Value) => do return (e.1, ← wholePart? whole e.2)).map .map
  | v => some v

/-- The whole values that the contents of collections lead to, and the contents that have none yet, in the
opposite order. -/
def settleOnce (whole : WholeValues) (left : List (Nat × Value)) :
    List (Nat × Value) → WholeValues × List (Nat × Value)
  | [] => (whole, left)
  | (place, content) :: rest =>
    match wholeValue? whole content with
    | some v => settleOnce (whole.setIfInBounds place (some v)) left rest
    | none => settleOnce whole ((place, content) :: left) rest

/-- The whole values of all collections that are no part of themselves and hold none that are, and the contents of
the others. -/
def settleAll : (bound : Nat) → WholeValues → List (Nat × Value) → WholeValues × List (Nat × Value)
  | 0, whole, contents => (whole, contents)
  | bound + 1, whole, contents =>
    let (whole', left) := settleOnce whole [] contents
    if left.length = contents.length then (whole, contents) else settleAll bound whole' left.reverse

/-- A part of a cell of a knot, the cells of which are numbered by their places among `numbers`. -/
def cellPart (whole : WholeValues) (numbers : List Nat) : Value → Value
  | .tuple [a, b] => .tuple [partOf a, partOf b]
  | v => partOf v
where
  /-- A part that is no pair. -/
  partOf : Value → Value
    | .cell place => (whole.getD place none).getD (.cell (numbers.idxOf place))
    | v => v

/-- A cell of a knot. -/
def cellOf (whole : WholeValues) (numbers : List Nat) : Value → Value
  | .list items => .list (items.map (cellPart whole numbers))
  | .map entries => .map (entries.map fun e => (e.1, cellPart whole numbers e.2))
  | v => v

/-- The value of the outermost node of a document, whose collections are filled. -/
def outermost (b : Builder) : Value → Value
  | .cell root =>
    let (whole, left) := settleAll (b.filled.length + 1) (Array.replicate b.graph.size none) b.filled
    match whole.getD root none with
    | some v => v
    | none =>
      let numbers := left.map Prod.fst
      .knot (left.map fun e => cellOf whole numbers e.2) (numbers.idxOf root)
  | v => v

def DocumentNode.value (d : DocumentNode) : Except Fault Value := do
  let build : Build Value := do
    let v ← Build.valueAt d.root
    Build.fillAll (d.graph.size + 1)
    return v
  let (v, b) ← build.run ⟨d.graph, Array.replicate d.graph.size none, [], []⟩
  return outermost b v

end ManifestGrading.Yaml
