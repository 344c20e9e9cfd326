import ManifestGrading.Yaml.Tag
import ManifestGrading.Yaml.Token

/-! The documents of a text in YAML as graphs of nodes. The nodes of a document have numbers, by which
collections name their parts; a name given to a node by an anchor stands for its number in the rest of the
document, within the node itself as well. The tokens are read from left to right, and every reader takes the
tokens of one node or of the rest of one collection. -/

namespace ManifestGrading.Yaml

/-- A node of a document, with its parts by their numbers. -/
inductive Node where
  | scalar (tag : Tag) (text : RawText)
  | sequence (tag : Tag) (items : List Nat)
  | mapping (tag : Tag) (entries : List (Nat × Nat))
  deriving Repr

namespace Node

/-- The kind of a node. -/
def tag : Node → Tag
  | scalar tag _ => tag
  | sequence tag _ => tag
  | mapping tag _ => tag

/-- A node as one of another kind. -/
def withTag (tag : Tag) : Node → Node
  | scalar _ text => scalar tag text
  | sequence _ items => sequence tag items
  | mapping _ entries => mapping tag entries

/-- A scalar that is not written. -/
def empty : Node := .scalar .null (.ofString "")

instance : Inhabited Node := ⟨empty⟩

end Node

abbrev Graph := Array Node

/-- A document: its nodes, and the number of the outermost one. -/
structure DocumentNode where
  graph : Graph
  root : Nat
  deriving Repr

/-- The tokens that are left, the fault behind the last of them, what the handles of tags stand for, the nodes
of this document, the numbers of those with a name, the newest first, how many collections may still be opened
within each other, and whether a document came before. -/
structure Composer where
  tokens : List Token
  fault : Fault
  handles : List (String × String)
  graph : Graph
  anchors : List (String × Nat)
  room : Nat
  begun : Bool

/-- A reader of tokens. -/
abbrev Compose := StateT Composer (Except Fault)

namespace Compose

def refuse {α : Type} : Compose α := throw .malformed

/-- The next token, which stays. -/
def peek : Compose Token := do
  let c ← get
  match c.tokens with
  | [] => throw c.fault
  | t :: _ => return t

/-- The next token is passed over. -/
def skip : Compose Unit := modify fun c => { c with tokens := c.tokens.tail }

/-- Whether the next token is a certain one; if so it is passed over. -/
def skipIf (t : Token) : Compose Bool := do
  if (← peek) = t then
    skip
    return true
  else return false

/-- A token that must come next. -/
def expect (t : Token) : Compose Unit := do
  unless ← skipIf t do refuse

def named (name : String) : Compose Nat := do
  match (← get).anchors.lookup name with
  | some node => return node
  | none => refuse

/-- A further node, which gets the name of an anchor. -/
def add (anchor : Option String) (node : Node) : Compose Nat :=
  modifyGet fun c =>
    let place := c.graph.size
    (place, { c with
      graph := c.graph.push node
      anchors := anchor.elim c.anchors fun name => (name, place) :: c.anchors })

/-- A scalar that is not written, as a further node. -/
def addEmpty : Compose Nat := add none .empty

/-- A name that is not yet taken in this document. -/
def checkFree (anchor : Option String) : Compose Unit := do
  if let some name := anchor then
    if ((← get).anchors.lookup name).isSome then refuse

/-- The full name of a tag. -/
def fullName : TagName → Compose String
  | .verbatim name => return name
  | .short handle rest => do
    match (← get).handles.lookup handle with
    | some start => return start ++ rest
    | none => refuse

/-- What may stand before a node: its name and its tag, in either order. -/
def properties : Compose (Option String × Option String) := do
  match ← peek with
  | .anchor name => do
    skip
    match ← peek with
    | .tag tag => do
      skip
      return (some name, some (← fullName tag))
    | _ => return (some name, none)
  | .tag tag => do
    skip
    match ← peek with
    | .anchor name => do
      skip
      return (some name, some (← fullName tag))
    | _ => return (none, some (← fullName tag))
  | _ => return (none, none)

/-- The kind of a collection with a tag; an exclamation mark alone leaves it as it is. -/
def collectionTag (tag : Option String) (default : Tag) : Tag :=
  match tag with
  | none => default
  | some name => if name = "!" then default else Tag.ofName name

/-- The kind of a scalar with a tag. Without one a plain scalar has the kind of its look, and so has every
scalar behind an exclamation mark alone. -/
def scalarTag (tag : Option String) (plain : Bool) (text : RawText) : Tag :=
  match tag with
  | none => if plain then plainTag text.shown else .str
  | some name => if name = "!" then plainTag text.shown else Tag.ofName name

/-- Whether one of several tokens comes next. -/
def isNext (ts : List Token) : Compose Bool := return ts.contains (← peek)

/-- How many collections may stand within each other. -/
def depthLimit : Nat := 490

/-- A collection, which has its number and its name while its parts are read. -/
def collection {α : Type} (anchor : Option String) (make : List α → Node) (parts : Compose (List α)) :
    Compose Nat := do
  let place ← add anchor (make [])
  match (← get).room with
  | 0 => throw .tooDeep
  | room + 1 =>
    modify fun c => { c with room := room }
    let found ← parts
    modify fun c => { c with graph := c.graph.setIfInBounds place (make found), room := room + 1 }
    return place

mutual

/-- A node. Block collections may come where `block` says so, and a sequence without indentation of its own
where `indentless` says so. -/
def node : (bound : Nat) → (block indentless : Bool) → Compose Nat
  | 0, _, _ => refuse
  | bound + 1, block, indentless => do
    if let .alias name ← peek then
      skip
      named name
    else
      let (anchor, tag) ← properties
      let sequence := Node.sequence (collectionTag tag .seq)
      let mapping := Node.mapping (collectionTag tag .map)
      match ← peek with
      | .blockEntry =>
        if indentless then
          checkFree anchor
          collection anchor sequence (indentlessItems bound)
        else emptyNode anchor tag
      | .scalar text plain =>
        checkFree anchor
        skip
        add anchor (.scalar (scalarTag tag plain text) text)
      | .flowSequenceStart =>
        checkFree anchor
        skip
        collection anchor sequence (flowItems bound true)
      | .flowMappingStart =>
        checkFree anchor
        skip
        collection anchor mapping (flowEntries bound true)
      | .blockSequenceStart =>
        if block then
          checkFree anchor
          skip
          collection anchor sequence (blockItems bound)
        else emptyNode anchor tag
      | .blockMappingStart =>
        if block then
          checkFree anchor
          skip
          collection anchor mapping (blockEntries bound)
        else emptyNode anchor tag
      | _ => emptyNode anchor tag

def blockItems : (bound : Nat) → Compose (List Nat)
  | 0 => refuse
  | bound + 1 => do
    if ← skipIf .blockEntry then
      let item ← if ← isNext [.blockEntry, .blockEnd] then addEmpty else node bound true false
      return item :: (← blockItems bound)
    else
      expect .blockEnd
      return []

/-- The items of a block sequence that is not indented. -/
def indentlessItems : (bound : Nat) → Compose (List Nat)
  | 0 => refuse
  | bound + 1 => do
    if ← skipIf .blockEntry then
      let item ←
        if ← isNext [.blockEntry, .key, .value, .blockEnd] then addEmpty else node bound true false
      return item :: (← indentlessItems bound)
    else return []

/-- The entries of a block mapping. The node of a key or of a value may be missing. -/
def blockEntries : (bound : Nat) → Compose (List (Nat × Nat))
  | 0 => refuse
  | bound + 1 => do
    if ← skipIf .key then
      let key ← if ← isNext [.key, .value, .blockEnd] then addEmpty else node bound true true
      let value ←
        if ← skipIf .value then
          if ← isNext [.key, .value, .blockEnd] then addEmpty else node bound true true
        else addEmpty
      return (key, value) :: (← blockEntries bound)
    else
      expect .blockEnd
      return []

/-- The items of a flow sequence; an entry among them is a mapping of its own. -/
def flowItems : (bound : Nat) → (first : Bool) → Compose (List Nat)
  | 0, _ => refuse
  | bound + 1, first => do
    if ← skipIf .flowSequenceEnd then return []
    unless first do expect .flowEntry
    if ← skipIf .key then
      let item ← collection none (Node.mapping .map) (flowPair bound)
      return item :: (← flowItems bound false)
    else if ← skipIf .flowSequenceEnd then return []
    else
      let item ← node bound false false
      return item :: (← flowItems bound false)

/-- The only entry of a mapping among the items of a flow sequence. -/
def flowPair : (bound : Nat) → Compose (List (Nat × Nat))
  | 0 => refuse
  | bound + 1 => do
    let key ← if ← isNext [.value, .flowEntry, .flowSequenceEnd] then addEmpty else node bound false false
    let value ←
      if ← skipIf .value then
        if ← isNext [.flowEntry, .flowSequenceEnd] then addEmpty else node bound false false
      else addEmpty
    return [(key, value)]

/-- The entries of a flow mapping; one without a colon has no value. -/
def flowEntries : (bound : Nat) → (first : Bool) → Compose (List (Nat × Nat))
  | 0, _ => refuse
  | bound + 1, first => do
    if ← skipIf .flowMappingEnd then return []
    unless first do expect .flowEntry
    if ← skipIf .key then
      let key ←
        if ← isNext [.value, .flowEntry, .flowMappingEnd] then addEmpty else node bound false false
      let value ←
        if ← skipIf .value then
          if ← isNext [.flowEntry, .flowMappingEnd] then addEmpty else node bound false false
        else addEmpty
      return (key, value) :: (← flowEntries bound false)
    else if ← skipIf .flowMappingEnd then return []
    else
      let key ← node bound false false
      let value ← addEmpty
      return (key, value) :: (← flowEntries bound false)

/-- A scalar that is not written, which needs a name or a tag in its place. -/
def emptyNode (anchor tag : Option String) : Compose Nat := do
  if anchor.isNone && tag.isNone then refuse
  else
    checkFree anchor
    add anchor (.scalar (scalarTag tag true (.ofString "")) (.ofString ""))

end

/-- The handles of tags that need no directive. -/
def defaultHandles : List (String × String) := [("!", "!"), ("!!", Tag.ownStart)]

/-- The directives before a document; `version` says whether one for the version came before. -/
def directives (version : Bool) : (bound : Nat) → Compose Unit
  | 0 => refuse
  | bound + 1 => do
    match ← peek with
    | .directive (.version major _) =>
      skip
      if version || major != 1 then refuse
      directives true bound
    | .directive (.handle name start) =>
      skip
      if ((← get).handles.lookup name).isSome then refuse
      modify fun c => { c with handles := c.handles ++ [(name, start)] }
      directives version bound
    | .directive .other =>
      skip
      directives version bound
    | _ => return

/-- The marks behind documents are passed over. -/
def skipEnds : (bound : Nat) → Compose Unit
  | 0 => refuse
  | bound + 1 => do
    if ← skipIf .documentEnd then skipEnds bound

/-- Whether a document or a directive starts or ends here. -/
def atBoundary : Compose Bool := do
  match ← peek with
  | .directive _ | .documentStart | .documentEnd | .streamEnd => return true
  | _ => return false

/-- How a document begins: behind a mark, or at the start of the text without one. -/
inductive Opening where
  | marked
  | bare

/-- The beginning of the next document, or none at the end of the text. Only the first one needs no mark. -/
def opening (bound : Nat) : Compose (Option Opening) := do
  let bare : Bool := !(← get).begun && !(← isNext [.documentStart, .streamEnd])
  let bare := match ← peek with
    | .directive _ => false
    | _ => bare
  modify fun c => { c with begun := true, graph := #[], anchors := [], handles := defaultHandles }
  if bare then return some .bare
  else
    skipEnds bound
    if ← skipIf .streamEnd then return none
    modify fun c => { c with handles := [] }
    directives false bound
    modify fun c => { c with handles := c.handles ++ defaultHandles }
    expect .documentStart
    return some .marked

/-- The document that begins, and the mark behind it. Behind a mark it may be empty. -/
def content (bound : Nat) (o : Opening) : Compose DocumentNode := do
  let isEmpty ← match o with
    | .marked => atBoundary
    | .bare => pure false
  let root ← if isEmpty then addEmpty else node bound true false
  let _ ← skipIf .documentEnd
  return ⟨(← get).graph, root⟩

def document (bound : Nat) : Compose (Option DocumentNode) := do
  match ← opening bound with
  | none => return none
  | some o => return some (← content bound o)

/-- The documents that are left, and what ends the reading early. -/
def documents (bound : Nat) : (count : Nat) → Composer → List DocumentNode × Option Fault
  | 0, _ => ([], some .malformed)
  | count + 1, c =>
    match (document bound).run c with
    | .error fault => ([], some fault)
    | .ok (none, _) => ([], none)
    | .ok (some found, c) =>
      let (more, fault) := documents bound count c
      (found :: more, fault)

/-- The only document, if there is one; the beginning of a second one is refused. -/
def onlyDocument (bound : Nat) : Compose (Option DocumentNode) := do
  match ← document bound with
  | none => return none
  | some found =>
    match ← opening bound with
    | none => return some found
    | some _ => refuse

end Compose

namespace DocumentNode

/-- A bound for the steps of readers of tokens: they take a token at least at every third step. -/
def stepBound (tokens : List Token) : Nat := 3 * tokens.length + 10

/-- The state before the first token. -/
def before (tokens : List Token) (fault : Option Fault) : Composer :=
  ⟨tokens, fault.getD .malformed, [], #[], [], Compose.depthLimit, false⟩

/-- The documents of tokens, and what ends the reading early. -/
def ofTokens (tokens : List Token) (fault : Option Fault) : List DocumentNode × Option Fault :=
  Compose.documents (stepBound tokens) (stepBound tokens) (before tokens fault)

/-- The only document of tokens, if there is one. -/
def onlyOf (tokens : List Token) (fault : Option Fault) : Except Fault (Option DocumentNode) :=
  (Compose.onlyDocument (stepBound tokens)).run' (before tokens fault)

end DocumentNode

end ManifestGrading.Yaml
