import ManifestGrading.Value.Fault
import ManifestGrading.Value.Key

/-! Access to the parts of a value whose kind is not known beforehand: what a mapping holds under a name, the
parts of a collection in order, the integer that a value stands for, and the entries of a sequence of
pairs. -/

namespace ManifestGrading.Value

/-- The entries of a value that is asked for its `member`, which only mappings have. -/
def entriesFor (member : String) (v : Value) : Except Fault Entries :=
  match v.mapping? with
  | some entries => .ok entries
  | none => .error (.noMember v.kind member)

/-- What a mapping holds under a text, null if there is nothing. -/
def field (name : String) (v : Value) : Except Fault Value := (v.entriesFor "get").map (Entries.get name)

/-- The parts of a value in order: code points of a text, keys of a mapping, members of a collection. -/
def elements (v : Value) : Except Fault (List Value) :=
  match v.opened with
  | list items => .ok items
  | tuple items => .ok items
  | set members => .ok members
  | map entries => .ok (entries.map Prod.fst)
  | text s => .ok (s.points.map fun p => .text ⟨[p]⟩)
  | bytes b => .ok (b.map fun x => .int x.toNat)
  | v => .error (.notIterable v.kind)

/-- A value as an integer: a fraction loses its part after the point, a text is read as a numeral. -/
def toInteger : Value → Except Fault Int
  | bool b => .ok (if b then 1 else 0)
  | int n => .ok n
  | float x =>
    match x with
    | .finite .. => .ok (x.truncate?.getD 0)
    | .infinite _ => .error .infiniteInteger
    | .nan _ => .error .undefinedInteger
  | text s => (Number.readInteger 10 s).mapError .integer
  | v => .error (.notANumber v.kind)

/-- The place that an integer names among `length` ones; negative integers count from the end. -/
def placeOf? (length : Nat) (i : Int) : Option Nat :=
  if 0 ≤ i then (if i < length then some i.toNat else none)
  else if -i ≤ length then some (length - (-i).toNat) else none

/-- The integer that a value is as a place in a sequence. -/
def placeNumber? : Value → Option Int
  | bool b => some (if b then 1 else 0)
  | int n => some n
  | _ => none

/-- What a value holds at a key or a place. -/
def at? (key v : Value) : Except Fault Value :=
  match v.opened with
  | map entries => .ok ((Entries.find? key entries).getD .null)
  | list items =>
    match key.placeNumber? with
    | none => .error (.listIndex key.kind)
    | some i =>
      match (placeOf? items.length i).bind (items[·]?) with
      | some v => .ok v
      | none => .error (.indexRange "list")
  | text s =>
    match key.placeNumber? with
    | none => .error (.textIndex key.kind)
    | some i =>
      match (placeOf? s.points.length i).bind (s.points[·]?) with
      | some p => .ok (.text ⟨[p]⟩)
      | none => .error (.indexRange "string")
  | v => .error (.notIndexable v.kind)

/-- The two parts of an element that stands for an entry. -/
def pairAt (place : Nat) (v : Value) : Except Fault (Value × Value) :=
  match v.elements with
  | .error _ => .error (.pairNotSequence place)
  | .ok [a, b] =>
    match a.hindrance? with
    | none => .ok (a, b)
    | some part => .error (.unhashable part.kind)
  | .ok items => .error (.pairLength place items.length)

/-- The entries that a sequence of pairs puts one after the other; the first pair stands at `place`. -/
def putPairs (entries : Entries) (place : Nat) : List Value → Except Fault Entries
  | [] => .ok entries
  | v :: rest => do
    let (a, b) ← pairAt place v
    putPairs (Entries.put a b entries) (place + 1) rest

/-- A value as the entries of a mapping: a mapping's own, or those of a sequence of pairs. -/
def toEntries (v : Value) : Except Fault Entries :=
  match v.mapping? with
  | some entries => .ok entries
  | none => do putPairs [] 0 (← v.elements)

theorem toEntries_map (entries : Entries) : (map entries).toEntries = .ok entries := rfl

theorem field_map (name : String) (entries : Entries) : (map entries).field name = .ok (Entries.get name entries) := rfl

end ManifestGrading.Value
