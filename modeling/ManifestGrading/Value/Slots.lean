import ManifestGrading.Value.Basic

/-! The order in which the members of a set of numbers show. Each takes a slot of a table, and they show in the order
of their slots. A number asks for the slot that its residue names; where that is taken it tries the next ones, and
then goes on from another slot. Members among which one is no number show in the order in which they came. -/

namespace ManifestGrading.Value

/-- What residues are taken by; a power of two has a residue that is a power of two. -/
def residueModulus : Nat := Nat.pow 2 61 - 1

/-- A residue with a sign. There is none of minus one. -/
def signedResidue (negative : Bool) (residue : Nat) : Int :=
  if !negative then residue else if residue = 1 then -2 else -residue

/-- The residue of a number, the same one for equal numbers. -/
def residue? : Value → Option Int
  | bool b => some (if b then 1 else 0)
  | int n => some (signedResidue (n < 0) (n.natAbs % residueModulus))
  | float x =>
    match x with
    | .finite negative m e => some (signedResidue negative (m * Nat.pow 2 (e % 61).toNat % residueModulus))
    | .infinite negative => some (signedResidue negative 314159)
    | .nan _ => none
  | _ => none

/-- A residue as a word of 64 bits. -/
def residueWord (residue : Int) : Nat := (residue % (Nat.pow 2 64 : Nat)).toNat

/-- A table with slots for things of a kind, some of which are taken. -/
abbrev SlotTable (α : Type) := List (Option α)

namespace SlotTable

/-- How many slots there are for so many things: eight, or the least power of two above twice as many. -/
def sizeFor (count : Nat) : Nat := if count < 5 then 8 else Nat.pow 2 ((2 * count).log2 + 1)

/-- How many slots behind the one asked for are tried, if the table has all of them. -/
def reach : Nat := 9

/-- The slots that are tried from one on. -/
def triedFrom (size slot : Nat) : List Nat :=
  if slot + reach < size then (List.range (reach + 1)).map (slot + ·) else [slot]

/-- A slot that is free. The bound exceeds the number of slots to go on from. -/
def freeSlot {α : Type} (table : SlotTable α) : (bound : Nat) → (slot word : Nat) → Nat
  | 0, slot, _ => slot
  | bound + 1, slot, word =>
    match (triedFrom table.length slot).find? fun i => (table.getD i none).isNone with
    | some free => free
    | none => freeSlot table bound ((5 * slot + 1 + word / 32) % table.length) (word / 32)

def insert {α : Type} (table : SlotTable α) (word : Nat) (a : α) : SlotTable α :=
  table.set (freeSlot table (table.length + 16) (word % table.length) word) (some a)

def ofList {α : Type} (things : List (Nat × α)) : SlotTable α :=
  things.foldl (fun table t => table.insert t.1 t.2) (List.replicate (sizeFor things.length) none)

/-- The things in a table, in the order of their slots. -/
def toList {α : Type} (table : SlotTable α) : List α := table.filterMap id

theorem length_insert {α : Type} (table : SlotTable α) (word : Nat) (a : α) :
    (table.insert word a).length = table.length := List.length_set

end SlotTable

/-- What is given for the members of a set, in the order in which they show. -/
def inShownOrder {α : Type} (members : List Value) (given : List α) : List α :=
  match members.mapM residue? with
  | some residues => (SlotTable.ofList ((residues.map residueWord).zip given)).toList
  | none => given

end ManifestGrading.Value
