import ManifestGrading.Calendar
import ManifestGrading.Number.Binary64
import ManifestGrading.Text.Raw

/-! The values that manifests and reports are made of: scalars, sequences, sets and mappings, nested to
any depth. A mapping keeps its entries in the order in which their keys first came; keys are values of
any kind, and looking up a text finds the entry whose key is that text. Collections that are parts of
themselves are cells of a knot: within a cell, a number stands for another cell or for the same one. -/

namespace ManifestGrading

/-- A value of a manifest, a report or a setting. In the cells of a knot, and only there, `cell` stands for one of
them: as an item, as the value of an entry or in a tuple. -/
inductive Value where
  | null
  | bool (b : Bool)
  | int (n : Int)
  | float (x : Binary64)
  | text (s : RawText)
  | bytes (b : List UInt8)
  | date (d : Date)
  | instant (t : Instant)
  | list (items : List Value)
  | tuple (items : List Value)
  | set (members : List Value)
  | map (entries : List (Value × Value))
  | knot (cells : List Value) (root : Nat)
  | cell (place : Nat)
  deriving Repr, Inhabited

abbrev Entries := List (Value × Value)

namespace Value

/-- A part of a cell as a value of its own. -/
def tied (cells : List Value) : Value → Value
  | cell place => knot cells place
  | tuple items =>
    tuple (items.map fun item => match item with
      | cell place => knot cells place
      | item => item)
  | v => v

/-- A value whose outermost collection is no knot. -/
def opened : Value → Value
  | knot cells root =>
    match cells[root]? with
    | some (list items) => list (items.map (tied cells))
    | some (map entries) => map (entries.map fun e => (e.1, e.2.tied cells))
    | _ => null
  | v => v

/-- The name of a value's kind in messages. -/
def kind (v : Value) : String :=
  match v.opened with
  | null | knot _ _ | cell _ => "NoneType"
  | bool _ => "bool"
  | int _ => "int"
  | float _ => "float"
  | text _ => "str"
  | bytes _ => "bytes"
  | date _ => "datetime.date"
  | instant _ => "datetime.datetime"
  | list _ => "list"
  | tuple _ => "tuple"
  | set _ => "set"
  | map _ => "dict"

/-- Whether a value counts as given: zero, the empty text and empty collections do not. -/
def isTruthy : Value → Bool
  | null => false
  | bool b => b
  | int n => n != 0
  | float x => x.isNonzero
  | text s => !s.isEmpty
  | bytes b => !b.isEmpty
  | date _ => true
  | instant _ => true
  | list items => !items.isEmpty
  | tuple items => !items.isEmpty
  | set members => !members.isEmpty
  | map entries => !entries.isEmpty
  | knot _ _ => true
  | cell _ => true

/-- A value if it is given, and another one otherwise. -/
def orElse (v default : Value) : Value := if v.isTruthy then v else default

/-- The entries of a mapping. -/
def mapping? (v : Value) : Option Entries :=
  match v.opened with
  | map entries => some entries
  | _ => none

def text? : Value → Option RawText
  | text s => some s
  | _ => none

def isText (s : String) : Value → Bool
  | text t => t = s
  | _ => false

theorem isText_iff {v : Value} {s : String} : v.isText s = true ↔ v = .text s := by
  cases v <;> simp [isText]

theorem orElse_of_truthy {v : Value} (h : v.isTruthy) (w : Value) : v.orElse w = v := by simp [orElse, h]

theorem orElse_of_not_truthy {v : Value} (h : v.isTruthy = false) (w : Value) : v.orElse w = w := by
  simp [orElse, h]

theorem mapping?_map (entries : Entries) : (map entries).mapping? = some entries := rfl

end Value

namespace Entries

def get? (name : String) : Entries → Option Value
  | [] => none
  | (k, v) :: rest => if k.isText name then some v else get? name rest

/-- The value under a text, null if there is none. -/
def get (name : String) (entries : Entries) : Value := (get? name entries).getD .null

def has (name : String) (entries : Entries) : Bool := (get? name entries).isSome

end Entries

end ManifestGrading
