import ManifestGrading.Suppression
import ManifestGrading.Value.Text

/-! Packs of checks. Manifests describe packs by entries; all entries with one name describe one pack. The last
entry that says whether the pack is enabled, or names its module, counts; the lists of checks that it
ignores or asks for are put one behind the other. -/

namespace ManifestGrading

/-- What one entry of a manifest says about a pack. -/
structure PackEntry where
  name : Value
  enabled : Option Bool
  module : Option RawText
  ignore : List RawText
  enableOptional : List RawText
  deriving Repr

/-- A group of checks. -/
structure Pack where
  name : Value
  enabled : Bool := true
  module : Option RawText := none
  ignore : List RawText := []
  enableOptional : List RawText := []
  deriving Repr

namespace PackEntry

/-- The texts that a value lists: those between commas, or those of its items. -/
def idsOf (v : Value) : Except Value.Fault (List RawText) :=
  match v.opened with
  | .text s => .ok (Suppression.idsIn s)
  | .list items | .tuple items => (items.mapM Value.display).map Suppression.trimmed
  | _ => .ok []

/-- The text of a value if it is given. -/
def givenText (v : Value) : Except Value.Fault (Option RawText) :=
  if v.isTruthy then v.display.map some else .ok none

/-- The entry that a mapping is, if it has a name. Only a value that may be a key is a name. -/
def ofEntries (entries : Entries) : Except Value.Fault (Option PackEntry) := do
  let name := entries.get "name"
  if !name.isTruthy then return none
  if !name.isHashable then throw (.unhashable name.kind)
  let module ← givenText (entries.get "module")
  let ignored ← idsOf (entries.get "ignore")
  let optional ← idsOf (entries.get "enable_optional")
  return some ⟨name, (entries.get? "enabled").map Value.isTruthy, module, ignored, optional⟩

/-- The entry that a value is, if it is a mapping with a name. -/
def ofValue (v : Value) : Except Value.Fault (Option PackEntry) :=
  match v.mapping? with
  | some entries => ofEntries entries
  | none => .ok none

/-- An entry of the manifest with a number. What is no number in one manifest is none of those in others. -/
def ofManifest (number : Nat) (e : PackEntry) : PackEntry :=
  match e.name with
  | .float x => { e with name := .float (x.madeAt number) }
  | _ => e

end PackEntry

namespace Pack

/-- A pack about which nothing is said. -/
def bare (name : Value) : Pack := { name := name }

/-- A pack with what an entry says. -/
def update (p : Pack) (e : PackEntry) : Pack :=
  { p with
    enabled := e.enabled.getD p.enabled
    module := e.module.or p.module
    ignore := p.ignore ++ e.ignore
    enableOptional := p.enableOptional ++ e.enableOptional }

/-- Packs with what an entry says about the pack with its name, which comes last if it is new. -/
def merge (e : PackEntry) : List Pack → List Pack
  | [] => [(bare e.name).update e]
  | p :: rest => if e.name.sameKey p.name then p.update e :: rest else p :: merge e rest

/-- Packs with what entries say, in order. -/
def mergeAll (packs : List Pack) (entries : List PackEntry) : List Pack :=
  entries.foldl (fun packs e => merge e packs) packs

theorem name_update (p : Pack) (e : PackEntry) : (p.update e).name = p.name := rfl

theorem mergeAll_append (packs : List Pack) (a b : List PackEntry) :
    mergeAll packs (a ++ b) = mergeAll (mergeAll packs a) b := by
  simp [mergeAll]

end Pack

end ManifestGrading
