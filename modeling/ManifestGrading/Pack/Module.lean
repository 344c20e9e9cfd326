import ManifestGrading.Pack.Basic
import ManifestGrading.Rule

/-! Modules of checks, which packs name and which are looked up in a table. A module exports its checks, or
something else, or it cannot be loaded. -/

namespace ManifestGrading

/-- Why a module cannot be loaded: there is none, a check in it failed, or anything else. -/
inductive ImportFault where
  | unavailable
  | check (message : RawText)
  | other (kind : String) (message : RawText)
  deriving Repr, DecidableEq

/-- One thing that a module exports as a check. -/
inductive Export where
  | rule (r : Rule)
  | object (v : Value)

/-- A module of checks: a list of exports, another value in its place, or why it cannot be loaded. -/
inductive Module where
  | exports (items : List Export)
  | value (v : Value)
  | broken (fault : ImportFault)

abbrev ModuleTable := List (String × Module)

/-- Why the checks of a module cannot be used. -/
inductive ModuleFault where
  | unavailable (module pack : RawText)
  | noChecks (module : RawText)
  | notIterable (module : RawText)
  | notACheck (module : RawText) (expression : String)
  | relative (module : RawText)
  | value (fault : Value.Fault)
  | check (message : RawText)
  | other (kind : String) (message : RawText)
  deriving Repr, DecidableEq

def ModuleFault.message : ModuleFault → RawText
  | .unavailable module pack =>
    RawText.ofString "Failed to import check module '" ++ module ++ RawText.ofString "' for pack '" ++ pack ++
      RawText.ofString "'"
  | .noChecks module => RawText.ofString "Check module '" ++ module ++ RawText.ofString "' does not define CHECKS"
  | .notIterable module =>
    RawText.ofString "CHECKS in check module '" ++ module ++ RawText.ofString "' must be iterable"
  | .notACheck module expression =>
    RawText.ofString "Check module '" ++ module ++ RawText.ofString ("' exposes a non-check object: " ++ expression)
  | .relative module =>
    RawText.ofString ("the 'package' argument is required to perform a relative import for " ++ module.quoted)
  | .value fault => fault.message
  | .check message => message
  | .other _ message => message

namespace Module

/-- The rules among exports, which must be all of them. -/
def rulesAmong (module : RawText) : List Export → Except ModuleFault (List Rule)
  | [] => .ok []
  | .rule r :: rest => (rulesAmong module rest).map (r :: ·)
  | .object v :: _ =>
    match v.expression with
    | .ok expression => .error (.notACheck module expression)
    | .error fault => .error (.value fault)

/-- The fault of a module that is not there, for a pack with a name. -/
def missingFor (name : Value) (module : RawText) : ModuleFault :=
  match name.display with
  | .ok pack => .unavailable module pack
  | .error fault => .value fault

/-- The rules that a module provides for a pack with a name. -/
def rulesFor (name : Value) (module : RawText) : Module → Except ModuleFault (List Rule)
  | .exports items => rulesAmong module items
  | .value .null => .error (.noChecks module)
  | .value v =>
    match v.elements with
    | .error _ => .error (.notIterable module)
    | .ok items => rulesAmong module (items.map .object)
  | .broken .unavailable => .error (missingFor name module)
  | .broken (.check message) => .error (.check message)
  | .broken (.other kind message) => .error (.other kind message)

/-- The rules of the module with a name, for a pack with a name. The name of a module must not start with a dot. -/
def find (table : ModuleTable) (name : Value) (module : RawText) : Except ModuleFault (List Rule) :=
  if module.points.head? = some (.char '.') then .error (.relative module)
  else match table.find? fun m => module = m.1 with
    | none => .error (missingFor name module)
    | some (known, m) => m.rulesFor name known

end Module

/-- The rules of a pack; a pack without a module has none. -/
def Pack.rules (table : ModuleTable) (p : Pack) : Except ModuleFault (List Rule) :=
  match p.module with
  | none => .ok []
  | some module => Module.find table p.name module

def Pack.allRules (table : ModuleTable) (packs : List Pack) : Except ModuleFault (List Rule) :=
  (packs.mapM (Pack.rules table)).map List.flatten

end ManifestGrading
