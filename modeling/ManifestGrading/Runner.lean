import ManifestGrading.Rule

/-! Runs of rules over resources. All resources are registered first; then every rule that applies looks at the
first resource with each identity, and what it finds is recorded. One worker stops at the first fault;
several workers finish all resources, and the fault at the earliest resource counts. -/

namespace ManifestGrading

inductive RunFault where
  | metadata (fault : Value.Fault)
  | check (id ref reason : RawText)
  | stray (kind : String)
  deriving Repr, DecidableEq

def RunFault.message : RunFault → RawText
  | .metadata fault => fault.message
  | .check id ref reason =>
    RawText.ofString "Check '" ++ id ++ RawText.ofString "' failed on " ++ ref ++ RawText.ofString ": " ++ reason
  | .stray kind => "'" ++ kind ++ "' object has no attribute 'check'"

/-- A record with findings added one after the other, up to a stray that would count. -/
def Record.accept (check : Check) : List Finding → Record → Record × Option RunFault
  | [], r => (r, none)
  | .outcome o :: rest, r => accept check rest (r.add o check)
  | .stray kind :: rest, r => if r.ignores check then accept check rest r else (r, some (.stray kind))

/-- What looking at a resource leads to. -/
structure Visit where
  record : Record
  said : List Posting
  fault : Option RunFault

/-- The visit of a resource by rules one after the other, up to a fault. -/
def Record.visit (resource : Resource) : List Rule → Record → Visit
  | [], r => ⟨r, [], none⟩
  | rule :: rest, r =>
    if rule.appliesTo resource.kind then
      let evaluation := rule.evaluate resource
      match evaluation.result with
      | .error reason => ⟨r, evaluation.said, some (.check rule.check.id r.identity.ref reason)⟩
      | .ok findings =>
        match r.accept rule.check findings with
        | (r, some fault) => ⟨r, evaluation.said, some fault⟩
        | (r, none) =>
          let v := r.visit resource rest
          { v with said := evaluation.said ++ v.said }
    else r.visit resource rest

namespace Scorecard

/-- The scorecard after the visit of a registered resource, and the fault in it. -/
def visit (rules : List Rule) (resource : Resource) (s : Scorecard) : Scorecard × Option RunFault :=
  match s.get? resource.identity with
  | none => (s, none)
  | some r =>
    let v := r.visit resource rules
    ((s.modify resource.identity fun _ => v.record).post v.said, v.fault)

/-- The scorecard with resources registered, up to one whose metadata is refused. -/
def registerAll : List Resource → Scorecard → Scorecard × Option RunFault
  | [], s => (s, none)
  | r :: rest, s =>
    match s.register r.identity r.metadata with
    | .error fault => (s, some (.metadata fault))
    | .ok s => registerAll rest s

/-- Visits one after the other, up to the first fault. -/
def visitUntilFault (rules : List Rule) : List Resource → Scorecard → Scorecard × Option RunFault
  | [], s => (s, none)
  | r :: rest, s =>
    match s.visit rules r with
    | (s, some fault) => (s, some fault)
    | (s, none) => visitUntilFault rules rest s

/-- All visits, and the first fault in them. -/
def visitAll (rules : List Rule) : List Resource → Scorecard → Scorecard × Option RunFault
  | [], s => (s, none)
  | r :: rest, s =>
    let (s, fault) := s.visit rules r
    let (s, later) := visitAll rules rest s
    (s, fault.or later)

end Scorecard

/-- The rules of a run and who carries it out. -/
structure Runner where
  rules : List Rule
  ignored : IdSet
  optional : IdSet
  workers : Nat

namespace Runner

/-- The runner for rules, of which some are ignored or must be asked for. There is always a worker. -/
def new (rules : List Rule) (ignored optional : List RawText) (workers : Int) : Runner :=
  let ignored := Suppression.setOf ignored
  let optional := Suppression.setOf optional
  ⟨rules.filter (·.isEnabled ignored optional), ignored, optional, max 1 workers.toNat⟩

/-- The number of workers that a value asks for. -/
def workersOf : Value → Except Value.Fault Int
  | .bool b => .ok (if b then 1 else 0)
  | .int n => .ok n
  | .float x => .ok (if x.isAboveOne then max 2 (x.truncate?.getD 2) else 1)
  | v => .error (.notOrdered ">" v.kind "int")

def run (runner : Runner) (resources : List Resource) (s : Scorecard) : Scorecard × Option RunFault :=
  match s.registerAll resources with
  | (s, some fault) => (s, some fault)
  | (s, none) =>
    let pending := Resource.firsts resources
    if runner.workers = 1 ∨ pending.length < 2 then s.visitUntilFault runner.rules pending
    else s.visitAll runner.rules pending

end Runner

end ManifestGrading
