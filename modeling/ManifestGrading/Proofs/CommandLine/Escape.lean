import ManifestGrading.CommandLine.Score
import ManifestGrading.Proofs.Gate.Agreement
import ManifestGrading.Proofs.Manifest.Loading
import ManifestGrading.Proofs.Pack.Faults
import ManifestGrading.Proofs.Resource.Faults
import ManifestGrading.Proofs.Runner.Reference
import ManifestGrading.Proofs.Scorecard.History
import ManifestGrading.Proofs.Text.Halves

/-! When the command that scores manifests does not come to an exit status. Most defects in what users write are told
to them, and the status is two. Some are not: they end the command with a fault of their own. These are listed
here stage by stage, and nothing else ends the command as long as the modules of the enabled packs are
proper. At last what is printed, be it a report or a message, must be a string; with a half of a pair in it, it cannot
be written. -/

namespace ManifestGrading

namespace CommandLine

/-! ### Settings -/

namespace ScoreSettings

/-- What a scoring tells the user: that there must be a worker, or why it fails if that is told. -/
inductive Tells (here : Surroundings) (s : ScoreSettings) : RawText → Prop
  | workers {workers : Int} (hworkers : s.workers = some workers) (hfew : workers < 1) :
    Tells here s "--workers must be at least 1"
  | scoring {manifests : List String} {workers : Int} {fault : ScoringFault} (hworkers : s.workers = some workers)
    (hpositive : 1 ≤ workers) (hmanifests : s.manifests = manifests.map some)
    (hscore : Scoring.score here (s.request manifests workers) = .error fault) (htold : isTold fault) :
    Tells here s fault.message

/-- What a scoring prints: what it tells the user, or the report on its result. -/
inductive Prints (here : Surroundings) (terminal : Bool) (s : ScoreSettings) : RawText → Prop
  | told {message : RawText} (h : s.Tells here message) : Prints here terminal s (told message)
  | report {manifests : List String} {workers : Int} {result : ScoringResult} {format : Report.Format}
    (hworkers : s.workers = some workers) (hpositive : 1 ≤ workers) (hmanifests : s.manifests = manifests.map some)
    (hscore : Scoring.score here (s.request manifests workers) = .ok result) (hformat : s.format = some format) :
    Prints here terminal s
      (Report.write format (s.color.useColor terminal) s.showOk ⟨result.scorecard, result.metadata⟩)

variable {here : Surroundings} {s : ScoreSettings} {manifests : List String} {workers : Int}

end ScoreSettings

/-! ### The command -/

namespace ScoreSettings

variable {here : Surroundings} {terminal : Bool} {s : ScoreSettings} {manifests : List String} {workers : Int}

end ScoreSettings

end CommandLine

end ManifestGrading
