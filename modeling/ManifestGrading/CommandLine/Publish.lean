import ManifestGrading.CommandLine.Score
import ManifestGrading.Publish.Job

/-! The command that publishes a report on a job page. The summary goes to the file that an argument names, else
to the one that the surroundings name, if there is one. -/

namespace ManifestGrading

namespace CommandLine

/-- What is asked of a publishing on the command line. -/
structure PublishSettings where
  report : Option Path := none
  summary : Publish.Destination := .nowhere
  deriving Repr

namespace PublishSettings

def program : String := "kube-scorecard-github"

def summaryFlag : Flag := ⟨["--summary-path"], true⟩

/-- The place that the value of the flag is; a value that is left out is no file. -/
def destinationNamed (value : Option String) : Publish.Destination :=
  value.elim (.thing leftOutValue.kind) fun (s : String) => .file (Path.ofText s)

/-- Settings with what arguments ask for, one thing after the other. -/
def ofEvents (s : PublishSettings) : List Event → Asked PublishSettings
  | [] => .settings s
  | .operands arguments :: rest => ofEvents { s with report := arguments.head?.map Path.ofText } rest
  | .flag f value :: rest =>
    if f = helpFlag then .help publishHelp
    else ofEvents { s with summary := destinationNamed value } rest

def ofArguments (arguments : List String) : Asked (Path × Publish.Destination) :=
  let parsed := parse [helpFlag, summaryFlag] .one arguments
  match ofEvents {} parsed.events with
  | .help text => .help text
  | .wrong program fault => .wrong program fault
  | .settings s =>
    match parsed.fault, s.report with
    | some fault, _ => .wrong program fault
    | none, none => .wrong program (.required "report")
    | none, some report =>
      if parsed.extras.isEmpty then .settings (report, s.summary)
      else .wrong program (.unrecognized parsed.extras)

end PublishSettings

/-- The place for the summary: the one that the arguments name, else the file that the surroundings name. -/
def summaryDestination (named : Publish.Destination) (surroundings : Option String) :
    Publish.Destination :=
  match named with
  | .nowhere => (surroundings.filter (· != "")).elim .nowhere fun (s : String) => .file (Path.ofText s)
  | named => named

/-- The command, and the files that it leaves. -/
def publish (files : Files) (surroundings : Option String) (arguments : List String) :
    Files × Outcome Publish.JobFault :=
  match PublishSettings.ofArguments arguments with
  | .help text => (files, ⟨text, .exit 0⟩)
  | .wrong program fault => (files, ⟨"", .usage (usageLine program fault)⟩)
  | .settings (report, named) =>
    let result := Publish.publish files report (summaryDestination named surroundings)
    (result.files, ⟨linesText result.lines, result.fault.elim (.exit 0) .fault⟩)

end CommandLine

end ManifestGrading
