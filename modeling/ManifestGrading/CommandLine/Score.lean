import ManifestGrading.CommandLine.Help
import ManifestGrading.CommandLine.Options
import ManifestGrading.Gate
import ManifestGrading.Report.Human
import ManifestGrading.Scoring

/-! The command that scores manifests. Its arguments are read first; then the manifests are scored, the report
is printed, and the gate decides about the exit status. Faults in what users write are printed as well; other
ones end the command. So does a value that is left out, but only where the value is needed. -/

namespace ManifestGrading

namespace CommandLine

/-- How a command ends: with a status, with a line about its wrong use, or with a fault. -/
inductive Ending (φ : Type) where
  | exit (status : Nat)
  | usage (line : String)
  | fault (f : φ)
  deriving Repr, DecidableEq

/-- What a command prints, and how it ends. -/
structure Outcome (φ : Type) where
  output : String
  ending : Ending φ

def usageLine (program : String) (fault : UsageFault) : String := program ++ ": error: " ++ fault.message

/-- What the arguments of a command come to: settings, a text to print, or a fault of a program's use. -/
inductive Asked (σ : Type) where
  | settings (s : σ)
  | help (text : String)
  | wrong (program : String) (fault : UsageFault)
  deriving Repr

def helpFlag : Flag := ⟨["-h", "--help"], false⟩

/-- When a report has colours. -/
inductive ColorMode where
  | auto
  | always
  | never
  deriving Repr, DecidableEq

def ColorMode.names : List (String × ColorMode) := [("auto", auto), ("always", always), ("never", never)]

/-- Whether a report has colours, on a terminal or elsewhere. -/
def ColorMode.useColor (terminal : Bool) : ColorMode → Bool
  | always => true
  | never => false
  | auto => terminal

def logLevels : List String := ["DEBUG", "INFO", "WARNING", "ERROR", "CRITICAL"]

/-- The level that a text names. -/
def logLevel? (text : Option String) : Option String :=
  (text.map fun s => Text.upper (Text.trim s)).filter (logLevels.contains ·)

/-- The level of the log: that of the flag, else that of the surroundings, else the usual one. -/
def resolveLogLevel (flag surroundings : Option String) : String :=
  ((logLevel? flag).or (logLevel? surroundings)).getD "WARNING"

/-- What is asked of a scoring on the command line. The value of a flag may be left out; `threshold` is the value of its
flag if there is one. -/
structure ScoreSettings where
  paths : List String := []
  manifests : List (Option String) := []
  ignored : List (Option String) := []
  optional : List (Option String) := []
  format : Option Report.Format := some .human
  color : ColorMode := .auto
  showOk : Bool := false
  onWarning : Bool := false
  threshold : Option (Option Grade) := none
  workers : Option Int := some 1
  logLevel : Option String := none
  deriving Repr

/-- Why a scoring on the command line ends early: the scoring fails, a value that is left out is needed, there is no
grade to compare outcomes with, or what is to be printed cannot be written. -/
inductive ScoreFault where
  | scoring (fault : ScoringFault)
  | leftOut (fault : Value.Fault)
  | threshold (fault : GradeFault)
  | printing (fault : Text.Utf8.WritingFault)
  deriving Repr, DecidableEq

def ScoreFault.message : ScoreFault → RawText
  | .scoring fault => fault.message
  | .leftOut fault => fault.message
  | .threshold fault => fault.message
  | .printing fault => fault.message

/-- What a value that is left out counts as: an empty list. -/
def leftOutValue : Value := .list []

/-- A text as a value, which may be left out. -/
def textValue (text : Option String) : Value := text.elim leftOutValue fun (s : String) => .text s

namespace ScoreSettings

def topProgram : String := "kube-scorecard"

def commandName : String := "score"

def program : String := topProgram ++ " " ++ commandName

def valueFlag (name : String) : Flag := ⟨[name], true⟩

def switch (name : String) : Flag := ⟨[name], false⟩

def flags : List Flag :=
  [helpFlag, valueFlag "--check-manifest", valueFlag "--ignore-test", valueFlag "--enable-optional-test",
   valueFlag "--output-format", valueFlag "--color", switch "--show-ok", switch "--exit-one-on-warning",
   valueFlag "--fail-threshold", valueFlag "--workers", valueFlag "--log-level"]

def formats : List (String × Report.Format) := [("human", .human), ("json", .json)]

/-- One of several choices by its name. -/
def choose {α : Type} (choices : List (String × α)) (text : String) : Except Problem α :=
  match choices.lookup text with
  | some a => .ok a
  | none => .error (.invalidChoice text (choices.map Prod.fst))

def gradeNamed (text : String) : Except Problem Grade := (Grade.parse text).mapError fun _ => .invalidValue "parse" text

def integerOf (text : String) : Except Problem Int :=
  (Number.readInteger 10 text).mapError fun _ => .invalidValue "int" text

/-- The level of the log that a text names in any letter case. -/
def levelNamed (text : String) : Except Problem String := choose (logLevels.map fun l => (l, l)) (Text.upper text)

/-- Settings with a flag and its value. A value that is left out is taken as it is. -/
def withFlag (s : ScoreSettings) (name : String) (value : Option String) : Except Problem ScoreSettings :=
  match name with
  | "--check-manifest" => .ok { s with manifests := s.manifests ++ [value] }
  | "--ignore-test" => .ok { s with ignored := s.ignored ++ [value] }
  | "--enable-optional-test" => .ok { s with optional := s.optional ++ [value] }
  | "--output-format" => (value.mapM (choose formats)).map fun f => { s with format := f }
  | "--color" => (value.mapM (choose ColorMode.names)).map fun c => { s with color := c.getD .auto }
  | "--show-ok" => .ok { s with showOk := true }
  | "--exit-one-on-warning" => .ok { s with onWarning := true }
  | "--fail-threshold" => (value.mapM gradeNamed).map fun g => { s with threshold := some g }
  | "--workers" => (value.mapM integerOf).map fun n => { s with workers := n }
  | "--log-level" => (value.mapM levelNamed).map fun l => { s with logLevel := l }
  | _ => .ok s

/-- Settings with what arguments ask for, one thing after the other; `given` says whether there are paths. -/
def ofEvents (s : ScoreSettings) (given : Bool) : List Event → Asked (ScoreSettings × Bool)
  | [] => .settings (s, given)
  | .operands paths :: rest => ofEvents { s with paths := paths } true rest
  | .flag f value :: rest =>
    if f = helpFlag then .help scoreHelp
    else match s.withFlag f.title value with
      | .error problem => .wrong program (.argument f.title problem)
      | .ok s => ofEvents s given rest

/-- The settings that the arguments of a scoring ask for, and the arguments that are left over. -/
def ofArguments (arguments : List String) : Asked (ScoreSettings × List String) :=
  let parsed := parse flags .many arguments
  match ofEvents {} false parsed.events with
  | .help text => .help text
  | .wrong program fault => .wrong program fault
  | .settings (s, given) =>
    match parsed.fault with
    | some fault => .wrong program fault
    | none => if given then .settings (s, parsed.extras) else .wrong program (.required "paths")

/-- What the command within the arguments of the whole command asks for. -/
def ofCommand : List Event → Asked (Option (ScoreSettings × List String))
  | [] => .settings none
  | .flag _ _ :: _ => .help topHelp
  | .operands arguments :: rest =>
    match arguments with
    | [] => ofCommand rest
    | name :: arguments =>
      if name = commandName then
        match ofArguments arguments with
        | .help text => .help text
        | .wrong program fault => .wrong program fault
        | .settings s => .settings (some s)
      else .wrong topProgram (.argument "command" (.invalidChoice name [commandName]))

/-- The settings that the arguments of the whole command ask for. Without a command there is help. -/
def ofTopArguments (arguments : List String) : Asked ScoreSettings :=
  let parsed := parse [helpFlag] .rest arguments
  match ofCommand parsed.events with
  | .help text => .help text
  | .wrong program fault => .wrong program fault
  | .settings found =>
    match parsed.fault with
    | some fault => .wrong topProgram fault
    | none =>
      match parsed.extras ++ (found.map Prod.snd).getD [] with
      | [] => (found.map Prod.fst).elim (.help topHelp) .settings
      | extras => .wrong topProgram (.unrecognized extras)

/-- The scoring that settings ask for, with the manifests and the workers that they name. -/
def request (s : ScoreSettings) (manifests : List String) (workers : Int) : ScoringRequest :=
  { paths := s.paths, manifests := manifests, ignored := .list (s.ignored.map textValue)
    optional := .list (s.optional.map textValue), workers := .int workers }

end ScoreSettings

/-- Whether a fault lies in what a user wrote or in a check, and is told to the user. -/
def isTold : ScoringFault → Bool
  | .manifest (.file _) => false
  | .manifest (.value _) => false
  | .manifest _ => true
  | .resource _ => false
  | .pack (.file _) => false
  | .pack (.value _) => false
  | .pack (.entry _) => false
  | .pack _ => true
  | .module (.relative _) => false
  | .module (.value _) => false
  | .module (.other _ _) => false
  | .module _ => true
  | .request _ => false
  | .run (.check _ _ _) => true
  | .run _ => false

/-- A text printed on lines of its own, and the end of the command behind it. A text that cannot be written is not
printed in part, and ends the command itself. -/
def printThen (text : RawText) (ending : Ending ScoreFault) : Outcome ScoreFault :=
  match Text.Utf8.encode text with
  | .error fault => ⟨"", .fault (.printing fault)⟩
  | .ok _ => ⟨text.shown ++ "\n", ending⟩

def told (message : RawText) : RawText := RawText.ofString "Error: " ++ message

/-- The end of a command whose report is printed. -/
def gateEnding (s : Scorecard) (onWarning : Bool) (threshold : Option (Option Grade)) : Ending ScoreFault :=
  match Gate.exitStatus s onWarning (threshold.map fun g => g.elim leftOutValue Grade.toValue) with
  | .ok status => .exit status
  | .error fault => .fault (.threshold fault)

/-- The command once its result is there. -/
def reportScore (terminal : Bool) (s : ScoreSettings) (result : ScoringResult) : Outcome ScoreFault :=
  match s.format with
  | none => ⟨"", .fault (.leftOut (.unhashable leftOutValue.kind))⟩
  | some format =>
    let report : Report := ⟨result.scorecard, result.metadata⟩
    printThen (report.write format (s.color.useColor terminal) s.showOk)
      (gateEnding result.scorecard s.onWarning s.threshold)

/-- The command with the given settings. The number of workers is needed first, then the manifests. -/
def runScore (here : Surroundings) (terminal : Bool) (s : ScoreSettings) : Outcome ScoreFault :=
  match s.workers, s.manifests.mapM id with
  | none, _ => ⟨"", .fault (.leftOut (.notOrdered "<" leftOutValue.kind "int"))⟩
  | some workers, manifests =>
    if workers < 1 then printThen (told "--workers must be at least 1") (.exit 2)
    else match manifests with
      | none => ⟨"", .fault (.leftOut (.notAPath leftOutValue.kind))⟩
      | some manifests =>
        match Scoring.score here (s.request manifests workers) with
        | .error fault =>
          if isTold fault then printThen (told fault.message) (.exit 2) else ⟨"", .fault (.scoring fault)⟩
        | .ok result => reportScore terminal s result

def score (here : Surroundings) (terminal : Bool) (arguments : List String) : Outcome ScoreFault :=
  match ScoreSettings.ofTopArguments arguments with
  | .help text => ⟨text, .exit 0⟩
  | .wrong program fault => ⟨"", .usage (usageLine program fault)⟩
  | .settings s => runScore here terminal s

end CommandLine

end ManifestGrading
