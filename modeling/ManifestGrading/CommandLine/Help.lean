/-! What the commands print when they are asked for help. -/

namespace ManifestGrading

namespace CommandLine

/-- Lines, each with its end. -/
def linesText (lines : List String) : String := String.join (lines.map (· ++ "\n"))

def topHelp : String := linesText [
  "usage: kube-scorecard [-h] \x7bscore\x7d ...",
  "",
  "Kubernetes manifest scorecard CLI",
  "",
  "positional arguments:",
  "  \x7bscore\x7d",
  "    score     Score Kubernetes manifests and report graded resources.",
  "",
  "options:",
  "  -h, --help  show this help message and exit"]

def scoreHelp : String := linesText [
  "usage: kube-scorecard score [-h] [--check-manifest CHECK_MANIFESTS]",
  "                            [--ignore-test CHECK_ID]",
  "                            [--enable-optional-test CHECK_ID]",
  "                            [--output-format \x7bhuman,json\x7d]",
  "                            [--color \x7bauto,always,never\x7d] [--show-ok]",
  "                            [--exit-one-on-warning] [--fail-threshold GRADE]",
  "                            [--workers WORKERS]",
  "                            [--log-level \x7bDEBUG,INFO,WARNING,ERROR,CRITICAL\x7d]",
  "                            paths [paths ...]",
  "",
  "positional arguments:",
  "  paths                 Manifest files or directories to score. Use '-' to",
  "                        read from stdin.",
  "",
  "options:",
  "  -h, --help            show this help message and exit",
  "  --check-manifest CHECK_MANIFESTS",
  "                        Path to a check pack manifest YAML/JSON file",
  "                        describing the checks to run.",
  "  --ignore-test CHECK_ID",
  "                        Disable a check for every resource (repeatable).",
  "  --enable-optional-test CHECK_ID",
  "                        Enable an optional check (repeatable).",
  "  --output-format \x7bhuman,json\x7d",
  "                        Output format for scoring results.",
  "  --color \x7bauto,always,never\x7d",
  "                        Colorize human output.",
  "  --show-ok             Include passing checks in human output.",
  "  --exit-one-on-warning",
  "                        Exit with status 1 when any check is graded WARNING or",
  "                        worse.",
  "  --fail-threshold GRADE",
  "                        Exit with status 1 when any check is graded at or",
  "                        below GRADE (critical, warning, almost_ok, ok).",
  "                        Overrides --exit-one-on-warning.",
  "  --workers WORKERS     Number of threads used to evaluate resources.",
  "  --log-level \x7bDEBUG,INFO,WARNING,ERROR,CRITICAL\x7d",
  "                        Logging level (defaults to $KUBE_SCORECARD_LOG_LEVEL",
  "                        or WARNING)."]

def publishHelp : String := linesText [
  "usage: kube-scorecard-github [-h] [--summary-path SUMMARY_PATH] report",
  "",
  "Publish a scorecard report as GitHub job summary and annotations.",
  "",
  "positional arguments:",
  "  report                Path to the scorecard report JSON file.",
  "",
  "options:",
  "  -h, --help            show this help message and exit",
  "  --summary-path SUMMARY_PATH",
  "                        Optional explicit path for the GitHub job summary",
  "                        output."]

end CommandLine

end ManifestGrading
