import InstallStatus.CommandLine.Options

/-!
The texts that the program prints about itself.
-/

namespace InstallStatus.CommandLine

def programName : String := "siteconfig-operator"

def programVersion : String := "0.1.0"

def versionLine : String := programName ++ " " ++ programVersion

def controllerName : String := "controller"

def helpName : String := "help"

def controllerSummary : String := "Run the ClusterDeployment controller (default mode)"

def helpSummary : String := "Print this message or the help of the given subcommand(s)"

/-- How to call a command: its name, and what may follow. -/
def usageLine (command arguments : String) : Text.Styled :=
  .title "Usage:" ++ .raw " " ++ .literal command ++ .raw (" " ++ arguments)

/-- The line of one command. Its name takes up as much room as the longest one. -/
def commandLine (name gap summary : String) : Text.Styled :=
  .raw "  " ++ .literal name ++ .raw (gap ++ summary)

/-- A flag by its letter and by its name. -/
def flagUsage (letter name : String) : Text.Styled :=
  .literal ("-" ++ letter) ++ .raw ", " ++ .literal ("--" ++ name)

def programHelp : List Text.Styled := [
  .raw "siteconfig operator - keeps ClusterInstance status in sync with hive ClusterDeployments",
  .empty,
  usageLine programName "[COMMAND]",
  .empty,
  .title "Commands:",
  commandLine controllerName "  " controllerSummary,
  commandLine helpName "        " helpSummary,
  .empty,
  .title "Options:",
  .raw "  " ++ flagUsage "h" "help" ++ .raw "     Print help",
  .raw "  " ++ flagUsage "V" "version" ++ .raw "  Print version"]

def optionLines (usage : Text.Styled) (purpose : String) : List Text.Styled :=
  [.raw "  " ++ usage, .raw ("          " ++ purpose)]

/-- An option, below the names of the flags that have letters too. -/
def optionUsage (opt : Opt) : Text.Styled :=
  .raw "    " ++ .literal ("--" ++ opt.name) ++ .raw (" <" ++ opt.placeholder ++ ">")

/-- The options of the controller and what help itself says. -/
def optionTable (helpPurpose : String) : List (List Text.Styled) :=
  (Opt.all.map fun opt => optionLines (optionUsage opt) opt.purpose) ++
    [optionLines (flagUsage "h" "help") helpPurpose]

def controllerUsage : Text.Styled := usageLine (programName ++ " " ++ controllerName) "[OPTIONS]"

/-- The help of the controller. The long form tells more and sets the options apart. -/
def controllerHelp (long : Bool) : List Text.Styled :=
  if long then
    [.raw controllerSummary, .empty,
      .raw ("Watches ClusterDeployments owned by ClusterInstances and mirrors their install " ++
        "conditions and a Provisioned summary onto the ClusterInstance."),
      .empty, controllerUsage, .empty, .title "Options:"] ++
      [.empty].intercalate (optionTable "Print help (see a summary with '-h')")
  else
    [.raw controllerSummary, .empty, controllerUsage, .empty, .title "Options:"] ++
      (optionTable "Print help (see more with '--help')").flatten

def helpHelp : List Text.Styled := [
  .raw helpSummary,
  .empty,
  usageLine (programName ++ " " ++ helpName) "[COMMAND]...",
  .empty,
  .title "Arguments:",
  .raw "  [COMMAND]...  Print help for the subcommand(s)"]

end InstallStatus.CommandLine
