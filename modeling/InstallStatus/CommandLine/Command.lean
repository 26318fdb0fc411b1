import InstallStatus.CommandLine.Help

/-!
What a whole command line asks for: to run the controller with some flags, to print a text, or
nothing that the program knows.
-/

namespace InstallStatus.CommandLine

inductive Command
  | run (flags : Settings.Flags)
  | print (lines : List Text.Styled)
  | refuse (mistake : Misuse)
  deriving DecidableEq, Repr

namespace Command

/-- The help asked for by the words after the help command. -/
def help : List String → Command
  | [] => .print programHelp
  | topic :: rest =>
    if topic = controllerName then
      match rest with
      | [] => .print (controllerHelp true)
      | extra :: _ => .refuse (.unknownCommand extra)
    else if topic = helpName then
      match rest with
      | [] => .print helpHelp
      | extra :: _ => .refuse (.unknownCommand extra)
    else .refuse (.unknownCommand topic)

def controller (args : List String) : Command :=
  match Options.read args with
  | .ok flags => .run flags
  | .error (.misuse mistake) => .refuse mistake
  | .error (.help long) => .print (controllerHelp long)

/-- A flag of the program itself, none of which takes a value. -/
def flag (text : String) (print : List Text.Styled) : Option String → Command
  | some value => .refuse (.unexpectedValue value text)
  | none => .print print

def longFlag (name : String) (value : Option String) : Command :=
  if name = "help" then flag "--help" programHelp value
  else if name = "version" then flag "--version" [.raw versionLine] value
  else .refuse (.unexpectedArgument ("--" ++ name))

/-- The first of the letters after a single dash decides. -/
def shortFlag : List Char → Command
  | 'h' :: _ => .print programHelp
  | 'V' :: _ => .print [.raw versionLine]
  | flags => .refuse (.unexpectedArgument (String.ofList ('-' :: flags.take 1)))

/-- What stands after two dashes can be no command. -/
def afterDivider : List String → Command
  | [] => .run .none
  | arg :: _ =>
    if arg = controllerName ∨ arg = helpName then .refuse (.unexpectedArgument arg)
    else .refuse (.unknownCommand arg)

/-- The command of a list of arguments; without any, the controller runs. -/
def ofArgs : List String → Command
  | [] => .run .none
  | arg :: rest =>
    if arg = controllerName then controller rest
    else if arg = helpName then help rest
    else
      match Form.of arg with
      | .divider => afterDivider rest
      | .long name value => longFlag name value
      | .short flags => shortFlag flags
      | .plain => .refuse (.unknownCommand arg)

end Command

end InstallStatus.CommandLine
