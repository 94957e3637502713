import DeviceTwin.Text.Blank
import DeviceTwin.Text.Quoted

/-!
# Commands

A line holds a command if its first word is a name of the command in any mixture of capital and
small letters.  The commands that look something up take the rest of the line as their argument,
without the white space around it; all others stand alone.  A line of white space holds nothing.
-/

namespace DeviceTwin.Console

/-- What the console can be told. -/
inductive Command where
  | connect
  | disconnect
  | start
  | status
  | help
  | quit
  /-- Looks the standard node with a name up. -/
  | lookup (name : Text)
  /-- Reads the identifier of a node. -/
  | parse (id : Text)
  deriving DecidableEq, Repr

/-- Why a line holds no command; each carries the first word as it stands in the line. -/
inductive CommandError where
  /-- The word is no name of a command. -/
  | unknown (word : Text)
  /-- The argument is missing. -/
  | missingArgument (word : Text)
  /-- There is an argument where none is taken. -/
  | unexpectedArgument (word : Text)
  deriving DecidableEq, Repr

/-- The words for an error. -/
def CommandError.message : CommandError → Text
  | unknown word => "Unknown command ".toList ++ Text.quote word ++ ", try \"help\"".toList
  | missingArgument word =>
    "Command ".toList ++ Text.quote word ++ " expects an argument".toList
  | unexpectedArgument word =>
    "Command ".toList ++ Text.quote word ++ " takes no arguments".toList

/-- What a name of a command asks for. -/
inductive Form where
  /-- A command that stands alone. -/
  | plain (command : Command)
  /-- A command that takes an argument. -/
  | applied (command : Text → Command)

namespace Form

/-- The names of commands, in small letters. -/
def names : List (Text × Form) :=
  [ ("connect".toList, plain .connect),
    ("disconnect".toList, plain .disconnect),
    ("start".toList, plain .start),
    ("status".toList, plain .status),
    ("help".toList, plain .help),
    ("?".toList, plain .help),
    ("quit".toList, plain .quit),
    ("exit".toList, plain .quit),
    ("lookup".toList, applied .lookup),
    ("parse".toList, applied .parse) ]

/-- The form that a word names, whatever the case of its letters. -/
def ofWord? (word : Text) : Option Form :=
  (names.find? (·.1 = Text.lower word)).map (·.2)

/-- The command of a form with the argument that was given; `word` is the name that was used. -/
def apply (word : Text) : Form → Option Text → Except CommandError Command
  | plain command, none => .ok command
  | plain _, some _ => .error (.unexpectedArgument word)
  | applied _, none => .error (.missingArgument word)
  | applied command, some argument => .ok (command argument)

end Form

namespace Command

/-- The first word of a trimmed line, and what follows it unless that is all white space. -/
def split (line : Text) : Text × Option Text :=
  match Text.cutAt Text.isBlank line with
  | none => (line, none)
  | some (word, rest) =>
    let argument := Text.trim rest
    (word, if argument = [] then none else some argument)

/-- The command in a line, if the line is not all white space. -/
def parseLine (line : Text) : Except CommandError (Option Command) :=
  let line := Text.trim line
  if line = [] then .ok none
  else
    let (word, argument) := split line
    match Form.ofWord? word with
    | none => .error (.unknown word)
    | some form => (form.apply word argument).map some

/-- The name of a command that is used in answers. -/
def name : Command → Text
  | connect => "connect".toList
  | disconnect => "disconnect".toList
  | start => "start".toList
  | status => "status".toList
  | help => "help".toList
  | quit => "quit".toList
  | lookup _ => "lookup".toList
  | parse _ => "parse".toList

/-- The argument of a command. -/
def argument? : Command → Option Text
  | lookup name => some name
  | parse id => some id
  | _ => none

end Command

end DeviceTwin.Console
