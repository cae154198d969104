import PersistentId.CommandLine.Word
import PersistentId.Text.Quoted

/-!
# PersistentId.CommandLine.Request

What a command line of `handle-util` asks for, as `main` declares its commands.

Design points:

* The first plain word names a command; the words behind it are the command's own. A
  command takes one plain word, or a run of them.
* Asking for help ends the reading at once. So does a value for it.
* Options that do not exist are collected, with the plain words a command does not take,
  and reported together at the end, unless something is missing.
-/

namespace PersistentId

namespace CommandLine

/-- A command with the words it takes. -/
inductive Command
  /-- Show handles in canonical form. -/
  | canonical (handles : List String)
  /-- Show the addresses of handles. -/
  | resolve (handles : List String)
  /-- List the handles that start with a given text. -/
  | list (start : String)
  deriving DecidableEq, Repr

/-- What a command line comes to. -/
inductive Request
  | run (command : Command)
  | help (text : String)
  /-- The command line is wrong: how it should be, and what is wrong with it. -/
  | misuse (text : String)
  deriving DecidableEq, Repr

/-- The words a program or a command accepts. -/
structure Form where
  program : String
  /-- What follows the name of the program. -/
  arguments : String
  /-- What the help says below the usage. -/
  description : String
  /-- How messages name the plain words. -/
  subject : String
  /-- Whether more than one plain word is taken. -/
  many : Bool

namespace Form

/-- How the form is used, in one line. -/
def usage (f : Form) : String := "usage: " ++ f.program ++ " " ++ f.arguments ++ "\n"

/-- The help of the form. -/
def help (f : Form) : Request := .help (f.usage ++ "\n" ++ f.description)

/-- A complaint about the words of the form. -/
def misuse (f : Form) (message : String) : Request :=
  .misuse (f.usage ++ f.program ++ ": error: " ++ message ++ "\n")

/-- The complaint about a missing word. -/
def missing (f : Form) : Request :=
  f.misuse ("the following arguments are required: " ++ f.subject)

/-- The complaint about a value for the request for help. -/
def ignored (f : Form) (value : String) : Request :=
  f.misuse ("argument -h/--help: ignored explicit argument " ++ Text.quoted value)

end Form

/-- The name of the program. -/
def programName : String := "handle-util"

/-- The names of the commands. -/
def commandNames : List String := ["canonical", "resolve", "list"]

/-- The help on the request for help, with its columns set apart. -/
def helpLine (gap : String) : String :=
  "options:\n  -h, --help" ++ gap ++ "show this help message and exit\n"

/-- The form of the program. -/
def programForm : Form where
  program := programName
  arguments := "[-h] \x7b" ++ ",".intercalate commandNames ++ "\x7d ..."
  description :=
    "Handle utilities\n\npositional arguments:\n" ++
    "  \x7b" ++ ",".intercalate commandNames ++ "\x7d\n" ++
    "    canonical           Print the canonical form of handles\n" ++
    "    resolve             Resolve handles to URLs\n" ++
    "    list                List handles under a prefix\n\n" ++ helpLine "            "
  subject := "command"
  many := false

/-- The form of a command whose plain words are described in one line. -/
def commandForm (name arguments line subject : String) (many : Bool) : Form where
  program := programName ++ " " ++ name
  arguments := "[-h] " ++ arguments
  description := "positional arguments:\n  " ++ line ++ "\n\n" ++ helpLine "  "
  subject := subject
  many := many

def canonicalForm : Form :=
  commandForm "canonical" "handle [handle ...]" "handle      The handle(s) to transform." "handle"
    true

def resolveForm : Form :=
  commandForm "resolve" "handle [handle ...]" "handle      The handle(s) to resolve." "handle"
    true

def listForm : Form :=
  commandForm "list" "prefix" "prefix      The handle prefix to list." "prefix" false

/-- How far the plain words of a command have been read. -/
inductive Stage
  | before
  | within
  | behind
  deriving DecidableEq, Repr

/-- What the words of a command come to: the plain words it takes and the words it does
not, or an early end. -/
def collect (f : Form) (taken left : List String) : Stage → List Word →
    Except Request (List String × List String)
  | _, [] => .ok (taken, left)
  | _, .help :: _ => .error f.help
  | _, .helpWith value :: _ => .error (f.ignored value)
  | stage, .stranger text :: rest =>
    collect f taken (left ++ [text]) (if stage = .within then .behind else stage) rest
  | .before, .plain text :: rest => collect f (taken ++ [text]) left .within rest
  | .within, .plain text :: rest =>
    if f.many then collect f (taken ++ [text]) left .within rest
    else collect f taken (left ++ [text]) .behind rest
  | .behind, .plain text :: rest => collect f taken (left ++ [text]) .behind rest
  | .before, .separator :: rest => collect f taken left .before rest
  | .within, .separator :: rest => collect f taken left (if f.many then .within else .behind) rest
  | .behind, .separator :: rest => collect f taken (left ++ ["--"]) .behind rest

/-- What the words behind the name of a command come to. Words in `strangers` stood in
front of the name. -/
def readCommand (f : Form) (make : List String → Option Command) (strangers : List String)
    (rest : List String) : Request :=
  match collect f [] [] .before (words rest) with
  | .error request => request
  | .ok (taken, left) =>
    match make taken with
    | none => f.missing
    | some command =>
      match strangers ++ left with
      | [] => .run command
      | unknown =>
        programForm.misuse ("unrecognized arguments: " ++ " ".intercalate unknown)

/-- A command that takes one word or more. -/
def ofMany (make : List String → Command) : List String → Option Command
  | [] => none
  | taken => some (make taken)

/-- A command that takes one word. -/
def ofOne (make : String → Command) : List String → Option Command
  | [] => none
  | text :: _ => some (make text)

/-- The complaint about a word that names no command. -/
def unknownCommand (name : String) : Request :=
  programForm.misuse ("argument command: invalid choice: " ++ Text.quoted name ++
    " (choose from " ++ ", ".intercalate (commandNames.map Text.quoted) ++ ")")

/-- What a command line comes to, behind the options in `strangers`. -/
def readFrom (strangers : List String) : List String → Request
  | [] => programForm.missing
  | text :: rest =>
    match Word.ofString text with
    | .help => programForm.help
    | .helpWith value => programForm.ignored value
    | .stranger option => readFrom (strangers ++ [option]) rest
    | .separator => if rest.isEmpty then programForm.missing else unknownCommand text
    | .plain name =>
      match name with
      | "canonical" => readCommand canonicalForm (ofMany .canonical) strangers rest
      | "resolve" => readCommand resolveForm (ofMany .resolve) strangers rest
      | "list" => readCommand listForm (ofOne .list) strangers rest
      | _ => unknownCommand name

/-- What a command line comes to. -/
def Request.ofArguments (arguments : List String) : Request := readFrom [] arguments

end CommandLine

end PersistentId
