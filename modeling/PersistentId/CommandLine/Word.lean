import PersistentId.Text.Digit

/-!
# PersistentId.CommandLine.Word

What a single word of a command line is.

Design points:

* Words that begin with a hyphen are options, apart from a lone hyphen, negative numbers
  and words with a blank in them. Two hyphens end the options: everything behind them is
  plain.
* There is one option, the request for help. Its long name may be cut short, and its letter
  may be repeated. It takes no value.
-/

namespace PersistentId

namespace CommandLine

/-- What a word of a command line is. -/
inductive Word
  | plain (text : String)
  /-- The two hyphens that end the options. -/
  | separator
  | help
  /-- The request for help with a value, which it does not take. -/
  | helpWith (value : String)
  /-- An option that does not exist. -/
  | stranger (text : String)
  deriving DecidableEq, Repr

/-- The text of a negative number: digits, perhaps with a point in front of the last
ones, perhaps with a line end behind them. -/
def isNegativeNumber (s : List Char) : Bool :=
  match s with
  | '-' :: body =>
    let body := if body.getLast? = some '\n' then body.dropLast else body
    let rest := body.dropWhile Text.isDecimalDigit
    match rest with
    | [] => !body.isEmpty
    | '.' :: places => !places.isEmpty && places.all Text.isDecimalDigit
    | _ => false
  | _ => false

/-- The long name of the request for help. -/
def helpName : List Char := "--help".toList

/-- The request for help by its letter, by what follows the letter. The letter may be
repeated; anything else behind it is a value. -/
def shortHelp : List Char → Word
  | [] => .help
  | 'h' :: rest => shortHelp rest
  | value => .helpWith (String.ofList value)

/-- The word behind two hyphens: a beginning of the long name, perhaps with a value. -/
def longOption (s : List Char) : Option Word :=
  let name := s.takeWhile (· != '=')
  if name.isPrefixOf helpName then
    match s.drop name.length with
    | [] => some .help
    | _ :: value => some (.helpWith (String.ofList value))
  else none

/-- The word as an option, if it is the request for help. -/
def helpOption? (s : List Char) : Option Word :=
  match s with
  | '-' :: '-' :: _ => longOption s
  | '-' :: 'h' :: '=' :: value => some (.helpWith (String.ofList value))
  | '-' :: 'h' :: rest => some (shortHelp rest)
  | _ => none

/-- What a word is while options are still possible. -/
def Word.ofString (text : String) : Word :=
  match text.toList with
  | ['-', '-'] => .separator
  | '-' :: c :: rest =>
    match helpOption? ('-' :: c :: rest) with
    | some word => word
    | none =>
      if isNegativeNumber ('-' :: c :: rest) || rest.contains ' ' || c == ' ' then .plain text
      else .stranger text
  | _ => .plain text

/-- The words of a command line. -/
def words : List String → List Word
  | [] => []
  | text :: rest =>
    match Word.ofString text with
    | .separator => .separator :: rest.map .plain
    | word => word :: words rest

end CommandLine

end PersistentId
