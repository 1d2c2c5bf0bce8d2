import SheetExport.Calendar.DayText
import SheetExport.Text.Quoted

/-!
# Command-line arguments

A command line is read by a parser of options, and the first positional argument names a command
whose own parser reads every argument after it. Reading goes in two passes.

The first pass sorts every argument. After a first `--` everything is positional. An argument is
positional when it is empty, does not start with `-`, is `-` alone, looks like a negative number,
or holds a space; otherwise it is an option, found by its exact name, by its name before a `=`,
or by a prefix: a long prefix of one long option, or a short option with text attached. A prefix
that fits several options is an error at once, whatever comes before it.

The second pass works from left to right. An option that takes a value takes the next argument
when that one is positional, or the text after its `=`; one that takes none refuses an attached
text, except that a short option takes the characters after it as more short options. Help and
version stop the reading and print. Anything the parsers do not know is left over; left-over
arguments are an error once the command has read its own.
-/

namespace SheetExport.Cli

/-- What the command line writes, in order. -/
inductive Output where
  | out (text : String)
  | err (text : String)
  deriving DecidableEq, Repr

/-- How a command-line run ends: its exit status and what it wrote. -/
structure Outcome where
  status : Nat
  output : List Output
  deriving DecidableEq, Repr

namespace Outcome

/-- All that a run wrote to standard output. -/
def standardOutput (outcome : Outcome) : String :=
  String.join (outcome.output.filterMap fun | .out text => some text | .err _ => none)

/-- All that a run wrote to standard error. -/
def standardError (outcome : Outcome) : String :=
  String.join (outcome.output.filterMap fun | .err text => some text | .out _ => none)

end Outcome

/-- The kind of value an option takes. -/
inductive ValueKind where
  | text
  /-- A day written `YYYY-MM-DD`. -/
  | day
  deriving DecidableEq, Repr

/-- What an option does when it is given. -/
inductive Action where
  /-- Prints the help of its parser and stops. -/
  | help
  /-- Prints a version line and stops. -/
  | version (text : String)
  /-- Sets its destination. -/
  | flag
  /-- Takes one argument. -/
  | value (kind : ValueKind)
  deriving DecidableEq, Repr

/-- An option: its names, the destination it sets, and its action. -/
structure OptionSpec where
  names : List String
  dest : String
  action : Action
  deriving DecidableEq, Repr

namespace OptionSpec

/-- Whether an option takes an argument. -/
def takesValue (option : OptionSpec) : Bool :=
  match option.action with
  | .value _ => true
  | _ => false

/-- The name of an option in messages: its names joined by `/`. -/
def displayName (option : OptionSpec) : String := "/".intercalate option.names

end OptionSpec

/-- A parser of one level of the command line: its program name, usage, help and options. -/
structure Parser where
  prog : String
  usage : String
  help : String
  options : List OptionSpec
  deriving DecidableEq, Repr

/-- An option as an argument names it: the option, the name written for it, and the text
attached to it, after a `=` or right after a short name. -/
structure Found where
  option : OptionSpec
  written : String
  explicit : Option String
  deriving DecidableEq, Repr

/-- What the first pass makes of an argument. -/
inductive Slot where
  | positional
  /-- The first `--`. -/
  | separator
  /-- An option, when the parser knows it. -/
  | option (found : Option Found)
  deriving DecidableEq, Repr

/-- Why reading stops early: a help or version text to print, or an error of a parser. -/
inductive Stop where
  | help (text : String)
  | version (text : String)
  | error (parser : Parser) (message : String)
  deriving DecidableEq, Repr

/-- The outcome of a stop: help and version go to standard output with status 0, an error goes
to standard error after the parser's usage, with status 2. -/
def Stop.outcome : Stop → Outcome
  | .help text => ⟨0, [.out text]⟩
  | .version text => ⟨0, [.out (text ++ "\n")]⟩
  | .error parser message => ⟨2, [.err (parser.usage ++ parser.prog ++ ": error: " ++ message ++ "\n")]⟩

/-- A value an option sets. -/
inductive Value where
  | text (text : String)
  | day (date : Calendar.Date)
  | set
  deriving DecidableEq, Repr

namespace Parser

/-- The option names of a parser with their options, in the order they were declared. -/
def optionNames (parser : Parser) : List (String × OptionSpec) :=
  parser.options.flatMap fun option => option.names.map fun name => (name, option)

/-- The option of an exact name. -/
def lookup (parser : Parser) (name : String) : Option OptionSpec := parser.optionNames.lookup name

/-- The text before the first `=` of an argument, and the text after it when there is one. -/
def splitAtEquals (chars : List Char) : List Char × Option (List Char) :=
  match chars.span (· != '=') with
  | (before, []) => (before, none)
  | (before, _ :: after) => (before, some after)

/-- The options a written argument may stand for, by prefix. -/
def candidates (parser : Parser) (chars : List Char) : List Found :=
  match chars with
  | '-' :: '-' :: _ =>
    let (before, after) := splitAtEquals chars
    let explicit := after.map String.ofList
    (parser.optionNames.filter fun (name, _) => before.isPrefixOf name.toList).map
      fun (name, option) => ⟨option, name, explicit⟩
  | _ =>
    let short := chars.take 2
    parser.optionNames.filterMap fun (name, option) =>
      if name.toList == short then some ⟨option, name, some (String.ofList (chars.drop 2))⟩
      else if chars.isPrefixOf name.toList then some ⟨option, name, none⟩
      else none

/-- Whether every character is a decimal digit of some script. -/
def allDigits (chars : List Char) : Bool := chars.all fun c => (Text.digitValue? c).isSome

/-- Whether a text is `-` and digits, or `-`, digits, `.` and at least one digit. -/
def negativeNumber (chars : List Char) : Bool :=
  match chars with
  | '-' :: rest =>
    (!rest.isEmpty && allDigits rest) ||
      (match rest.span (· != '.') with
       | (whole, '.' :: fraction) => allDigits whole && !fraction.isEmpty && allDigits fraction
       | _ => false)
  | _ => false

/-- Whether an argument looks like a negative number; a final line break may follow it. -/
def looksNegative (chars : List Char) : Bool :=
  negativeNumber chars || (chars.getLast? == some '\n' && negativeNumber chars.dropLast)

/-- The first-pass reading of one argument, or the error of a prefix that fits several options. -/
def classify (parser : Parser) (arg : String) : Except String Slot :=
  let chars := arg.toList
  match chars with
  | [] => .ok .positional
  | first :: rest =>
    if first != '-' then .ok .positional
    else
      match parser.lookup arg with
      | some option => .ok (.option (some ⟨option, arg, none⟩))
      | none =>
        if rest.isEmpty then .ok .positional
        else
          let (before, after) := splitAtEquals chars
          match after, parser.lookup (String.ofList before) with
          | some explicit, some option =>
            .ok (.option (some ⟨option, String.ofList before, some (String.ofList explicit)⟩))
          | _, _ =>
            match parser.candidates chars with
            | [found] => .ok (.option (some found))
            | [] =>
              if looksNegative chars || chars.contains ' ' then .ok .positional
              else .ok (.option none)
            | several =>
              .error ("ambiguous option: " ++ arg ++ " could match " ++
                ", ".intercalate (several.map (·.written)))

/-- The first-pass reading of every argument: all after the first `--` are positional. -/
def classifyAll (parser : Parser) : List String → Except String (List Slot)
  | [] => .ok []
  | arg :: rest =>
    if arg == "--" then .ok (.separator :: rest.map fun _ => .positional)
    else do
      let slot ← parser.classify arg
      let slots ← parser.classifyAll rest
      pure (slot :: slots)

/-- The error of an option given text it does not take. -/
def ignored (parser : Parser) (option : OptionSpec) (explicit : String) : Stop :=
  .error parser ("argument " ++ option.displayName ++ ": ignored explicit argument " ++
    Text.quote explicit)

/-- An option written alone: one that takes a value takes the next argument, which must be
positional. Gives the option with its argument and how many arguments it used. -/
def bare (parser : Parser) (following : List (String × Slot)) (option : OptionSpec) :
    Except Stop (List (OptionSpec × Option String) × Nat) :=
  if option.takesValue then
    match following with
    | (next, .positional) :: _ => .ok ([(option, some next)], 1)
    | _ => .error (.error parser ("argument " ++ option.displayName ++ ": expected one argument"))
  else .ok ([(option, none)], 0)

/-- An option written with attached text: a value option takes it as its argument. A short option
without a value reads the first character of the text as the next short option, which gets the
rest; the whole chain is refused when a character names no option, and a long option refuses any
text. Gives the options with their arguments and how many following arguments were used. -/
def attached (parser : Parser) (following : List (String × Slot)) (option : OptionSpec)
    (written : String) (explicit : List Char) :
    Except Stop (List (OptionSpec × Option String) × Nat) :=
  if option.takesValue then .ok ([(option, some (String.ofList explicit))], 0)
  else
    match explicit with
    | [] => .error (parser.ignored option "")
    | c :: more =>
      if (written.toList.drop 1).head? == some '-' then
        .error (parser.ignored option (String.ofList (c :: more)))
      else
        let next := String.ofList ['-', c]
        match parser.lookup next with
        | none => .error (parser.ignored option (String.ofList (c :: more)))
        | some nextOption =>
          match more with
          | [] => do
            let (taken, used) ← parser.bare following nextOption
            pure ((option, none) :: taken, used)
          | _ :: _ => do
            let (taken, used) ← parser.attached following nextOption next more
            pure ((option, none) :: taken, used)

/-- The options an option argument stands for, with their arguments, and how many following
arguments were used. -/
def consume (parser : Parser) (found : Found) (following : List (String × Slot)) :
    Except Stop (List (OptionSpec × Option String) × Nat) :=
  match found.explicit with
  | some explicit => parser.attached following found.option found.written explicit.toList
  | none => parser.bare following found.option

end Parser

/-- Reads a value of a kind; the refusal of a text that is no day says what was expected. -/
def readValue (kind : ValueKind) (text : String) : Except String Value :=
  match kind with
  | .text => .ok (.text text)
  | .day =>
    match Calendar.Date.ofDayText text with
    | some date => .ok (.day date)
    | none => .error ("Invalid date " ++ Text.quote text ++ ", expected YYYY-MM-DD")

/-- Takes the actions of options in order, setting values, latest first. -/
def takeAll (parser : Parser) :
    List (OptionSpec × Option String) → List (String × Value) → Except Stop (List (String × Value))
  | [], values => .ok values
  | (option, argument) :: rest, values =>
    match option.action, argument with
    | .help, _ => .error (.help parser.help)
    | .version text, _ => .error (.version text)
    | .flag, _ => takeAll parser rest ((option.dest, .set) :: values)
    | .value kind, some text =>
      match readValue kind text with
      | .ok value => takeAll parser rest ((option.dest, value) :: values)
      | .error refusal =>
        .error (.error parser ("argument " ++ option.displayName ++ ": " ++ refusal))
    | .value _, none => takeAll parser rest values

/-- Reads the arguments of a parser without positionals: options take their actions, everything
else is left over. Gives the values set, latest first, and the left-over arguments. -/
def readOptions (parser : Parser) :
    List (String × Slot) → List (String × Value) → List String →
      Except Stop (List (String × Value) × List String)
  | [], values, left => .ok (values, left)
  | (arg, slot) :: rest, values, left =>
    match slot with
    | .option (some found) =>
      match parser.consume found rest with
      | .error stop => .error stop
      | .ok (taken, used) =>
        match takeAll parser taken values with
        | .error stop => .error stop
        | .ok values => readOptions parser (rest.drop used) values left
    | _ => readOptions parser rest values (left ++ [arg])
termination_by arguments => arguments.length

/-- A command line: the main parser, the destination of the command, and the parser of each
command. -/
structure CommandLine where
  main : Parser
  commandDest : String
  commands : List (String × Parser)
  deriving DecidableEq, Repr

/-- What a command line asks for: the command and the values of its options, latest first. -/
structure Request where
  command : String
  values : List (String × Value)
  deriving DecidableEq, Repr

namespace CommandLine

/-- Reads the main parser's arguments up to the command, which takes every argument from the
first positional one, or from the first `--` when something follows it. Gives the command with
its arguments, when there is one, and the left-over arguments. -/
def readMain (line : CommandLine) :
    List (String × Slot) → List String → Except Stop (Option (List String) × List String)
  | [], left => .ok (none, left)
  | (arg, slot) :: rest, left =>
    match slot with
    | .positional => .ok (some (arg :: rest.map (·.1)), left)
    | .separator =>
      if rest.isEmpty then .ok (none, left ++ [arg]) else .ok (some (arg :: rest.map (·.1)), left)
    | .option none => readMain line rest (left ++ [arg])
    | .option (some found) =>
      match line.main.consume found rest with
      | .error stop => .error stop
      | .ok (taken, used) =>
        match takeAll line.main taken [] with
        | .error stop => .error stop
        | .ok _ => readMain line (rest.drop used) left
termination_by arguments => arguments.length

/-- Reads a whole command line. -/
def read (line : CommandLine) (args : List String) :
    Except Stop Request := do
  let slots ← (line.main.classifyAll args).mapError (.error line.main)
  let (command, left) ← line.readMain (args.zip slots) []
  match command with
  | none =>
    .error (.error line.main ("the following arguments are required: " ++ line.commandDest))
  | some [] =>
    .error (.error line.main ("the following arguments are required: " ++ line.commandDest))
  | some (name :: commandArgs) =>
    match line.commands.lookup name with
    | none =>
      .error (.error line.main ("argument " ++ line.commandDest ++ ": invalid choice: " ++
        Text.quote name ++ " (choose from " ++
        ", ".intercalate (line.commands.map fun (choice, _) => Text.quote choice) ++ ")"))
    | some parser =>
      let commandSlots ← (parser.classifyAll commandArgs).mapError (.error parser)
      let (values, commandLeft) ← readOptions parser (commandArgs.zip commandSlots) [] []
      let unknown := left ++ commandLeft
      if unknown.isEmpty then pure ⟨name, values⟩
      else .error (.error line.main ("unrecognized arguments: " ++ " ".intercalate unknown))

end CommandLine

end SheetExport.Cli
