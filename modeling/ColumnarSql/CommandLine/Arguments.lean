/-
Module: ColumnarSql.CommandLine.Arguments
Purpose: Reading the arguments of the command line.
Main exports:
  Flag, Command, Invocation, Stop, Invocation.parse
-/
import ColumnarSql.Text.Blank

namespace ColumnarSql.CommandLine

open Text

/-!
A command is preceded and followed by flags.  A long flag has its value after
an equals sign or in the next argument.  Short flags may be joined, and the
last of them has its value in the same or in the next argument.  An argument
that starts with a hyphen is never the value of a flag, except the hyphen
alone.  After two hyphens everything is an operand.
-/

/-- A flag of the command line. -/
inductive Flag where
  | config
  | verbose
  | help
  | version
  | literal
  | paramStyle
  | serverVersion
  | json
  | column
  | table
deriving DecidableEq, Repr, Inhabited

namespace Flag

/-- The long name of a flag. -/
def long : Flag → String
  | .config => "config"
  | .verbose => "verbose"
  | .help => "help"
  | .version => "version"
  | .literal => "literal"
  | .paramStyle => "param-style"
  | .serverVersion => "server-version"
  | .json => "json"
  | .column => "column"
  | .table => "table"

/-- The letter of a flag. -/
def letter? : Flag → Option Char
  | .verbose => some 'v'
  | .help => some 'h'
  | .version => some 'V'
  | .column => some 'c'
  | .table => some 't'
  | _ => none

/-- Whether a flag has a value. -/
def hasValue : Flag → Bool
  | .config | .paramStyle | .serverVersion | .column | .table => true
  | _ => false

/-- Whether a flag may be given more than once. -/
def repeats : Flag → Bool
  | .column => true
  | _ => false

end Flag

/-- The flags before a command. -/
def generalFlags : List Flag :=
  [.config, .verbose, .help, .version]

/-- The flags that every command takes. -/
def sharedFlags : List Flag :=
  [.config, .verbose, .help]

/-- Why arguments are not run as a command. -/
inductive Stop where
  /-- The arguments are not understood. -/
  | usage
  | help
  | version
deriving DecidableEq, Repr, Inhabited

/-- Flags with their values, and operands, as read so far. -/
structure Given where
  flags : List (Flag × String) := []
  operands : List String := []
deriving DecidableEq, Repr, Inhabited

namespace Given

/-- The values of a flag. -/
def values (given : Given) (flag : Flag) : List String :=
  (given.flags.filter fun entry => entry.1 == flag).map Prod.snd

/-- The value of a flag that is given at most once. -/
def value? (given : Given) (flag : Flag) : Option String :=
  (given.values flag).head?

/-- Whether a flag is given. -/
def has (given : Given) (flag : Flag) : Bool :=
  !(given.values flag).isEmpty

/-- Add a flag.  The path of a configuration file is not empty. -/
def add (given : Given) (flag : Flag) (value : String) : Except Stop Given :=
  match flag with
  | .help => .error .help
  | .version => .error .version
  | _ =>
      if (given.has flag && !flag.repeats) || (flag == .config && value.isEmpty) then
        .error .usage
      else
        .ok { given with flags := given.flags ++ [(flag, value)] }

end Given

/-! ### Arguments -/

/-- What an argument looks like. -/
inductive Shape where
  | operand
  /-- Two hyphens alone. -/
  | separator
  | long (name : List Char) (value : Option String)
  | short (letters : List Char)
deriving DecidableEq, Repr, Inhabited

/-- The shape of an argument. -/
def Shape.of (argument : List Char) : Shape :=
  match argument with
  | ['-', '-'] => .separator
  | '-' :: '-' :: body =>
      match splitOnce '=' body with
      | some (name, value) => .long name (some (String.ofList value))
      | none => .long body none
  | '-' :: c :: letters => .short (c :: letters)
  | _ => .operand

/-- Read joined short flags.  The flag that still needs its value comes
back. -/
def readLetters (flags : List Flag) (given : Given) :
    List Char → Except Stop (Given × Option Flag)
  | [] => .ok (given, none)
  | c :: rest =>
      match flags.find? fun flag => flag.letter? == some c with
      | none => .error .usage
      | some flag =>
          if flag.hasValue then
            match rest with
            | [] => .ok (given, some flag)
            | '=' :: value => (given.add flag (String.ofList value)).map fun g => (g, none)
            | value => (given.add flag (String.ofList value)).map fun g => (g, none)
          else
            match given.add flag "" with
            | .ok given => readLetters flags given rest
            | .error stop => .error stop

/-- Read a long flag.  The flag comes back if it still needs its value. -/
def readLong (flags : List Flag) (given : Given) (name : List Char) (value : Option String) :
    Except Stop (Given × Option Flag) :=
  match flags.find? fun flag => flag.long.toList == name with
  | none => .error .usage
  | some flag =>
      match flag.hasValue, value with
      | true, none => .ok (given, some flag)
      | true, some value => (given.add flag value).map fun g => (g, none)
      | false, none => (given.add flag "").map fun g => (g, none)
      | false, some _ => .error .usage

/-- Read arguments.  Where a command is expected, reading stops at the first
operand; the arguments that are left come back. -/
def readArguments (flags : List Flag) (untilOperand : Bool) (given : Given) :
    List String → Except Stop (Given × List String)
  | [] => .ok (given, [])
  | argument :: rest =>
      let shape := Shape.of argument.toList
      match shape with
      | .separator =>
          if untilOperand then .error .usage
          else .ok ({ given with operands := given.operands ++ rest }, [])
      | .operand =>
          if untilOperand then .ok (given, argument :: rest)
          else
            readArguments flags untilOperand
              { given with operands := given.operands ++ [argument] } rest
      | _ =>
          let step :=
            match shape with
            | .long name value => readLong flags given name value
            | .short letters => readLetters flags given letters
            | _ => .error .usage
          match step with
          | .error stop => .error stop
          | .ok (given, none) => readArguments flags untilOperand given rest
          | .ok (given, some flag) =>
              match rest with
              | [] => .error .usage
              | value :: rest =>
                  if Shape.of value.toList == .operand then
                    match given.add flag value with
                    | .ok given => readArguments flags untilOperand given rest
                    | .error stop => .error stop
                  else
                    .error .usage

/-! ### Commands -/

/-- A command with its own arguments. -/
inductive Command where
  /-- Compile the statement in a file; a hyphen is the standard input. -/
  | compile (input : String) (literal : Bool) (paramStyle serverVersion : Option String)
      (json : Bool)
  /-- Normalize the name of a column type. -/
  | type (name : String)
  /-- Normalize the description of an engine for a table with some columns. -/
  | engine (engineFull : String) (columns : List String) (table : String)
deriving DecidableEq, Repr, Inhabited

/-- A command with the arguments that all commands have. -/
structure Invocation where
  config : Option String
  command : Command
deriving DecidableEq, Repr, Inhabited

/-- The flags of a command. -/
def flagsOf (name : String) : Option (List Flag) :=
  if name == "compile" then
    some ([.literal, .paramStyle, .serverVersion, .json] ++ sharedFlags)
  else if name == "type" then
    some sharedFlags
  else if name == "engine" then
    some ([.column, .table] ++ sharedFlags)
  else
    none

/-- The command with a name and one operand. -/
def Command.of (name operand : String) (given : Given) : Command :=
  if name == "compile" then
    .compile operand (given.has .literal) (given.value? .paramStyle)
      (given.value? .serverVersion) (given.has .json)
  else if name == "type" then
    .type operand
  else
    .engine operand (given.values .column) ((given.value? .table).getD "t")

/-- Whether the arguments of the help command make sense. -/
def isHelpTopic : List String → Bool
  | [] => true
  | [name] => name == "help" || (flagsOf name).isSome
  | _ => false

/-- Read the arguments of the program.  The path of the configuration file may
also come from the environment; the path given last wins. -/
def Invocation.parse (environment : Option String) (arguments : List String) :
    Except Stop Invocation := do
  let (general, rest) ← readArguments generalFlags true {} arguments
  match rest with
  | [] => .error .usage
  | name :: rest =>
      if name == "help" then
        .error (if isHelpTopic rest then .help else .usage)
      else
        match flagsOf name with
        | none => .error .usage
        | some flags => do
            let (given, _) ← readArguments flags false {} rest
            match given.operands with
            | [operand] =>
                if environment == some "" then
                  .error .usage
                else
                  let config := (given.value? .config).or ((general.value? .config).or environment)
                  .ok ⟨config, Command.of name operand given⟩
            | _ => .error .usage

end ColumnarSql.CommandLine
