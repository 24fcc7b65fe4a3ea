/-
Module: ColumnarSql.CommandLine.Run
Purpose: Running commands.
Main exports:
  Host, Outcome, Invocation.run, runArguments
-/
import ColumnarSql.CommandLine.Arguments
import ColumnarSql.Config
import ColumnarSql.Json.Reader
import ColumnarSql.Json.StatementForm
import ColumnarSql.Table.Reflection

namespace ColumnarSql.CommandLine

open Text

/-- What a command needs from its surroundings. -/
structure Host (m : Type → Type) where
  /-- Read a file. -/
  readFile : String → m (Except FileFault String)
  /-- Read the standard input. -/
  readInput : m String
  /-- The path of the user's own configuration file. -/
  userConfig : Option String
  /-- The path of a configuration file named by the environment. -/
  environmentConfig : Option String

/-- What a run of the program leaves behind. -/
structure Outcome where
  exitCode : Nat
  output : String
  errors : String
deriving DecidableEq, Repr, Inhabited

/-- Why a command fails. -/
inductive Failure where
  | error (error : Error)
  | reading (source : String) (fault : FileFault)
  | malformedStatement
  | columnForm (spec : String)
  | noEngine (engineFull : String)
deriving Inhabited

/-- The text of a failure with its cause. -/
def Failure.message : Failure → String
  | .error (.file fault) => (Error.file fault).message ++ ": " ++ fault.message
  | .error cause => cause.message
  | .reading source fault => "reading " ++ source ++ ": " ++ fault.message
  | .malformedStatement => "parsing statement JSON"
  | .columnForm spec => "column " ++ shown spec ++ " is not in name:Type form"
  | .noEngine engineFull => "no engine found in " ++ shown engineFull

/-- An error of the library ends a command. -/
def orFail {α : Type} (result : Except Error α) : Except Failure α :=
  result.mapError .error

/-! ### Configuration -/

/-- The configuration file in the working directory. -/
def localConfig : String := "bytehouse-sql.toml"

/-- Read the configuration in a file with a path. -/
def configOf (path content : String) : Except Error Config :=
  match Config.parse content with
  | .error (.config .invalidToml) => .error (.config (.inFile path))
  | result => result

/-- The configuration in the first of some files that is there. -/
def firstConfig {m : Type → Type} [Monad m] (host : Host m) :
    List String → m (Except Error Config)
  | [] => pure (.ok {})
  | path :: rest => do
      match ← host.readFile path with
      | .ok content => return configOf path content
      | .error _ => firstConfig host rest

/-- The configuration of a run: that of the file which is named, or that of the
working directory, or that of the user. -/
def findConfig {m : Type → Type} [Monad m] (host : Host m) :
    (named : Option String) → m (Except Error Config)
  | some path => do
      match ← host.readFile path with
      | .ok content => return configOf path content
      | .error fault => return .error (.file fault)
  | none => firstConfig host (localConfig :: host.userConfig.toList)

/-! ### Commands -/

/-- What a server can do and how SQL is written, from the configuration and the
flags that override it. -/
def settle (config : Config) (literal : Bool) (paramStyle serverVersion : Option String) :
    Except Error (Capabilities × CompileOptions) := do
  let configured ← config.capabilities
  let capabilities ←
    match serverVersion with
    | some version => (ServerVersion.parse version).map Capabilities.ofVersion
    | none => .ok configured
  let style ←
    match paramStyle with
    | some style => ParameterStyle.parse style
    | none => .ok config.options.style
  return (capabilities, ⟨config.options.literalBinds || literal, style⟩)

/-- How deep arrays and objects may nest in a statement. -/
def statementDepth : Nat := 127

/-- Read a statement from its JSON text. -/
def readStatement (text : String) : Except Failure Statement :=
  match (Json.parse? statementDepth text).bind Statement.ofJson? with
  | some statement => .ok statement
  | none => .error .malformedStatement

/-- The lines that show a compiled statement. -/
def describe (compiled : CompiledStatement) : List String :=
  let params :=
    if compiled.params.isEmpty then []
    else
      ["", "Parameters:"] ++ compiled.params.map fun param =>
        "  " ++ param.name ++ " = " ++ param.value.toJson.compact
  let rows :=
    if compiled.rows.isEmpty then []
    else ["", toString compiled.rows.length ++ " row(s) to send"]
  compiled.sql :: (params ++ rows)

/-- Compile the text of a statement and show the result. -/
def compileText (capabilities : Capabilities) (options : CompileOptions) (json : Bool)
    (text : String) : Except Failure (List String) := do
  let statement ← readStatement text
  let compiled ← orFail (statement.compile capabilities options)
  return if json then [compiled.toJson.pretty] else describe compiled

/-- Read the input of the compile command. -/
def readSource {m : Type → Type} [Monad m] (host : Host m) (input : String) :
    m (Except Failure String) := do
  if input == "-" then
    return .ok (← host.readInput)
  else
    return (← host.readFile input).mapError (.reading input)

/-- Show the normal form of the name of a column type. -/
def showType (name : String) : Except Error (List String) := do
  let type ← ColumnType.parse name
  type.validate.mapError .type
  return [type.render]

/-- Read a column given as its name and its type. -/
def readColumn (spec : String) : Except Failure Column :=
  match splitOnce ':' spec.toList with
  | none => .error (.columnForm spec)
  | some (name, type) => do
      let type ← orFail (ColumnType.parse (String.ofList (trim type)))
      return ⟨String.ofList (trim name), type, none, none⟩

/-- Read the columns of a table up to the first that is not understood. -/
def readColumns : List String → Except Failure (List Column)
  | [] => .ok []
  | spec :: rest => do
      let column ← readColumn spec
      return column :: (← readColumns rest)

/-- Show the normal form of the description of an engine. -/
def showEngine (engineFull : String) (columns : List String) (table : String) :
    Except Failure (List String) := do
  let columns ← readColumns columns
  let table ← orFail (Table.ofReport table columns (some engineFull))
  match table.engine with
  | some engine => return [← orFail engine.declaration]
  | none => .error (.noEngine engineFull)

/-- The lines that a command writes. -/
def Invocation.run {m : Type → Type} [Monad m] (host : Host m) (invocation : Invocation) :
    m (Except Failure (List String)) := do
  match invocation.command with
  | .type name => return orFail (showType name)
  | .engine engineFull columns table => return showEngine engineFull columns table
  | .compile input literal paramStyle serverVersion json =>
      match ← findConfig host invocation.config with
      | .error error => return .error (.error error)
      | .ok config =>
          match settle config literal paramStyle serverVersion with
          | .error error => return .error (.error error)
          | .ok (capabilities, options) =>
              match ← readSource host input with
              | .error failure => return .error failure
              | .ok text => return compileText capabilities options json text

/-! ### Outcomes -/

/-- Lines as text, each with its end. -/
def unlines (lines : List String) : String :=
  lines.foldr (fun line rest => line ++ "\n" ++ rest) ""

/-- The name and the version of the program. -/
def programVersion : String := "bhsql 0.1.0"

/-- How the program is used. -/
def usageLines : List String :=
  ["Usage: bhsql [--config PATH] [-v] COMMAND",
    "",
    "Commands:",
    "  compile INPUT [--literal] [--param-style STYLE] [--server-version VERSION] [--json]",
    "  type NAME",
    "  engine ENGINE_FULL [-c NAME:TYPE]... [-t TABLE]"]

/-- What is left behind when arguments are not run as a command. -/
def Stop.outcome : Stop → Outcome
  | .usage => ⟨2, "", unlines usageLines⟩
  | .help => ⟨0, unlines usageLines, ""⟩
  | .version => ⟨0, unlines [programVersion], ""⟩

/-- What a command leaves behind. -/
def outcomeOf : Except Failure (List String) → Outcome
  | .ok lines => ⟨0, unlines lines, ""⟩
  | .error failure => ⟨1, "", unlines ["Error: " ++ failure.message]⟩

/-- Run the program. -/
def runArguments {m : Type → Type} [Monad m] (host : Host m) (arguments : List String) :
    m Outcome := do
  match Invocation.parse host.environmentConfig arguments with
  | .error stop => return stop.outcome
  | .ok invocation => return outcomeOf (← invocation.run host)

end ColumnarSql.CommandLine
