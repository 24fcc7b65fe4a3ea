/-
Module: ColumnarSql.Main
Purpose: The command line program.
Main exports:
  main
-/
import ColumnarSql.CommandLine.Run

namespace ColumnarSql

open CommandLine

/-- Why a file could not be read. -/
def faultOf : IO.Error → FileFault
  | .inappropriateType _ code _ => if code == 21 then .isADirectory else .notADirectory
  | _ => .missing

/-- Read a file of the file system. -/
def readFileOf (path : String) : IO (Except FileFault String) := do
  try
    return .ok (← IO.FS.readFile path)
  catch error =>
    return .error (faultOf error)

/-- Read the standard input to its end. -/
def readInputToEnd : IO String := do
  let bytes ← (← IO.getStdin).readBinToEnd
  return (String.fromUTF8? bytes).getD ""

/-- The path of the user's configuration file, from the environment. -/
def userConfigPath : IO (Option String) := do
  match ← IO.getEnv "XDG_CONFIG_HOME" with
  | some directory => return some (directory ++ "/bytehouse-sql/config.toml")
  | none =>
      return (← IO.getEnv "HOME").map fun home => home ++ "/.config/bytehouse-sql/config.toml"

end ColumnarSql

open ColumnarSql ColumnarSql.CommandLine in
/-- Run the program on its arguments. -/
def main (arguments : List String) : IO UInt32 := do
  let host : Host IO :=
    ⟨readFileOf, readInputToEnd, ← userConfigPath, ← IO.getEnv "BHSQL_CONFIG"⟩
  let outcome ← runArguments host arguments
  IO.print outcome.output
  IO.eprint outcome.errors
  return UInt32.ofNat outcome.exitCode
