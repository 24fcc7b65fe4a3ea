/-
Module: ColumnarSql.CommandLine.FileTree
Purpose: Running commands on files that are held in memory.
Main exports:
  FileTree, FileTree.read, FileTree.host
-/
import ColumnarSql.CommandLine.Run

namespace ColumnarSql.CommandLine

open Text

/-- The files below a working directory, by their paths. -/
structure FileTree where
  files : List (List String × String)
deriving DecidableEq, Repr, Inhabited

namespace FileTree

/-- The parts of a path. -/
def parts (path : String) : List String :=
  (splitAtChar '/' path.toList).map String.ofList

/-- Whether a part of a path leads to the directory it stands in. -/
def staysInPlace (part : String) : Bool :=
  part == "" || part == "."

/-- Files by the texts of their paths. -/
def ofPaths (files : List (String × String)) : FileTree :=
  ⟨files.map fun (path, content) => ((parts path).filter fun part => !staysInPlace part, content)⟩

/-- The content of the file at a place. -/
def content? (tree : FileTree) (place : List String) : Option String :=
  (tree.files.find? fun file => file.1 == place).map Prod.snd

/-- Whether a place is a directory: the working directory, or one with a file
somewhere below it. -/
def isDirectory (tree : FileTree) (place : List String) : Bool :=
  place.isEmpty || tree.files.any fun file => place.isPrefixOf file.1 && place != file.1

/-- Go down a path from a directory.  Nothing outside the working directory is
there, and a path through a file leads nowhere. -/
def readFrom (tree : FileTree) (place : List String) : List String → Except FileFault String
  | [] => .error .isADirectory
  | part :: rest =>
      if staysInPlace part then
        readFrom tree place rest
      else if part == ".." then
        if place.isEmpty then .error .missing else readFrom tree place.dropLast rest
      else
        let next := place ++ [part]
        match tree.content? next with
        | some content => if rest.isEmpty then .ok content else .error .notADirectory
        | none => if tree.isDirectory next then readFrom tree next rest else .error .missing

/-- Read the file at a path. -/
def read (tree : FileTree) (path : String) : Except FileFault String :=
  if path.isEmpty || path.toList.head? == some '/' then .error .missing
  else readFrom tree [] (parts path)

/-- Surroundings made of files in memory. -/
def host (tree : FileTree) (input : String) (userConfig environmentConfig : Option String) :
    Host Id where
  readFile path := tree.read path
  readInput := input
  userConfig := userConfig
  environmentConfig := environmentConfig

end FileTree

end ColumnarSql.CommandLine
