/-
Module: ColumnarSql.Server
Purpose: Versions of the server and what they can do.
Main exports:
  ServerVersion, ServerVersion.parse, Capabilities, Capabilities.ofVersion
-/
import ColumnarSql.Error

namespace ColumnarSql

open Text

/-- A version of the server. -/
structure ServerVersion where
  major : UInt32
  minor : UInt32
  patch : UInt32
deriving DecidableEq, Repr, Inhabited

namespace ServerVersion

/-- Order of versions. -/
def atLeast (a b : ServerVersion) : Bool :=
  b.major < a.major ||
    (a.major == b.major &&
      (b.minor < a.minor || (a.minor == b.minor && b.patch ≤ a.patch)))

/-- The text of a version. -/
def text (v : ServerVersion) : String :=
  toString v.major.toNat ++ "." ++ toString v.minor.toNat ++ "." ++ toString v.patch.toNat

/-- Read the parts of a version; each has 32 bits. -/
def readParts : List (List Char) → Option (List UInt32)
  | [] => some []
  | part :: rest =>
      match readNaturalUpTo? (Nat.pow 2 32 - 1) part, readParts rest with
      | some n, some ns => some (UInt32.ofNat n :: ns)
      | _, _ => none

/-- Read a version of two or three parts; parts after the third do not
count. -/
def parse (s : String) : Except Error ServerVersion :=
  match readParts ((splitAtChar '.' (trim s.toList)).take 3) with
  | some [major, minor] => .ok ⟨major, minor, 0⟩
  | some [major, minor, patch] => .ok ⟨major, minor, patch⟩
  | _ => .error (.config (.invalidVersion s))

/-- The first version that can delete rows. -/
def firstWithDelete : ServerVersion :=
  ⟨1, 1, 54388⟩

end ServerVersion

/-- What a server can do. -/
structure Capabilities where
  supportsDelete : Bool := true
  version : Option ServerVersion := none
deriving DecidableEq, Repr, Inhabited

/-- What a server of a known version can do. -/
def Capabilities.ofVersion (v : ServerVersion) : Capabilities :=
  ⟨v.atLeast ServerVersion.firstWithDelete, some v⟩

end ColumnarSql
