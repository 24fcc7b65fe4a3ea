/-
Module: ColumnarSql.Table.EngineText
Purpose: Taking the reported text of an engine apart into its clauses.
Main exports:
  EngineClause, ClauseHit, locateClauses, EngineText, EngineText.parse
-/
import ColumnarSql.Error
import ColumnarSql.Text.Reading
import ColumnarSql.Text.TopLevel

namespace ColumnarSql

open Text

/-!
The server reports an engine as one text: its name, its arguments in
parentheses, and clauses in any order, each after its keyword.  A keyword
counts only outside quotes and brackets, between blanks or the ends of the
text.
-/

/-- The clauses of an engine. -/
inductive EngineClause where
  | partitionBy
  | orderBy
  | primaryKey
  | sampleBy
  | ttl
  | settings
deriving DecidableEq, Repr, Inhabited

namespace EngineClause

/-- The keyword of a clause. -/
def keyword : EngineClause → List Char
  | .partitionBy => "PARTITION BY".toList
  | .orderBy => "ORDER BY".toList
  | .primaryKey => "PRIMARY KEY".toList
  | .sampleBy => "SAMPLE BY".toList
  | .ttl => "TTL".toList
  | .settings => "SETTINGS".toList

/-- All clauses. -/
def all : List EngineClause :=
  [.partitionBy, .orderBy, .primaryKey, .sampleBy, .ttl, .settings]

/-- Whether a text starts with the keyword of a clause, and a blank or nothing
follows it. -/
def startsAt (clause : EngineClause) (s : List Char) : Bool :=
  match dropStart? clause.keyword s with
  | some [] => true
  | some (c :: _) => isBlank c
  | none => false

/-- The clause whose keyword a text starts with. -/
def at? (s : List Char) : Option EngineClause :=
  all.find? fun clause => clause.startsAt s

end EngineClause

/-- A keyword found in a text: the clause, and the places where the keyword
starts and stops, counted in characters. -/
structure ClauseHit where
  clause : EngineClause
  start : Nat
  stop : Nat
deriving DecidableEq, Repr, Inhabited

/-- Find keywords from a place on.  `place` counts the characters before,
`afterBlank` says whether a keyword may start here, and `skip` characters still
belong to the last keyword. -/
def locateFrom (place : Nat) (n : Nesting) (afterBlank : Bool) (skip : Nat) :
    List Char → List ClauseHit
  | [] => []
  | c :: rest =>
      if 0 < skip then
        locateFrom (place + 1) n afterBlank (skip - 1) rest
      else if n.quote.isSome then
        locateFrom (place + 1) (n.step c) false 0 rest
      else
        match (if (n.step c).depth == 0 && afterBlank then EngineClause.at? (c :: rest) else none)
        with
        | some clause =>
            ⟨clause, place, place + clause.keyword.length⟩ ::
              locateFrom (place + 1) (n.step c) false (clause.keyword.length - 1) rest
        | none => locateFrom (place + 1) (n.step c) (isBlank c) 0 rest

/-- The top-level keywords of a text, in order. -/
def locateClauses (s : List Char) : List ClauseHit :=
  locateFrom 0 ⟨0, none, false⟩ true 0 s

/-- The parts of the text of an engine. -/
structure EngineText where
  name : String
  args : Option String := none
  partitionBy : Option String := none
  orderBy : Option String := none
  primaryKey : Option String := none
  sampleBy : Option String := none
  ttl : Option String := none
  settings : Option String := none
deriving DecidableEq, Repr, Inhabited

namespace EngineText

/-- The text of a clause, if the clause is there. -/
def get? (text : EngineText) : EngineClause → Option String
  | .partitionBy => text.partitionBy
  | .orderBy => text.orderBy
  | .primaryKey => text.primaryKey
  | .sampleBy => text.sampleBy
  | .ttl => text.ttl
  | .settings => text.settings

/-- Set the text of a clause. -/
def set (text : EngineText) (clause : EngineClause) (body : String) : EngineText :=
  match clause with
  | .partitionBy => { text with partitionBy := some body }
  | .orderBy => { text with orderBy := some body }
  | .primaryKey => { text with primaryKey := some body }
  | .sampleBy => { text with sampleBy := some body }
  | .ttl => { text with ttl := some body }
  | .settings => { text with settings := some body }

/-- The characters of a text from one place to another. -/
def slice (s : List Char) (start stop : Nat) : List Char :=
  (s.take stop).drop start

/-- What the parentheses of an argument list enclose. -/
def enclosed? (head : List Char) : Option String :=
  match head with
  | '(' :: rest => (dropEnd? [')'] rest).map fun inner => String.ofList (trim inner)
  | _ => none

/-- Add the clauses found, in order.  A clause that is there already is a
fault, reported where its text starts; `offset` is the byte position at which
`body` starts in `source`. -/
def addClauses (source body : List Char) (offset : Nat) (text : EngineText) :
    List ClauseHit → Except Error EngineText
  | [] => .ok text
  | hit :: rest =>
      let stop :=
        match rest with
        | next :: _ => next.start
        | [] => body.length
      let content := String.ofList (trim (slice body hit.stop stop))
      if (text.get? hit.clause).isSome then
        .error (.parse (offset + byteLength (body.take hit.stop))
          (.clauseRepeated (String.ofList source)))
      else
        addClauses source body offset (text.set hit.clause content) rest

/-- Read the arguments that stand between the name and the first clause. -/
def readArgs (offset : Nat) (head : List Char) : Except Error (Option String) :=
  if head.isEmpty then
    .ok none
  else
    match enclosed? head with
    | some args => .ok (some args)
    | none => .error (.parse offset (.malformedArguments (String.ofList head)))

/-- Take the text of an engine apart. -/
def parse (engineFull : String) : Except Error EngineText :=
  let source := trim engineFull.toList
  match Reader.word (Reader.skipSpacing source) with
  | .parsed name body =>
      let offset := byteLength source - byteLength body
      let hits := locateClauses body
      let headEnd := (hits.head?.map ClauseHit.start).getD body.length
      match readArgs offset (trim (body.take headEnd)) with
      | .error error => .error error
      | .ok args =>
          addClauses source body offset { name := String.ofList name, args := args } hits
  | _ => .error (.parse 0 (.noEngineName (String.ofList source)))

end EngineText

end ColumnarSql
