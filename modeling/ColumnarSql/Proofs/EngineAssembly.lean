/-
Module: ColumnarSql.Proofs.EngineAssembly
Purpose: The text of an engine comes apart into the parts it was put together
  from.
Main exports:
  clausesText, locateFrom_clausesText, EngineText.addClauses_of_distinct,
  EngineText.addClauses_of_repeated, EngineText.assemble, EngineText.parse_assemble
-/
import ColumnarSql.Proofs.ClauseSearch
import ColumnarSql.Proofs.TypeReading

namespace ColumnarSql

open Text
open TypeGrammar (mem_of_isWord solid_of_isWord word_reads)

/-! ### Clauses one after the other

A clause is written as its keyword with a space before it and a tail behind it.
The places of its keyword follow from the lengths of the tails. -/

/-- The text of clauses, given by their keywords and tails. -/
def clausesText (clauses : List (EngineClause × List Char)) : List Char :=
  clauses.flatMap fun (clause, tail) => ' ' :: (clause.keyword ++ tail)

/-- The keywords of clauses whose text starts at a place. -/
def hitsFrom (place : Nat) : List (EngineClause × List Char) → List ClauseHit
  | [] => []
  | (clause, tail) :: rest =>
      ⟨clause, place + 1, place + 1 + clause.keyword.length⟩ ::
        hitsFrom (place + 1 + clause.keyword.length + tail.length) rest

/-- Each clause is a space, its keyword and its tail. -/
theorem clausesText_cons (clause : EngineClause) (tail : List Char)
    (rest : List (EngineClause × List Char)) :
    clausesText ((clause, tail) :: rest) =
      ' ' :: (clause.keyword ++ (tail ++ clausesText rest)) := by
  simp [clausesText]

/-- Behind any text, clauses complete no keyword of that text. -/
theorem breaks_clausesText (clauses : List (EngineClause × List Char)) :
    EngineClause.Breaks (clausesText clauses) := by
  cases clauses with
  | nil => exact EngineClause.breaks_nil
  | cons first rest =>
      rw [clausesText_cons]
      exact EngineClause.breaks_keyword _ _

/-- The search finds exactly the keywords of the clauses, since their bodies
hold none. -/
theorem locateFrom_clausesText {clauses : List (EngineClause × List Char)}
    (bodies : ∀ item ∈ clauses, ∃ body, item.2 = ' ' :: body ∧ IsBody body)
    (place : Nat) (afterBlank : Bool) :
    locateFrom place ⟨0, none, false⟩ afterBlank 0 (clausesText clauses) =
      hitsFrom place clauses := by
  induction clauses generalizing place afterBlank with
  | nil => rfl
  | cons first rest inductionHypothesis =>
      obtain ⟨clause, tail⟩ := first
      obtain ⟨body, rfl, isBody⟩ := bodies (clause, tail) (by simp)
      have later : ∀ item ∈ rest, ∃ body, item.2 = ' ' :: body ∧ IsBody body :=
        fun item member => bodies item (List.mem_cons_of_mem _ member)
      obtain ⟨afterBlank', behind⟩ :=
        locateFrom_append isBody.balanced (breaks_clausesText rest)
          (isBody.clauseFree.silent isBody.balanced (place + 1 + clause.keyword.length + 1))
      rw [clausesText_cons, List.cons_append, locateFrom_blank rfl,
        locateFrom_keyword clause (by simp [isBlank]), locateFrom_blank rfl, behind,
        inductionHypothesis later, hitsFrom, List.length_cons]
      congr 2
      omega

/-- The places of the keywords do not depend on the last tail. -/
theorem hitsFrom_last (place : Nat) (clauses : List (EngineClause × List Char))
    (clause : EngineClause) (tail tail' : List Char) :
    hitsFrom place (clauses ++ [(clause, tail)]) = hitsFrom place (clauses ++ [(clause, tail')]) := by
  induction clauses generalizing place with
  | nil => rfl
  | cons first rest inductionHypothesis =>
      simp only [List.cons_append, hitsFrom, inductionHypothesis]

/-- Only the tail of the last clause can end in blanks.  Without them the
keywords stand where they stood, and the tails trim to the same texts. -/
theorem exists_trimmed_clauses (clauses : List (EngineClause × List Char)) :
    ∃ clauses' gap, clausesText clauses = clausesText clauses' ++ gap ∧
      (∀ c ∈ gap, isBlank c = true) ∧
      (∀ c ∈ (clausesText clauses').getLast?, isBlank c = false) ∧
      (∀ place, hitsFrom place clauses' = hitsFrom place clauses) ∧
      clauses'.map (Prod.map id trim) = clauses.map (Prod.map id trim) := by
  rcases List.eq_nil_or_concat clauses with rfl | ⟨front, ⟨clause, tail⟩, rfl⟩
  · exact ⟨[], [], by simp [clausesText]⟩
  · have blank : ∀ c ∈ tail.rtakeWhile isBlank, isBlank c = true :=
      fun c member => List.mem_rtakeWhile_imp member
    have split : tail.rdropWhile isBlank ++ tail.rtakeWhile isBlank = tail :=
      List.rdropWhile_append_rtakeWhile
    refine ⟨front ++ [(clause, tail.rdropWhile isBlank)], tail.rtakeWhile isBlank, ?_, blank, ?_,
      ?_, ?_⟩
    · simp [clausesText, split]
    · have shape : clausesText (front ++ [(clause, tail.rdropWhile isBlank)]) =
          (clausesText front ++ ' ' :: clause.keyword) ++ tail.rdropWhile isBlank := by
        simp [clausesText]
      intro c last
      rw [shape] at last
      by_cases kept : tail.rdropWhile isBlank = []
      · obtain ⟨d, more, spelled, _⟩ := clause.keyword_eq_cons
        apply clause.isBlank_getLast_keyword
        simpa [kept, spelled] using last
      · rw [List.getLast?_append_of_ne_nil _ kept, List.getLast?_eq_getLast_of_ne_nil kept] at last
        obtain rfl := Option.mem_some_iff.mp last
        simpa using List.rdropWhile_last_not isBlank tail kept
    · intro place
      rw [List.concat_eq_append]
      exact hitsFrom_last place front clause _ tail
    · have sameTail : trim (tail.rdropWhile isBlank) = trim tail := by
        rw [← trim_append_gap blank, split]
      simp [sameTail]

/-! ### Filling in the clauses -/

namespace EngineText

/-- Setting a clause sets that one alone. -/
theorem get?_set (text : EngineText) (clause other : EngineClause) (body : String) :
    (text.set clause body).get? other = if clause = other then some body else text.get? other := by
  cases clause <;> cases other <;> rfl

/-- With a name and arguments alone there is no clause. -/
theorem get?_bare (name : String) (args : Option String) (clause : EngineClause) :
    get? { name := name, args := args } clause = none := by
  cases clause <;> rfl

theorem name_set (text : EngineText) (clause : EngineClause) (body : String) :
    (text.set clause body).name = text.name := by
  cases clause <;> rfl

theorem args_set (text : EngineText) (clause : EngineClause) (body : String) :
    (text.set clause body).args = text.args := by
  cases clause <;> rfl

/-- The slice between two places is the part between them. -/
theorem slice_middle (before middle after : List Char) :
    slice (before ++ (middle ++ after)) before.length (before.length + middle.length) = middle := by
  rw [slice, ← List.append_assoc, ← List.length_append, List.take_left, List.drop_left]

/-- Where the text of a clause stops: at the next keyword, or at the end. -/
def stopBefore (body : List Char) (hits : List ClauseHit) : Nat :=
  (hits.head?.map ClauseHit.start).getD body.length

/-- One step: a clause that is there already is a fault, and any other one gets
its text. -/
theorem addClauses_hit (source body : List Char) (offset : Nat) (text : EngineText)
    (hit : ClauseHit) (rest : List ClauseHit) :
    addClauses source body offset text (hit :: rest) =
      if (text.get? hit.clause).isSome then
        .error (.parse (offset + byteLength (body.take hit.stop))
          (.clauseRepeated (String.ofList source)))
      else
        addClauses source body offset
          (text.set hit.clause (String.ofList (trim (slice body hit.stop (stopBefore body rest)))))
          rest := by
  cases rest <;> rfl

/-- Between a keyword and the next one stands the tail of its clause, and the
space before the next keyword. -/
theorem trim_slice_tail (before tail : List Char) (rest : List (EngineClause × List Char)) :
    trim (slice (before ++ (tail ++ clausesText rest)) before.length
      (stopBefore (before ++ (tail ++ clausesText rest))
        (hitsFrom (before.length + tail.length) rest))) = trim tail := by
  cases rest with
  | nil =>
      have all := slice_middle before tail []
      simpa [stopBefore, hitsFrom, clausesText] using congrArg trim all
  | cons next rest =>
      have upToKeyword : slice (before ++ (tail ++ clausesText (next :: rest))) before.length
          (before.length + tail.length + 1) = tail ++ [' '] := by
        have middle := slice_middle before (tail ++ [' '])
          (next.1.keyword ++ (next.2 ++ clausesText rest))
        simpa [clausesText, Nat.add_assoc] using middle
      simp only [stopBefore, hitsFrom, List.head?_cons, Option.map_some, Option.getD_some,
        upToKeyword]
      exact trim_append_gap (by simp [isBlank]) tail

/-- The same step in terms of the clauses from which the text was put
together. -/
theorem addClauses_cons (source : List Char) (offset : Nat) (text : EngineText)
    (before : List Char) (clause : EngineClause) (tail : List Char)
    (rest : List (EngineClause × List Char)) :
    addClauses source (before ++ clausesText ((clause, tail) :: rest)) offset text
        (hitsFrom before.length ((clause, tail) :: rest)) =
      if (text.get? clause).isSome then
        .error (.parse (offset + byteLength (before ++ ' ' :: clause.keyword))
          (.clauseRepeated (String.ofList source)))
      else
        addClauses source ((before ++ ' ' :: (clause.keyword ++ tail)) ++ clausesText rest) offset
          (text.set clause (String.ofList (trim tail)))
          (hitsFrom (before ++ ' ' :: (clause.keyword ++ tail)).length rest) := by
  have whole : before ++ clausesText ((clause, tail) :: rest) =
      (before ++ ' ' :: clause.keyword) ++ (tail ++ clausesText rest) := by
    simp [clausesText]
  have stop : before.length + 1 + clause.keyword.length =
      (before ++ ' ' :: clause.keyword).length := by
    rw [List.length_append, List.length_cons]
    omega
  have regroup : before ++ ' ' :: (clause.keyword ++ tail) =
      (before ++ ' ' :: clause.keyword) ++ tail := by
    simp
  have longer : ((before ++ ' ' :: clause.keyword) ++ tail).length =
      (before ++ ' ' :: clause.keyword).length + tail.length :=
    List.length_append
  rw [hitsFrom, addClauses_hit, whole, stop, trim_slice_tail, List.take_left, regroup, longer,
    List.append_assoc _ tail]

/-- The parts of an engine with the texts of further clauses. -/
def fill (text : EngineText) (clauses : List (EngineClause × List Char)) : EngineText :=
  clauses.foldl (fun text (clause, tail) => text.set clause (String.ofList (trim tail))) text

theorem name_fill (text : EngineText) (clauses : List (EngineClause × List Char)) :
    (text.fill clauses).name = text.name := by
  induction clauses generalizing text with
  | nil => rfl
  | cons first rest inductionHypothesis => exact (inductionHypothesis _).trans (name_set _ _ _)

theorem args_fill (text : EngineText) (clauses : List (EngineClause × List Char)) :
    (text.fill clauses).args = text.args := by
  induction clauses generalizing text with
  | nil => rfl
  | cons first rest inductionHypothesis => exact (inductionHypothesis _).trans (args_set _ _ _)

/-- Filling in clauses leaves the other ones alone. -/
theorem get?_fill_of_absent {clauses : List (EngineClause × List Char)} {clause : EngineClause}
    (absent : clause ∉ clauses.map Prod.fst) (text : EngineText) :
    (text.fill clauses).get? clause = text.get? clause := by
  induction clauses generalizing text with
  | nil => rfl
  | cons first rest inductionHypothesis =>
      rw [List.map_cons, List.mem_cons, not_or] at absent
      have untouched := inductionHypothesis absent.2 (text.set first.1 (String.ofList (trim first.2)))
      rw [get?_set, if_neg (Ne.symm absent.1)] at untouched
      exact untouched

/-- Each of distinct clauses gets its own trimmed text. -/
theorem get?_fill {clauses : List (EngineClause × List Char)}
    (distinct : (clauses.map Prod.fst).Nodup) (text : EngineText) (clause : EngineClause) :
    (text.fill clauses).get? clause =
      ((clauses.lookup clause).map fun tail => String.ofList (trim tail)).or
        (text.get? clause) := by
  induction clauses generalizing text with
  | nil => rfl
  | cons first rest inductionHypothesis =>
      obtain ⟨other, tail⟩ := first
      rw [List.map_cons, List.nodup_cons] at distinct
      have filled : text.fill ((other, tail) :: rest) =
          (text.set other (String.ofList (trim tail))).fill rest := rfl
      rw [filled]
      by_cases same : clause = other
      · subst same
        rw [get?_fill_of_absent distinct.1, get?_set, if_pos rfl, List.lookup_cons_self,
          Option.map_some, Option.some_or]
      · rw [inductionHypothesis distinct.2, get?_set, if_neg (Ne.symm same), List.lookup_cons,
          beq_eq_false_iff_ne.mpr same]

/-- Clauses of distinct kinds are all filled in. -/
theorem addClauses_of_distinct (source : List Char) (offset : Nat)
    {clauses : List (EngineClause × List Char)} (distinct : (clauses.map Prod.fst).Nodup)
    {text : EngineText} (fresh : ∀ clause ∈ clauses.map Prod.fst, text.get? clause = none)
    (before : List Char) :
    addClauses source (before ++ clausesText clauses) offset text
      (hitsFrom before.length clauses) = .ok (text.fill clauses) := by
  induction clauses generalizing text before with
  | nil => rfl
  | cons first rest inductionHypothesis =>
      obtain ⟨clause, tail⟩ := first
      rw [List.map_cons, List.nodup_cons] at distinct
      rw [addClauses_cons, fresh clause (by simp), Option.isSome_none, if_neg (by simp)]
      apply inductionHypothesis distinct.2
      intro other member
      have different : clause ≠ other := by
        rintro rfl
        exact distinct.1 member
      rw [get?_set, if_neg different]
      exact fresh other (by simp [member])

/-- A second clause of one kind is a fault. -/
theorem addClauses_of_repeated (source : List Char) (offset : Nat)
    {clauses : List (EngineClause × List Char)} {text : EngineText}
    (repeated : ¬ (clauses.map Prod.fst).Nodup ∨
      ∃ clause ∈ clauses.map Prod.fst, (text.get? clause).isSome = true)
    (before : List Char) :
    ∃ position, addClauses source (before ++ clausesText clauses) offset text
      (hitsFrom before.length clauses) =
        .error (.parse position (.clauseRepeated (String.ofList source))) := by
  induction clauses generalizing text before with
  | nil => simp at repeated
  | cons first rest inductionHypothesis =>
      obtain ⟨clause, tail⟩ := first
      rw [addClauses_cons]
      by_cases isThere : (text.get? clause).isSome = true
      · rw [if_pos isThere]
        exact ⟨_, rfl⟩
      · rw [if_neg isThere]
        apply inductionHypothesis
        simp only [List.map_cons, List.nodup_cons, not_and_or, not_not] at repeated
        rcases repeated with (again | later) | ⟨other, member, isThere'⟩
        · refine .inr ⟨clause, again, ?_⟩
          rw [get?_set, if_pos rfl, Option.isSome_some]
        · exact .inl later
        · rcases List.mem_cons.mp member with rfl | inRest
          · exact absurd isThere' isThere
          · refine .inr ⟨other, inRest, ?_⟩
            rw [get?_set]
            split
            · rfl
            · exact isThere'

end EngineText

/-! ### The whole text of an engine -/

/-- The text of the arguments of an engine. -/
def argsText : Option (List Char) → List Char
  | none => []
  | some args => '(' :: (args ++ [')'])

theorem isBlank_getLast_argsText (args : Option (List Char)) :
    ∀ c ∈ (argsText args).getLast?, isBlank c = false := by
  cases args with
  | none => simp [argsText]
  | some args =>
      intro c last
      rw [argsText, ← List.cons_append, List.getLast?_concat] at last
      obtain rfl := Option.mem_some_iff.mp last
      rfl

/-- The arguments in their parentheses have no blanks to trim. -/
theorem trim_argsText (args : Option (List Char)) : trim (argsText args) = argsText args := by
  apply trim_eq_self
  · cases args with
    | none => simp [argsText]
    | some args => simp [argsText, isBlank]
  · exact isBlank_getLast_argsText args

/-- What follows the name of an engine does not continue it. -/
theorem isWordChar_head_parts (args : Option (List Char))
    (clauses : List (EngineClause × List Char)) :
    ∀ c ∈ (argsText args ++ clausesText clauses).head?, isWordChar c = false := by
  cases args with
  | some args => simp [argsText, isWordChar]
  | none =>
      cases clauses with
      | nil => simp [argsText, clausesText]
      | cons first rest => simp [argsText, clausesText, isWordChar]

/-- Keywords within the arguments do not count, as these stand in parentheses.
-/
theorem locateClauses_parts {args : Option (List Char)} (argsBalanced : ∀ a ∈ args, Balanced a)
    {clauses : List (EngineClause × List Char)}
    (bodies : ∀ item ∈ clauses, ∃ body, item.2 = ' ' :: body ∧ IsBody body) :
    locateClauses (argsText args ++ clausesText clauses) =
      hitsFrom (argsText args).length clauses := by
  cases args with
  | none => exact locateFrom_clausesText bodies 0 true
  | some args =>
      have inside : Nested (fun c => isBlank c = false) 1 (args ++ [')']) :=
        (argsBalanced args rfl).deeper rfl
      rw [locateClauses, argsText, List.cons_append, locateFrom_opening rfl,
        locateFrom_solid inside (fun _ => rfl), locateFrom_clausesText bodies, List.length_cons,
        Nat.zero_add, Nat.add_comm 1]

namespace EngineText

/-- The arguments are read back as what the parentheses enclose, trimmed. -/
theorem readArgs_argsText (offset : Nat) (args : Option (List Char)) :
    readArgs offset (argsText args) = .ok (args.map fun a => String.ofList (trim a)) := by
  cases args with
  | none => rfl
  | some args =>
      have dropped : dropEnd? [')'] (args ++ [')']) = some args := by
        simp [dropEnd?, dropStart?]
      simp [readArgs, argsText, enclosed?, dropped]

/-- A text that starts with a name is taken apart behind it. -/
theorem parse_name {full : String} {name body : List Char} (isName : isWord name = true)
    (stops : ∀ c ∈ body.head?, isWordChar c = false) (source : trim full.toList = name ++ body) :
    parse full =
      match readArgs (byteLength (name ++ body) - byteLength body)
          (trim (body.take (stopBefore body (locateClauses body)))) with
      | .error error => .error error
      | .ok args =>
          addClauses (name ++ body) body (byteLength (name ++ body) - byteLength body)
            { name := String.ofList name, args := args } (locateClauses body) := by
  have noSpacing : Reader.skipSpacing (name ++ body) = name ++ body :=
    TypeGrammar.skipSpacing_append TypeGrammar.Spacing.nil ((solid_of_isWord isName).append body)
  have first : Reader.word (Reader.skipSpacing (name ++ body)) = .parsed name body := by
    rw [noSpacing]
    exact word_reads isName stops
  simp only [parse, source, first]
  rfl

/-- Taking a text apart fills in its clauses, up to blanks at its end. -/
theorem parse_parts {full : String} {name : List Char} (isName : isWord name = true)
    {args : Option (List Char)} (argsBalanced : ∀ a ∈ args, Balanced a)
    {clauses : List (EngineClause × List Char)}
    (bodies : ∀ item ∈ clauses, ∃ body, item.2 = ' ' :: body ∧ IsBody body)
    (shape : full.toList = name ++ (argsText args ++ clausesText clauses)) :
    ∃ clauses' offset, clauses'.map (Prod.map id trim) = clauses.map (Prod.map id trim) ∧
      parse full =
        addClauses (trim full.toList) (argsText args ++ clausesText clauses') offset
          { name := String.ofList name, args := args.map fun a => String.ofList (trim a) }
          (hitsFrom (argsText args).length clauses') := by
  obtain ⟨clauses', gap, same, blank, ends, hits, tails⟩ := exists_trimmed_clauses clauses
  have noBlank : ∀ c ∈ name, isBlank c = false :=
    fun c member => isBlank_of_isWordChar (mem_of_isWord isName c member)
  have source : trim full.toList = name ++ (argsText args ++ clausesText clauses') := by
    rw [shape, same, ← List.append_assoc (argsText args), ← List.append_assoc name,
      trim_append_gap blank]
    apply trim_eq_self
    · obtain ⟨c, tail, rfl, _⟩ := solid_of_isWord isName
      simpa using noBlank c (by simp)
    · apply isBlank_getLast_append
      · intro c last
        exact noBlank c (List.mem_of_mem_getLast? last)
      · exact isBlank_getLast_append (isBlank_getLast_argsText args) ends
  have located : locateClauses (argsText args ++ clausesText clauses') =
      hitsFrom (argsText args).length clauses' := by
    have found := locateClauses_parts argsBalanced bodies
    rwa [same, ← List.append_assoc, locateClauses, locateFrom_append_blank blank, ← hits] at found
  have head : trim ((argsText args ++ clausesText clauses').take
      (stopBefore (argsText args ++ clausesText clauses')
        (hitsFrom (argsText args).length clauses'))) = argsText args := by
    have first := trim_slice_tail [] (argsText args) clauses'
    simpa [slice, trim_argsText] using first
  refine ⟨clauses', byteLength (name ++ (argsText args ++ clausesText clauses')) -
    byteLength (argsText args ++ clausesText clauses'), tails, ?_⟩
  rw [parse_name isName (isWordChar_head_parts args clauses') source, located, head,
    readArgs_argsText, source]

/-- Clauses with the same trimmed tails have the same keywords. -/
theorem map_fst_of_tails {clauses clauses' : List (EngineClause × List Char)}
    (tails : clauses'.map (Prod.map id trim) = clauses.map (Prod.map id trim)) :
    clauses'.map Prod.fst = clauses.map Prod.fst := by
  have kinds := congrArg (List.map Prod.fst) tails
  rw [List.map_map, List.map_map] at kinds
  exact kinds

/-- Looking a clause up commutes with trimming. -/
theorem lookup_map_trim (clauses : List (EngineClause × List Char)) (clause : EngineClause) :
    (clauses.map (Prod.map id trim)).lookup clause = (clauses.lookup clause).map trim := by
  induction clauses with
  | nil => rfl
  | cons first rest inductionHypothesis =>
      obtain ⟨other, tail⟩ := first
      by_cases same : clause = other
      · simp [same]
      · simp [List.lookup_cons, beq_eq_false_iff_ne.mpr same, inductionHypothesis]

section Parts

variable {full : String} {name : List Char} {args : Option (List Char)}
  {clauses : List (EngineClause × List Char)}

/-- A text made of a name, arguments and distinct clauses comes apart into
them. -/
theorem parse_of_distinct (isName : isWord name = true)
    (argsBalanced : ∀ a ∈ args, Balanced a)
    (bodies : ∀ item ∈ clauses, ∃ body, item.2 = ' ' :: body ∧ IsBody body)
    (shape : full.toList = name ++ (argsText args ++ clausesText clauses))
    (distinct : (clauses.map Prod.fst).Nodup) :
    ∃ text, parse full = .ok text ∧ text.name = String.ofList name ∧
      text.args = args.map (fun a => String.ofList (trim a)) ∧
      ∀ clause, text.get? clause =
        (clauses.lookup clause).map fun tail => String.ofList (trim tail) := by
  obtain ⟨clauses', offset, tails, parsed⟩ := parse_parts isName argsBalanced bodies shape
  rw [← map_fst_of_tails tails] at distinct
  rw [addClauses_of_distinct _ _ distinct (fun clause _ => get?_bare _ _ clause)] at parsed
  refine ⟨_, parsed, name_fill _ _, args_fill _ _, ?_⟩
  intro clause
  have sameTail : (clauses'.lookup clause).map trim = (clauses.lookup clause).map trim := by
    rw [← lookup_map_trim, tails, lookup_map_trim]
  have asStrings := congrArg (Option.map String.ofList) sameTail
  rw [Option.map_map, Option.map_map] at asStrings
  rw [get?_fill distinct, get?_bare, Option.or_none]
  exact asStrings

/-- A text in which a clause occurs twice is refused. -/
theorem parse_of_repeated (isName : isWord name = true)
    (argsBalanced : ∀ a ∈ args, Balanced a)
    (bodies : ∀ item ∈ clauses, ∃ body, item.2 = ' ' :: body ∧ IsBody body)
    (shape : full.toList = name ++ (argsText args ++ clausesText clauses))
    (repeated : ¬ (clauses.map Prod.fst).Nodup) :
    ∃ position, parse full = .error (.parse position (.clauseRepeated (trimmed full))) := by
  obtain ⟨clauses', offset, tails, parsed⟩ := parse_parts isName argsBalanced bodies shape
  rw [← map_fst_of_tails tails] at repeated
  rw [parsed]
  exact addClauses_of_repeated _ offset (.inl repeated) (argsText args)

end Parts

/-! ### Putting the text of an engine together -/

/-- The text of an engine: its name, its arguments in parentheses, and clauses
in any order, each behind a space and its keyword. -/
def assemble (name : String) (args : Option String) (clauses : List (EngineClause × String)) :
    String :=
  name ++ args.elim "" (fun a => "(" ++ a ++ ")") ++
    String.join (clauses.map fun (clause, body) =>
      " " ++ String.ofList clause.keyword ++ " " ++ body)

/-- The clauses of an assembled text, by their tails. -/
def tailsOf (clauses : List (EngineClause × String)) : List (EngineClause × List Char) :=
  clauses.map fun (clause, body) => (clause, ' ' :: body.toList)

/-- The characters of an assembled text, part by part. -/
theorem toList_assemble (name : String) (args : Option String)
    (clauses : List (EngineClause × String)) :
    (assemble name args clauses).toList =
      name.toList ++ (argsText (args.map String.toList) ++ clausesText (tailsOf clauses)) := by
  have written : (args.elim "" fun a => "(" ++ a ++ ")").toList =
      argsText (args.map String.toList) := by
    cases args with
    | none => rfl
    | some a => simp [argsText]
  have joined : (String.join (clauses.map fun (clause, body) =>
      " " ++ String.ofList clause.keyword ++ " " ++ body)).toList =
      clausesText (tailsOf clauses) := by
    rw [String.toList_join, List.flatMap_map, clausesText, tailsOf, List.flatMap_map]
    simp
  rw [assemble, String.toList_append, String.toList_append, written, joined, List.append_assoc]

theorem map_fst_tailsOf (clauses : List (EngineClause × String)) :
    (tailsOf clauses).map Prod.fst = clauses.map Prod.fst := by
  simp [tailsOf, Function.comp_def]

theorem lookup_tailsOf (clauses : List (EngineClause × String)) (clause : EngineClause) :
    (tailsOf clauses).lookup clause = (clauses.lookup clause).map (' ' :: ·.toList) := by
  induction clauses with
  | nil => rfl
  | cons first rest inductionHypothesis =>
      obtain ⟨other, body⟩ := first
      by_cases same : clause = other
      · simp [tailsOf, same]
      · have skipped : (clause == other) = false := beq_eq_false_iff_ne.mpr same
        simpa [tailsOf, List.lookup_cons, skipped] using inductionHypothesis

/-- An assembled text comes apart into its name, its arguments and the bodies of
its clauses, each trimmed.  If a kind of clause occurs twice, the text is
rejected. -/
theorem parse_assemble {name : String} (isName : isWord name.toList = true)
    {args : Option String} (argsBalanced : ∀ a ∈ args, Balanced a.toList)
    {clauses : List (EngineClause × String)}
    (bodies : ∀ item ∈ clauses, IsBody item.2.toList) :
    ((clauses.map Prod.fst).Nodup →
      ∃ text, parse (assemble name args clauses) = .ok text ∧ text.name = name ∧
        text.args = args.map trimmed ∧
        ∀ clause, text.get? clause = (clauses.lookup clause).map trimmed) ∧
    (¬ (clauses.map Prod.fst).Nodup →
      ∃ position, parse (assemble name args clauses) =
        .error (.parse position (.clauseRepeated (trimmed (assemble name args clauses))))) := by
  have argsBalanced' : ∀ a ∈ args.map String.toList, Balanced a := by
    intro a member
    obtain ⟨s, given, rfl⟩ := Option.map_eq_some_iff.mp member
    exact argsBalanced s given
  have bodies' : ∀ item ∈ tailsOf clauses, ∃ body, item.2 = ' ' :: body ∧ IsBody body := by
    intro item member
    obtain ⟨clause, given, rfl⟩ := List.mem_map.mp member
    exact ⟨clause.2.toList, rfl, bodies clause given⟩
  have shape := toList_assemble name args clauses
  rw [← map_fst_tailsOf]
  constructor
  · intro distinct
    obtain ⟨text, parsed, sameName, sameArgs, sameBodies⟩ :=
      parse_of_distinct isName argsBalanced' bodies' shape distinct
    refine ⟨text, parsed, ?_, ?_, ?_⟩
    · rw [sameName, String.ofList_toList]
    · rw [sameArgs, Option.map_map]
      rfl
    · intro clause
      rw [sameBodies, lookup_tailsOf, Option.map_map]
      rfl
  · exact parse_of_repeated isName argsBalanced' bodies' shape

/-- Keywords in quotes, brackets and arguments are part of the text around them,
and a clause given twice is still seen. -/
theorem parse_assemble_hidden_keywords :
    (∃ text, parse (assemble "MergeTree" (some " 'v)' , [1] ")
        [(.ttl, "d TO DISK ' ORDER BY x'"), (.orderBy, "(a, f(b TTL ))  ")]) = .ok text ∧
      text.name = "MergeTree" ∧ text.args = some "'v)' , [1]" ∧
      ∀ clause, text.get? clause =
        ([(.ttl, "d TO DISK ' ORDER BY x'"), (.orderBy, "(a, f(b TTL ))  ")].lookup clause).map
          trimmed) ∧
    ∃ position, parse (assemble "Log" none [(.ttl, "d"), (.ttl, "'\\' TTL'")]) =
      .error (.parse position
        (.clauseRepeated (trimmed (assemble "Log" none [(.ttl, "d"), (.ttl, "'\\' TTL'")])))) := by
  constructor
  · apply (parse_assemble (by decide) (by decide) (by decide)).1
    decide
  · apply (parse_assemble (by decide) (by decide) (by decide)).2
    decide

end EngineText

end ColumnarSql
