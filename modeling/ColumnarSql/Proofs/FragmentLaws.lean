/-
Module: ColumnarSql.Proofs.FragmentLaws
Purpose: Writing fragments one after the other: the comparison of two fragments
  piece by piece, and fragments that are text alone.
Main exports:
  Fragment.Related, Fragment.Related.append, Fragment.Related.joinWith,
  Fragment.IsText, Fragment.chars, Fragment.Writes
-/
import ColumnarSql.Sql.Fragment
import Mathlib.Data.List.Forall2

namespace ColumnarSql.Fragment

/-! ### Writing one fragment after another

A fault stops the writing, so what is appended behind a fault is lost. -/

/-- Nothing is written behind a fragment that has failed. -/
theorem append_of_fault {a : Fragment} {error : Error} (stopped : a.fault = some error)
    (b : Fragment) : a ++ b = a := by
  obtain ⟨pieces, fault⟩ := a
  cases stopped
  rfl

/-- Behind a complete fragment the pieces of the next one follow, with its
fault. -/
theorem append_of_complete {a : Fragment} (complete : a.fault = none) (b : Fragment) :
    a ++ b = ⟨a.pieces ++ b.pieces, b.fault⟩ := by
  obtain ⟨pieces, fault⟩ := a
  cases complete
  rfl

/-! ### Fragments that correspond piece by piece

The same thing written under two spellings gives two fragments with as many
pieces each.  `Related R` says that the pieces at equal places are related by
`R` and that both fragments stop at the same fault; every way of combining
fragments keeps this. -/

/-- Corresponding pieces are related by `R`, and the faults are equal. -/
structure Related (R : Piece → Piece → Prop) (a b : Fragment) : Prop where
  pieces : List.Forall₂ R a.pieces b.pieces
  fault : a.fault = b.fault

namespace Related

variable {R : Piece → Piece → Prop}

theorem empty : Related R empty empty :=
  ⟨.nil, rfl⟩

/-- A failure corresponds to itself, whatever the relation of pieces is. -/
theorem fail (error : Error) : Related R (fail error) (fail error) :=
  ⟨.nil, rfl⟩

/-- Two fragments of one piece each correspond if the pieces do. -/
theorem single {p q : Piece} (related : R p q) : Related R ⟨[p], none⟩ ⟨[q], none⟩ :=
  ⟨.cons related .nil, rfl⟩

/-- Correspondence of two parts gives correspondence of what they make together;
where the first parts fail, they fail alike and nothing follows. -/
theorem append {a b a' b' : Fragment} (first : Related R a b) (second : Related R a' b') :
    Related R (a ++ a') (b ++ b') := by
  cases stopped : a.fault with
  | some error =>
      have stopped' : b.fault = some error := first.fault ▸ stopped
      rw [append_of_fault stopped, append_of_fault stopped']
      exact first
  | none =>
      have complete' : b.fault = none := first.fault ▸ stopped
      rw [append_of_complete stopped, append_of_complete complete']
      exact ⟨List.rel_append first.pieces second.pieces, second.fault⟩

/-- A check that is made first on both sides lets through or stops both. -/
theorem guarded (check : Except Error Unit) {a b : Fragment} (related : Related R a b) :
    Related R (guarded check a) (guarded check b) := by
  cases check with
  | ok _ => exact related
  | error error => exact fail error

/-- Lists that correspond item by item also do so when they are joined, as long
as the separator corresponds to itself. -/
theorem joinWith {separator : String} (separated : R (.text separator) (.text separator)) :
    ∀ {as bs : List Fragment}, List.Forall₂ (Related R) as bs →
      Related R (joinWith separator as) (joinWith separator bs)
  | _, _, .nil => empty
  | _, _, .cons first .nil => first
  | _, _, .cons first (.cons second rest) =>
      (first.append (single separated)).append (joinWith separated (.cons second rest))

/-- Two writers that correspond at every item give corresponding lists. -/
theorem map {α : Type} {write write' : α → Fragment}
    (related : ∀ a, Related R (write a) (write' a)) (list : List α) :
    List.Forall₂ (Related R) (list.map write) (list.map write') := by
  induction list with
  | nil => exact .nil
  | cons a rest inductionHypothesis => exact .cons (related a) inductionHypothesis

theorem ofOption {α : Type} {write write' : α → Fragment}
    (related : ∀ a, Related R (write a) (write' a)) (value : Option α) :
    Related R (ofOption write value) (ofOption write' value) := by
  cases value with
  | none => exact empty
  | some a => exact related a

end Related

/-! ### Fragments that are text alone -/

/-- The characters of the texts in a fragment. -/
def chars (fragment : Fragment) : List Char :=
  fragment.pieces.flatMap fun
    | .text s => s.toList
    | .bound _ _ => []

/-- Nothing is bound, and nothing stops the writing. -/
structure IsText (fragment : Fragment) : Prop where
  complete : fragment.fault = none
  unbound : ∀ piece ∈ fragment.pieces, ∃ s, piece = .text s

@[simp] theorem chars_text (s : String) : (text s).chars = s.toList := by
  simp [chars, text]

/-- The characters of two fragments in a row, if nothing is bound in the first
and it does not fail. -/
theorem IsText.chars_append {a : Fragment} (isText : IsText a) (b : Fragment) :
    (a ++ b).chars = a.chars ++ b.chars := by
  rw [append_of_complete isText.complete, chars, List.flatMap_append]
  rfl

theorem IsText.text (s : String) : IsText (text s) :=
  ⟨rfl, fun _ member => ⟨s, List.mem_singleton.mp member⟩⟩

/-- Text followed by text is text. -/
theorem IsText.append {a b : Fragment} (first : IsText a) (second : IsText b) :
    IsText (a ++ b) := by
  rw [append_of_complete first.complete]
  refine ⟨second.complete, ?_⟩
  intro piece member
  rcases List.mem_append.mp member with inFirst | inSecond
  · exact first.unbound piece inFirst
  · exact second.unbound piece inSecond

/-- A fragment that is text alone, and the characters of that text. -/
structure Writes (fragment : Fragment) (s : List Char) : Prop where
  isText : IsText fragment
  chars : fragment.chars = s

namespace Writes

theorem empty : Writes empty [] :=
  ⟨⟨rfl, by simp [Fragment.empty]⟩, rfl⟩

/-- A fixed text writes its own characters. -/
theorem text (s : String) : Writes (text s) s.toList :=
  ⟨.text s, chars_text s⟩

/-- Two fragments that are text write their characters one after the other. -/
theorem append {a b : Fragment} {s t : List Char} (first : Writes a s) (second : Writes b t) :
    Writes (a ++ b) (s ++ t) :=
  ⟨first.isText.append second.isText, by
    rw [first.isText.chars_append, first.chars, second.chars]⟩

/-- Items that are text, joined by a separator, write the joined characters of
the items. -/
theorem joinWith {α : Type} {write : α → Fragment} {spelled : α → List Char} (separator : String) :
    ∀ {items : List α}, (∀ item ∈ items, Writes (write item) (spelled item)) →
      Writes (joinWith separator (items.map write))
        (List.intercalate separator.toList (items.map spelled))
  | [], _ => empty
  | [item], writes => by
      rw [List.map_singleton, List.map_singleton, List.intercalate_singleton]
      exact writes item (by simp)
  | item :: next :: rest, writes => by
      have later := joinWith separator fun item member => writes item (List.mem_cons_of_mem _ member)
      simp only [List.map_cons, List.intercalate_cons_cons]
      exact ((writes item (by simp)).append (text separator)).append later

end Writes

end ColumnarSql.Fragment
