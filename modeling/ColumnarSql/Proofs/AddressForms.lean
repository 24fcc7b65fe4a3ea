/-
Module: ColumnarSql.Proofs.AddressForms
Purpose: The forms of Internet addresses and UUIDs as grammars, and that only
  texts of these forms are recognized.
Main exports:
  IPv4Text, IPv6Text, UuidText, ipv4Text_of_isIPv4, ipv6Text_of_isIPv6,
  uuidText_of_isUuid
-/
import ColumnarSql.Network.Address
import ColumnarSql.Proofs.DigitStrings
import Mathlib.Data.List.TakeWhile

namespace ColumnarSql.Network

open Text

/-! ### Forms -/

/-- A number up to 255 in decimal notation. -/
inductive OctetText : List Char → Prop where
  | number {n : Nat} (fits : n ≤ 255) : OctetText (digitsOf n)

/-- Four such numbers with points between them. -/
inductive IPv4Text : List Char → Prop where
  | octets {a b c d : List Char} (first : OctetText a) (second : OctetText b)
      (third : OctetText c) (fourth : OctetText d) :
      IPv4Text (a ++ '.' :: (b ++ '.' :: (c ++ '.' :: d)))

/-- Between `least` and `most` hexadecimal digits. -/
structure HexText (least most : Nat) (s : List Char) : Prop where
  atLeast : least ≤ s.length
  atMost : s.length ≤ most
  digits : ∀ c ∈ s, isHexDigit c = true

/-- A group of an IPv6 address: one to four hexadecimal digits. -/
abbrev GroupText : List Char → Prop :=
  HexText 1 4

/-- A run of `count` groups with colons between them.  In a mixed run an IPv4
address may stand for the last two groups. -/
inductive GroupsText (mixed : Bool) : (count : Nat) → List Char → Prop where
  | none : GroupsText mixed 0 []
  | group {s : List Char} (group : GroupText s) : GroupsText mixed 1 s
  | ipv4 {s : List Char} (isMixed : mixed = true) (address : IPv4Text s) : GroupsText mixed 2 s
  | more {count : Nat} {s t : List Char} (group : GroupText s)
      (others : GroupsText mixed (count + 1) t) : GroupsText mixed (count + 2) (s ++ ':' :: t)

/-- Eight groups, or a `::` in place of at least one of them. -/
inductive IPv6Text : List Char → Prop where
  | full {mixed : Bool} {s : List Char} (groups : GroupsText mixed 8 s) : IPv6Text s
  | shortened {mixed : Bool} {before after : Nat} {s t : List Char}
      (front : GroupsText false before s) (back : GroupsText mixed after t)
      (gap : before + after < 8) : IPv6Text (s ++ ':' :: ':' :: t)

/-- Groups of 8, 4, 4, 4 and 12 hexadecimal digits with hyphens between them. -/
inductive UuidText : List Char → Prop where
  | groups {a b c d e : List Char} (first : HexText 8 8 a) (second : HexText 4 4 b)
      (third : HexText 4 4 c) (fourth : HexText 4 4 d) (fifth : HexText 12 12 e) :
      UuidText (a ++ '-' :: (b ++ '-' :: (c ++ '-' :: (d ++ '-' :: e))))

/-! ### IPv4 -/

theorem takeChar_eq_some_iff {mark : Char} {s rest : List Char} :
    takeChar mark s = some rest ↔ s = mark :: rest := by
  cases s with
  | nil => simp [takeChar]
  | cons c tail =>
      simp only [takeChar, beq_iff_eq, List.cons.injEq]
      split <;> simp_all

/-- What is taken as an octet is a number up to 255 without leading zeros. -/
theorem takeOctet_sound {s rest : List Char} (taken : takeOctet s = some rest) :
    ∃ part, OctetText part ∧ s = part ++ rest := by
  simp only [takeOctet, Bool.or_eq_true, List.isEmpty_iff, Bool.and_eq_true, beq_iff_eq,
    decide_eq_true_eq, Option.ite_none_left_eq_some, not_or, not_and, Nat.not_lt,
    Option.some.injEq] at taken
  obtain ⟨⟨⟨⟨nonempty, -⟩, noZero⟩, fits⟩, rfl⟩ := taken
  have digits : ∀ c ∈ s.takeWhile Char.isDigit, c.isDigit = true := fun c member =>
    List.mem_takeWhile_imp member
  have written : digitsOf (digitsValue (s.takeWhile Char.isDigit)) = s.takeWhile Char.isDigit := by
    refine digitsOf_digitsValue nonempty digits fun zero => ?_
    have short := noZero zero
    have long := List.length_pos_iff.mpr nonempty
    omega
  refine ⟨s.takeWhile Char.isDigit, ?_, List.takeWhile_append_dropWhile.symm⟩
  rw [← written]
  exact .number fits

/-- What is taken as an IPv4 address is one. -/
theorem takeIPv4_sound {s rest : List Char} (taken : takeIPv4 s = some rest) :
    ∃ address, IPv4Text address ∧ s = address ++ rest := by
  simp only [takeIPv4, bind, Option.bind_eq_some_iff, takeChar_eq_some_iff] at taken
  obtain ⟨_, takenFirst, s₁, rfl, _, takenSecond, s₂, rfl, _, takenThird, s₃, rfl, takenFourth⟩ := taken
  obtain ⟨a, first, rfl⟩ := takeOctet_sound takenFirst
  obtain ⟨b, second, rfl⟩ := takeOctet_sound takenSecond
  obtain ⟨c, third, rfl⟩ := takeOctet_sound takenThird
  obtain ⟨d, fourth, rfl⟩ := takeOctet_sound takenFourth
  exact ⟨_, .octets first second third fourth, by simp⟩

/-- Only IPv4 addresses are recognized as such. -/
theorem ipv4Text_of_isIPv4 {s : List Char} (recognized : isIPv4 s = true) : IPv4Text s := by
  obtain ⟨address, form, rfl⟩ := takeIPv4_sound (beq_iff_eq.mp recognized)
  rwa [List.append_nil]

/-! ### IPv6 -/

/-- What is taken as a group has one to four hexadecimal digits. -/
theorem takeGroup_sound {s rest : List Char} (taken : takeGroup s = some rest) :
    ∃ group, GroupText group ∧ s = group ++ rest := by
  simp only [takeGroup, Bool.or_eq_true, List.isEmpty_iff, decide_eq_true_eq,
    Option.ite_none_left_eq_some, not_or, Nat.not_lt, Option.some.injEq] at taken
  obtain ⟨⟨nonempty, short⟩, rfl⟩ := taken
  refine ⟨s.takeWhile isHexDigit, ⟨?_, short, ?_⟩, List.takeWhile_append_dropWhile.symm⟩
  · exact List.length_pos_iff.mpr nonempty
  · intro c member
    exact List.mem_takeWhile_imp member

/-- What a run of groups covers, with the colon that joins it to the groups
before, if there are any. -/
def GroupsText.Extends (mixed : Bool) (earlier count : Nat) (s : List Char) : Prop :=
  (count = 0 ∧ s = []) ∨
    ∃ run, 0 < count ∧ GroupsText mixed count run ∧ s = if earlier = 0 then run else ':' :: run

theorem afterColon_eq_some {earlier : Nat} {s rest : List Char}
    (taken : afterColon (earlier == 0) s = some rest) :
    s = if earlier = 0 then rest else ':' :: rest := by
  simp only [afterColon, beq_iff_eq] at taken
  split at taken
  · rename_i isFirst
    rw [if_pos isFirst, Option.some.inj taken]
  · rename_i isLater
    rw [if_neg isLater, takeChar_eq_some_iff.mp taken]

/-- A group joins the run behind it. -/
theorem GroupsText.Extends.cons {mixed : Bool} {earlier count : Nat} {group s : List Char}
    (isGroup : GroupText group) (extends' : Extends mixed (earlier + 1) count s) :
    GroupsText mixed (count + 1) (group ++ s) := by
  rcases extends' with ⟨rfl, rfl⟩ | ⟨run, positive, others, rfl⟩
  · rw [List.append_nil]
    exact .group isGroup
  · obtain ⟨count, rfl⟩ := Nat.exists_eq_succ_of_ne_zero (Nat.ne_of_gt positive)
    exact .more isGroup others

/-- Reading groups covers a run of at most `room` of them. -/
theorem takeGroups_sound (room : Nat) :
    ∀ (earlier : Nat) (s : List Char), ∃ count covered,
      (takeGroups earlier s room).count = earlier + count ∧ count ≤ room ∧
      GroupsText.Extends (takeGroups earlier s room).endsInIPv4 earlier count covered ∧
      s = covered ++ (takeGroups earlier s room).rest := by
  induction room with
  | zero =>
      intro earlier s
      exact ⟨0, [], rfl, Nat.le_refl _, .inl ⟨rfl, rfl⟩, rfl⟩
  | succ room inductionHypothesis =>
      intro earlier s
      rw [takeGroups]
      split
      · -- An IPv4 address ends the run.
        rename_i rest taken
        split at taken
        · rename_i roomy
          obtain ⟨behind, colon, takenAddress⟩ := Option.bind_eq_some_iff.mp taken
          obtain ⟨address, form, rfl⟩ := takeIPv4_sound takenAddress
          refine ⟨2, if earlier = 0 then address else ':' :: address, rfl, by omega, ?_, ?_⟩
          · exact .inr ⟨address, by decide, .ipv4 rfl form, rfl⟩
          · rw [afterColon_eq_some colon]
            split <;> rfl
        · cases taken
      · split
        · -- A group is read, and the others stand behind it.
          rename_i rest taken
          obtain ⟨behind, colon, takenGroup⟩ := Option.bind_eq_some_iff.mp taken
          obtain ⟨group, form, rfl⟩ := takeGroup_sound takenGroup
          obtain ⟨count, covered, counted, fits, others, same⟩ :=
            inductionHypothesis (earlier + 1) rest
          refine ⟨count + 1, if earlier = 0 then group ++ covered else ':' :: (group ++ covered),
            by rw [counted]; omega, by omega, ?_, ?_⟩
          · exact .inr ⟨group ++ covered, by omega, others.cons form, rfl⟩
          · rw [afterColon_eq_some colon]
            nth_rewrite 1 2 [same]
            split <;> simp
        · exact ⟨0, [], rfl, by omega, .inl ⟨rfl, rfl⟩, rfl⟩

/-- Where no group stands before it, a run is just its groups. -/
theorem takeGroups_first (s : List Char) (room : Nat) :
    ∃ run, (takeGroups 0 s room).count ≤ room ∧
      GroupsText (takeGroups 0 s room).endsInIPv4 (takeGroups 0 s room).count run ∧
      s = run ++ (takeGroups 0 s room).rest := by
  obtain ⟨count, covered, counted, fits, run, same⟩ := takeGroups_sound room 0 s
  rw [Nat.zero_add] at counted
  refine ⟨covered, counted ▸ fits, ?_, same⟩
  rw [counted]
  rcases run with ⟨rfl, rfl⟩ | ⟨groups, -, form, rfl⟩
  · exact .none
  · exact form

/-- Only IPv6 addresses are recognized as such. -/
theorem ipv6Text_of_isIPv6 {s : List Char} (recognized : isIPv6 s = true) : IPv6Text s := by
  obtain ⟨front, atMost, frontForm, whole⟩ := takeGroups_first s 8
  simp only [isIPv6, beq_iff_eq] at recognized
  split at recognized
  · rename_i full
    rw [full] at frontForm
    rw [List.isEmpty_iff.mp recognized, List.append_nil] at whole
    rw [whole]
    exact .full frontForm
  · split at recognized
    · cases recognized
    · rename_i notFull plain
      rw [Bool.not_eq_true] at plain
      rw [plain] at frontForm
      split at recognized
      · rename_i rest colons
        obtain ⟨back, fits, backForm, backWhole⟩ :=
          takeGroups_first rest (7 - (takeGroups 0 s 8).count)
        rw [List.isEmpty_iff.mp recognized, List.append_nil] at backWhole
        rw [whole, colons, backWhole]
        refine .shortened frontForm backForm ?_
        omega
      · cases recognized

/-! ### UUIDs -/

theorem splitAtChar_ne_nil (mark : Char) (s : List Char) : splitAtChar mark s ≠ [] := by
  cases s with
  | nil => simp [splitAtChar]
  | cons c rest =>
      rw [splitAtChar]
      split
      · simp
      · split <;> simp

/-- Cutting a text at a mark loses nothing but the marks. -/
theorem intercalate_splitAtChar (mark : Char) (s : List Char) :
    List.intercalate [mark] (splitAtChar mark s) = s := by
  induction s with
  | nil => rfl
  | cons c rest inductionHypothesis =>
      obtain ⟨piece, others, pieces⟩ := List.exists_cons_of_ne_nil (splitAtChar_ne_nil mark rest)
      rw [pieces] at inductionHypothesis
      rw [splitAtChar, pieces]
      split
      · rename_i isMark
        rw [List.intercalate_cons_cons, inductionHypothesis, eq_of_beq isMark]
        rfl
      · cases others with
        | nil =>
            rw [List.intercalate_singleton] at inductionHypothesis ⊢
            rw [inductionHypothesis]
        | cons next more =>
            rw [List.intercalate_cons_cons] at inductionHypothesis ⊢
            rw [← inductionHypothesis]
            rfl

/-- Only UUIDs are recognized as such. -/
theorem uuidText_of_isUuid {s : List Char} (recognized : isUuid s = true) : UuidText s := by
  simp only [isUuid, Bool.and_eq_true, beq_iff_eq, List.all_eq_true] at recognized
  obtain ⟨lengths, digits⟩ := recognized
  have whole := intercalate_splitAtChar '-' s
  generalize splitAtChar '-' s = groups at lengths digits whole
  have isGroup {group : List Char} (member : group ∈ groups) :
      HexText group.length group.length group :=
    ⟨Nat.le_refl _, Nat.le_refl _, digits group member⟩
  obtain ⟨a, groups, rfl, first, lengths⟩ := List.map_eq_cons_iff.mp lengths
  obtain ⟨b, groups, rfl, second, lengths⟩ := List.map_eq_cons_iff.mp lengths
  obtain ⟨c, groups, rfl, third, lengths⟩ := List.map_eq_cons_iff.mp lengths
  obtain ⟨d, groups, rfl, fourth, lengths⟩ := List.map_eq_cons_iff.mp lengths
  obtain ⟨e, groups, rfl, fifth, lengths⟩ := List.map_eq_cons_iff.mp lengths
  rw [List.map_eq_nil_iff] at lengths
  subst lengths
  simp only [List.intercalate_cons_cons, List.intercalate_singleton, List.append_assoc,
    List.singleton_append] at whole
  rw [← whole]
  apply UuidText.groups
  · exact first ▸ isGroup (by simp)
  · exact second ▸ isGroup (by simp)
  · exact third ▸ isGroup (by simp)
  · exact fourth ▸ isGroup (by simp)
  · exact fifth ▸ isGroup (by simp)

end ColumnarSql.Network
