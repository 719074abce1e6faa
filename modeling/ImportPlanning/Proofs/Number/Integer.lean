/-
Integers read back. An integer of no more digits than the limit is read from its own text, and no
integer with more digits is ever read.

Which of the texts of an integer was read is left open: there may be zeros, underscores and digits of
another script in it.
-/
import ImportPlanning.Number.Integer
import ImportPlanning.Proofs.Text.Fields

namespace ImportPlanning.Number

open ImportPlanning.Text

/-! ### Digits -/

theorem isDigit_bounds {character : Char} (digit : character.isDigit = true) :
    48 ≤ character.toNat ∧ character.toNat ≤ 57 := by
  rw [Char.isDigit, Bool.and_eq_true, decide_eq_true_eq, decide_eq_true_eq] at digit
  exact ⟨UInt32.le_iff_toNat_le.mp digit.1, UInt32.le_iff_toNat_le.mp digit.2⟩

theorem digitValue?_of_isDigit {character : Char} (digit : character.isDigit = true) :
    digitValue? character = some (character.toNat - 48) := by
  obtain ⟨low, high⟩ := isDigit_bounds digit
  have atFirst : digitZeros.find? (fun first =>
      first ≤ character.toNat && character.toNat < first + 10) = some 0x30 := by
    apply List.find?_cons_of_pos
    simp only [Bool.and_eq_true, decide_eq_true_eq]
    omega
  rw [digitValue?, atFirst, Option.map_some]

theorem digitValue?_lt {character : Char} {value : Nat} (read : digitValue? character = some value) :
    value < 10 := by
  rw [digitValue?, Option.map_eq_some_iff] at read
  obtain ⟨first, found, rfl⟩ := read
  have within := List.find?_some found
  simp only [Bool.and_eq_true, decide_eq_true_eq] at within
  omega

theorem isNumberBlank_of_isDigit {character : Char} (digit : character.isDigit = true) :
    isNumberBlank character = false := by
  obtain ⟨low, high⟩ := isDigit_bounds digit
  have notBlank : isBlank character = false := by
    simp only [isBlank, blankRanges, inRanges]
    grind
  rw [isNumberBlank, notBlank, Bool.false_and]

/-! ### Taking digits -/

theorem takeDigits_of_isDigit {characters : List Char}
    (digits : ∀ character ∈ characters, character.isDigit = true) {position : DigitPosition}
    (ready : position ≠ .afterUnderscore) :
    takeDigits position characters = some (characters.map fun character => character.toNat - 48, []) := by
  induction characters generalizing position with
  | nil =>
      cases position with
      | start => rfl
      | afterDigit => rfl
      | afterUnderscore => exact absurd rfl ready
  | cons character rest ih =>
      have digit : character.isDigit = true := digits character List.mem_cons_self
      have other : character ≠ '_' := by
        rintro rfl
        exact absurd digit (by decide)
      have later : takeDigits .afterDigit rest =
          some (rest.map fun character => character.toNat - 48, []) :=
        ih (fun further member => digits further (List.mem_cons_of_mem character member)) (by decide)
      rw [takeDigits, if_neg other, digitValue?_of_isDigit digit]
      dsimp only
      rw [later]
      rfl

theorem lt_ten_of_takeDigits {position : DigitPosition} {characters rest : List Char}
    {digits : List Nat} (taken : takeDigits position characters = some (digits, rest)) :
    ∀ digit ∈ digits, digit < 10 := by
  induction characters generalizing position digits with
  | nil =>
      cases position with
      | start | afterDigit =>
          cases taken
          exact fun digit member => absurd member List.not_mem_nil
      | afterUnderscore => cases taken
  | cons character others ih =>
      rw [takeDigits] at taken
      split at taken
      · split at taken
        · exact ih taken
        · cases taken
      · split at taken
        · rename_i value isDigit
          obtain ⟨⟨later, behind⟩, takenLater, whole⟩ := Option.map_eq_some_iff.mp taken
          cases whole
          intro digit member
          rcases List.mem_cons.mp member with rfl | member
          · exact digitValue?_lt isDigit
          · exact ih takenLater digit member
        · split at taken
          · cases taken
          · cases taken
            exact fun digit member => absurd member List.not_mem_nil

/-! ### The number of digits -/

private theorem foldl_digits_lt {digits : List Nat} (small : ∀ digit ∈ digits, digit < 10)
    (total : Nat) :
    digits.foldl (fun sum digit => 10 * sum + digit) total <
      Nat.pow 10 digits.length * (total + 1) := by
  induction digits generalizing total with
  | nil =>
      show total < 1 * (total + 1)
      omega
  | cons digit rest ih =>
      have first : digit < 10 := small digit List.mem_cons_self
      have later := ih (fun further member => small further (List.mem_cons_of_mem digit member))
        (10 * total + digit)
      calc (digit :: rest).foldl (fun sum digit => 10 * sum + digit) total
          < Nat.pow 10 rest.length * (10 * total + digit + 1) := later
        _ ≤ Nat.pow 10 rest.length * (10 * (total + 1)) := Nat.mul_le_mul_left _ (by omega)
        _ = Nat.pow 10 (rest.length + 1) * (total + 1) := (Nat.mul_assoc _ _ _).symm

theorem ofDigits_lt {digits : List Nat} (small : ∀ digit ∈ digits, digit < 10) :
    ofDigits digits < Nat.pow 10 digits.length := by
  have bound := foldl_digits_lt small 0
  rwa [Nat.zero_add, Nat.mul_one] at bound

theorem exceedsDigitLimit_eq_false_iff {value : Int} :
    exceedsDigitLimit value = false ↔ (Nat.toDigits 10 value.natAbs).length ≤ digitLimit := by
  rw [exceedsDigitLimit, decide_eq_false_iff_not, Nat.not_le, Nat.pow_eq,
    Nat.length_toDigits_le_iff (by decide) (by decide)]

theorem natAbs_signed (negative : Bool) (magnitude : Nat) :
    (signed negative magnitude).natAbs = magnitude := by
  cases negative with
  | false => exact Int.natAbs_natCast magnitude
  | true => exact (Int.natAbs_neg magnitude).trans (Int.natAbs_natCast magnitude)

/-- What is read has no more digits than the limit. -/
theorem exceedsDigitLimit_of_readInteger {text : String} {value : Int}
    (read : readInteger text = .ok value) : exceedsDigitLimit value = false := by
  rw [readInteger] at read
  dsimp only at read
  split at read
  · cases read
  · rename_i digits rest taken
    split at read
    · cases read
    · split at read
      · cases read
      · rename_i few
        split at read
        · cases read
          have bound := ofDigits_lt (lt_ten_of_takeDigits taken)
          have most : Nat.pow 10 digits.length ≤ Nat.pow 10 digitLimit := by
            rw [Nat.pow_eq, Nat.pow_eq]
            exact Nat.pow_le_pow_right (by decide) (Nat.le_of_not_gt few)
          rw [exceedsDigitLimit, decide_eq_false_iff_not, natAbs_signed]
          exact Nat.not_le.mpr (Nat.lt_of_lt_of_le bound most)
        · cases read

/-! ### Written integers -/

theorem isDigit_of_mem_toDigits {magnitude : Nat} {character : Char}
    (member : character ∈ Nat.toDigits 10 magnitude) : character.isDigit = true :=
  Nat.isDigit_of_mem_toDigits (by decide) (by decide) member

theorem toList_toString (value : Int) :
    (toString value).toList =
      (if value < 0 then ['-'] else []) ++ Nat.toDigits 10 value.natAbs := by
  rw [Int.toString_eq_repr, Int.repr_eq_if]
  by_cases negative : value < 0
  · rw [if_neg (Int.not_le.mpr negative), if_pos negative, String.toList_append, Nat.toList_repr,
      show (-value).toNat = value.natAbs by omega]
    rfl
  · rw [if_pos (Int.not_lt.mp negative), if_neg negative, Nat.toList_repr,
      show value.toNat = value.natAbs by omega]
    rfl

/-- An integer is written with digits and a minus. -/
theorem mem_toString {value : Int} {character : Char} (member : character ∈ (toString value).toList) :
    character = '-' ∨ character.isDigit = true := by
  rw [toList_toString, List.mem_append] at member
  rcases member with sign | digit
  · split at sign
    · exact .inl (List.mem_singleton.mp sign)
    · cases sign
  · exact .inr (isDigit_of_mem_toDigits digit)

theorem ofDigits_toDigits (magnitude : Nat) :
    ofDigits ((Nat.toDigits 10 magnitude).map fun character => character.toNat - 48) = magnitude := by
  have folded := Nat.ofDigitChars_ten_toDigits (n := magnitude)
  rw [Nat.ofDigitChars_eq_foldl] at folded
  rw [ofDigits, List.foldl_map]
  exact folded

theorem takeSign_toString (value : Int) :
    takeSign (toString value).toList = (decide (value < 0), Nat.toDigits 10 value.natAbs) := by
  rw [toList_toString]
  by_cases negative : value < 0
  · rw [if_pos negative, decide_eq_true negative]
    rfl
  · rw [if_neg negative, decide_eq_false negative, List.nil_append]
    obtain ⟨first, others, isFirst⟩ :=
      List.exists_cons_of_ne_nil (Nat.toDigits_ne_nil (n := value.natAbs) (b := 10))
    have digit : first.isDigit = true :=
      isDigit_of_mem_toDigits (by rw [isFirst]; exact List.mem_cons_self)
    rw [isFirst]
    unfold takeSign
    split
    · rename_i isMinus
      cases isMinus
      exact absurd digit (by decide)
    · rename_i isPlus
      cases isPlus
      exact absurd digit (by decide)
    · rfl

theorem signed_natAbs (value : Int) : signed (decide (value < 0)) value.natAbs = value := by
  unfold signed
  split
  · rename_i negative
    rw [decide_eq_true_eq] at negative
    omega
  · rename_i positive
    rw [decide_eq_true_eq] at positive
    omega

/-- An integer is read from its own text, unless it has too many digits. -/
theorem readInteger_toString {value : Int} (few : exceedsDigitLimit value = false) :
    readInteger (toString value) = .ok value := by
  have kept : trimWhere isNumberBlank (toString value).toList = (toString value).toList := by
    have noBlank : ∀ character ∈ (toString value).toList, isNumberBlank character = false := by
      intro character member
      rcases mem_toString member with rfl | digit
      · decide
      · exact isNumberBlank_of_isDigit digit
    rw [trimWhere_eq_self_iff]
    exact ⟨fun first isFirst => noBlank first (List.mem_of_mem_head? isFirst),
      fun last isLast => noBlank last (List.mem_of_getLast? isLast)⟩
  have taken : takeDigits .start (Nat.toDigits 10 value.natAbs) =
      some ((Nat.toDigits 10 value.natAbs).map fun character => character.toNat - 48, []) :=
    takeDigits_of_isDigit (fun character => isDigit_of_mem_toDigits) (by decide)
  have someDigit : ((Nat.toDigits 10 value.natAbs).map fun character =>
      character.toNat - 48).isEmpty = false := by
    rw [List.isEmpty_map, List.isEmpty_eq_false_iff]
    exact Nat.toDigits_ne_nil
  rw [exceedsDigitLimit_eq_false_iff] at few
  rw [readInteger, kept, takeSign_toString]
  dsimp only
  rw [taken]
  dsimp only
  rw [someDigit, List.length_map, if_neg Bool.false_ne_true, if_neg (Nat.not_lt.mpr few),
    ofDigits_toDigits, signed_natAbs]
  rfl

end ImportPlanning.Number
