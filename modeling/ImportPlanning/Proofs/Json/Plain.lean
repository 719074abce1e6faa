/-
Plain values, read back from the text that was written for them: null, truth values, integers of no
more digits than the limit, and texts. Each is read up to what ends it.

Floating-point numbers, and values that are written as strings, are left out.
-/
import ImportPlanning.Proofs.Json.Strings
import ImportPlanning.Proofs.Number.Integer

namespace ImportPlanning.Json

open ImportPlanning.Text

/-! ### Reading up to an end -/

/-- Nothing follows, or what ends an item. -/
def Ends (rest : List Char) : Prop :=
  ∀ next, rest.head? = some next → next = ',' ∨ next = ']' ∨ next = '\x7d'

/-- The text of the value is read as the value, whatever ends it. The fuel is the length of the text at
most. -/
def Reads (value : Value) : Prop :=
  ∀ (fuel : Nat) (rest : List Char), (text value).toList.length ≤ fuel → Ends rest →
    readValue fuel ((text value).toList ++ rest) = .ok (value, rest)

/-! ### Numbers -/

theorem Ends.noDigit {rest : List Char} (ends : Ends rest) {next : Char}
    (isNext : rest.head? = some next) : next.isDigit = false := by
  rcases ends next isNext with rfl | rfl | rfl
  · rfl
  · rfl
  · rfl

theorem takeFraction_of_ends {rest : List Char} (ends : Ends rest) :
    takeFraction rest = ([], rest) := by
  unfold takeFraction
  split
  · rename_i others
    rcases ends '.' rfl with impossible | impossible | impossible
    · cases impossible
    · cases impossible
    · cases impossible
  · rfl

theorem takeExponent_of_ends {rest : List Char} (ends : Ends rest) :
    takeExponent rest = (none, rest) := by
  cases rest with
  | nil => rfl
  | cons next others =>
      have noMark : ¬ ((decide (next = 'e') || decide (next = 'E')) = true) := by
        rcases ends next rfl with rfl | rfl | rfl
        · decide
        · decide
        · decide
      rw [takeExponent, if_neg noMark]

theorem cutDigits_append {digits rest : List Char}
    (areDigits : ∀ character ∈ digits, character.isDigit = true) (ends : Ends rest) :
    cutDigits (digits ++ rest) = (digits, rest) := by
  have stops : rest.takeWhile Char.isDigit = [] ∧ rest.dropWhile Char.isDigit = rest := by
    cases rest with
    | nil => exact ⟨rfl, rfl⟩
    | cons next others =>
        have noDigit := ends.noDigit rfl
        rw [List.takeWhile_cons_of_neg (by simp [noDigit]),
          List.dropWhile_cons_of_neg (by simp [noDigit])]
        exact ⟨rfl, rfl⟩
  rw [cutDigits, List.takeWhile_append_of_pos areDigits, List.dropWhile_append_of_pos areDigits,
    stops.1, stops.2, List.append_nil]

/-- The digits of a number do not begin with a zero, unless it is the only one. -/
theorem toDigits_of_zero_first {magnitude : Nat} {others : List Char}
    (isFirst : Nat.toDigits 10 magnitude = '0' :: others) : others = [] := by
  refine Classical.byContradiction fun several => ?_
  -- the others write the same number, for which they are too few
  have same : Number.ofDigits (others.map fun character => character.toNat - 48) = magnitude := by
    have whole := Number.ofDigits_toDigits magnitude
    rw [isFirst] at whole
    exact whole
  have small : ∀ digit ∈ others.map fun character => character.toNat - 48, digit < 10 := by
    intro digit member
    obtain ⟨character, isDigit, rfl⟩ := List.mem_map.mp member
    have bounds := Number.isDigit_bounds
      (Number.isDigit_of_mem_toDigits (isFirst ▸ List.mem_cons_of_mem '0' isDigit))
    omega
  have bound := Number.ofDigits_lt small
  rw [same, List.length_map, Nat.pow_eq] at bound
  have few := (Nat.length_toDigits_le_iff (by decide) (List.length_pos_iff.mpr several)).mpr bound
  rw [isFirst, List.length_cons] at few
  omega

theorem takeWhole_toDigits (magnitude : Nat) {rest : List Char} (ends : Ends rest) :
    takeWhole (Nat.toDigits 10 magnitude ++ rest) = (Nat.toDigits 10 magnitude, rest) := by
  have digits : ∀ character ∈ Nat.toDigits 10 magnitude, character.isDigit = true :=
    fun _ => Number.isDigit_of_mem_toDigits
  obtain ⟨first, others, isFirst⟩ :=
    List.exists_cons_of_ne_nil (Nat.toDigits_ne_nil (n := magnitude) (b := 10))
  by_cases isZero : first = '0'
  · subst isZero
    rw [isFirst, toDigits_of_zero_first isFirst]
    rfl
  · have whole : takeWhole (Nat.toDigits 10 magnitude ++ rest) =
        cutDigits (Nat.toDigits 10 magnitude ++ rest) := by
      rw [isFirst, List.cons_append, takeWhole.eq_def]
      split
      · rename_i same
        exact absurd (List.cons.inj same).1 isZero
      · rfl
    rw [whole, cutDigits_append digits ends]

theorem readNumber_toDigits {magnitude : Nat}
    (few : (Nat.toDigits 10 magnitude).length ≤ Number.digitLimit) (start : List Char)
    (negative : Bool) {rest : List Char} (ends : Ends rest) :
    readNumber start negative (Nat.toDigits 10 magnitude ++ rest) =
      .ok (.integer (Number.signed negative magnitude), rest) := by
  have some : (Nat.toDigits 10 magnitude).isEmpty = false :=
    List.isEmpty_eq_false_iff.mpr Nat.toDigits_ne_nil
  rw [readNumber, takeWhole_toDigits magnitude ends]
  dsimp only
  rw [some, if_neg Bool.false_ne_true, takeFraction_of_ends ends]
  dsimp only
  rw [takeExponent_of_ends ends]
  show (if (Nat.toDigits 10 magnitude).length > Number.digitLimit then _ else _) = _
  rw [if_neg (Nat.not_lt.mpr few), List.append_nil, Number.ofDigits_toDigits]

/-! ### Plain values -/

theorem readValue_plain (fuel : Nat) {first : Char} {rest : List Char} (noQuote : first ≠ '"')
    (noList : first ≠ '[') (noMapping : first ≠ '\x7b') :
    readValue (fuel + 1) (first :: rest) = readPlain (first :: rest) :=
  readValue.eq_6 fuel first rest noQuote noList noMapping

theorem ne_of_isDigit {digit other : Char} (isDigit : digit.isDigit = true)
    (noDigit : other.isDigit = false) : digit ≠ other := by
  rintro rfl
  rw [isDigit] at noDigit
  cases noDigit

/-- No word that is a value begins with a digit, nor with a minus before one. -/
theorem readWord?_number {digit : Char} (isDigit : digit.isDigit = true) (rest : List Char) :
    readWord? (digit :: rest) = none ∧ readWord? ('-' :: digit :: rest) = none := by
  have other : ∀ letter : Char, letter.isDigit = false → letter ≠ digit :=
    fun _ noDigit => (ne_of_isDigit isDigit noDigit).symm
  have n := other 'n' rfl
  have t := other 't' rfl
  have f := other 'f' rfl
  have capitalN := other 'N' rfl
  have capitalI := other 'I' rfl
  have minus := other '-' rfl
  constructor <;> simp [readWord?, words, afterWord?, *]

theorem reads_null : Reads .null := by
  intro fuel rest enough _
  cases fuel with
  | zero => exact absurd enough (by decide)
  | succ fuel => rfl

theorem reads_boolean (value : Bool) : Reads (.boolean value) := by
  intro fuel rest enough _
  cases fuel with
  | zero =>
      cases value with
      | true => exact absurd enough (by decide)
      | false => exact absurd enough (by decide)
  | succ fuel =>
      cases value with
      | true => rfl
      | false => rfl

theorem reads_integer {value : Int} (few : Number.exceedsDigitLimit value = false) :
    Reads (.integer value) := by
  intro fuel rest enough ends
  obtain ⟨first, others, isFirst⟩ :=
    List.exists_cons_of_ne_nil (Nat.toDigits_ne_nil (n := value.natAbs) (b := 10))
  have isDigit : first.isDigit = true :=
    Number.isDigit_of_mem_toDigits (isFirst ▸ List.mem_cons_self)
  have other : ∀ character : Char, character.isDigit = false → first ≠ character :=
    fun _ => ne_of_isDigit isDigit
  rw [Number.exceedsDigitLimit_eq_false_iff] at few
  have number := readNumber_toDigits few
  have signed := Number.signed_natAbs value
  rw [isFirst] at number
  rw [text, Number.toList_toString, isFirst] at enough ⊢
  cases fuel with
  | zero =>
      rw [List.length_append, List.length_cons] at enough
      omega
  | succ fuel =>
      by_cases negative : value < 0
      · rw [decide_eq_true negative] at signed
        rw [if_pos negative, List.append_assoc]
        show readValue (fuel + 1) ('-' :: first :: (others ++ rest)) = _
        rw [readValue_plain fuel (by decide) (by decide) (by decide), readPlain,
          (readWord?_number isDigit _).2]
        exact (number _ true ends).trans (by rw [signed])
      · rw [decide_eq_false negative] at signed
        rw [if_neg negative, List.nil_append]
        show readValue (fuel + 1) (first :: (others ++ rest)) = _
        rw [readValue_plain fuel (other _ rfl) (other _ rfl) (other _ rfl), readPlain,
          (readWord?_number isDigit _).1]
        · exact (number _ false ends).trans (by rw [signed])
        · intro _ isMinus
          exact absurd (List.cons.inj isMinus).1 (other _ rfl)

theorem reads_text (value : String) : Reads (.text value) := by
  intro fuel rest enough _
  rw [text, toList_stringText] at enough ⊢
  cases fuel with
  | zero =>
      rw [List.length_cons] at enough
      omega
  | succ fuel =>
      rw [List.cons_append, List.append_assoc, List.singleton_append, readValue,
        readQuoted_written]
      rfl

end ImportPlanning.Json
