/-
Strings as JSON writes them, read back. Every character is written as itself, as a simple escape, or
as one or two unit escapes, and the reader takes just these characters for it.
-/
import ImportPlanning.Json.Printer
import ImportPlanning.Json.Reader

namespace ImportPlanning.Json

open ImportPlanning.Text

/-! ### Units -/

theorem hexValue?_hexDigit {value : Nat} (small : value < 16) :
    hexValue? (hexDigit value) = some value := by
  have all : ∀ digit : Fin 16, hexValue? (hexDigit digit) = some digit.val := by decide
  exact all ⟨value, small⟩

/-- Four digits write a unit, and are read as such if something follows them. -/
theorem escapedUnit?_hexDigits {unit : Nat} (small : unit < 0x10000) {rest : List Char}
    (goesOn : rest ≠ []) : escapedUnit? (hexDigits 4 unit ++ rest) = some (unit, rest) := by
  obtain ⟨next, others, rfl⟩ := List.exists_cons_of_ne_nil goesOn
  have digits : hexDigits 4 unit =
      [hexDigit (unit / 16 / 16 / 16 % 16), hexDigit (unit / 16 / 16 % 16),
        hexDigit (unit / 16 % 16), hexDigit (unit % 16)] := rfl
  rw [digits]
  simp only [List.cons_append, List.nil_append, escapedUnit?, hexNumber?, List.foldl_cons,
    List.foldl_nil, Option.bind_some, hexValue?_hexDigit (Nat.mod_lt _ (by decide : 0 < 16)),
    Option.map_some, Option.some.injEq, Prod.mk.injEq, and_true]
  omega

/-- The code of a character is no half of a pair. -/
theorem not_half (character : Char) : ¬ (0xD800 ≤ character.toNat ∧ character.toNat ≤ 0xDFFF) := by
  have valid : character.toNat < 0xD800 ∨ 0xDFFF < character.toNat ∧ character.toNat < 0x110000 :=
    character.valid
  omega

theorem characterOf_toNat (character : Char) : characterOf character.toNat = character := by
  have whole := not_half character
  rw [characterOf, if_neg, Char.ofNat_toNat]
  simpa using whole

/-- A unit that is a character by itself is read as it, whatever follows. -/
theorem readUnitEscape_unit {character : Char} (small : character.toNat < 0x10000)
    {rest : List Char} (goesOn : rest ≠ []) :
    readUnitEscape (hexDigits 4 character.toNat ++ rest) = .ok (character, rest) := by
  have noHigh : (decide (0xD800 ≤ character.toNat) && decide (character.toNat ≤ 0xDBFF)) = false := by
    have whole := not_half character
    simp only [Bool.and_eq_false_iff, decide_eq_false_iff_not]
    omega
  rw [readUnitEscape, escapedUnit?_hexDigits small goesOn]
  dsimp only
  split
  · rw [noHigh, Bool.false_and, if_neg Bool.false_ne_true, characterOf_toNat]
  · rw [characterOf_toNat]

/-- Two units that make a pair are read as its character. -/
theorem readUnitEscape_pair {character : Char} (large : 0x10000 ≤ character.toNat)
    {rest : List Char} (goesOn : rest ≠ []) :
    readUnitEscape (hexDigits 4 (0xD800 + (character.toNat - 0x10000) / 0x400) ++
      unitEscape (0xDC00 + (character.toNat - 0x10000) % 0x400) ++ rest) = .ok (character, rest) := by
  have bound : character.toNat < 0x110000 := by
    have valid : character.toNat < 0xD800 ∨
      0xDFFF < character.toNat ∧ character.toNat < 0x110000 := character.valid
    omega
  obtain ⟨code, isCode⟩ : ∃ code, code = character.toNat - 0x10000 := ⟨_, rfl⟩
  have second : unitEscape (0xDC00 + code % 0x400) ++ rest =
      '\\' :: 'u' :: (hexDigits 4 (0xDC00 + code % 0x400) ++ rest) := rfl
  have longEnough : 5 ≤ (hexDigits 4 (0xDC00 + code % 0x400) ++ rest).length := by
    have some : 0 < rest.length := List.length_pos_iff.mpr goesOn
    have four : (hexDigits 4 (0xDC00 + code % 0x400)).length = 4 := rfl
    rw [List.length_append, four]
    omega
  have paired : pairedCharacter? (0xD800 + code / 0x400) (0xDC00 + code % 0x400) = some character := by
    have whole : 0x10000 + (0xD800 + code / 0x400 - 0xD800) * 0x400 +
        (0xDC00 + code % 0x400 - 0xDC00) = character.toNat := by omega
    rw [pairedCharacter?, if_pos, whole, Char.ofNat_toNat]
    simp only [Bool.and_eq_true, decide_eq_true_eq]
    omega
  have high : (decide (0xD800 ≤ 0xD800 + code / 0x400) &&
      decide (0xD800 + code / 0x400 ≤ 0xDBFF) &&
      decide (5 ≤ (hexDigits 4 (0xDC00 + code % 0x400) ++ rest).length)) = true := by
    simp only [Bool.and_eq_true, decide_eq_true_eq]
    exact ⟨by omega, longEnough⟩
  rw [← isCode, List.append_assoc, second, readUnitEscape,
    escapedUnit?_hexDigits (by omega) (List.cons_ne_nil _ _)]
  show (if (_ && _ && _) = true then _ else _) = _
  rw [high, if_pos rfl, escapedUnit?_hexDigits (by omega) goesOn]
  dsimp only
  rw [paired]

/-! ### Characters -/

/-- How a character is written: by one of two escapes, or as itself. -/
theorem stringCharacter_cases (character : Char) :
    (∃ mark, stringCharacter character = ['\\', mark] ∧ mark ≠ 'u' ∧
        simpleEscape? mark = some character) ∨
      (character.toNat < 0x10000 ∧ stringCharacter character = unitEscape character.toNat) ∨
      (0x10000 ≤ character.toNat ∧ stringCharacter character =
        unitEscape (0xD800 + (character.toNat - 0x10000) / 0x400) ++
          unitEscape (0xDC00 + (character.toNat - 0x10000) % 0x400)) ∨
      (stringCharacter character = [character] ∧ character ≠ '"' ∧ character ≠ '\\' ∧
        0x20 ≤ character.toNat ∧ character.toNat ≤ 0x7E) := by
  unfold stringCharacter
  dsimp only
  split
  · exact .inl ⟨'"', rfl, by decide, rfl⟩
  · exact .inl ⟨'\\', rfl, by decide, rfl⟩
  · exact .inl ⟨'n', rfl, by decide, rfl⟩
  · exact .inl ⟨'r', rfl, by decide, rfl⟩
  · exact .inl ⟨'t', rfl, by decide, rfl⟩
  rename_i noQuote noStroke _ _ _
  split
  · rename_i isBackspace
    refine .inl ⟨'b', rfl, by decide, ?_⟩
    rw [← Char.ofNat_toNat character, isBackspace]
    rfl
  split
  · rename_i isFeed
    refine .inl ⟨'f', rfl, by decide, ?_⟩
    rw [← Char.ofNat_toNat character, isFeed]
    rfl
  split
  · rename_i visible
    simp only [Bool.and_eq_true, decide_eq_true_eq] at visible
    exact .inr (.inr (.inr ⟨rfl, noQuote, noStroke, visible⟩))
  split
  · rename_i small
    exact .inr (.inl ⟨small, rfl⟩)
  · rename_i large
    exact .inr (.inr (.inl ⟨Nat.not_lt.mp large, rfl⟩))

section

variable (opened fuel : Nat) {character : Char} {rest : List Char}

private theorem readString_next :
    (do
      let (tail, final) ← readString opened fuel rest
      (.ok (character :: tail, final) : Except Stop (List Char × List Char))) =
        (readString opened fuel rest).map fun read => (character :: read.1, read.2) := by
  cases readString opened fuel rest with
  | error stop => rfl
  | ok read => rfl

private theorem readString_plain (noQuote : character ≠ '"') (noStroke : character ≠ '\\')
    (visible : 0x20 ≤ character.toNat) :
    readString opened (fuel + 1) (character :: rest) =
      (readString opened fuel rest).map fun read => (character :: read.1, read.2) := by
  rw [readString.eq_def]
  dsimp only
  rw [if_neg noQuote, if_neg noStroke, if_neg (Nat.not_lt.mpr visible), readString_next]

private theorem readString_simple {mark : Char} (noUnit : mark ≠ 'u')
    (escapes : simpleEscape? mark = some character) :
    readString opened (fuel + 1) ('\\' :: mark :: rest) =
      (readString opened fuel rest).map fun read => (character :: read.1, read.2) := by
  rw [readString.eq_def]
  dsimp only
  rw [if_neg (by decide), if_pos rfl]
  split
  · rename_i impossible
    cases impossible
  · rename_i isUnit
    exact absurd (List.cons.inj isUnit).1 noUnit
  · rename_i isSimple
    cases isSimple
    rw [escapes]
    exact readString_next opened fuel

private theorem readString_unit {digits : List Char}
    (escaped : readUnitEscape digits = .ok (character, rest)) :
    readString opened (fuel + 1) ('\\' :: 'u' :: digits) =
      (readString opened fuel rest).map fun read => (character :: read.1, read.2) := by
  rw [readString.eq_def]
  dsimp only
  rw [if_neg (by decide), if_pos rfl]
  show (readUnitEscape digits >>= _) = _
  rw [escaped]
  exact readString_next opened fuel

/-- A character is read from what is written for it. -/
theorem readString_character (character : Char) (goesOn : rest ≠ []) :
    readString opened (fuel + 1) (stringCharacter character ++ rest) =
      (readString opened fuel rest).map fun read => (character :: read.1, read.2) := by
  rcases stringCharacter_cases character with ⟨mark, written, noUnit, escapes⟩ | ⟨small, written⟩ |
    ⟨large, written⟩ | ⟨written, noQuote, noStroke, visible, _⟩
  · rw [written]
    exact readString_simple opened fuel noUnit escapes
  · rw [written]
    exact readString_unit opened fuel (readUnitEscape_unit small goesOn)
  · rw [written]
    exact readString_unit opened fuel (readUnitEscape_pair large goesOn)
  · rw [written]
    exact readString_plain opened fuel noQuote noStroke visible

end

/-! ### Strings -/

/-- A string is read up to its closing quote. -/
theorem readString_written (opened : Nat) (characters rest : List Char) {fuel : Nat}
    (enough : characters.length < fuel) :
    readString opened fuel (characters.flatMap stringCharacter ++ '"' :: rest) =
      .ok (characters, rest) := by
  induction characters generalizing fuel with
  | nil =>
      obtain ⟨fuel, rfl⟩ := Nat.exists_eq_succ_of_ne_zero (Nat.ne_of_gt enough)
      rfl
  | cons character others ih =>
      obtain ⟨fuel, rfl⟩ := Nat.exists_eq_succ_of_ne_zero (Nat.ne_of_gt (Nat.zero_lt_of_lt enough))
      rw [List.length_cons] at enough
      have goesOn : others.flatMap stringCharacter ++ '"' :: rest ≠ [] :=
        List.append_ne_nil_of_right_ne_nil _ (List.cons_ne_nil _ _)
      rw [List.flatMap_cons, List.append_assoc, readString_character opened fuel character goesOn,
        ih (Nat.lt_of_succ_lt_succ enough)]
      rfl

theorem length_le_written (characters : List Char) :
    characters.length ≤ (characters.flatMap stringCharacter).length := by
  induction characters with
  | nil => exact Nat.le_refl 0
  | cons character rest ih =>
      have some : 0 < (stringCharacter character).length := by
        rcases stringCharacter_cases character with ⟨_, written, _⟩ | ⟨_, written⟩ | ⟨_, written⟩ |
          ⟨written, _⟩
        all_goals
          rw [written]
          exact Nat.zero_lt_succ _
      rw [List.flatMap_cons, List.length_append, List.length_cons]
      omega

theorem toList_stringText (value : String) :
    (stringText value).toList = '"' :: (value.toList.flatMap stringCharacter ++ ['"']) := by
  rw [stringText, String.toList_ofList]
  rfl

theorem readQuoted_written (value : String) (rest : List Char) :
    readQuoted (value.toList.flatMap stringCharacter ++ '"' :: rest) = .ok (value, rest) := by
  have enough : value.toList.length <
      (value.toList.flatMap stringCharacter ++ '"' :: rest).length + 1 := by
    have written := length_le_written value.toList
    rw [List.length_append]
    omega
  rw [readQuoted, readString_written _ _ _ enough, Except.map, String.ofList_toList]

/-! ### Visible characters -/

/-- The character is one of visible ASCII, or the blank. -/
def Visible (character : Char) : Prop :=
  0x20 ≤ character.toNat ∧ character.toNat ≤ 0x7E

instance (character : Char) : Decidable (Visible character) :=
  inferInstanceAs (Decidable (_ ∧ _))

theorem visible_of_all {characters : List Char}
    (all : (characters.all fun character => decide (Visible character)) = true) :
    ∀ character ∈ characters, Visible character := by
  simpa only [List.all_eq_true, decide_eq_true_eq] using all

private theorem visible_of_simpleEscape {mark character : Char}
    (escapes : simpleEscape? mark = some character) : Visible mark := by
  unfold simpleEscape? at escapes
  split at escapes
  all_goals first
    | decide
    | cases escapes

private theorem visible_unitEscape (unit : Nat) :
    ∀ character ∈ unitEscape unit, Visible character := by
  have digit : ∀ value : Fin 16, Visible (hexDigit value) := by decide
  have digits : ∀ value, Visible (hexDigit (value % 16)) := fun value =>
    digit ⟨value % 16, Nat.mod_lt _ (by decide)⟩
  have written : unitEscape unit = ['\\', 'u', hexDigit (unit / 16 / 16 / 16 % 16),
      hexDigit (unit / 16 / 16 % 16), hexDigit (unit / 16 % 16), hexDigit (unit % 16)] := rfl
  rw [written]
  simp only [List.forall_mem_cons, List.not_mem_nil, false_implies, implies_true, and_true]
  exact ⟨by decide, by decide, digits _, digits _, digits _, digits _⟩

theorem visible_stringCharacter (character : Char) :
    ∀ written ∈ stringCharacter character, Visible written := by
  rcases stringCharacter_cases character with ⟨mark, written, _, escapes⟩ | ⟨_, written⟩ |
    ⟨_, written⟩ | ⟨written, _, _, visible⟩
  · rw [written, List.forall_mem_cons, List.forall_mem_singleton]
    exact ⟨by decide, visible_of_simpleEscape escapes⟩
  · rw [written]
    exact visible_unitEscape _
  · rw [written, List.forall_mem_append]
    exact ⟨visible_unitEscape _, visible_unitEscape _⟩
  · rw [written, List.forall_mem_singleton]
    exact visible

theorem visible_stringText (value : String) :
    ∀ character ∈ (stringText value).toList, Visible character := by
  rw [toList_stringText, List.forall_mem_cons, List.forall_mem_append, List.forall_mem_singleton]
  refine ⟨by decide, ?_, by decide⟩
  intro written member
  obtain ⟨character, _, isWritten⟩ := List.mem_flatMap.mp member
  exact visible_stringCharacter character written isWritten

end ImportPlanning.Json
