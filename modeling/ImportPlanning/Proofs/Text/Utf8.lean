/-
UTF-8 read back. The bytes of a character begin a unit that is this character, whatever follows them,
so a text is decoded from its bytes; and bytes decode to the empty text only if there are none.

Which sequences of bytes have flaws is left open.
-/
import ImportPlanning.Text.Utf8

namespace ImportPlanning.Text.Utf8

/-! ### Bytes of one character -/

theorem toNat_byte {value : Nat} (small : value < 256) : (UInt8.ofNat value).toNat = value := by
  rw [UInt8.toNat_ofNat', Nat.mod_eq_of_lt small]

theorem tail?_ofNat {payload : Nat} (small : payload < 64) :
    tail? (UInt8.ofNat (payload + 0x80)) = some payload := by
  have isByte : (UInt8.ofNat (payload + 0x80)).toNat = payload + 0x80 := toNat_byte (by omega)
  have within : (0x80 ≤ UInt8.ofNat (payload + 0x80) &&
      UInt8.ofNat (payload + 0x80) ≤ 0xBF) = true := by
    simp only [UInt8.le_iff_toNat_le, isByte, Bool.and_eq_true, decide_eq_true_eq,
      UInt8.reduceToNat]
    omega
  rw [tail?, if_pos within, isByte, Nat.add_sub_cancel]

/-- A byte follows a lead byte directly if it continues a character, and for four lead bytes only if
the character is neither too short for its bytes nor a surrogate nor too large. -/
theorem within_secondRange {lead second : Nat} (isLead : lead < 256) (low : 0x80 ≤ second)
    (high : second ≤ 0xBF) (afterE0 : lead = 0xE0 → 0xA0 ≤ second)
    (afterED : lead = 0xED → second ≤ 0x9F) (afterF0 : lead = 0xF0 → 0x90 ≤ second)
    (afterF4 : lead = 0xF4 → second ≤ 0x8F) :
    ((secondRange (UInt8.ofNat lead)).1 ≤ UInt8.ofNat second &&
      UInt8.ofNat second ≤ (secondRange (UInt8.ofNat lead)).2) = true := by
  have leadByte : (UInt8.ofNat lead).toNat = lead := toNat_byte isLead
  have secondByte : (UInt8.ofNat second).toNat = second := toNat_byte (by omega)
  simp only [secondRange, Bool.and_eq_true, decide_eq_true_eq, UInt8.le_iff_toNat_le,
    ← UInt8.toNat_inj, leadByte, secondByte, UInt8.reduceToNat]
  split
  · exact ⟨afterE0 ‹_›, high⟩
  · split
    · exact ⟨low, afterED ‹_›⟩
    · split
      · exact ⟨afterF0 ‹_›, high⟩
      · split
        · exact ⟨low, afterF4 ‹_›⟩
        · exact ⟨low, high⟩

theorem afterLead_ofNat {lead second : Nat} (small : second < 64)
    (within : ((secondRange (UInt8.ofNat lead)).1 ≤ UInt8.ofNat (second + 0x80) &&
      UInt8.ofNat (second + 0x80) ≤ (secondRange (UInt8.ofNat lead)).2) = true)
    (value missing : Nat) (rest : List UInt8) :
    afterLead (UInt8.ofNat lead) value missing (UInt8.ofNat (second + 0x80) :: rest) =
      continuation (64 * value + second) missing 1 rest := by
  rw [afterLead, if_pos within, toNat_byte (by omega), Nat.add_sub_cancel]

theorem continuation_ofNat {payload : Nat} (small : payload < 64) (value missing read : Nat)
    (rest : List UInt8) :
    continuation value (missing + 1) read (UInt8.ofNat (payload + 0x80) :: rest) =
      continuation (64 * value + payload) missing (read + 1) rest := by
  rw [continuation, tail?_ofNat small]

/-- The bytes of a character are the unit at their first byte, whatever follows them. -/
theorem unitAt_utf8EncodeChar (character : Char) (rest : List UInt8) :
    ∃ lead others, String.utf8EncodeChar character = lead :: others ∧
      unitAt lead (others ++ rest) = .character character others.length := by
  have valid : character.val.toNat < 0xD800 ∨
      0xDFFF < character.val.toNat ∧ character.val.toNat < 0x110000 := character.valid
  have same : ∀ value, value = character.val.toNat → Char.ofNat value = character := by
    rintro value rfl
    exact Char.ofNat_toNat character
  -- one case for each number of bytes; the first byte tells how many payloads are put together
  fun_cases String.utf8EncodeChar character with
  | case1 value one =>
      refine ⟨_, _, rfl, ?_⟩
      have isLead : (UInt8.ofNat value).toNat = value := toNat_byte (by omega)
      simp only [unitAt, UInt8.lt_iff_toNat_lt, isLead, UInt8.reduceToNat]
      rw [if_pos (by omega), same value rfl]
      rfl
  | case2 value _ two =>
      refine ⟨_, _, rfl, ?_⟩
      have isLead : (UInt8.ofNat (value / 64 % 0x20 + 0xC0)).toNat = value / 64 % 0x20 + 0xC0 :=
        toNat_byte (by omega)
      simp only [unitAt, UInt8.lt_iff_toNat_lt, isLead, UInt8.reduceToNat, List.cons_append]
      rw [if_neg (by omega), if_neg (by omega), if_pos (by omega),
        afterLead_ofNat (by omega) (by apply within_secondRange <;> omega), continuation,
        same _ (show _ = value by omega)]
      rfl
  | case3 value _ _ three =>
      refine ⟨_, _, rfl, ?_⟩
      have isLead : (UInt8.ofNat (value / 4096 % 0x10 + 0xE0)).toNat = value / 4096 % 0x10 + 0xE0 :=
        toNat_byte (by omega)
      simp only [unitAt, UInt8.lt_iff_toNat_lt, isLead, UInt8.reduceToNat, List.cons_append]
      rw [if_neg (by omega), if_neg (by omega), if_neg (by omega), if_pos (by omega),
        afterLead_ofNat (by omega) (by apply within_secondRange <;> omega),
        continuation_ofNat (by omega), continuation, same _ (show _ = value by omega)]
      rfl
  | case4 value _ _ four =>
      refine ⟨_, _, rfl, ?_⟩
      have isLead : (UInt8.ofNat (value / 262144 % 0x08 + 0xF0)).toNat =
          value / 262144 % 0x08 + 0xF0 := toNat_byte (by omega)
      simp only [unitAt, UInt8.lt_iff_toNat_lt, isLead, UInt8.reduceToNat, List.cons_append]
      rw [if_neg (by omega), if_neg (by omega), if_neg (by omega), if_neg (by omega),
        if_pos (by omega), afterLead_ofNat (by omega) (by apply within_secondRange <;> omega),
        continuation_ofNat (by omega), continuation_ofNat (by omega), continuation,
        same _ (show _ = value by omega)]
      rfl

/-! ### Texts -/

theorem unitsFrom_append (skipped rest : List UInt8) :
    unitsFrom skipped.length (skipped ++ rest) = unitsFrom 0 rest := by
  induction skipped with
  | nil => rfl
  | cons byte others ih => rw [List.length_cons, List.cons_append, unitsFrom, ih]

theorem units_utf8EncodeChar_append (character : Char) (rest : List UInt8) :
    ∃ further, units (String.utf8EncodeChar character ++ rest) =
      .character character further :: units rest := by
  obtain ⟨lead, others, coded, isUnit⟩ := unitAt_utf8EncodeChar character rest
  refine ⟨others.length, ?_⟩
  rw [units, coded, List.cons_append, unitsFrom, isUnit]
  dsimp only
  rw [unitsFrom_append, units]

theorem lenient_units_flatMap (characters : List Char) :
    (units (characters.flatMap String.utf8EncodeChar)).map Unit.lenient = characters := by
  induction characters with
  | nil => rfl
  | cons character rest ih =>
      obtain ⟨further, begins⟩ :=
        units_utf8EncodeChar_append character (rest.flatMap String.utf8EncodeChar)
      rw [List.flatMap_cons, begins, List.map_cons, ih]
      rfl

/-- A text is decoded from its bytes. -/
theorem decodeLenient_flatMap (characters : List Char) :
    decodeLenient (characters.flatMap String.utf8EncodeChar) = String.ofList characters := by
  rw [decodeLenient, lenient_units_flatMap]

theorem decodeLenient_ne_empty {bytes : List UInt8} (some : bytes ≠ []) :
    decodeLenient bytes ≠ "" := by
  obtain ⟨lead, rest, rfl⟩ := List.exists_cons_of_ne_nil some
  intro empty
  have none : units (lead :: rest) = [] := by
    rw [decodeLenient, ← String.toList_inj, String.toList_ofList, String.toList_empty,
      List.map_eq_nil_iff] at empty
    exact empty
  rw [units, unitsFrom] at none
  split at none
  · cases none
  · cases none

end ImportPlanning.Text.Utf8
