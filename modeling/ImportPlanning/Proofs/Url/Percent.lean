/-
Percent coding undone. A part of a URL is decoded from what it was coded to, if the percent sign is
among the coded characters. A coded part holds safe characters, percent signs and hexadecimal digits
only, so a mark that is not safe does not end it.

What is decoded need not be a coded part: a percent sign may stand there that no digits follow.
-/
import ImportPlanning.Proofs.Text.Utf8
import ImportPlanning.Url.Percent

namespace ImportPlanning.Url

open ImportPlanning.Text

/-! ### Bytes -/

theorem hexValue?_hexDigitUpper {value : Nat} (small : value < 16) :
    hexValue? (hexDigitUpper value) = some value := by
  revert value
  decide

private theorem isAlphanum_hexDigitUpper {value : Nat} (small : value < 16) :
    (hexDigitUpper value).isAlphanum = true := by
  revert value
  decide

theorem mem_percentByte {byte : UInt8} {character : Char} (member : character ∈ percentByte byte) :
    character = '%' ∨ character.isAlphanum = true := by
  have bound : byte.toNat < 256 := byte.toNat_lt
  simp only [percentByte, List.mem_cons, List.not_mem_nil, or_false] at member
  rcases member with rfl | rfl | rfl
  · exact .inl rfl
  · exact .inr (isAlphanum_hexDigitUpper (by omega))
  · exact .inr (isAlphanum_hexDigitUpper (by omega))

theorem decodedBytes_percentByte (byte : UInt8) (rest : List Char) :
    decodedBytes (percentByte byte ++ rest) = byte :: decodedBytes rest := by
  have bound : byte.toNat < 256 := byte.toNat_lt
  have same : UInt8.ofNat (16 * (byte.toNat / 16) + byte.toNat % 16) = byte := by
    rw [Nat.div_add_mod]
    exact UInt8.ofNat_toNat
  show decodedBytes ('%' :: hexDigitUpper (byte.toNat / 16) :: hexDigitUpper (byte.toNat % 16) ::
    rest) = _
  rw [decodedBytes, hexValue?_hexDigitUpper (by omega), hexValue?_hexDigitUpper (by omega)]
  dsimp only
  rw [same]

theorem decodedBytes_flatMap_percentByte (bytes : List UInt8) (rest : List Char) :
    decodedBytes (bytes.flatMap percentByte ++ rest) = bytes ++ decodedBytes rest := by
  induction bytes with
  | nil => rfl
  | cons byte others ih =>
      rw [List.flatMap_cons, List.append_assoc, decodedBytes_percentByte, ih, List.cons_append]

theorem decodedBytes_cons {character : Char} (other : character ≠ '%') (rest : List Char) :
    decodedBytes (character :: rest) = String.utf8EncodeChar character ++ decodedBytes rest := by
  rw [decodedBytes]
  intro high low others isPercent
  exact absurd isPercent other

theorem decodedBytes_ne_nil {characters : List Char} (some : characters ≠ []) :
    decodedBytes characters ≠ [] := by
  fun_cases decodedBytes characters with
  | case1 => exact absurd rfl some
  | case2 => exact List.cons_ne_nil _ _
  | case3 => exact List.append_ne_nil_of_left_ne_nil String.utf8EncodeChar_ne_nil _
  | case4 => exact List.append_ne_nil_of_left_ne_nil String.utf8EncodeChar_ne_nil _

/-! ### Characters -/

section

variable {safe : Char → Bool}

theorem mem_encodeCharacter {source character : Char}
    (member : character ∈ encodeCharacter safe source) :
    safe character = true ∨ character = '%' ∨ character.isAlphanum = true := by
  rw [encodeCharacter] at member
  split at member
  · rename_i isSafe
    rw [List.mem_singleton.mp member]
    exact .inl isSafe
  · obtain ⟨byte, _, written⟩ := List.mem_flatMap.mp member
    exact .inr (mem_percentByte written)

theorem decodedBytes_encodeCharacter (codesPercent : safe '%' = false) (character : Char)
    (rest : List Char) :
    decodedBytes (encodeCharacter safe character ++ rest) =
      String.utf8EncodeChar character ++ decodedBytes rest := by
  rw [encodeCharacter]
  split
  · rename_i isSafe
    refine decodedBytes_cons ?_ rest
    rintro rfl
    rw [codesPercent] at isSafe
    cases isSafe
  · exact decodedBytes_flatMap_percentByte _ rest

end

/-! ### Parts -/

section

variable {safe : Char → Bool}

/-- A character that is neither safe nor used by the coding does not stand in a coded text. -/
theorem not_mem_encode {mark : Char} (isCoded : safe mark = false) (notPercent : mark ≠ '%')
    (notDigit : mark.isAlphanum = false) (text : String) : mark ∉ (encode safe text).toList := by
  intro member
  rw [encode, String.toList_ofList, List.mem_flatMap] at member
  obtain ⟨source, _, written⟩ := member
  rcases mem_encodeCharacter written with isSafe | isPercent | digit
  · rw [isCoded] at isSafe
    cases isSafe
  · exact notPercent isPercent
  · rw [notDigit] at digit
    cases digit

/-- A text is decoded from what it is coded to. -/
theorem decode_encode (codesPercent : safe '%' = false) (text : String) :
    decode (encode safe text).toList = text := by
  have bytes : ∀ characters : List Char,
      decodedBytes (characters.flatMap (encodeCharacter safe)) =
        characters.flatMap String.utf8EncodeChar := by
    intro characters
    induction characters with
    | nil => rfl
    | cons character rest ih =>
        rw [List.flatMap_cons, decodedBytes_encodeCharacter codesPercent, ih, List.flatMap_cons]
  rw [decode, encode, String.toList_ofList, bytes, Utf8.decodeLenient_flatMap, String.ofList_toList]

end

/-! ### Parts of a query -/

/-- A character of a query as it is written. -/
private def queryCharacter (character : Char) : List Char :=
  if character = ' ' then ['+'] else encodeCharacter isUnreserved character

private theorem toList_encodeQueryPart (text : String) :
    (encodeQueryPart text).toList = text.toList.flatMap queryCharacter :=
  String.toList_ofList

theorem not_mem_encodeQueryPart {mark : Char} (isCoded : isUnreserved mark = false)
    (notPercent : mark ≠ '%') (notPlus : mark ≠ '+') (text : String) :
    mark ∉ (encodeQueryPart text).toList := by
  have notDigit : mark.isAlphanum = false := by
    simp only [isUnreserved, Bool.or_eq_false_iff] at isCoded
    exact isCoded.1.1.1.1
  intro member
  rw [toList_encodeQueryPart, List.mem_flatMap] at member
  obtain ⟨source, _, written⟩ := member
  rw [queryCharacter] at written
  split at written
  · exact notPlus (List.mem_singleton.mp written)
  · rcases mem_encodeCharacter written with isSafe | isPercent | digit
    · rw [isCoded] at isSafe
      cases isSafe
    · exact notPercent isPercent
    · rw [notDigit] at digit
      cases digit

/-- Reading blanks for plus signs leaves a coded character as it is. -/
private theorem map_encodeCharacter (character : Char) :
    (encodeCharacter isUnreserved character).map
        (fun written => if written = '+' then ' ' else written) =
      encodeCharacter isUnreserved character := by
  refine (List.map_congr_left (g := id) ?_).trans (List.map_id _)
  intro written member
  have notPlus : written ≠ '+' := by
    rintro rfl
    rcases mem_encodeCharacter member with isSafe | isPercent | digit
    · exact absurd isSafe (by decide)
    · exact absurd isPercent (by decide)
    · exact absurd digit (by decide)
  exact if_neg notPlus

theorem decodeQueryPart_encodeQueryPart (text : String) :
    decodeQueryPart (encodeQueryPart text).toList = text := by
  have bytes : ∀ characters : List Char,
      decodedBytes ((characters.flatMap queryCharacter).map
          fun written => if written = '+' then ' ' else written) =
        characters.flatMap String.utf8EncodeChar := by
    intro characters
    induction characters with
    | nil => rfl
    | cons character rest ih =>
        rw [List.flatMap_cons, List.flatMap_cons, List.map_append, queryCharacter]
        split
        · rename_i isBlank
          rw [isBlank]
          show decodedBytes (' ' :: (rest.flatMap queryCharacter).map _) = _
          rw [decodedBytes_cons (by decide), ih]
        · rw [map_encodeCharacter, decodedBytes_encodeCharacter (by decide), ih]
  rw [decodeQueryPart, decode, toList_encodeQueryPart, bytes, Utf8.decodeLenient_flatMap,
    String.ofList_toList]

theorem decodeQueryPart_ne_empty {characters : List Char} (some : characters ≠ []) :
    decodeQueryPart characters ≠ "" := by
  refine Utf8.decodeLenient_ne_empty (decodedBytes_ne_nil ?_)
  rwa [ne_eq, List.map_eq_nil_iff]

theorem encodeQueryPart_ne_empty {text : String} (some : text ≠ "") :
    (encodeQueryPart text).toList ≠ [] := by
  intro empty
  have decoded := decodeQueryPart_encodeQueryPart text
  rw [empty] at decoded
  exact some decoded.symm

end ImportPlanning.Url
