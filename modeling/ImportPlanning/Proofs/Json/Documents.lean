/-
Documents that are read back from the text that was written for them: plain values, lists of
documents, and mappings of documents with distinct names. Each is written in visible characters on one
line.

Floating-point numbers, and values that are written as strings, are no documents here.
-/
import ImportPlanning.Proofs.Json.Plain
import ImportPlanning.Proofs.Overlay

namespace ImportPlanning.Json

open ImportPlanning.Text

/-! ### Values -/

/-- The members of a mapping with text keys, as entries. -/
def entriesOf (members : List (String × Value)) : Entries :=
  members.map fun member => (.text member.1, member.2)

/-- The values that are read back. -/
inductive IsDocument : Value → Prop
  | null : IsDocument .null
  | boolean (value : Bool) : IsDocument (.boolean value)
  | integer {value : Int} (few : Number.exceedsDigitLimit value = false) :
      IsDocument (.integer value)
  | text (value : String) : IsDocument (.text value)
  | list {items : List Value} (all : ∀ item ∈ items, IsDocument item) : IsDocument (.list items)
  | mapping {members : List (String × Value)} (distinct : (members.map Prod.fst).Nodup)
      (all : ∀ member ∈ members, IsDocument member.2) :
      IsDocument (.mapping (entriesOf members))

/-! ### Items -/

/-- The characters begin with one that is no blank and does not end a list. -/
def Begins (characters : List Char) : Prop :=
  ∃ first others, characters = first :: others ∧ isBlank first = false ∧ first ≠ ']'

theorem skipBlanks_of_begins {characters : List Char} (begins : Begins characters) :
    skipBlanks characters = characters := by
  obtain ⟨first, others, rfl, noBlank, _⟩ := begins
  rw [skipBlanks, List.dropWhile_cons_of_neg (by simp [noBlank])]

theorem skipBlanks_blank {characters : List Char} (begins : Begins characters) :
    skipBlanks (' ' :: characters) = characters := by
  rw [skipBlanks, List.dropWhile_cons_of_pos (by decide)]
  exact skipBlanks_of_begins begins

theorem Begins.append {characters : List Char} (begins : Begins characters) (rest : List Char) :
    Begins (characters ++ rest) := by
  obtain ⟨first, others, rfl, noBlank, noEnd⟩ := begins
  exact ⟨first, others ++ rest, rfl, noBlank, noEnd⟩

theorem begins_of_digit {first : Char} (isDigit : first.isDigit = true) (others : List Char) :
    Begins (first :: others) := by
  refine ⟨first, others, rfl, ?_, ?_⟩
  · have other : ∀ character : Char, character.isDigit = false → first ≠ character :=
      fun _ => ne_of_isDigit isDigit
    simp [isBlank, other]
  · exact ne_of_isDigit isDigit rfl

theorem begins_text {value : Value} (document : IsDocument value) :
    Begins (text value).toList := by
  cases document with
  | null => exact ⟨'n', _, rfl, rfl, by decide⟩
  | boolean value =>
      cases value with
      | true => exact ⟨'t', _, rfl, rfl, by decide⟩
      | false => exact ⟨'f', _, rfl, rfl, by decide⟩
  | @integer value few =>
      rw [text, Number.toList_toString]
      split
      · exact ⟨'-', _, rfl, rfl, by decide⟩
      · obtain ⟨first, others, isFirst⟩ :=
          List.exists_cons_of_ne_nil (Nat.toDigits_ne_nil (n := value.natAbs) (b := 10))
        rw [List.nil_append, isFirst]
        exact begins_of_digit (Number.isDigit_of_mem_toDigits (isFirst ▸ List.mem_cons_self)) others
  | text value =>
      rw [text, toList_stringText]
      exact ⟨'"', _, rfl, rfl, by decide⟩
  | list all =>
      rw [text, String.toList_append, String.toList_append]
      exact ⟨'[', _, rfl, rfl, by decide⟩
  | mapping distinct all =>
      rw [text, String.toList_append, String.toList_append]
      exact ⟨'\x7b', _, rfl, rfl, by decide⟩

/-! ### Lists -/

theorem ends_of_head {next : Char} (isEnd : next = ',' ∨ next = ']' ∨ next = '\x7d')
    (rest : List Char) : Ends (next :: rest) := by
  intro first isFirst
  cases isFirst
  exact isEnd

theorem readItems_last {value : Value} (reads : Reads value) {fuel : Nat}
    (enough : (text value).toList.length ≤ fuel) (rest : List Char) :
    readItems (fuel + 1) ((text value).toList ++ ']' :: rest) = .ok ([value], rest) := by
  rw [readItems, reads fuel _ enough (ends_of_head (.inr (.inl rfl)) rest)]
  rfl

theorem readItems_next {value : Value} (reads : Reads value) {fuel : Nat}
    (enough : (text value).toList.length ≤ fuel) {others : List Char} (begins : Begins others) :
    readItems (fuel + 1) ((text value).toList ++ ',' :: ' ' :: others) =
      (readItems fuel others).map fun read => (value :: read.1, read.2) := by
  rw [readItems, reads fuel _ enough (ends_of_head (.inl rfl) _)]
  show (readItems fuel (skipBlanks (' ' :: others)) >>= _) = _
  rw [skipBlanks_blank begins]
  rfl

/-- The items of a list as they are written. -/
def itemsText (items : List Value) : List Char :=
  (", ".intercalate (itemTexts items)).toList

theorem itemsText_cons_cons (item next : Value) (others : List Value) :
    itemsText (item :: next :: others) =
      (text item).toList ++ ',' :: ' ' :: itemsText (next :: others) := by
  rw [itemsText, itemTexts, itemTexts, String.intercalate_cons_cons, String.toList_append,
    String.toList_append, List.append_assoc]
  rfl

theorem itemsText_singleton (item : Value) : itemsText [item] = (text item).toList := by
  rw [itemsText, itemTexts, itemTexts, String.intercalate_singleton]

theorem begins_itemsText {item : Value} {others : List Value} (document : IsDocument item) :
    Begins (itemsText (item :: others)) := by
  cases others with
  | nil =>
      rw [itemsText_singleton]
      exact begins_text document
  | cons next others =>
      rw [itemsText_cons_cons]
      exact (begins_text document).append _

theorem readItems_itemsText {item : Value} {others : List Value}
    (documents : ∀ entry ∈ item :: others, IsDocument entry)
    (reads : ∀ entry ∈ item :: others, Reads entry) {fuel : Nat}
    (enough : (itemsText (item :: others)).length ≤ fuel) (rest : List Char) :
    readItems (fuel + 1) (itemsText (item :: others) ++ ']' :: rest) =
      .ok (item :: others, rest) := by
  induction others generalizing item fuel with
  | nil =>
      rw [itemsText_singleton] at enough ⊢
      exact readItems_last (reads item List.mem_cons_self) enough rest
  | cons next others ih =>
      rw [itemsText_cons_cons] at enough ⊢
      rw [List.length_append, List.length_cons, List.length_cons] at enough
      obtain ⟨left, rfl⟩ : ∃ left, fuel = left + 1 := ⟨fuel - 1, by omega⟩
      rw [List.append_assoc, List.cons_append, List.cons_append,
        readItems_next (reads item List.mem_cons_self) (by omega)
          ((begins_itemsText (documents next (by simp))).append _),
        ih (fun entry member => documents entry (List.mem_cons_of_mem item member))
          (fun entry member => reads entry (List.mem_cons_of_mem item member)) (by omega)]
      rfl

theorem readValue_list (fuel : Nat) {characters : List Char} (goesOn : Begins characters) :
    readValue (fuel + 1) ('[' :: characters) =
      (readItems fuel characters).map fun read => (.list read.1, read.2) := by
  have noBlanks := skipBlanks_of_begins goesOn
  obtain ⟨first, others, isFirst, _, noEnd⟩ := goesOn
  rw [readValue, noBlanks]
  split
  · exact absurd (List.cons.inj isFirst).1.symm noEnd
  · rfl

theorem reads_list {items : List Value} (documents : ∀ item ∈ items, IsDocument item)
    (reads : ∀ item ∈ items, Reads item) : Reads (.list items) := by
  intro fuel rest enough _
  have written : (text (.list items)).toList = '[' :: (itemsText items ++ [']']) := by
    rw [text, String.toList_append, String.toList_append]
    rfl
  rw [written] at enough ⊢
  rw [List.length_cons, List.length_append, List.length_singleton] at enough
  obtain ⟨left, rfl⟩ : ∃ left, fuel = left + 2 := ⟨fuel - 2, by omega⟩
  rw [List.cons_append, List.append_assoc, List.singleton_append]
  cases items with
  | nil => rfl
  | cons item others =>
      rw [readValue_list _ ((begins_itemsText (documents item List.mem_cons_self)).append _),
        readItems_itemsText documents reads (by omega)]
      rfl

/-! ### Mappings -/

/-- A member of a mapping as it is written. -/
def memberText (name : String) (value : Value) : List Char :=
  '"' :: (name.toList.flatMap stringCharacter ++ '"' :: ':' :: ' ' :: (text value).toList)

theorem readMembers_last (name : String) {value : Value} (begins : Begins (text value).toList)
    (reads : Reads value) {fuel : Nat} (enough : (memberText name value).length ≤ fuel)
    (rest : List Char) :
    readMembers (fuel + 1) (memberText name value ++ '\x7d' :: rest) =
      .ok ([(.text name, value)], rest) := by
  have short : (text value).toList.length ≤ fuel := by
    simp only [memberText, List.length_cons, List.length_append] at enough
    omega
  rw [memberText, List.cons_append, List.append_assoc, List.cons_append, List.cons_append,
    List.cons_append, readMembers]
  dsimp only
  rw [readQuoted_written]
  show (readValue fuel (skipBlanks (' ' :: _)) >>= _) = _
  rw [skipBlanks_blank (begins.append _), reads fuel _ short (ends_of_head (.inr (.inr rfl)) rest)]
  rfl

theorem readMembers_next (name : String) {value : Value} (begins : Begins (text value).toList)
    (reads : Reads value) {fuel : Nat} (enough : (memberText name value).length ≤ fuel)
    {others : List Char} (goesOn : Begins others) :
    readMembers (fuel + 1) (memberText name value ++ ',' :: ' ' :: others) =
      (readMembers fuel others).map fun read => ((.text name, value) :: read.1, read.2) := by
  have short : (text value).toList.length ≤ fuel := by
    simp only [memberText, List.length_cons, List.length_append] at enough
    omega
  rw [memberText, List.cons_append, List.append_assoc, List.cons_append, List.cons_append,
    List.cons_append, readMembers]
  dsimp only
  rw [readQuoted_written]
  show (readValue fuel (skipBlanks (' ' :: _)) >>= _) = _
  rw [skipBlanks_blank (begins.append _), reads fuel _ short (ends_of_head (.inl rfl) _)]
  show (readMembers fuel (skipBlanks (' ' :: others)) >>= _) = _
  rw [skipBlanks_blank goesOn]
  rfl

/-- The members of a mapping as they are written. -/
def membersText (members : List (String × Value)) : List Char :=
  (", ".intercalate (memberTexts (entriesOf members))).toList

theorem toList_memberText (name : String) (value : Value) :
    (stringText (keyText (.text name)) ++ ": " ++ text value).toList = memberText name value := by
  have key : keyText (.text name) = name := rfl
  rw [key, String.toList_append, String.toList_append, toList_stringText, memberText,
    List.cons_append, List.cons_append, List.append_assoc, List.append_assoc]
  rfl

theorem membersText_cons_cons (name : String) (value : Value) (next : String × Value)
    (others : List (String × Value)) :
    membersText ((name, value) :: next :: others) =
      memberText name value ++ ',' :: ' ' :: membersText (next :: others) := by
  rw [membersText, entriesOf, List.map_cons, List.map_cons, memberTexts, memberTexts,
    String.intercalate_cons_cons, String.toList_append, String.toList_append, List.append_assoc,
    toList_memberText]
  rfl

theorem membersText_singleton (name : String) (value : Value) :
    membersText [(name, value)] = memberText name value := by
  rw [membersText, entriesOf, List.map_singleton, memberTexts, memberTexts,
    String.intercalate_singleton, toList_memberText]

/-- Some member begins with the quote of its name. -/
theorem exists_membersText (member : String × Value) (others : List (String × Value)) :
    ∃ characters, membersText (member :: others) = '"' :: characters := by
  obtain ⟨name, value⟩ := member
  cases others with
  | nil => exact ⟨_, membersText_singleton name value⟩
  | cons next others => exact ⟨_, membersText_cons_cons name value next others⟩

theorem begins_membersText (member : String × Value) (others : List (String × Value)) :
    Begins (membersText (member :: others)) := by
  obtain ⟨characters, isText⟩ := exists_membersText member others
  exact ⟨'"', characters, isText, rfl, by decide⟩

theorem readMembers_membersText {member : String × Value} {others : List (String × Value)}
    (documents : ∀ entry ∈ member :: others, IsDocument entry.2)
    (reads : ∀ entry ∈ member :: others, Reads entry.2) {fuel : Nat}
    (enough : (membersText (member :: others)).length ≤ fuel) (rest : List Char) :
    readMembers (fuel + 1) (membersText (member :: others) ++ '\x7d' :: rest) =
      .ok (entriesOf (member :: others), rest) := by
  induction others generalizing member fuel with
  | nil =>
      obtain ⟨name, value⟩ := member
      rw [membersText_singleton] at enough ⊢
      exact readMembers_last name (begins_text (documents _ List.mem_cons_self))
        (reads _ List.mem_cons_self) enough rest
  | cons next others ih =>
      obtain ⟨name, value⟩ := member
      rw [membersText_cons_cons] at enough ⊢
      rw [List.length_append, List.length_cons, List.length_cons] at enough
      obtain ⟨left, rfl⟩ : ∃ left, fuel = left + 1 := ⟨fuel - 1, by omega⟩
      have first : Begins (text value).toList :=
        begins_text (documents (name, value) List.mem_cons_self)
      have isRead : Reads value := reads (name, value) List.mem_cons_self
      rw [List.append_assoc, List.cons_append, List.cons_append,
        readMembers_next name first isRead (by omega) ((begins_membersText next others).append _),
        ih (fun entry later => documents entry (List.mem_cons_of_mem _ later))
          (fun entry later => reads entry (List.mem_cons_of_mem _ later)) (by omega)]
      rfl

theorem insert_of_absent {name : String} {members : List (String × Value)}
    (absent : name ∉ members.map Prod.fst) (value : Value) :
    Entries.insert (.text name) value (entriesOf members) = entriesOf (members ++ [(name, value)]) := by
  induction members with
  | nil => rfl
  | cons member others ih =>
      rw [List.map_cons, List.mem_cons, not_or] at absent
      rw [entriesOf, List.map_cons, Entries.insert, Value.sameAs_text, beq_false_of_ne absent.1]
      exact congrArg (_ :: ·) (ih absent.2)

/-- Members with distinct names are laid one after the other as they stand. -/
theorem overlay_entriesOf {lower upper : List (String × Value)}
    (distinct : ((lower ++ upper).map Prod.fst).Nodup) :
    Entries.overlay (entriesOf lower) (entriesOf upper) = entriesOf (lower ++ upper) := by
  induction upper generalizing lower with
  | nil =>
      rw [List.append_nil]
      rfl
  | cons member others ih =>
      have absent : member.1 ∉ lower.map Prod.fst := by
        rw [List.map_append, List.map_cons, List.nodup_append] at distinct
        exact fun present => distinct.2.2 _ present _ List.mem_cons_self rfl
      rw [List.append_cons] at distinct ⊢
      rw [← ih distinct, ← insert_of_absent absent]
      rfl

theorem ofList_entriesOf {members : List (String × Value)}
    (distinct : (members.map Prod.fst).Nodup) :
    Entries.ofList (entriesOf members) = entriesOf members := by
  rw [← List.nil_append members] at distinct
  exact overlay_entriesOf distinct

theorem reads_mapping {members : List (String × Value)} (distinct : (members.map Prod.fst).Nodup)
    (documents : ∀ member ∈ members, IsDocument member.2)
    (reads : ∀ member ∈ members, Reads member.2) : Reads (.mapping (entriesOf members)) := by
  intro fuel rest enough _
  have written : (text (.mapping (entriesOf members))).toList =
      '\x7b' :: (membersText members ++ ['\x7d']) := by
    rw [text, String.toList_append, String.toList_append]
    rfl
  rw [written] at enough ⊢
  rw [List.length_cons, List.length_append, List.length_singleton] at enough
  obtain ⟨left, rfl⟩ : ∃ left, fuel = left + 2 := ⟨fuel - 2, by omega⟩
  rw [List.cons_append, List.append_assoc, List.singleton_append]
  cases members with
  | nil => rfl
  | cons member others =>
      have short : (membersText (member :: others)).length ≤ left := by omega
      have isRead := readMembers_membersText documents reads short rest
      obtain ⟨characters, isText⟩ := exists_membersText member others
      rw [isText, List.cons_append] at isRead ⊢
      have isMapping : readValue (left + 2) ('\x7b' :: '"' :: (characters ++ '\x7d' :: rest)) =
          (readMembers (left + 1) ('"' :: (characters ++ '\x7d' :: rest))).map fun read =>
            (.mapping (Entries.ofList read.1), read.2) := rfl
      rw [isMapping, isRead, Except.map, ofList_entriesOf distinct]

/-! ### Documents -/

theorem reads_of_isDocument {value : Value} (document : IsDocument value) : Reads value := by
  induction document with
  | null => exact reads_null
  | boolean value => exact reads_boolean value
  | integer few => exact reads_integer few
  | text value => exact reads_text value
  | list all ih => exact reads_list all ih
  | mapping distinct all ih => exact reads_mapping distinct all ih

private theorem visible_toDigits (magnitude : Nat) :
    ∀ character ∈ Nat.toDigits 10 magnitude, Visible character := by
  intro character member
  obtain ⟨low, high⟩ := Number.isDigit_bounds (Number.isDigit_of_mem_toDigits member)
  exact ⟨by omega, by omega⟩

private theorem visible_intercalate {parts : List String}
    (visible : ∀ part ∈ parts, ∀ character ∈ part.toList, Visible character) :
    ∀ character ∈ (", ".intercalate parts).toList, Visible character := by
  induction parts with
  | nil => intro character member; cases member
  | cons part others ih =>
      cases others with
      | nil =>
          rw [String.intercalate_singleton]
          exact visible part List.mem_cons_self
      | cons next others =>
          rw [String.intercalate_cons_cons, String.toList_append, String.toList_append,
            List.forall_mem_append, List.forall_mem_append]
          refine ⟨⟨visible part List.mem_cons_self, visible_of_all (by decide)⟩, ?_⟩
          exact ih fun other later => visible other (List.mem_cons_of_mem part later)

theorem mem_itemTexts {part : String} {items : List Value} (member : part ∈ itemTexts items) :
    ∃ item ∈ items, part = text item := by
  induction items with
  | nil => cases member
  | cons item others ih =>
      rw [itemTexts, List.mem_cons] at member
      rcases member with rfl | later
      · exact ⟨item, List.mem_cons_self, rfl⟩
      · obtain ⟨other, present, isText⟩ := ih later
        exact ⟨other, List.mem_cons_of_mem item present, isText⟩

theorem mem_memberTexts {part : String} {members : List (String × Value)}
    (member : part ∈ memberTexts (entriesOf members)) :
    ∃ entry ∈ members, part.toList = memberText entry.1 entry.2 := by
  induction members with
  | nil => cases member
  | cons entry others ih =>
      rw [entriesOf, List.map_cons, memberTexts, List.mem_cons] at member
      rcases member with rfl | later
      · exact ⟨entry, List.mem_cons_self, toList_memberText entry.1 entry.2⟩
      · obtain ⟨other, present, isText⟩ := ih later
        exact ⟨other, List.mem_cons_of_mem entry present, isText⟩

/-- A document is written on one line, in visible characters. -/
theorem visible_text {value : Value} (document : IsDocument value) :
    ∀ character ∈ (text value).toList, Visible character := by
  induction document with
  | null => exact visible_of_all (by decide)
  | boolean value =>
      cases value with
      | true => exact visible_of_all (by decide)
      | false => exact visible_of_all (by decide)
  | @integer value few =>
      rw [text, Number.toList_toString, List.forall_mem_append]
      refine ⟨?_, visible_toDigits _⟩
      split <;> exact visible_of_all (by decide)
  | text value => exact visible_stringText value
  | list all ih =>
      rw [text, String.toList_append, String.toList_append, List.forall_mem_append,
        List.forall_mem_append]
      refine ⟨⟨visible_of_all (by decide), visible_intercalate ?_⟩, visible_of_all (by decide)⟩
      intro part member
      obtain ⟨item, present, rfl⟩ := mem_itemTexts member
      exact ih item present
  | @mapping members distinct all ih =>
      rw [text, String.toList_append, String.toList_append, List.forall_mem_append,
        List.forall_mem_append]
      refine ⟨⟨visible_of_all (by decide), visible_intercalate ?_⟩, visible_of_all (by decide)⟩
      intro part member
      obtain ⟨entry, present, isText⟩ := mem_memberTexts member
      have named := visible_stringText entry.1
      rw [toList_stringText, List.forall_mem_cons, List.forall_mem_append] at named
      rw [isText, memberText, List.forall_mem_cons, List.forall_mem_append]
      refine ⟨by decide, named.2.1, ?_⟩
      rw [List.forall_mem_cons, List.forall_mem_cons, List.forall_mem_cons]
      exact ⟨by decide, by decide, by decide, ih entry present⟩

theorem newline_not_mem_text {value : Value} (document : IsDocument value) :
    '\n' ∉ (text value).toList := by
  intro member
  exact absurd (visible_text document '\n' member) (by decide)

/-- A document is read back from its text. -/
theorem read_text {value : Value} (document : IsDocument value) :
    read (text value) = .ok value := by
  have begins := begins_text document
  have isRead := reads_of_isDocument document (2 * (text value).toList.length + 2) []
    (by omega) (by intro next isNext; cases isNext)
  have noMark : ∀ others, (text value).toList ≠ '\uFEFF' :: others := by
    intro others isText
    have visible := visible_text document '\uFEFF' (isText ▸ List.mem_cons_self)
    exact absurd visible (by decide)
  have whole : readDocument (text value).toList = .ok value := by
    rw [List.append_nil] at isRead
    rw [readDocument.eq_def]
    split
    · rename_i isText
      exact absurd isText (noMark _)
    · rw [skipBlanks_of_begins begins, isRead]
      rfl
  rw [read]
  dsimp only
  rw [whole]

end ImportPlanning.Json
