/-
The parts of a URL, taken from the left and written one behind the other. A part is taken as it was
written if none of the marks that end it stands in it and one of them, or nothing, stands behind it.
What is taken for a host is neither empty nor reaches behind a slash or a question mark.

User names and passwords are cut off by rules of their own, which are not described here.
-/
import ImportPlanning.Proofs.Text.Fields
import ImportPlanning.Url.Reader

namespace ImportPlanning.Url

open ImportPlanning.Text

/-! ### Cutting -/

/-- The text is empty or begins with one of the marks. -/
def Begins (marks rest : List Char) : Prop :=
  ∀ character, rest.head? = some character → character ∈ marks

theorem Begins.nil (marks : List Char) : Begins marks [] := by
  intro character begins
  cases begins

theorem Begins.cons {marks : List Char} {mark : Char} (isMark : mark ∈ marks) (rest : List Char) :
    Begins marks (mark :: rest) := by
  intro character begins
  rwa [← Option.some.inj begins]

theorem Begins.mono {marks others rest : List Char} (begins : Begins marks rest)
    (within : marks ⊆ others) : Begins others rest :=
  fun character isFirst => within (begins character isFirst)

theorem Begins.head_ne {marks rest : List Char} (begins : Begins marks rest) {mark : Char}
    (other : mark ∉ marks) : rest.head? ≠ some mark :=
  fun isFirst => other (begins mark isFirst)

/-- A text goes on to the first character that stops it. -/
theorem cutBefore_of_begins {stop : Char → Bool} {marks front rest : List Char}
    (goesOn : ∀ character ∈ front, stop character = false) (begins : Begins marks rest)
    (stops : marks.all stop = true) : cutBefore stop (front ++ rest) = (front, rest) := by
  have all : ∀ character ∈ front, (!stop character) = true := by
    intro character present
    rw [goesOn character present]
    rfl
  rw [cutBefore, List.takeWhile_append_of_pos all, List.dropWhile_append_of_pos all]
  cases rest with
  | nil => rw [List.takeWhile_nil, List.dropWhile_nil, List.append_nil]
  | cons mark others =>
      have ends : stop mark = true := List.all_eq_true.mp stops mark (begins mark rfl)
      rw [List.takeWhile_cons, List.dropWhile_cons, ends, Bool.not_true,
        if_neg Bool.false_ne_true, if_neg Bool.false_ne_true, List.append_nil]

theorem cutBefore_append {stop : Char → Bool} {front : List Char} {mark : Char} {back : List Char}
    (goesOn : ∀ character ∈ front, stop character = false) (stops : stop mark = true) :
    cutBefore stop (front ++ mark :: back) = (front, mark :: back) := by
  refine cutBefore_of_begins goesOn (Begins.cons (List.mem_singleton_self mark) back) ?_
  rw [List.all_cons, stops]
  rfl

theorem of_cutBefore {stop : Char → Bool} {characters front rest : List Char}
    (cut : cutBefore stop characters = (front, rest)) :
    characters = front ++ rest ∧ ∀ character ∈ front, stop character = false := by
  obtain ⟨isFront, isRest⟩ := Prod.mk.inj cut
  constructor
  · rw [← isFront, ← isRest]
    exact List.takeWhile_append_dropWhile.symm
  · intro character present
    rw [← isFront] at present
    have passed := List.all_eq_true.mp List.all_takeWhile character present
    rwa [Bool.not_eq_true'] at passed

theorem cutAtLast?_append {mark : Char} {back : List Char} (free : mark ∉ back) (front : List Char) :
    cutAtLast? mark (front ++ mark :: back) = some (front, back) := by
  have none : ∀ {characters : List Char}, mark ∉ characters → cutAtLast? mark characters = none := by
    intro characters free
    induction characters with
    | nil => rfl
    | cons character rest ih =>
        rw [List.mem_cons, not_or] at free
        rw [cutAtLast?, ih free.2]
        exact if_neg fun same => free.1 same.symm
  induction front with
  | nil =>
      rw [List.nil_append, cutAtLast?, none free]
      exact if_pos rfl
  | cons character rest ih => rw [List.cons_append, cutAtLast?, ih]

theorem of_cutAtLast? {mark : Char} {characters front back : List Char}
    (cut : cutAtLast? mark characters = some (front, back)) : characters = front ++ mark :: back := by
  induction characters generalizing front with
  | nil => cases cut
  | cons character rest ih =>
      rw [cutAtLast?] at cut
      split at cut
      · rename_i found later
        cases cut
        rw [ih later]
        rfl
      · split at cut
        · rename_i same
          cases cut
          rw [same]
          rfl
        · cases cut

/-! ### Names -/

/-- A character that may stand in the name of a URL. -/
def inName (character : Char) : Bool :=
  isWord character || character = '+'

/-- What is taken for the name stands at the start, and the mark follows it. -/
theorem takeName?_eq_some_iff {characters name rest : List Char} :
    takeName? characters = some (name, rest) ↔
      name ≠ [] ∧ (∀ character ∈ name, inName character = true) ∧
        characters = name ++ ':' :: '/' :: '/' :: rest := by
  have stop : (fun character => !(isWord character || character = '+')) =
      fun character => !inName character := rfl
  rw [takeName?, stop]
  constructor
  · intro taken
    split at taken
    · rename_i front others cut
      split at taken
      · cases taken
      · rename_i filled
        cases taken
        obtain ⟨whole, named⟩ := of_cutBefore cut
        refine ⟨fun empty => filled (by rw [empty]; rfl), ?_, whole⟩
        intro character present
        have passed := named character present
        rwa [Bool.not_eq_false'] at passed
    · cases taken
  · rintro ⟨filled, named, rfl⟩
    have cut : cutBefore (fun character => !inName character)
        (name ++ ':' :: '/' :: '/' :: rest) = (name, ':' :: '/' :: '/' :: rest) := by
      refine cutBefore_append ?_ (by decide)
      intro character present
      rw [named character present]
      rfl
    rw [cut]
    show (if name.isEmpty then none else some (name, rest)) = _
    rw [if_neg fun empty => filled (List.isEmpty_iff.mp empty)]

/-! ### Hosts -/

/-- The marks that may stand behind a host. -/
def hostMarks : List Char := [':', '/', '?']

/-- A host between its brackets, if it holds a colon. -/
def hostPart : Option (List Char) → List Char
  | none => []
  | some host => if host.contains ':' then '[' :: (host ++ [']']) else host

/-- A host that is read as it is written. -/
structure PlainHost (host : List Char) : Prop where
  filled : host ≠ []
  goesOn : ∀ character ∈ host, endsHost character = false
  noOpening : '[' ∉ host
  noClosing : ']' ∉ host

theorem takeBracketed?_of_head {characters : List Char} (other : characters.head? ≠ some '[') :
    takeBracketed? characters = none := by
  unfold takeBracketed?
  split
  · exact absurd rfl other
  · rfl

/-- A host in brackets is taken up to the closing one, before the port. -/
theorem takeBracketed?_append {host port rest : List Char} (filled : host ≠ [])
    (goesOn : ∀ character ∈ host, endsHost character = false)
    (portGoesOn : ∀ character ∈ port, endsHost character = false) (portFree : ']' ∉ port)
    (begins : Begins ['/', '?'] rest) :
    takeBracketed? ('[' :: (host ++ ']' :: (port ++ rest))) = some (host, port ++ rest) := by
  have cut : cutBefore endsHost (host ++ ']' :: (port ++ rest)) = (host ++ ']' :: port, rest) := by
    have joined : host ++ ']' :: (port ++ rest) = (host ++ ']' :: port) ++ rest := by
      rw [List.append_assoc, List.cons_append]
    rw [joined]
    refine cutBefore_of_begins ?_ begins (by decide)
    intro character member
    rcases List.mem_append.mp member with inHost | behind
    · exact goesOn character inHost
    · rcases List.mem_cons.mp behind with rfl | inPort
      · decide
      · exact portGoesOn character inPort
  rw [takeBracketed?, cut]
  dsimp only
  rw [cutAtLast?_append portFree]
  exact if_neg fun empty => filled (List.isEmpty_iff.mp empty)

/-- A host is taken as it was written, before a port and what follows the port. -/
theorem takeHost_hostPart {host : Option (List Char)}
    (plain : ∀ name, host = some name → PlainHost name) {port rest : List Char}
    (portBegins : Begins [':'] port) (portGoesOn : ∀ character ∈ port, endsHost character = false)
    (portFree : ']' ∉ port) (begins : Begins ['/', '?'] rest) :
    takeHost (hostPart host ++ (port ++ rest)) = (host, port ++ rest) := by
  have behind : Begins hostMarks (port ++ rest) := by
    cases port with
    | nil => exact begins.mono (by decide)
    | cons mark others =>
        have isColon : mark = ':' := List.mem_singleton.mp (portBegins mark rfl)
        rw [isColon]
        exact Begins.cons (by decide) _
  have stops : (hostMarks.all fun mark => mark = ':' || endsHost mark) = true := by decide
  cases host with
  | none =>
      have cut : cutBefore (fun character => character = ':' || endsHost character)
          ([] ++ (port ++ rest)) = ([], port ++ rest) :=
        cutBefore_of_begins (fun _ none => absurd none List.not_mem_nil) behind stops
      rw [List.nil_append] at cut
      rw [hostPart, List.nil_append, takeHost, takeBracketed?_of_head (behind.head_ne (by decide))]
      dsimp only
      rw [cut]
      rfl
  | some name =>
      obtain ⟨filled, goesOn, noOpening, noClosing⟩ := plain name rfl
      rw [hostPart]
      split
      · rw [List.cons_append, List.append_assoc, List.singleton_append, takeHost,
          takeBracketed?_append filled goesOn portGoesOn portFree begins]
      · rename_i noColon
        have notBracketed : (name ++ (port ++ rest)).head? ≠ some '[' := by
          obtain ⟨first, others, rfl⟩ := List.exists_cons_of_ne_nil filled
          intro isFirst
          exact noOpening (by rw [← Option.some.inj isFirst]; exact List.mem_cons_self)
        have cut : cutBefore (fun character => character = ':' || endsHost character)
            (name ++ (port ++ rest)) = (name, port ++ rest) := by
          refine cutBefore_of_begins ?_ behind stops
          intro character member
          have notColon : character ≠ ':' := by
            rintro rfl
            exact noColon (List.contains_iff_mem.mpr member)
          rw [goesOn character member, decide_eq_false notColon]
          rfl
        rw [takeHost, takeBracketed?_of_head notBracketed]
        dsimp only
        rw [cut]
        exact if_neg fun empty => filled (List.isEmpty_iff.mp empty)

/-- What is taken for a host. -/
theorem of_takeHost {characters host rest : List Char}
    (taken : takeHost characters = (some host, rest)) :
    host ≠ [] ∧ ∀ character ∈ host, endsHost character = false := by
  rw [takeHost] at taken
  split at taken
  · rename_i bracketed others found
    cases taken
    unfold takeBracketed? at found
    split at found
    · rename_i inside
      dsimp only at found
      split at found
      · rename_i front back cut
        split at found
        · cases found
        · rename_i filled
          cases found
          refine ⟨fun empty => filled (List.isEmpty_iff.mpr empty), fun character member => ?_⟩
          obtain ⟨_, goesOn⟩ := of_cutBefore (Prod.eta (cutBefore endsHost inside)).symm
          refine goesOn character ?_
          rw [of_cutAtLast? cut]
          exact List.mem_append_left _ member
      · cases found
    · cases found
  · dsimp only at taken
    split at taken
    · cases taken
    · rename_i filled
      cases taken
      refine ⟨fun empty => filled (List.isEmpty_iff.mpr empty), fun character member => ?_⟩
      obtain ⟨_, goesOn⟩ := of_cutBefore (Prod.eta (cutBefore
        (fun character => decide (character = ':') || endsHost character) characters)).symm
      have passed := goesOn character member
      rw [Bool.or_eq_false_iff] at passed
      exact passed.2

/-! ### Parts behind a mark -/

/-- A part behind its mark, if there is one. -/
def marked (mark : Char) : Option (List Char) → List Char
  | none => []
  | some part => mark :: part

theorem Begins.marked {marks rest : List Char} (begins : Begins marks rest) (mark : Char)
    (part : Option (List Char)) : Begins (mark :: marks) (marked mark part ++ rest) := by
  cases part with
  | none => exact begins.mono (List.subset_cons_self mark marks)
  | some characters => exact Begins.cons List.mem_cons_self _

/-- A part behind its mark is taken as it was written. -/
theorem takeAfter_marked {mark : Char} {stop : Char → Bool} {part : Option (List Char)}
    (goesOn : ∀ written, part = some written → ∀ character ∈ written, stop character = false)
    {marks rest : List Char} (begins : Begins marks rest) (stops : marks.all stop = true)
    (other : mark ∉ marks) : takeAfter mark stop (Url.marked mark part ++ rest) = (part, rest) := by
  cases part with
  | none =>
      rw [Url.marked, List.nil_append]
      cases rest with
      | nil => rfl
      | cons first others =>
          have different : first ≠ mark := by
            rintro rfl
            exact other (begins first rfl)
          rw [takeAfter, if_neg different]
  | some written =>
      rw [Url.marked, List.cons_append, takeAfter, if_pos rfl,
        cutBefore_of_begins (goesOn written rfl) begins stops]

end ImportPlanning.Url
