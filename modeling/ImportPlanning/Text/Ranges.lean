/-
Sets of characters given by tables of code point ranges.
-/

namespace ImportPlanning.Text

/-- Does `code` lie in one of the closed ranges? The ranges ascend, so the search stops at the
first one that begins after `code`. -/
def inRanges (code : Nat) : List (Nat × Nat) → Bool
  | [] => false
  | (low, high) :: rest => if code < low then false else code ≤ high || inRanges code rest

end ImportPlanning.Text
