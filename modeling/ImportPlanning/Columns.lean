/-
Lists of column names written in one text with commas between them.
-/
import ImportPlanning.Text.Blank
import ImportPlanning.Text.Pieces

namespace ImportPlanning

open ImportPlanning.Text

/-- The column names of a list: its fields between commas without the blanks around them, and
without the fields that are blank. -/
def splitColumns (columns : String) : List String :=
  ((splitFields ',' columns).map trim).filter fun column => !column.isEmpty

def namesNoColumn (columns : String) : Bool :=
  (splitFields ',' columns).all isBlankText

def joinColumns (columns : List String) : String :=
  ",".intercalate columns

end ImportPlanning
