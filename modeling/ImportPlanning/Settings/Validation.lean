/-
Validation of dynamic values against models. A model has named fields; every field that does not fit
is reported, in the order of the fields, and the other keys of a mapping are ignored.

The text of a report is cut: of each problem it has the path and the message, and leaves out what may
follow on its line, the kind of the problem and the value met, and the line with a link.
-/
import ImportPlanning.Text.Utf8
import ImportPlanning.Value.Entries

namespace ImportPlanning

/-! ### Reports -/

inductive ModelName where
  | connection
  | table
  | job
  | plan
  | boundary
  | extraction
  deriving DecidableEq, Repr

def ModelName.title : ModelName → String
  | connection => "ConnectionConfig"
  | table => "TableConfig"
  | job => "ImportJobConfig"
  | plan => "ImportPlan"
  | boundary => "BoundaryResult"
  | extraction => "ExtractionPlan"

inductive Problem where
  | missing
  | notText
  | undecodable
  | notInteger
  | unreadableInteger
  | fractionalInteger
  | infiniteInteger
  | notModel (model : ModelName)
  deriving DecidableEq, Repr

namespace Problem

def code : Problem → String
  | missing => "missing"
  | notText => "string_type"
  | undecodable => "string_unicode"
  | notInteger => "int_type"
  | unreadableInteger => "int_parsing"
  | fractionalInteger => "int_from_float"
  | infiniteInteger => "finite_number"
  | notModel _ => "model_type"

def message : Problem → String
  | missing => "Field required"
  | notText => "Input should be a valid string"
  | undecodable =>
    "Input should be a valid string, unable to parse raw data as a unicode string"
  | notInteger => "Input should be a valid integer"
  | unreadableInteger =>
    "Input should be a valid integer, unable to parse string as an integer"
  | fractionalInteger =>
    "Input should be a valid integer, got a number with a fractional part"
  | infiniteInteger => "Input should be a finite number"
  | notModel model => "Input should be a valid dictionary or instance of " ++ model.title

end Problem

structure Issue where
  location : List String
  problem : Problem
  deriving DecidableEq, Repr

structure ValidationReport where
  model : ModelName
  issues : List Issue
  deriving DecidableEq, Repr

namespace ValidationReport

def text (report : ValidationReport) : String :=
  let count := report.issues.length
  "\n".intercalate
    ((toString count ++
        (if count = 1 then " validation error for " else " validation errors for ") ++
        report.model.title) ::
      report.issues.flatMap fun issue =>
        [".".intercalate issue.location, "  " ++ issue.problem.message])

end ValidationReport

/-! ### Collecting problems -/

/-- A checked value, or all the problems met. -/
abbrev Checked (α : Type) := Except (List Issue) α

namespace Checked

variable {α β : Type}

def problem (found : Problem) : Checked α :=
  .error [⟨[], found⟩]

/-- Gives a function one more checked argument; the problems of both are kept. -/
def apply (function : Checked (α → β)) (argument : Checked α) : Checked β :=
  match function, argument with
  | .ok run, .ok value => .ok (run value)
  | .ok _, .error issues => .error issues
  | .error issues, .ok _ => .error issues
  | .error earlier, .error later => .error (earlier ++ later)

def under (field : String) : Checked α → Checked α
  | .ok value => .ok value
  | .error issues =>
    .error (issues.map fun issue => ⟨field :: issue.location, issue.problem⟩)

def report (model : ModelName) : Checked α → Except ValidationReport α
  | .ok value => .ok value
  | .error issues => .error ⟨model, issues⟩

end Checked

/-! ### Fields -/

/-- Accepts a text, and bytes that decode to one. A view of bytes is not accepted. -/
def checkText : Value → Checked String
  | .text value => .ok value
  | .binary .view _ => .problem .notText
  | .binary _ bytes =>
    match Text.Utf8.decode bytes with
    | .ok value => .ok value
    | .error _ => .problem .undecodable
  | _ => .problem .notText

def checkOptionalText : Value → Checked (Option String)
  | .null => .ok none
  | value => (checkText value).map some

def optionalText (field : String) (entries : Entries) : Checked (Option String) :=
  (checkOptionalText (Entries.get field entries)).under field

def required {α : Type} (field : String) (check : Value → Checked α) (entries : Entries) :
    Checked α :=
  ((match Entries.find? (.text field) entries with
    | some value => check value
    | none => .problem .missing) : Checked α).under field

def checkMapping (model : ModelName) : Value → Checked Entries
  | .mapping entries => .ok entries
  | _ => .problem (.notModel model)

end ImportPlanning
