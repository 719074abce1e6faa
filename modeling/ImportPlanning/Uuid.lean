/-
Universally unique identifiers: numbers of 128 bits, written as 32 hexadecimal digits in five
groups.
-/
import ImportPlanning.Text.Hex

namespace ImportPlanning

structure Uuid where
  number : Nat
  deriving DecidableEq, Repr

namespace Uuid

def groupSizes : List Nat := [8, 4, 4, 4, 12]

def cutGroups : List Nat → List Char → List String
  | [], _ => []
  | size :: sizes, digits => String.ofList (digits.take size) :: cutGroups sizes (digits.drop size)

def text (uuid : Uuid) : String :=
  "-".intercalate (cutGroups groupSizes (Text.hexDigits 32 uuid.number))

end Uuid
end ImportPlanning
