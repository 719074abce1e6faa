/-
Hiding the password of a database URL.
-/
import ImportPlanning.Url.Printer
import ImportPlanning.Url.Reader

namespace ImportPlanning.Url

/-- Hides the password of a URL. A text that is no URL, and a URL without a password, stay as they
are; a port that is no integer is refused. -/
def maskPassword (source : String) : Except UrlFlaw String :=
  match read source with
  | .error .unreadable => .ok source
  | .error flaw => .error flaw
  | .ok url => if url.password.isNone then .ok source else .ok (text true url)

end ImportPlanning.Url
