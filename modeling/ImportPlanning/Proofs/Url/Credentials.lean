/-
The password in the text of a URL. Coded credentials hold no mark at which a URL is cut, so behind a
user name the password ends where it was meant to end, and it bears on no other part: if the text of
a URL is read back as that URL, then so is the text with any other password.
-/
import ImportPlanning.Proofs.Url.Parts
import ImportPlanning.Proofs.Url.Percent
import ImportPlanning.Text.Blank
import ImportPlanning.Url.Mask

namespace ImportPlanning.Url

open ImportPlanning.Text

/-! ### Coded credentials -/

/-- The marks at which user name and password are cut off. -/
def credentialMarks : List Char := [':', '/', '@']

theorem encode_not_mark (text : String) :
    ∀ character ∈ (encode safeInCredentials text).toList, character ∉ credentialMarks := by
  intro character present mark
  simp only [credentialMarks, List.mem_cons, List.not_mem_nil, or_false] at mark
  rcases mark with rfl | rfl | rfl
  · exact not_mem_encode (by decide) (by decide) (by decide) text present
  · exact not_mem_encode (by decide) (by decide) (by decide) text present
  · exact not_mem_encode (by decide) (by decide) (by decide) text present

/-- Credentials without marks in them are taken as they were written. -/
theorem takeCredentials_append {username password rest : List Char}
    (usernameFree : ∀ character ∈ username, character ∉ credentialMarks)
    (passwordFree : ∀ character ∈ password, character ∉ credentialMarks) :
    takeCredentials (username ++ ':' :: (password ++ '@' :: rest)) =
      (some username, some password, rest) := by
  have cut : cutBefore (fun character => character = ':' || character = '/')
      (username ++ ':' :: (password ++ '@' :: rest)) =
        (username, ':' :: (password ++ '@' :: rest)) := by
    refine cutBefore_append ?_ rfl
    intro character present
    have free := usernameFree character present
    simp only [credentialMarks, List.mem_cons, not_or] at free
    simp [free.1, free.2.1]
  have noSign : '@' ∉ password := by
    intro present
    exact passwordFree '@' present (by decide)
  simp only [takeCredentials, cut, cutAt?_append noSign]

/-- There is no password without a user name. -/
theorem username_of_takeCredentials {characters password rest : List Char}
    {username : Option (List Char)}
    (taken : takeCredentials characters = (username, some password, rest)) : username.isSome := by
  rw [takeCredentials] at taken
  dsimp only at taken
  split at taken
  · split at taken
    · cases taken
      rfl
    · split at taken
      · cases taken
      · cases taken
  · split at taken
    · cases taken
    · cases taken

/-! ### Texts with one password or another -/

def keyed (url : DatabaseUrl) (password : String) : DatabaseUrl :=
  { url with password := some password }

/-- The text of a URL behind its credentials. -/
def tailText (url : DatabaseUrl) : String :=
  hostText url.host ++ portText url.port ++ databaseText url.database ++ queryText url.query

private theorem toList_text_keyed {url : DatabaseUrl} {username : String}
    (named : url.username = some username) (password : String) :
    (text false (keyed url password)).toList =
      url.name.toList ++ ':' :: '/' :: '/' ::
        ((encode safeInCredentials username).toList ++ ':' ::
          ((encode safeInCredentials password).toList ++ '@' :: (tailText url).toList)) := by
  have credentials : credentialsText false (keyed url password).username
      (keyed url password).password =
        encode safeInCredentials username ++ (":" ++ encode safeInCredentials password) ++ "@" := by
    rw [keyed, named]
    rfl
  rw [text, credentials, tailText]
  simp [keyed, String.toList_append]

/-- The parts of a URL of which name and credentials have been taken. -/
def partsAfter (name username password rest : List Char) : Parts :=
  let (host, afterHost) := takeHost rest
  let (port, afterPort) := takeAfter ':' endsHost afterHost
  let (database, afterDatabase) := takeAfter '/' (· = '?') afterPort
  let (query, _) := takeAfter '?' (· = '\n') afterDatabase
  { name, username := some username, password := some password, host, port, database, query }

theorem parts?_of_credentials {characters name username password rest : List Char}
    (taken : takeName? characters = some (name, username ++ ':' :: (password ++ '@' :: rest)))
    (usernameFree : ∀ character ∈ username, character ∉ credentialMarks)
    (passwordFree : ∀ character ∈ password, character ∉ credentialMarks) :
    parts? characters = some (partsAfter name username password rest) := by
  rw [parts?, taken, Option.map_some]
  simp only [takeCredentials_append usernameFree passwordFree]
  rfl

private theorem name_of_ofParts {parts : Parts} {url : DatabaseUrl}
    (read : ofParts parts = .ok url) : parts.name = url.name.toList := by
  rw [ofParts] at read
  cases port : readPort parts.port with
  | error flaw =>
      rw [port] at read
      cases read
  | ok number =>
      rw [port] at read
      cases read
      exact String.toList_ofList.symm

theorem takeName?_of_read {source : String} {url : DatabaseUrl}
    (found : read source = .ok url) :
    ∃ rest, takeName? source.toList = some (url.name.toList, rest) := by
  rw [read, parts?] at found
  cases taken : takeName? source.toList with
  | none =>
      rw [taken] at found
      cases found
  | some cut =>
      obtain ⟨name, rest⟩ := cut
      rw [taken] at found
      have isName : name = url.name.toList := name_of_ofParts found
      exact ⟨rest, by rw [isName]⟩

/-- A URL begins with a character of its name. -/
theorem head_of_read {source : String} {url : DatabaseUrl} (found : read source = .ok url) :
    ∃ character rest, source.toList = character :: rest ∧ character ≠ '-' := by
  obtain ⟨rest, taken⟩ := takeName?_of_read found
  obtain ⟨filled, allowed, whole⟩ := takeName?_eq_some_iff.mp taken
  obtain ⟨character, others, isName⟩ := List.exists_cons_of_ne_nil filled
  rw [isName, List.cons_append] at whole
  refine ⟨character, _, whole, ?_⟩
  rintro rfl
  have inside := allowed '-' (by rw [isName]; exact List.mem_cons_self)
  exact absurd inside (by decide)

/-- Another password changes nothing else in what is read. -/
private theorem ofParts_partsAfter (name username password other rest : List Char) :
    ofParts (partsAfter name username other rest) =
      (ofParts (partsAfter name username password rest)).map (keyed · (decode other)) := by
  rw [ofParts, ofParts]
  show Except.map _ (readPort (partsAfter name username password rest).port) = _
  cases readPort (partsAfter name username password rest).port with
  | error flaw => rfl
  | ok number => rfl

/-- If the text of a URL with a user name is read back as that URL, the text with another password
is read back as the same URL but for the password. -/
theorem read_text_keyed {url : DatabaseUrl} (named : url.username.isSome) {password : String}
    (readBack : read (text false (keyed url password)) = .ok (keyed url password))
    (other : String) :
    ∃ found, read (text false (keyed url other)) = .ok (keyed url found) := by
  obtain ⟨username, named⟩ := Option.isSome_iff_exists.mp named
  -- what was read back shows that the name of the URL may stand in a text
  obtain ⟨rest, taken⟩ := takeName?_of_read readBack
  obtain ⟨filled, allowed, _⟩ := takeName?_eq_some_iff.mp taken
  have partsOf : ∀ secret : String, parts? (text false (keyed url secret)).toList =
      some (partsAfter url.name.toList (encode safeInCredentials username).toList
        (encode safeInCredentials secret).toList (tailText url).toList) := by
    intro secret
    rw [toList_text_keyed named secret]
    exact parts?_of_credentials (takeName?_eq_some_iff.mpr ⟨filled, allowed, rfl⟩)
      (encode_not_mark username) (encode_not_mark secret)
  rw [read, partsOf] at readBack
  refine ⟨decode (encode safeInCredentials other).toList, ?_⟩
  rw [read, partsOf]
  show ofParts _ = _
  rw [ofParts_partsAfter _ _ (encode safeInCredentials password).toList]
  show Except.map _ (ofParts _) = _
  rw [show ofParts _ = _ from readBack]
  rfl

/-- Two texts of one URL that has a user name and whose text is read back: at most the passwords
differ. -/
def SameButPassword (left right : String) : Prop :=
  ∃ (url : DatabaseUrl) (first second : String), url.username.isSome ∧
    read (text false (keyed url first)) = .ok (keyed url first) ∧
    left = text false (keyed url first) ∧ right = text false (keyed url second)

theorem SameButPassword.read {left right : String} (same : SameButPassword left right) :
    ∃ url first second, read left = .ok (keyed url first) ∧
      read right = .ok (keyed url second) := by
  obtain ⟨url, first, second, named, readBack, rfl, rfl⟩ := same
  obtain ⟨found, other⟩ := read_text_keyed named readBack second
  exact ⟨url, first, found, readBack, other⟩

theorem SameButPassword.maskPassword {left right : String} (same : SameButPassword left right) :
    maskPassword left = maskPassword right := by
  obtain ⟨url, first, second, leftRead, rightRead⟩ := same.read
  have masked : ∀ {source : String} {secret : String}, Url.read source = .ok (keyed url secret) →
      Url.maskPassword source = .ok (text true (keyed url secret)) := by
    intro source secret found
    rw [Url.maskPassword, found]
    rfl
  rw [masked leftRead, masked rightRead]
  rfl

theorem text_not_blank (hidePassword : Bool) (url : DatabaseUrl) :
    isBlankText (text hidePassword url) = false := by
  rw [isBlankText, List.all_eq_false]
  refine ⟨':', ?_, by decide⟩
  simp [text, String.toList_append]

theorem SameButPassword.not_blank {left right : String} (same : SameButPassword left right) :
    isBlankText left = false ∧ isBlankText right = false := by
  obtain ⟨url, first, second, _, _, rfl, rfl⟩ := same
  exact ⟨text_not_blank false _, text_not_blank false _⟩

end ImportPlanning.Url
