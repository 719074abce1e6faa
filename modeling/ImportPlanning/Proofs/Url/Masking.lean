/-
Masked URLs read back. What was read as a URL is a URL that its text is read back as, so a masked URL
differs from the one that was masked in its password only, and masking it again changes nothing. The
keys of the query come in ascending order.

A host with a square bracket is left out: brackets are put around a host with a colon, and where the
host has brackets of its own, another host may be read.
-/
import ImportPlanning.Proofs.Number.Integer
import ImportPlanning.Proofs.Url.Credentials
import ImportPlanning.Proofs.Url.Query

namespace ImportPlanning.Url

open ImportPlanning.Text

/-! ### Parts that were read -/

/-- There is no square bracket in the host. -/
def BracketFree (url : DatabaseUrl) : Prop :=
  ∀ host, url.host = some host → '[' ∉ host.toList ∧ ']' ∉ host.toList

/-- A URL whose text, if it has a user name, is read back. -/
structure Legible (url : DatabaseUrl) : Prop where
  host : ∀ host, url.host = some host → PlainHost host.toList
  port : ∀ port, url.port = some port → Number.exceedsDigitLimit port = false
  query : Gathered url.query

theorem parts?_of_read {source : String} {url : DatabaseUrl} (found : read source = .ok url) :
    ∃ parts, parts? source.toList = some parts ∧ ofParts parts = .ok url := by
  rw [read] at found
  split at found
  · cases found
  · rename_i parts cut
    exact ⟨parts, cut, found⟩

theorem host_of_parts? {characters : List Char} {parts : Parts} (cut : parts? characters = some parts)
    {host : List Char} (isHost : parts.host = some host) :
    host ≠ [] ∧ ∀ character ∈ host, endsHost character = false := by
  obtain ⟨⟨name, afterName⟩, _, isParts⟩ := Option.map_eq_some_iff.mp cut
  have taken : takeHost (takeCredentials afterName).2.2 =
      (some host, (takeHost (takeCredentials afterName).2.2).2) := by
    rw [← isHost, ← isParts]
  exact of_takeHost taken

theorem username_of_parts? {characters : List Char} {parts : Parts}
    (cut : parts? characters = some parts) (secret : parts.password.isSome) :
    parts.username.isSome := by
  obtain ⟨⟨name, afterName⟩, _, isParts⟩ := Option.map_eq_some_iff.mp cut
  obtain ⟨password, isPassword⟩ := Option.isSome_iff_exists.mp secret
  have taken : takeCredentials afterName =
      (parts.username, some password, (takeCredentials afterName).2.2) := by
    rw [← isPassword, ← isParts]
  exact username_of_takeCredentials taken

theorem readPort_within {part : Option (List Char)} {port : Option Int}
    (found : readPort part = .ok port) :
    ∀ number, port = some number → Number.exceedsDigitLimit number = false := by
  unfold readPort at found
  split at found
  · cases found
    intro number none
    cases none
  · split at found
    · rename_i value isRead
      cases found
      intro number isValue
      rw [← Option.some.inj isValue]
      exact Number.exceedsDigitLimit_of_readInteger isRead
    · cases found

theorem ofParts_eq_ok_iff {parts : Parts} {url : DatabaseUrl} :
    ofParts parts = .ok url ↔ ∃ port, readPort parts.port = .ok port ∧
      url =
        { name := String.ofList parts.name
          username := parts.username.map decode
          password := parts.password.map decode
          host := parts.host.map String.ofList
          port
          database := parts.database.map decode
          query := (parts.query.map readQuery).getD [] } := by
  rw [ofParts]
  cases readPort parts.port with
  | error flaw =>
      constructor
      · intro impossible
        cases impossible
      · rintro ⟨port, impossible, _⟩
        cases impossible
  | ok port =>
      constructor
      · intro found
        exact ⟨port, rfl, (Except.ok.inj found).symm⟩
      · rintro ⟨other, same, rfl⟩
        cases same
        rfl

theorem legible_of_read {source : String} {url : DatabaseUrl} (found : read source = .ok url)
    (free : BracketFree url) : Legible url := by
  obtain ⟨parts, cut, whole⟩ := parts?_of_read found
  obtain ⟨port, isPort, rfl⟩ := ofParts_eq_ok_iff.mp whole
  refine ⟨?_, fun number isNumber => readPort_within isPort number isNumber, ?_⟩
  · intro host isHost
    obtain ⟨noOpening, noClosing⟩ := free host isHost
    obtain ⟨characters, isPart, rfl⟩ := Option.map_eq_some_iff.mp isHost
    obtain ⟨filled, goesOn⟩ := host_of_parts? cut isPart
    rw [String.toList_ofList] at noOpening noClosing ⊢
    exact ⟨filled, goesOn, noOpening, noClosing⟩
  · show Gathered ((parts.query.map readQuery).getD [])
    cases parts.query with
    | none => exact Gathered.nil
    | some characters => exact gathered_readQuery characters

theorem username_of_read {source : String} {url : DatabaseUrl} (found : read source = .ok url)
    (secret : url.password.isSome) : url.username.isSome := by
  obtain ⟨parts, cut, whole⟩ := parts?_of_read found
  obtain ⟨port, _, rfl⟩ := ofParts_eq_ok_iff.mp whole
  rw [Option.isSome_map] at secret ⊢
  exact username_of_parts? cut secret

/-! ### Parts as they are written -/

/-- The query of a text, if the query is not empty. -/
def writtenQuery (query : Query) : Option (List Char) :=
  if query.isEmpty then none else some (bodyText query).toList

theorem toList_hostText (host : Option String) :
    (hostText host).toList = hostPart (host.map String.toList) := by
  cases host with
  | none => rfl
  | some name =>
      rw [hostText, Option.map_some, hostPart]
      split
      · rw [String.toList_append, String.toList_append, List.append_assoc]
        rfl
      · rfl

theorem toList_portText (port : Option Int) :
    (portText port).toList = marked ':' (port.map fun number => (toString number).toList) := by
  cases port with
  | none => rfl
  | some number =>
      rw [portText, String.toList_append]
      rfl

theorem toList_databaseText (database : Option String) :
    (databaseText database).toList =
      marked '/' (database.map fun name => (encode safeInDatabase name).toList) := by
  cases database with
  | none => rfl
  | some name =>
      rw [databaseText, String.toList_append]
      rfl

theorem toList_queryText (query : Query) :
    (queryText query).toList = marked '?' (writtenQuery query) := by
  rw [queryText_eq, writtenQuery]
  split
  · rfl
  · rw [String.toList_append]
    rfl

/-- A port is written with digits and a minus. -/
theorem portText_goesOn {port : Option Int} {character : Char}
    (member : character ∈ (portText port).toList) :
    endsHost character = false ∧ character ≠ ']' := by
  rw [toList_portText] at member
  cases port with
  | none => cases member
  | some number =>
      rcases List.mem_cons.mp member with rfl | inNumber
      · decide
      · rcases Number.mem_toString inNumber with rfl | digit
        · decide
        · refine ⟨?_, fun isBracket => absurd digit (by rw [isBracket]; decide)⟩
          rw [endsHost, Bool.or_eq_false_iff, decide_eq_false_iff_not, decide_eq_false_iff_not]
          exact ⟨fun isSlash => absurd digit (by rw [isSlash]; decide),
            fun isQuestion => absurd digit (by rw [isQuestion]; decide)⟩

theorem toList_tailText (url : DatabaseUrl) :
    (tailText url).toList = (hostText url.host).toList ++ ((portText url.port).toList ++
      ((databaseText url.database).toList ++ (queryText url.query).toList)) := by
  rw [tailText, String.toList_append, String.toList_append, String.toList_append,
    List.append_assoc, List.append_assoc]

section

variable {url : DatabaseUrl}

private theorem begins_queryText : Begins ['?'] (queryText url.query).toList := by
  have begins := (Begins.nil []).marked '?' (writtenQuery url.query)
  rwa [List.append_nil, ← toList_queryText] at begins

private theorem begins_databaseText :
    Begins ['/', '?'] ((databaseText url.database).toList ++ (queryText url.query).toList) := by
  rw [toList_databaseText]
  exact begins_queryText.marked '/' _

private theorem takeHost_tailText (legible : Legible url) :
    takeHost (tailText url).toList = (url.host.map String.toList, (portText url.port).toList ++
      ((databaseText url.database).toList ++ (queryText url.query).toList)) := by
  have portBegins : Begins [':'] (portText url.port).toList := by
    have begins := (Begins.nil []).marked ':'
      (url.port.map fun number => (toString number).toList)
    rwa [List.append_nil, ← toList_portText] at begins
  rw [toList_tailText, toList_hostText]
  apply takeHost_hostPart
  · intro host isHost
    obtain ⟨name, isName, rfl⟩ := Option.map_eq_some_iff.mp isHost
    exact legible.host name isName
  · exact portBegins
  · exact fun character member => (portText_goesOn member).1
  · exact fun member => (portText_goesOn member).2 rfl
  · exact begins_databaseText

private theorem takeAfter_portText :
    takeAfter ':' endsHost ((portText url.port).toList ++
        ((databaseText url.database).toList ++ (queryText url.query).toList)) =
      (url.port.map fun number => (toString number).toList,
        (databaseText url.database).toList ++ (queryText url.query).toList) := by
  rw [toList_portText]
  refine takeAfter_marked ?_ begins_databaseText (by decide) (by decide)
  intro written isWritten character member
  have inText : character ∈ (portText url.port).toList := by
    rw [toList_portText, isWritten]
    exact List.mem_cons_of_mem ':' member
  exact (portText_goesOn inText).1

private theorem takeAfter_databaseText :
    takeAfter '/' (· = '?') ((databaseText url.database).toList ++ (queryText url.query).toList) =
      (url.database.map fun name => (encode safeInDatabase name).toList,
        (queryText url.query).toList) := by
  rw [toList_databaseText]
  refine takeAfter_marked ?_ begins_queryText (by decide) (by decide)
  intro written isWritten character member
  obtain ⟨name, _, rfl⟩ := Option.map_eq_some_iff.mp isWritten
  rw [decide_eq_false_iff_not]
  rintro rfl
  exact not_mem_encode (by decide) (by decide) (by decide) name member

private theorem takeAfter_queryText :
    takeAfter '?' (· = '\n') (queryText url.query).toList = (writtenQuery url.query, []) := by
  rw [toList_queryText, ← List.append_nil (marked '?' (writtenQuery url.query))]
  refine takeAfter_marked ?_ (Begins.nil []) (by decide) (by decide)
  intro written isWritten character member
  rw [writtenQuery] at isWritten
  split at isWritten
  · cases isWritten
  · cases isWritten
    rw [decide_eq_false_iff_not]
    rintro rfl
    exact not_mem_bodyText (by decide) (by decide) (by decide) (by decide) (by decide) _ member

/-- The parts behind the credentials are taken as they were written. -/
theorem partsAfter_tailText (legible : Legible url) (name username password : List Char) :
    partsAfter name username password (tailText url).toList =
      { name
        username := some username
        password := some password
        host := url.host.map String.toList
        port := url.port.map fun number => (toString number).toList
        database := url.database.map fun name => (encode safeInDatabase name).toList
        query := writtenQuery url.query } := by
  rw [partsAfter, takeHost_tailText legible]
  dsimp only
  rw [takeAfter_portText]
  dsimp only
  rw [takeAfter_databaseText]
  dsimp only
  rw [takeAfter_queryText]

end

/-! ### Masked texts -/

/-- A URL whose password is the mask, the keys of its query in ascending order. -/
def hidden (url : DatabaseUrl) : DatabaseUrl :=
  { url with password := some mask, query := sorted url.query }

theorem readPort_written {port : Option Int}
    (few : ∀ number, port = some number → Number.exceedsDigitLimit number = false) :
    readPort (port.map fun number => (toString number).toList) = .ok port := by
  cases port with
  | none => rfl
  | some number =>
      rw [Option.map_some, readPort, String.ofList_toList, Number.readInteger_toString (few number rfl)]

theorem readQuery_written {query : Query} (gathered : Gathered query) :
    ((writtenQuery query).map readQuery).getD [] = sorted query := by
  rw [writtenQuery]
  split
  · rename_i empty
    rw [List.isEmpty_iff.mp empty, sorted, List.mergeSort_nil]
    rfl
  · rename_i filled
    exact readQuery_bodyText gathered fun empty => filled (List.isEmpty_iff.mpr empty)

theorem ofParts_written {url : DatabaseUrl} (legible : Legible url) {username : String}
    (named : url.username = some username) :
    ofParts (partsAfter url.name.toList (encode safeInCredentials username).toList mask.toList
      (tailText url).toList) = .ok (hidden url) := by
  rw [partsAfter_tailText legible, ofParts_eq_ok_iff]
  refine ⟨url.port, readPort_written legible.port, ?_⟩
  have database : (url.database.map fun name => (encode safeInDatabase name).toList).map decode =
      url.database := by
    cases url.database with
    | none => rfl
    | some name => rw [Option.map_some, Option.map_some, decode_encode (by decide)]
  have host : (url.host.map String.toList).map String.ofList = url.host := by
    cases url.host with
    | none => rfl
    | some name => rw [Option.map_some, Option.map_some, String.ofList_toList]
  have maskText : decode mask.toList = mask := by decide
  dsimp only
  rw [hidden, database, host, readQuery_written legible.query, Option.map_some, Option.map_some,
    decode_encode (by decide), maskText, String.ofList_toList, named]

theorem toList_text_masked {url : DatabaseUrl} {username : String}
    (named : url.username = some username) (secret : url.password.isSome) :
    (text true url).toList =
      url.name.toList ++ ':' :: '/' :: '/' ::
        ((encode safeInCredentials username).toList ++ ':' ::
          (mask.toList ++ '@' :: (tailText url).toList)) := by
  obtain ⟨password, isPassword⟩ := Option.isSome_iff_exists.mp secret
  have credentials : credentialsText true url.username url.password =
      encode safeInCredentials username ++ (":" ++ mask) ++ "@" := by
    rw [named, isPassword]
    rfl
  rw [text, credentials, tailText]
  simp [String.toList_append]

/-- The masked text of a URL that was read is read as that URL with the mask for its password. -/
theorem read_text_masked {source : String} {url : DatabaseUrl} (found : read source = .ok url)
    (free : BracketFree url) (secret : url.password.isSome) :
    read (text true url) = .ok (hidden url) := by
  obtain ⟨username, named⟩ := Option.isSome_iff_exists.mp (username_of_read found secret)
  obtain ⟨rest, taken⟩ := takeName?_of_read found
  obtain ⟨filled, allowed, _⟩ := takeName?_eq_some_iff.mp taken
  have taken := takeName?_eq_some_iff.mpr ⟨filled, allowed, toList_text_masked named secret⟩
  have maskFree : ∀ character ∈ mask.toList, character ∉ credentialMarks := by
    have stars : mask.toList = List.replicate 3 '*' := rfl
    intro character member
    rw [stars] at member
    rw [List.eq_of_mem_replicate member]
    decide
  rw [read, parts?_of_credentials taken (encode_not_mark username) maskFree]
  exact ofParts_written (legible_of_read found free) named

/-- A masked URL is written as the URL was. -/
theorem text_hidden (url : DatabaseUrl) (secret : url.password.isSome) :
    text true (hidden url) = text true url := by
  obtain ⟨password, isPassword⟩ := Option.isSome_iff_exists.mp secret
  have credentials : credentialsText true url.username (some mask) =
      credentialsText true url.username url.password := by
    rw [isPassword]
    rfl
  have query : queryText (hidden url).query = queryText url.query := queryText_sorted url.query
  rw [text, text, query]
  show url.name ++ "://" ++ credentialsText true url.username (some mask) ++ hostText url.host ++
    portText url.port ++ databaseText url.database ++ queryText url.query = _
  rw [credentials]

theorem maskPassword_of_password {source : String} {url : DatabaseUrl}
    (found : read source = .ok url) (secret : url.password.isSome) :
    maskPassword source = .ok (text true url) := by
  obtain ⟨password, isPassword⟩ := Option.isSome_iff_exists.mp secret
  rw [maskPassword, found]
  dsimp only
  rw [isPassword]
  rfl

/-- A text that is not a URL with a password comes back as it is, if its port can be read. -/
theorem maskPassword_of_no_password {source : String}
    (noSecret : ∀ url, read source = .ok url → url.password = none) (masked : String) :
    maskPassword source = .ok masked ↔
      masked = source ∧ ∀ port flaw, read source ≠ .error (.badPort port flaw) := by
  rw [maskPassword]
  cases found : read source with
  | error flaw =>
      cases flaw with
      | unreadable =>
          constructor
          · intro same
            exact ⟨(Except.ok.inj same).symm, fun port flaw bad => by cases bad⟩
          · rintro ⟨rfl, _⟩
            rfl
      | badPort port flaw =>
          constructor
          · intro impossible
            cases impossible
          · rintro ⟨_, readable⟩
            exact absurd rfl (readable port flaw)
  | ok url =>
      dsimp only
      rw [noSecret url found]
      constructor
      · intro same
        exact ⟨(Except.ok.inj same).symm, fun port flaw bad => by cases bad⟩
      · rintro ⟨rfl, _⟩
        rfl

/-! ### What masking changes -/

/-- The second URL is the first one with its password masked: the query says the same, in another
order of its keys. -/
structure Hides (url other : DatabaseUrl) : Prop where
  name : other.name = url.name
  username : other.username = url.username
  password : other.password = some mask
  host : other.host = url.host
  port : other.port = url.port
  database : other.database = url.database
  query : other.query.Perm url.query
  keys : (url.query.map Prod.fst).Nodup

/-- Masking changes nothing but the password. A URL with a password is masked, and what is read then is
the same URL with the mask for its password; masking again changes nothing; and a text that is no URL,
or has no password, comes back as it is unless its port is no integer. -/
theorem masking_changes_password_only (source : String) :
    (∀ url, read source = .ok url → url.password.isSome → BracketFree url →
      ∃ masked other, maskPassword source = .ok masked ∧ read masked = .ok other ∧ Hides url other) ∧
    ((∀ url, read source = .ok url → BracketFree url) → ∀ masked, maskPassword source = .ok masked →
      maskPassword masked = .ok masked) ∧
    ((∀ url, read source = .ok url → url.password = none) → ∀ masked,
      maskPassword source = .ok masked ↔
        masked = source ∧ ∀ port flaw, read source ≠ .error (.badPort port flaw)) := by
  refine ⟨?_, ?_, maskPassword_of_no_password⟩
  · intro url found secret free
    refine ⟨text true url, hidden url, maskPassword_of_password found secret,
      read_text_masked found free secret, ?_⟩
    exact
      { name := rfl, username := rfl, password := rfl, host := rfl, port := rfl, database := rfl
        query := perm_sorted url.query
        keys := (legible_of_read found free).query.distinct }
  · intro free masked isMasked
    by_cases secret : ∃ url, read source = .ok url ∧ url.password.isSome
    · obtain ⟨url, found, secret⟩ := secret
      rw [maskPassword_of_password found secret] at isMasked
      cases isMasked
      have again := read_text_masked found (free url found) secret
      rw [maskPassword_of_password again rfl, text_hidden url secret]
    · have noSecret : ∀ url, read source = .ok url → url.password = none := by
        intro url found
        rw [← Option.not_isSome_iff_eq_none]
        exact fun isSecret => secret ⟨url, found, isSecret⟩
      obtain ⟨rfl, _⟩ := (maskPassword_of_no_password noSecret masked).mp isMasked
      exact isMasked

/-- A URL with coded credentials, an address for its host, and a key with two values. -/
theorem masking_changes_password_of_coded_url :
    ∃ url, read "db://us%20er:p%40ss@[::1]:5433/shop%2Fx?b=2&a=1&b=%26" = .ok url ∧
      url.password = some "p@ss" ∧ BracketFree url ∧
      ∃ masked other,
        maskPassword "db://us%20er:p%40ss@[::1]:5433/shop%2Fx?b=2&a=1&b=%26" = .ok masked ∧
          read masked = .ok other ∧ Hides url other ∧ maskPassword masked = .ok masked := by
  have found : read "db://us%20er:p%40ss@[::1]:5433/shop%2Fx?b=2&a=1&b=%26" =
      .ok
        { name := "db", username := some "us er", password := some "p@ss", host := some "::1"
          port := some 5433, database := some "shop/x", query := [("b", ["2", "&"]), ("a", ["1"])] } :=
    rfl
  have free : ∀ url, read "db://us%20er:p%40ss@[::1]:5433/shop%2Fx?b=2&a=1&b=%26" = .ok url →
      BracketFree url := by
    intro url isUrl host isHost
    rw [found] at isUrl
    cases isUrl
    cases isHost
    decide
  obtain ⟨hides, again, _⟩ :=
    masking_changes_password_only "db://us%20er:p%40ss@[::1]:5433/shop%2Fx?b=2&a=1&b=%26"
  obtain ⟨masked, other, isMasked, isRead, hidden⟩ := hides _ found rfl (free _ found)
  exact ⟨_, found, rfl, free _ found, masked, other, isMasked, isRead, hidden,
    again free masked isMasked⟩

/-- The brackets of a host are read as brackets around it. -/
example : maskPassword "db://user:secret@[[x]]" = .ok "db://user:***@[x]" :=
  rfl

end ImportPlanning.Url
