/-
Reading arguments. Every word is first classified by the options of the scope, and only then are
values given to options: an option takes its value from its own word after an equals sign, or from
the next word, which must be an operand. The first operand of the program is a command, which reads
all that follows by its own options.
-/
import ImportPlanning.CommandLine.Options
import ImportPlanning.Text.Digit
import ImportPlanning.Text.Pieces

namespace ImportPlanning.CommandLine

open ImportPlanning.Text

/-! ### Words -/

/-- What a word holds after the name of an option: text after an equals sign, or text that joins a
short name. -/
inductive Attachment where
  | nothing
  | afterSign (text : String)
  | joined (text : String)
  deriving DecidableEq, Repr

def Attachment.text? : Attachment → Option String
  | nothing => none
  | afterSign text => some text
  | joined text => some text

structure FoundOption where
  option : CommandOption
  name : String
  attached : Attachment
  deriving DecidableEq, Repr

inductive WordKind where
  | operand
  | separator
  | option (found : FoundOption)
  | unknownOption
  deriving DecidableEq, Repr

abbrev Word := String × WordKind

def separatorWord : String := "--"

def isDigit (character : Char) : Bool :=
  (digitValue? character).isSome

def isPlainNumber (characters : List Char) : Bool :=
  match cutAt? '.' characters with
  | none => !characters.isEmpty && characters.all isDigit
  | some (whole, fraction) =>
    whole.all isDigit && !fraction.isEmpty && fraction.all isDigit

/-- A negative number; a line feed may follow it. -/
def isNegativeNumber : List Char → Bool
  | '-' :: rest =>
    isPlainNumber (if rest.getLast? = some '\n' then rest.dropLast else rest)
  | _ => false

def optionNamed? (scope : Scope) (name : String) : Option CommandOption :=
  scope.optionNames.lookup name

def cutAttached (word : String) : String × Attachment :=
  match cutAt? '=' word.toList with
  | some (name, attached) => (String.ofList name, .afterSign (String.ofList attached))
  | none => (word, .nothing)

def exactOption? (scope : Scope) (word : String) : Option FoundOption :=
  match optionNamed? scope word with
  | some option => some ⟨option, word, .nothing⟩
  | none =>
    let (name, attached) := cutAttached word
    (optionNamed? scope name).map fun option => ⟨option, name, attached⟩

def optionsFrom (scope : Scope) (start : String) (attached : Attachment) : List FoundOption :=
  (scope.optionNames.filter fun entry => start.toList.isPrefixOf entry.1.toList).map
    fun entry => ⟨entry.2, entry.1, attached⟩

/-- The options that an abbreviated word may mean. After one hyphen the first character alone may be
the name, and the rest is attached to it. -/
def candidates (scope : Scope) (word : String) : List FoundOption :=
  match word.toList with
  | '-' :: '-' :: _ => optionsFrom scope (cutAttached word).1 (cutAttached word).2
  | '-' :: letter :: rest =>
    let short := String.ofList ['-', letter]
    match optionNamed? scope short with
    | some option => [⟨option, short, .joined (String.ofList rest)⟩]
    | none => []
  | _ => []

/-- Is a word that names no option an operand all the same? A negative number is, and so is a word
with a blank in it. -/
def isOperandLike (word : String) : Bool :=
  isNegativeNumber word.toList || word.toList.contains ' '

def classifyHyphenated (scope : Scope) (word : String) : Except UsageProblem WordKind :=
  match exactOption? scope word, candidates scope word with
  | some found, _ => .ok (.option found)
  | none, [found] => .ok (.option found)
  | none, [] => .ok (if isOperandLike word then .operand else .unknownOption)
  | none, several => .error (.ambiguous word (several.map FoundOption.name))

def classify (scope : Scope) (word : String) : Except UsageProblem WordKind :=
  match word.toList with
  | '-' :: _ :: _ => classifyHyphenated scope word
  | _ => .ok .operand

def classifyAll (scope : Scope) : List String → Except UsageProblem (List Word)
  | [] => .ok []
  | word :: rest =>
    if word = separatorWord then
      .ok ((word, .separator) :: rest.map fun operand => (operand, .operand))
    else do
      let kind ← classify scope word
      let kinds ← classifyAll scope rest
      .ok ((word, kind) :: kinds)

/-! ### Options and their values -/

/-- What has been read: the values of options, the last one first, and the words that mean
nothing. -/
structure Gathered where
  values : List (CommandOption × String)
  extras : List String
  deriving Repr

namespace Gathered

def empty : Gathered := ⟨[], []⟩

def assign (option : CommandOption) (value : String) (gathered : Gathered) : Gathered :=
  { gathered with values := (option, value) :: gathered.values }

def leave (word : String) (gathered : Gathered) : Gathered :=
  { gathered with extras := gathered.extras ++ [word] }

/-- The value of an option, if it was given. The last one given counts. -/
def value? (option : CommandOption) (gathered : Gathered) : Option String :=
  gathered.values.lookup option

def missing (scope : Scope) (gathered : Gathered) : List CommandOption :=
  scope.options.filter fun option =>
    option.isRequired && (gathered.value? option).isNone

end Gathered

/-- How the letters that join a short option interrupt the reading. Each may name another option
without a value; the first that does not is left over, and help is shown all the same. -/
def interruptCluster (scope : Scope) (option : CommandOption) : List Char → Interruption
  | [] => .help scope
  | letter :: rest =>
    if letter = '-' then .problem scope (.valueIgnored option (String.ofList (letter :: rest)))
    else
      match optionNamed? scope (String.ofList ['-', letter]), rest with
      | some next, '=' :: value => .problem scope (.valueIgnored next (String.ofList value))
      | some next, _ => interruptCluster scope next rest
      | none, _ => .help scope

def interrupt (scope : Scope) (found : FoundOption) : Interruption :=
  match found.attached with
  | .nothing => .help scope
  | .afterSign text => .problem scope (.valueIgnored found.option text)
  | .joined text => interruptCluster scope found.option text.toList

/-- Is a word where the reading of a scope's own options ends? For the program that is the command:
an operand, or a separator with an operand after it. -/
def endsOptions (scope : Scope) (kind : WordKind) (rest : List Word) : Bool :=
  match scope, kind with
  | .program, .operand => true
  | .program, .separator => !rest.isEmpty
  | _, _ => false

def gather (scope : Scope) :
    (gathered : Gathered) → List Word → Except Interruption (Gathered × List Word)
  | gathered, [] => .ok (gathered, [])
  | gathered, (word, kind) :: rest =>
    match kind with
    | .option found =>
      if found.option.takesValue then
        match found.attached.text? with
        | some attached => gather scope (gathered.assign found.option attached) rest
        | none =>
          match rest with
          | (value, .operand) :: others =>
            gather scope (gathered.assign found.option value) others
          | _ => .error (.problem scope (.valueExpected found.option))
      else .error (interrupt scope found)
    | _ =>
      if endsOptions scope kind rest then .ok (gathered, (word, kind) :: rest)
      else gather scope (gathered.leave word) rest

def readScope (scope : Scope) (arguments : List String) :
    Except Interruption (Gathered × List Word) :=
  match classifyAll scope arguments with
  | .error problem => .error (.problem scope problem)
  | .ok words => gather scope .empty words

/-! ### Invocations -/

structure JobInvocation where
  command : Command
  config : String
  driver : Option String
  connectionString : Option String
  deriving DecidableEq, Repr

structure Invocation where
  logLevel : Option String
  job : Option JobInvocation
  deriving DecidableEq, Repr

/-- The invocation of a command with the options that were gathered, with the words left over. The
required options must be there. -/
def jobOf (command : Command) (gathered : Gathered) :
    Except Interruption (JobInvocation × List String) :=
  match gathered.value? .config with
  | none =>
    .error
      (.problem (.command command) (.optionsMissing (gathered.missing (.command command))))
  | some config =>
    .ok
      ({ command
         config
         driver := gathered.value? .driver
         connectionString := gathered.value? .connectionString }, gathered.extras)

def readJob (word : String) (arguments : List String) :
    Except Interruption (JobInvocation × List String) :=
  match Command.ofName? word with
  | none => .error (.problem .program (.unknownCommand word))
  | some command => do
    let (gathered, _) ← readScope (.command command) arguments
    jobOf command gathered

def readOptionalJob : List Word → Except Interruption (Option JobInvocation × List String)
  | [] => .ok (none, [])
  | (word, _) :: rest => do
    let (job, extras) ← readJob word (rest.map Prod.fst)
    .ok (some job, extras)

def read (arguments : List String) : Except Interruption Invocation := do
  let (gathered, rest) ← readScope .program arguments
  let (job, extras) ← readOptionalJob rest
  match gathered.extras ++ extras with
  | [] => .ok { logLevel := gathered.value? .logLevel, job }
  | words => .error (.problem .program (.unrecognized words))

end ImportPlanning.CommandLine
