import ApiShell.Text.Integer
import ApiShell.Text.Quoted

/-! The options of the command line, and how arguments are read. Long options may be cut short
as long as they stay unique, a value may follow an equals sign or a short option at once, short
flags may be joined, and two dashes end the options. -/

namespace ApiShell.CommandLine

/-- What an option does. -/
inductive Action where
  | help
  | output
  | config
  | ignore
  | searchPath
  | noAttributes
  | forceVirtual
  | tabs
  | indent
  | noAliases
  | noBanner
  | verbose
  | quiet
  | logFile
  deriving DecidableEq, Repr

namespace Action

/-- The spellings of each option, in the order of the usage text. -/
def spellings : Action → List String
  | .help => ["-h", "--help"]
  | .output => ["-o", "--output"]
  | .config => ["--config"]
  | .ignore => ["--ignore"]
  | .searchPath => ["--search-path"]
  | .noAttributes => ["--no-assembly-info"]
  | .forceVirtual => ["--force-virtual"]
  | .tabs => ["--tabs"]
  | .indent => ["--indent"]
  | .noAliases => ["--no-aliases"]
  | .noBanner => ["--no-banner"]
  | .verbose => ["-v", "--verbose"]
  | .quiet => ["-q", "--quiet"]
  | .logFile => ["--log-file"]

/-- All options, in the order of the usage text. -/
def all : List Action :=
  [.help, .output, .config, .ignore, .searchPath, .noAttributes, .forceVirtual, .tabs, .indent,
   .noAliases, .noBanner, .verbose, .quiet, .logFile]

/-- Whether an option takes a value. -/
def takesValue : Action → Bool
  | .output | .config | .ignore | .searchPath | .indent | .logFile => true
  | _ => false

/-- How an option is called in messages. -/
def title (a : Action) : String :=
  "/".intercalate a.spellings

end Action

/-- Every spelling with its option. -/
def table : List (String × Action) :=
  Action.all.flatMap fun a => a.spellings.map fun s => (s, a)

/-- What the arguments ask for. -/
structure Arguments where
  library : Option String := none
  output : Option String := none
  config : String := "."
  ignore : Option (List String) := none
  searchPath : Option (List String) := none
  noAttributes : Bool := false
  forceVirtual : Bool := false
  tabs : Bool := false
  indent : Option Int := none
  noAliases : Bool := false
  noBanner : Bool := false
  verbose : Bool := false
  quiet : Bool := false
  logFile : Option String := none
  /-- The options whose value was two dashes, which is no value. -/
  hollow : List Action := []

/-- What cannot be done with an option that has no value: to compare it as a number, to look for
it among names, or to follow it as a path. -/
inductive HollowValue where
  | number
  | name
  | path
  deriving DecidableEq, Repr

/-- The wording of what cannot be done without a value. -/
def HollowValue.message : HollowValue → String
  | .number => "'<' not supported between instances of 'list' and 'int'"
  | .name => "unhashable type: 'list'"
  | .path => "expected str, bytes or os.PathLike object, not list"

/-- Why arguments are refused. -/
inductive ArgumentError where
  | ambiguous (option : String) (spellings : List String)
  | ignoredValue (action : Action) (value : String)
  | missingValue (action : Action)
  | invalidInt (action : Action) (value : String)
  | unrecognized (arguments : List String)
  deriving DecidableEq, Repr

/-- The wording of a refusal. -/
def ArgumentError.message : ArgumentError → String
  | .ambiguous option spellings =>
    "ambiguous option: " ++ option ++ " could match " ++ ", ".intercalate spellings
  | .ignoredValue action value =>
    "argument " ++ action.title ++ ": ignored explicit argument " ++ Text.quoted value
  | .missingValue action => "argument " ++ action.title ++ ": expected one argument"
  | .invalidInt action value =>
    "argument " ++ action.title ++ ": invalid int value: " ++ Text.quoted value
  | .unrecognized arguments => "unrecognized arguments: " ++ " ".intercalate arguments

/-! ## Telling options from values -/

/-- An option as it was written: which one it is, by which spelling, and the value that came
with it, behind an equals sign or at once. -/
structure Written where
  action : Action
  spelling : String
  value : Option String := none

/-- What an argument is. -/
inductive Word where
  /-- The two dashes that end the options. -/
  | dashes
  | value (text : String)
  | option (text : String) (written : Written)
  | unknown (text : String)

/-- Cuts a text at its first equals sign. -/
def cutAtEquals (text : String) : Option (String × String) :=
  let chars := text.toList
  match chars.dropWhile (· ≠ '=') with
  | [] => none
  | _ :: value => some (String.ofList (chars.takeWhile (· ≠ '=')), String.ofList value)

/-- The options that a text with dashes may mean. -/
def meanings (text : String) : List Written :=
  match text.toList with
  | '-' :: '-' :: _ =>
    let (start, value) := match cutAtEquals text with
      | some (start, value) => (start, some value)
      | none => (text, none)
    (table.filter fun (s, _) => Text.startsWith start s).map fun (s, a) =>
      ⟨a, s, value⟩
  | '-' :: letter :: rest =>
    table.filterMap fun (s, a) =>
      if s = String.ofList ['-', letter] then some ⟨a, s, some (String.ofList rest)⟩
      else if Text.startsWith text s then some ⟨a, s, none⟩
      else none
  | _ => []

/-- Whether a text writes a negative number; a line feed may end it. -/
def isNegativeNumber (text : String) : Bool :=
  let chars := match text.toList.reverse with
    | '\n' :: before => before.reverse
    | _ => text.toList
  match chars with
  | '-' :: rest =>
    let whole := rest.takeWhile Text.isDecimalDigit
    match rest.dropWhile Text.isDecimalDigit with
    | [] => !whole.isEmpty
    | '.' :: fraction => !fraction.isEmpty && fraction.all Text.isDecimalDigit
    | _ => false
  | _ => false

/-- What an argument that starts with a dash is, when it is no full spelling. -/
def classifyDashed (text : String) : Except ArgumentError Word :=
  let exactly := (cutAtEquals text).bind fun (s, value) =>
    (table.lookup s).map fun a => (⟨a, s, some value⟩ : Written)
  match exactly with
  | some written => .ok (.option text written)
  | none =>
    match meanings text with
    | [written] => .ok (.option text written)
    | [] =>
      if isNegativeNumber text || text.toList.contains ' ' then .ok (.value text)
      else .ok (.unknown text)
    | many => .error (.ambiguous text (many.map (·.spelling)))

/-- What an argument is, before the end of the options. -/
def classify (text : String) : Except ArgumentError Word :=
  if text = "--" then .ok .dashes
  else match text.toList with
    | '-' :: _ :: _ =>
      match table.lookup text with
      | some a => .ok (.option text ⟨a, text, none⟩)
      | none => classifyDashed text
    | _ => .ok (.value text)

/-- What all arguments are. Behind the two dashes everything is a value. -/
def classifyAll : List String → Except ArgumentError (List Word)
  | [] => .ok []
  | text :: rest => do
    match ← classify text with
    | .dashes => pure (.dashes :: rest.map .value)
    | word =>
      let words ← classifyAll rest
      pure (word :: words)

/-! ## Carrying out options -/

/-- What reading arguments leads to, unless it is refused: what they ask for, or the help
text. -/
inductive Asked where
  | run (arguments : Arguments)
  | help

/-- What two dashes in the place of a value do to the arguments: a log file is then not asked
for, and any other option is left without a value. -/
def hollowOut (a : Arguments) : Action → Arguments
  | .logFile => { a with logFile := none }
  | action => { a with hollow := action :: a.hollow }

/-- The arguments in which a single option is not without a value any more. -/
def fill (a : Arguments) (action : Action) : Arguments :=
  { a with hollow := a.hollow.filter (· ≠ action) }

/-- What a value adds to the arguments. -/
def store (a : Arguments) (action : Action) (value : String) : Except ArgumentError Arguments :=
  if value = "--" then .ok (hollowOut a action)
  else match action with
  | .output => .ok { fill a .output with output := some value }
  | .config => .ok { fill a .config with config := value }
  | .ignore => .ok { a with ignore := some (a.ignore.getD [] ++ [value]) }
  | .searchPath => .ok { a with searchPath := some (a.searchPath.getD [] ++ [value]) }
  | .logFile => .ok { a with logFile := some value }
  | .indent =>
    match Text.integer? value with
    | some n => .ok { fill a .indent with indent := some n }
    | none => .error (.invalidInt .indent value)
  | _ => .ok a

/-- The indentation can be compared with zero. -/
def Arguments.hollowIndent (a : Arguments) : Except HollowValue Unit :=
  if a.hollow.contains .indent then .error .number else .ok ()

/-- The path of the settings can be followed. -/
def Arguments.hollowConfig (a : Arguments) : Except HollowValue Unit :=
  if a.hollow.contains .config then .error .path else .ok ()

/-- What is given on top of the settings has values. -/
def Arguments.hollowOverride (a : Arguments) : Except HollowValue Unit :=
  if a.hollow.contains .ignore then .error .name
  else if a.hollow.contains .searchPath || a.hollow.contains .output then .error .path
  else .ok ()

/-- What a flag adds to the arguments. -/
def raise (a : Arguments) : Action → Arguments
  | .noAttributes => { a with noAttributes := true }
  | .forceVirtual => { a with forceVirtual := true }
  | .tabs => { a with tabs := true }
  | .noAliases => { a with noAliases := true }
  | .noBanner => { a with noBanner := true }
  | .verbose => { a with verbose := true }
  | .quiet => { a with quiet := true }
  | _ => a

/-- The options that a written option means. Short flags may be joined, and the last letter of
them may take what follows as its value. The fuel is more than the number of joined letters. -/
def unjoin : Nat → Written → Except ArgumentError (List Written)
  | 0, written => .ok [written]
  | fuel + 1, written =>
    match written.value with
    | none => .ok [written]
    | some value =>
      if written.action.takesValue then .ok [written]
      else match written.spelling.toList, value.toList with
        | '-' :: second :: _, letter :: rest =>
          let spelling := String.ofList ['-', letter]
          match if second = '-' then none else table.lookup spelling with
          | none => .error (.ignoredValue written.action value)
          | some next => do
            let more := if rest.isEmpty then none else some (String.ofList rest)
            let options ← unjoin fuel ⟨next, spelling, more⟩
            pure ({ written with value := none } :: options)
        | _, _ => .error (.ignoredValue written.action value)

/-- Options with their values; the last one takes the next argument if it needs one. Gives the
options and the arguments behind. -/
def supply : List Written → List Word → Except ArgumentError (List Written × List Word)
  | [], words => .ok ([], words)
  | [last], words =>
    if last.action.takesValue && last.value.isNone then
      match words with
      | .value text :: rest => .ok ([{ last with value := some text }], rest)
      | _ => .error (.missingValue last.action)
    else .ok ([last], words)
  | flag :: more, words => do
    let (done, rest) ← supply more words
    pure (flag :: done, rest)

/-- Carries out options in turn; the help text ends the reading. -/
def carryOut (a : Arguments) : List Written → Except ArgumentError Asked
  | [] => .ok (.run a)
  | written :: rest =>
    if written.action = .help then .ok .help
    else match written.value with
      | some value => do
        let a ← store a written.action value
        carryOut a rest
      | none => carryOut (raise a written.action) rest

/-- Reads classified arguments. The first value is the library; what has no place is
collected. -/
def readWords (a : Arguments) (hasLibrary : Bool) (extras : List String) :
    Nat → List Word → Except ArgumentError Asked
  | 0, _ => .ok (.run a)
  | _ + 1, [] =>
    if extras.isEmpty then .ok (.run a) else .error (.unrecognized extras)
  | fuel + 1, .value text :: rest =>
    if hasLibrary then readWords a true (extras ++ [text]) fuel rest
    else
      -- Dashes right behind the library are taken with it.
      let rest := match rest with
        | .dashes :: more => more
        | more => more
      readWords { a with library := some text } true extras fuel rest
  | fuel + 1, .dashes :: rest =>
    if hasLibrary then readWords a true (extras ++ ["--"]) fuel rest
    else match rest with
      | [] => readWords a true extras fuel []
      | more => readWords a false extras fuel more
  | fuel + 1, .unknown text :: rest => readWords a hasLibrary (extras ++ [text]) fuel rest
  | fuel + 1, .option _ written :: rest => do
    let options ← unjoin ((written.value.getD "").length + 1) written
    let (options, rest) ← supply options rest
    match ← carryOut a options with
    | .help => pure .help
    | .run a => readWords a hasLibrary extras fuel rest

/-- Reads the arguments of a command line. -/
def read (arguments : List String) : Except ArgumentError Asked := do
  let words ← classifyAll arguments
  readWords {} false [] (words.length + 1) words

end ApiShell.CommandLine
