import PageLandmarks.Limit
import PageLandmarks.Text.Numeral
import PageLandmarks.Text.Quoted

/-!
# PageLandmarks.CommandLine.Arguments

**The arguments of the command.** Every argument is first sorted into options and
plain arguments (`Argument.of`): an option may be shortened as long as one option
alone begins so, a negative number is plain, and so is everything after `--`. The
options then take effect from left to right (`interpret`), the first run of plain
arguments being the files.
-/

namespace PageLandmarks.CommandLine

/-- The options. -/
inductive Flag
  | help
  | json
  | maxProblems
  deriving Repr, DecidableEq

/-- The spellings of all options. -/
def spellings : List (String × Flag) :=
  [("-h", .help), ("--help", .help), ("--json", .json), ("--max-problems", .maxProblems)]

/-- The name of an option in messages. -/
def Flag.name (flag : Flag) : String :=
  "/".intercalate ((spellings.filter fun s => s.2 == flag).map Prod.fst)

/-- What is wrong with the arguments. -/
inductive UsageError
  | ambiguous (argument : String) (candidates : List String)
  | ignoredValue (flag : Flag) (value : String)
  | missingValue (flag : Flag)
  | invalidInt (flag : Flag) (value : String)
  | noFiles
  | unrecognized (arguments : List String)
  deriving Repr, DecidableEq

/-- The wording of a usage error. -/
def UsageError.message : UsageError → String
  | ambiguous argument candidates =>
    "ambiguous option: " ++ argument ++ " could match " ++ ", ".intercalate candidates
  | ignoredValue flag value =>
    "argument " ++ flag.name ++ ": ignored explicit argument " ++ Text.quoted value
  | missingValue flag => "argument " ++ flag.name ++ ": expected one argument"
  | invalidInt flag value =>
    "argument " ++ flag.name ++ ": invalid int value: " ++ Text.quoted value
  | noFiles => "the following arguments are required: files"
  | unrecognized arguments => "unrecognized arguments: " ++ " ".intercalate arguments

/-! ### Sorting -/

/-- An argument by what it is. -/
inductive Argument
  | plain (s : String)
  /-- The first `--`. -/
  | separator
  /-- An option, whether in its short spelling, and the value that it was written
  together with. -/
  | option (flag : Flag) (short : Bool) (value : Option String)
  /-- What looks like an option and is none. -/
  | unknown (s : String)
  deriving Repr, DecidableEq

/-- A negative number, perhaps with a fraction and perhaps before a line feed. -/
def isNegativeNumber (cs : List Char) : Bool :=
  let cs := if cs.getLast? = some '\n' then cs.dropLast else cs
  match cs with
  | '-' :: digits =>
    let fraction := digits.dropWhile Text.isDigit
    match fraction with
    | [] => !digits.isEmpty
    | '.' :: tail => !tail.isEmpty && tail.all Text.isDigit
    | _ => false
  | _ => false

/-- An argument as an option and its value: the parts before and after the first
`=`. -/
def splitValue (s : String) : String × Option String :=
  let name := s.toList.takeWhile (· != '=')
  if name.length = s.length then (s, none)
  else (.ofList name, some (.ofList (s.toList.drop (name.length + 1))))

/-- A spelling with a single hyphen. -/
def isShort (spelling : String) : Bool := !"--".toList.isPrefixOf spelling.toList

/-- The options that an argument can stand for, and its value: a long one that
begins so, or a short one with its value behind it. -/
def candidates (s : String) : List (String × Flag × Option String) :=
  let (name, value) := splitValue s
  if "--".toList.isPrefixOf s.toList then
    (spellings.filter fun o => name.toList.isPrefixOf o.1.toList).map fun o => (o.1, o.2, value)
  else
    spellings.filterMap fun o =>
      if o.1.toList = s.toList.take 2 then some (o.1, o.2, some (.ofList (s.toList.drop 2)))
      else if s.toList.isPrefixOf o.1.toList then some (o.1, o.2, none)
      else none

/-- An argument that begins with a hyphen and has more characters. -/
def optionLike (s : String) : Except UsageError Argument :=
  let (name, value) := splitValue s
  match spellings.lookup s, spellings.lookup name with
  | some flag, _ => .ok (.option flag (isShort s) none)
  | none, some flag => .ok (.option flag (isShort name) value)
  | none, none =>
    match candidates s with
    | [(spelling, flag, value)] => .ok (.option flag (isShort spelling) value)
    | [] =>
      if isNegativeNumber s.toList || s.toList.contains ' ' then .ok (.plain s)
      else .ok (.unknown s)
    | several => .error (.ambiguous s (several.map fun c => c.1))

/-- What an argument is. -/
def Argument.of (s : String) : Except UsageError Argument :=
  if s.toList.head? = some '-' ∧ 1 < s.length then optionLike s else .ok (.plain s)

/-- The arguments by what they are. -/
def sorted : List String → Except UsageError (List Argument)
  | [] => .ok []
  | "--" :: rest => .ok (.separator :: rest.map .plain)
  | s :: rest => do
    let a ← Argument.of s
    let as ← sorted rest
    return a :: as

/-! ### Interpretation -/

/-- What the command is asked to do. -/
structure Arguments where
  /-- The files, as they were given. -/
  files : List String
  /-- Print the reports as JSON. -/
  json : Bool
  /-- The limit on the problems reported for a file, if one is given. -/
  limit : Option Limit
  deriving Repr, DecidableEq

/-- What the arguments amount to. -/
inductive Request
  | help
  | audit (arguments : Arguments)
  deriving Repr, DecidableEq

/-- The arguments interpreted so far. -/
structure Interpreted where
  /-- The files, once there are some. -/
  files : Option (List String) := none
  /-- The reports are to be printed as JSON. -/
  json : Bool := false
  /-- The limit given last. -/
  limit : Option Limit := none
  /-- The arguments that nothing is made of. -/
  extras : List String := []

/-- Take in a run of plain arguments: the files, if there are none yet and the run
is not just a separator. -/
def Interpreted.addPlain (i : Interpreted) (texts : List String) (hasFile : Bool) :
    Interpreted :=
  if i.files.isNone && hasFile then { i with files := some (texts.erase "--") }
  else { i with extras := i.extras ++ texts }

/-- What is left of a value behind `-h`, where further short options may stand. -/
def helpValue : List Char → Except UsageError Request
  | ['h'] => .ok .help
  | 'h' :: rest => helpValue rest
  | cs => .error (.ignoredValue .help (.ofList cs))

/-- The limit that a value stands for. The value `--` is dropped and leaves
nothing. -/
def limitOf (value : String) : Except UsageError Limit :=
  if value = "--" then .ok .unusable
  else
    match Text.ofArgument? value with
    | some n => .ok (.atMost n)
    | none => .error (.invalidInt .maxProblems value)

/-- The request, once all arguments are interpreted. -/
def Interpreted.finish (i : Interpreted) : Except UsageError Request :=
  match i.files with
  | none => .error .noFiles
  | some files =>
    if i.extras.isEmpty then .ok (.audit ⟨files, i.json, i.limit⟩)
    else .error (.unrecognized i.extras)

/-- A run of plain arguments that has begun: its texts in reverse, and whether one
is a file. -/
structure Run where
  /-- The texts, the last one first. -/
  texts : List String := []
  /-- There is more than a separator. -/
  hasFile : Bool := false

/-- Take in the run of plain arguments, if there is one. -/
def Interpreted.close (i : Interpreted) (run : Run) : Interpreted :=
  if run.texts.isEmpty then i else i.addPlain run.texts.reverse run.hasFile

/-- Interpret the arguments from left to right, in a run of plain ones that may
have begun. -/
def interpret (i : Interpreted) (run : Run) : List Argument → Except UsageError Request
  | [] => (i.close run).finish
  | .plain s :: rest => interpret i ⟨s :: run.texts, true⟩ rest
  | .separator :: rest => interpret i ⟨"--" :: run.texts, run.hasFile⟩ rest
  | .unknown s :: rest =>
    let i := i.close run
    interpret { i with extras := i.extras ++ [s] } {} rest
  | .option .help _ none :: _ => .ok .help
  | .option .help true (some value) :: _ => helpValue value.toList
  | .option .help false (some value) :: _ => .error (.ignoredValue .help value)
  | .option .json _ (some value) :: _ => .error (.ignoredValue .json value)
  | .option .json _ none :: rest => interpret { i.close run with json := true } {} rest
  | .option .maxProblems _ (some value) :: rest => do
    let limit ← limitOf value
    interpret { i.close run with limit := some limit } {} rest
  | .option .maxProblems _ none :: .plain value :: rest => do
    let limit ← limitOf value
    interpret { i.close run with limit := some limit } {} rest
  | .option .maxProblems _ none :: _ => .error (.missingValue .maxProblems)

/-- What the arguments of the command amount to. -/
def Request.ofArguments (argv : List String) : Except UsageError Request := do
  interpret {} {} (← sorted argv)

end PageLandmarks.CommandLine
