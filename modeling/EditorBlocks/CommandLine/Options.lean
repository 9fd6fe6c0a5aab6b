import EditorBlocks.Block.Filter
import EditorBlocks.Text.Digit
/-!
Options of the command line, read from its arguments.
-/

namespace EditorBlocks.CommandLine

/-- What options set. -/
inductive Setting
  | blocks
  | registry
  | metadata
  | postId
  | keep
  | drop
  | debug
  | indent
  | logFile
  | verbose
  | help
  deriving DecidableEq, Repr

namespace Setting

def ofLongName? : String → Option Setting
  | "--blocks" => some blocks
  | "--registry" => some registry
  | "--meta" => some metadata
  | "--post-id" => some postId
  | "--include" => some keep
  | "--exclude" => some drop
  | "--debug" => some debug
  | "--indent" => some indent
  | "--log-file" => some logFile
  | "--verbose" => some verbose
  | "--help" => some help
  | _ => none

def ofLetter? : Char → Option Setting
  | 'b' => some blocks
  | 'r' => some registry
  | 'p' => some postId
  | 'i' => some keep
  | 'e' => some drop
  | 'v' => some verbose
  | _ => none

def takesValue : Setting → Bool
  | debug | verbose | help => false
  | _ => true

end Setting

/-- Arguments sorted: the values given to settings, in order, and the arguments that stand alone. -/
structure Given where
  settings : List (Setting × String)
  alone : List String

/-- Why arguments are refused. -/
inductive UsageProblem
  | unknownOption (name : String)
  | missingValue (name : String)
  | unwantedValue (name : String)
  | notWhole (name text : String)
  | missing (name : String)
  | extraArgument (text : String)
  deriving DecidableEq, Repr

def UsageProblem.message : UsageProblem → String
  | unknownOption name => "No such option: " ++ name
  | missingValue name => "Option " ++ name ++ " requires an argument."
  | unwantedValue name => "Option " ++ name ++ " does not take a value."
  | notWhole name text => "Invalid value for " ++ name ++ ": " ++ text ++ " is not a whole number."
  | missing name => "Missing " ++ name ++ "."
  | extraArgument text => "Got unexpected extra argument (" ++ text ++ ")"

namespace Given

def none : Given := ⟨[], []⟩

def add (g : Given) (setting : Setting) (value : String) : Given :=
  { g with settings := g.settings ++ [(setting, value)] }

def addAlone (g : Given) (arg : String) : Given := { g with alone := g.alone ++ [arg] }

end Given

/-- Letters after one hyphen. The first setting among them that takes a value takes the letters
after it, or else the next argument; the flag says that it does the latter. -/
def letters (g : Given) : List Char → Except UsageProblem (Given × Option Setting)
  | [] => .ok (g, .none)
  | c :: rest =>
    match Setting.ofLetter? c with
    | .none => .error (.unknownOption (String.ofList ['-', c]))
    | some setting =>
      if setting.takesValue then
        if rest.isEmpty then .ok (g, some setting)
        else .ok (g.add setting (String.ofList rest), .none)
      else letters (g.add setting "") rest

/-- An option by its long name, perhaps with a value after an equals sign. -/
def longOption (g : Given) (arg : String) : Except UsageProblem (Given × Option Setting) :=
  let name := String.ofList (arg.toList.takeWhile (· != '='))
  let attached := (arg.toList.dropWhile (· != '=')).drop 1
  let isAttached := arg.toList.contains '='
  match Setting.ofLongName? name with
  | .none => .error (.unknownOption name)
  | some setting =>
    match setting.takesValue, isAttached with
    | true, true => .ok (g.add setting (String.ofList attached), .none)
    | true, false => .ok (g, some setting)
    | false, true => .error (.unwantedValue name)
    | false, false => .ok (g.add setting "", .none)

/-- Sorts arguments. A setting that still `wants` its value takes the next argument whatever it is;
after two hyphens all arguments stand alone. -/
def sort (g : Given) (wants : Option Setting) : List String → Except UsageProblem Given
  | [] =>
    match wants with
    | some _ => .error (.missingValue "")
    | .none => .ok g
  | arg :: rest =>
    match wants, arg.toList with
    | some setting, _ => sort (g.add setting arg) .none rest
    | .none, ['-', '-'] => .ok { g with alone := g.alone ++ rest }
    | .none, '-' :: '-' :: _ => do
      let (g, wants) ← longOption g arg
      sort g wants rest
    | .none, '-' :: c :: cs => do
      let (g, wants) ← letters g (c :: cs)
      sort g wants rest
    | .none, _ => sort (g.addAlone arg) .none rest

/-- What the command is asked to do. -/
structure Options where
  content : String
  blocks : String
  registry : String
  metadata : Option String
  postId : Option Int
  filter : BlockFilter
  debug : Bool
  indent : Int
  logFile : Option String
  verbose : Bool
  deriving Repr

namespace Given

def all (g : Given) (setting : Setting) : List String :=
  (g.settings.filter (·.1 = setting)).map (·.2)

/-- The value given last. -/
def last? (g : Given) (setting : Setting) : Option String := (g.all setting).getLast?

def has (g : Given) (setting : Setting) : Bool := !(g.all setting).isEmpty

def required (g : Given) (setting : Setting) (name : String) : Except UsageProblem String :=
  match g.last? setting with
  | some value => .ok value
  | .none => .error (.missing name)

def whole? (g : Given) (setting : Setting) (name : String) : Except UsageProblem (Option Int) :=
  match g.last? setting with
  | .none => .ok .none
  | some text =>
    match Text.parseInt? text with
    | some n => .ok (some n)
    | .none => .error (.notWhole name text)

/-- The names given to a setting, if there are any. -/
def names? (g : Given) (setting : Setting) : Option (List String) :=
  if g.has setting then some (g.all setting) else .none

end Given

/-- The options that arguments give; nothing if they ask for help. -/
def Options.ofArguments (arguments : List String) : Except UsageProblem (Option Options) := do
  let g ← sort .none .none arguments
  if g.has .help then return .none
  let blocks ← g.required .blocks "option '--blocks'"
  let registry ← g.required .registry "option '--registry'"
  let postId ← g.whole? .postId "'--post-id'"
  let indent ← g.whole? .indent "'--indent'"
  match g.alone with
  | [] => .error (.missing "argument 'CONTENT_FILE'")
  | [content] =>
    return some {
      content, blocks, registry, postId
      metadata := g.last? .metadata
      filter := ⟨g.names? .keep, g.names? .drop⟩
      debug := g.has .debug
      indent := indent.getD 2
      logFile := g.last? .logFile
      verbose := g.has .verbose }
  | _ :: extra :: _ => .error (.extraArgument extra)

end EditorBlocks.CommandLine
