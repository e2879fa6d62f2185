import RouteScaffold.Project.Options

/-!
The command line: its commands, its options and what is wrong with a line that does not fit them.

An option that needs a value takes it from the same word or from the next one. Its value is only
looked at when the next option or the end is met, so a fault in between is reported first.
-/

namespace RouteScaffold

inductive Command where
  | generate (args : ProjectArgs) (output : Path) (dryRun : Bool)
  | inspect (args : ProjectArgs)
  deriving DecidableEq, Repr

/-- Why a command line names no command to run; asking for help is one reason. -/
inductive UsageFault where
  | help
  | version
  | noCommand
  | unknownCommand
  | unknownArgument
  | missingOption
  | badValue
  | repeatedOption
  | unneededValue
  deriving DecidableEq, Repr

/-- The exit code of the program for a fault. -/
def UsageFault.exitCode : UsageFault → Nat
  | .help | .version => 0
  | _ => 2

namespace CommandLine

inductive Flag where
  | spec
  | config
  | style
  | rootPackage
  | noAuth
  | home
  | output
  | dryRun
  | help
  deriving DecidableEq, Repr

namespace Flag

def long : Flag → String
  | .spec => "spec"
  | .config => "config"
  | .style => "style"
  | .rootPackage => "root-package"
  | .noAuth => "no-auth"
  | .home => "home"
  | .output => "output"
  | .dryRun => "dry-run"
  | .help => "help"

def short? : Flag → Option Char
  | .spec => some 's'
  | .config => some 'c'
  | .output => some 'o'
  | .help => some 'h'
  | _ => none

def takesValue : Flag → Bool
  | .noAuth | .dryRun | .help => false
  | _ => true

/-- Whether an empty value is refused. -/
def isPath : Flag → Bool
  | .spec | .config | .home | .output => true
  | _ => false

end Flag

/-- The flags of both commands. -/
def projectFlags : List Flag :=
  [.spec, .config, .style, .rootPackage, .noAuth, .home, .help]

def generateFlags : List Flag :=
  projectFlags ++ [.output, .dryRun]

/-- What has been read of a command's options. -/
structure Given where
  values : List (Flag × String) := []
  /-- An option whose value has not been looked at, with the value once it has been read. -/
  pending : Option (Flag × Option String) := none
  deriving DecidableEq, Repr

namespace Given

/-- Takes in the value of an option. -/
def record (given : Given) (flag : Flag) (value : String) : Except UsageFault Given :=
  if flag == .help then .error .help
  else if (given.values.lookup flag).isSome then .error .repeatedOption
  else if flag.isPath && value == "" then .error .badValue
  else .ok { given with values := (flag, value) :: given.values }

/-- Takes in the pending option. -/
def settle (given : Given) : Except UsageFault Given :=
  match given.pending with
  | none => .ok given
  | some (_, none) => .error .badValue
  | some (flag, some value) => { given with pending := none }.record flag value

/-- Begins an option; `attached` is the value in the same word. -/
def begin (given : Given) (flag : Flag) (attached : Option String) : Except UsageFault Given := do
  match flag.takesValue, attached with
  | false, some _ => .error .unneededValue
  | false, none => (← given.settle).record flag ""
  | true, some value => (← given.settle).record flag value
  | true, none => .ok { (← given.settle) with pending := some (flag, none) }

/-- Reads a word of short options; the first one that takes a value takes the rest of the word. -/
def readShort (flags : List Flag) (given : Given) : List Char → Except UsageFault Given
  | [] => .ok given
  | c :: rest =>
    match flags.find? (·.short? == some c) with
    | none => .error .unknownArgument
    | some flag =>
      if flag.takesValue then
        match rest with
        | [] => given.begin flag none
        | '=' :: value => given.begin flag (some (String.ofList value))
        | value => given.begin flag (some (String.ofList value))
      else do
        let given ← given.begin flag none
        given.readShort flags rest

/-- The name of a long option and the value behind its equals sign. -/
def splitLong (word : List Char) : String × Option String :=
  match word.dropWhile (· != '=') with
  | [] => (String.ofList word, none)
  | _ :: value => (String.ofList (word.takeWhile (· != '=')), some (String.ofList value))

def readLong (flags : List Flag) (given : Given) (word : List Char) : Except UsageFault Given :=
  let (name, attached) := splitLong word
  match flags.find? (·.long == name) with
  | none => .error .unknownArgument
  | some flag => given.begin flag attached

/-- Reads a word that is no option; only a waiting option can take it. -/
def readValue (given : Given) (word : String) : Except UsageFault Given :=
  match given.pending with
  | some (flag, none) => .ok { given with pending := some (flag, some word) }
  | _ => .error .unknownArgument

/-- Reads the words of a command. After two dashes no word is an option, and no command takes one. -/
def read (flags : List Flag) (given : Given) : List String → Except UsageFault Given
  | [] => given.settle
  | ["--"] => given.settle
  | word :: words => do
    let given ←
      match word.toList with
      | ['-', '-'] => .error .unknownArgument
      | '-' :: '-' :: long => given.readLong flags long
      | '-' :: c :: short => given.readShort flags (c :: short)
      | _ => given.readValue word
    given.read flags words

def path? (given : Given) (flag : Flag) : Option Path :=
  (given.values.lookup flag).map Path.mk

def has (given : Given) (flag : Flag) : Bool :=
  (given.values.lookup flag).isSome

end Given

/-- The environment variable that stands in for a missing `--home`. -/
def homeVariable : String := "ROUTEGEN_HOME"

/-- Fills a missing template directory from the environment. -/
def withEnvironment (env : List (String × String)) (given : Given) : Except UsageFault Given :=
  match env.lookup homeVariable with
  | some value => if given.has .home then .ok given else given.record .home value
  | none => .ok given

/-- What a command says about its graph. -/
def projectArgs (given : Given) : Except UsageFault ProjectArgs :=
  match given.path? .spec with
  | none => .error .missingOption
  | some graph =>
    .ok
      { graph
        config := given.path? .config
        style := given.values.lookup .style
        rootPackage := given.values.lookup .rootPackage
        noAuth := given.has .noAuth
        home := given.path? .home }

def readGiven (env : List (String × String)) (flags : List Flag) (words : List String) :
    Except UsageFault Given := do
  withEnvironment env (← Given.read flags {} words)

def readGenerate (env : List (String × String)) (words : List String) : Except UsageFault Command := do
  let given ← readGiven env generateFlags words
  let args ← projectArgs given
  .ok (.generate args ((given.path? .output).getD ⟨"."⟩) (given.has .dryRun))

def readInspect (env : List (String × String)) (words : List String) : Except UsageFault Command := do
  .ok (.inspect (← projectArgs (← readGiven env projectFlags words)))

def commandNames : List String := ["generate", "inspect", "help"]

/-- The words after `help` name at most one command. -/
def readHelp : List String → UsageFault
  | [] => .help
  | [name] => if commandNames.contains name then .help else .unknownCommand
  | _ => .unknownCommand

/-- An option in front of the command: only help and the version can be asked for there. -/
def readLeading (word : List Char) : UsageFault :=
  match word with
  | '-' :: '-' :: long =>
    match Given.splitLong long with
    | ("help", none) => .help
    | ("version", none) => .version
    | ("help", some _) | ("version", some _) => .unneededValue
    | _ => .unknownArgument
  | '-' :: 'h' :: _ => .help
  | '-' :: 'V' :: _ => .version
  | '-' :: _ :: _ => .unknownArgument
  | _ => .unknownCommand

/-- The command of a command line. -/
def parse (env : List (String × String)) : List String → Except UsageFault Command
  | [] | ["--"] => .error .noCommand
  | "--" :: word :: _ =>
    .error (if commandNames.contains word then .unknownArgument else .unknownCommand)
  | "generate" :: words => readGenerate env words
  | "inspect" :: words => readInspect env words
  | "help" :: words => .error (readHelp words)
  | word :: _ => .error (readLeading word.toList)

end CommandLine

end RouteScaffold
