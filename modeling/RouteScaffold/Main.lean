import RouteScaffold.Command.Process

/-!
The program on the machine that it runs on: the host of files, standard output and standard error,
and the entry point.
-/

namespace RouteScaffold

/-- What the log needs while the program runs. -/
structure LogOutput where
  settings : LogSettings
  filter : LogFilter

/-- Actions on the machine, with the log at hand. -/
abbrev App := ReaderT LogOutput IO

namespace App

def faultOf : IO.Error → IoFault
  | .noFileOrDirectory .. => .notFound
  | .alreadyExists .. => .alreadyExists
  | .userError details => if details.endsWith "UTF-8" then .notText else .other details
  | error => .other (toString error)

/-- An action whose error is a fault of the file system. -/
def guarded {α : Type} (action : IO α) : ExceptT IoFault App α :=
  ExceptT.mk fun _ => do
    try
      let a ← action
      pure (.ok a)
    catch error => pure (.error (faultOf error))

/-- Whether an action ends without an error. -/
def succeeds {α : Type} (action : IO α) : App Bool := fun _ => do
  try
    let _ ← action
    pure true
  catch _ => pure false

instance : Host App where
  holds path := succeeds (IO.FS.Handle.mk path.text .read)
  hasFile path := succeeds do (← IO.FS.Handle.mk path.text .read).read 1
  readText path := guarded (IO.FS.readFile path.text)
  makeDirs path := guarded (if path.text == "" then pure () else IO.FS.createDirAll path.text)
  writeText path contents := guarded (IO.FS.writeFile path.text contents)
  printLine line := fun _ => IO.println line
  log event := fun output => do
    if output.filter.shows event then
      let time ← IO.monoMsNow
      IO.eprintln (event.line output.settings (toString time))

end App

def usage : String :=
  "Usage: routegen <COMMAND> [OPTIONS]\n\n" ++
  "Commands:\n" ++
  "  generate  Generate code for a route graph\n" ++
  "  inspect   Show what is derived from a route graph\n" ++
  "  help      Print this message\n\n" ++
  "Options:\n" ++
  "  -s, --spec <FILE>         Route graph\n" ++
  "  -c, --config <FILE>       Options file\n" ++
  "      --style <FORMAT>      File naming format\n" ++
  "      --root-package <PKG>  Import path of the generated packages\n" ++
  "      --no-auth             Leave out authorization\n" ++
  "      --home <DIR>          Template overrides\n" ++
  "  -o, --output <DIR>        Output root of generate\n" ++
  "      --dry-run             List the files of generate only"

def UsageFault.message : UsageFault → String
  | .help | .noCommand => usage
  | .version => versionLine
  | .unknownCommand => "error: unrecognized command\n\n" ++ usage
  | .unknownArgument => "error: unexpected argument\n\n" ++ usage
  | .missingOption => "error: --spec is required\n\n" ++ usage
  | .badValue => "error: an option needs a value\n\n" ++ usage
  | .repeatedOption => "error: an option is given twice\n\n" ++ usage
  | .unneededValue => "error: an option takes no value\n\n" ++ usage

/-- The environment variables that the program reads. -/
def environmentNames : List String :=
  ["RUST_LOG", CommandLine.homeVariable, "ROUTEGEN_LOG_LEVEL", "ROUTEGEN_LOG_FORMAT",
   "ROUTEGEN_LOG_TARGET_FILTER", "ROUTEGEN_LOG_INCLUDE_LOCATION"]

def readEnvironment : IO Environment :=
  environmentNames.filterMapM fun name => do
    pure ((← IO.getEnv name).map fun value => (name, value))

/-- Tells how a run ended, where that is not seen from its output. -/
def Ending.announce : Ending → IO Unit
  | .done | .misused .version => pure ()
  | .misused fault =>
    if fault.exitCode == 0 then IO.println fault.message else IO.eprintln fault.message
  | .failed fault => do
    match fault.messages Cause.message with
    | [] => pure ()
    | outermost :: causes =>
      IO.eprintln ("Error: " ++ outermost)
      unless causes.isEmpty do
        IO.eprintln "\nCaused by:"
        for cause in causes do
          IO.eprintln ("    " ++ cause)

def runMain (words : List String) : IO UInt32 := do
  let env ← readEnvironment
  let settings := LogSettings.ofEnvironment env
  if (CommandLine.parse env words).isOk then
    for warning in settings.warnings do
      IO.eprintln warning
  let ending ← (runProgram env words : App Ending).run { settings, filter := settings.filter env }
  ending.announce
  pure ending.exitCode.toUInt32

end RouteScaffold

def main (words : List String) : IO UInt32 :=
  RouteScaffold.runMain words
