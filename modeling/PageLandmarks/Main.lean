import PageLandmarks.CommandLine.Batch

/-!
# PageLandmarks.Main

**The command** on real files: settings from the environment and the `.env` file
of the working directory, files from the disk, output to the standard streams.
Everything else is `CommandLine.run`.
-/

namespace PageLandmarks.CommandLine

/-- The variables of the environment that are settings, in capital or in small
letters, and those that the text of the `.env` file refers to. -/
def environment (dotenv : String) : IO (List (String × String)) := do
  let names := Settings.fields.map Settings.Field.name
  let spelled := names ++ names.map Text.lowercase ++ Dotenv.referredNames dotenv
  let found ← spelled.mapM fun name => return (← IO.getEnv name).map fun value => (name, value)
  return found.filterMap id

/-- The text of the `.env` file, empty if there is none. -/
def dotenvText : IO String := do
  try IO.FS.readFile ".env" catch _ => return ""

/-- The content of a file. -/
def readFile (path : String) : IO (Except ReadError (List UInt8)) := do
  let tooLong := pathLimit ≤ path.utf8ByteSize ||
    (components path).any fun name => nameLimit < name.utf8ByteSize
  try
    return .ok (← IO.FS.readBinFile path).toList
  catch e =>
    match e with
    | .inappropriateType _ code _ =>
      return .error (if code = 20 then .notDirectory else .isDirectory)
    | _ => return .error (if tooLong then .nameTooLong else .notFound)

/-- Run the command with these settings. -/
def execute (settings : Settings) (argv : List String) : IO UInt32 := do
  let files := match Request.ofArguments argv with
    | .ok (.audit a) => a.files.map normalPath
    | _ => []
  let contents ← files.mapM fun file => return (file, ← readFile file)
  let read (path : String) := (contents.lookup path).getD (.error .notFound)
  match run (.ofSettings settings) read argv with
  | .ok outcome =>
    (← IO.getStdout).putStr outcome.stdout
    (← IO.getStderr).putStr outcome.stderr
    return UInt32.ofNat outcome.exit
  | .error interruption =>
    (← IO.getStdout).putStr interruption.stdout
    (← IO.getStderr).putStr interruption.stderr
    (← IO.getStderr).putStrLn interruption.failure.message
    return 1

/-- Run the command with the settings there are. Settings that cannot be taken end
it. -/
def start (argv : List String) : IO UInt32 := do
  let dotenv ← dotenvText
  match Settings.resolve { environment := ← environment dotenv, dotenv } with
  | .ok settings => execute settings argv
  | .error errors =>
    for e in errors do
      (← IO.getStderr).putStrLn e.toJson.compact
    return 1

end PageLandmarks.CommandLine

/-- The entry point of the command. -/
def main (argv : List String) : IO UInt32 := PageLandmarks.CommandLine.start argv
