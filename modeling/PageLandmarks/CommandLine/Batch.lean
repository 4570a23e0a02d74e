import PageLandmarks.CommandLine.Arguments
import PageLandmarks.CommandLine.Path
import PageLandmarks.Configuration
import PageLandmarks.Json.Printer

/-!
# PageLandmarks.CommandLine.Batch

**The audit of files.** The files are audited one after another. A file that
cannot be read is noted and skipped; a page that cannot be audited ends the
command, and so does a path that can be none (`Failure`).
Findings are printed as they come, one on a line, or all reports together as one
JSON object at the end. The exit status tells the worst that has happened: 2 for an
unreadable file, 1 for a finding, 0 for neither.

A command that a file ends has no exit status. What it printed about the files
before is out by then: their findings, or nothing where the reports were to come
together (`Interruption`).
-/

namespace PageLandmarks.CommandLine

/-- What a command has to say. -/
structure Outcome where
  /-- The exit status. -/
  exit : Nat
  /-- What goes to standard output. -/
  stdout : String
  /-- What goes to standard error. -/
  stderr : String
  deriving Repr, DecidableEq

/-! ### Usage -/

/-- The usage of the command. -/
def usage : String :=
  "usage: audit_landmarks.py [-h] [--json] [--max-problems MAX_PROBLEMS]\n" ++
  "                          files [files ...]\n"

/-- The help on the command. -/
def help : String :=
  usage ++
  "\n" ++
  "Audit HTML landmark structure.\n" ++
  "\n" ++
  "positional arguments:\n" ++
  "  files                 HTML files to audit\n" ++
  "\n" ++
  "options:\n" ++
  "  -h, --help            show this help message and exit\n" ++
  "  --json                Print reports as JSON\n" ++
  "  --max-problems MAX_PROBLEMS\n" ++
  "                        Findings reported per file (default:\n" ++
  "                        MAX_NUMBER_OF_PROBLEMS)\n"

/-- The outcome of a command whose arguments are wrong. -/
def UsageError.outcome (e : UsageError) : Outcome :=
  ⟨2, "", usage ++ "audit_landmarks.py: error: " ++ e.message ++ "\n"⟩

/-! ### Files -/

/-- Why a file ends the command. -/
inductive Failure
  /-- A page cannot be audited. -/
  | audit (e : AuditError)
  /-- A path holds the character U+0000. -/
  | nullInPath
  deriving Repr, DecidableEq

/-- The wording of a failure. -/
def Failure.message : Failure → String
  | audit e => e.message
  | nullInPath => "embedded null byte"

/-- What the audit of one file has come to. -/
inductive FileResult
  | unreadable (path : String) (e : ReadError)
  | audited (path : String) (report : Report) (notes : List Note)

/-- Audit the file at a path in its normal form, given its content. -/
def auditFile (auditor : Auditor) (limit : Option Limit) (path : String)
    (content : Except ReadError (List UInt8)) : Except Failure FileResult :=
  match content with
  | .error e => .ok (.unreadable path e)
  | .ok bytes =>
    match Text.Utf8.readText bytes with
    | .error e => .ok (.unreadable path (.undecodable e))
    | .ok html =>
      match auditor.audit html limit none with
      | .error e => .error (.audit e)
      | .ok (report, notes) => .ok (.audited path report notes)

/-- Audit the next file of a command. -/
def auditNext (auditor : Auditor) (limit : Option Limit)
    (read : String → Except ReadError (List UInt8)) (file : String) :
    Except Failure FileResult :=
  if (normalPath file).toList.contains '\x00' then .error .nullInPath
  else auditFile auditor limit (normalPath file) (read (normalPath file))

/-- A finding in the file at a path, on a line of its own. -/
def findingLine (path : String) (f : Finding) : String :=
  path ++ ":" ++ toString (f.line.getD 1) ++ ": " ++ f.severity.name ++ ": " ++ f.message ++ "\n"

namespace FileResult

/-- What is worth noting about the file. -/
def notes : FileResult → List Note
  | unreadable path e => [.unreadable path (e.message path)]
  | audited _ _ notes => notes

/-- The findings in the file, each on a line of its own. -/
def lines : FileResult → String
  | unreadable _ _ => ""
  | audited path report _ => String.join (report.findings.map (findingLine path))

/-- The exit status for this file alone. -/
def status : FileResult → Nat
  | unreadable _ _ => 2
  | audited _ report _ => if report.hasFindings then 1 else 0

/-- The report on the file under its path. -/
def keyed? : FileResult → Option (JsonString × Json)
  | unreadable _ _ => none
  | audited path report _ => some (path, report.toJson)

end FileResult

/-! ### The command -/

/-- A command that a file has ended. -/
structure Interruption where
  /-- Why the file ended it. -/
  failure : Failure
  /-- What had gone to standard output by then. -/
  stdout : String
  /-- What had gone to standard error about the files before. -/
  stderr : String
  deriving Repr, DecidableEq

/-- The notes that go to standard error: errors, and with `debug` all of them. -/
def shownNotes (debug : Bool) (notes : List Note) : List Note :=
  notes.filter fun n => debug || n.level == .error

/-- The notes of these results, each on a line of its own. -/
def noteLines (debug : Bool) (results : List FileResult) : String :=
  String.join ((shownNotes debug (results.flatMap FileResult.notes)).map Note.line)

/-- The findings in these results, each on a line of its own. -/
def printedLines (results : List FileResult) : String :=
  String.join (results.map FileResult.lines)

/-- All reports as one object, the last one of each path in its first place. -/
def reportsObject (results : List FileResult) : Json :=
  .object (Assoc.ofOccurrences (results.filterMap FileResult.keyed?))

/-- The outcome of a command with these results. With `debug` everything is
noted. -/
def outcomeOf (debug json : Bool) (results : List FileResult) : Outcome :=
  { exit := (results.map FileResult.status).foldl max 0
    stdout :=
      if json then (reportsObject results).pretty ++ "\n" else printedLines results
    stderr := noteLines debug results }

/-- A command that ended after these results. -/
def interruptionOf (debug json : Bool) (results : List FileResult) (failure : Failure) :
    Interruption :=
  { failure
    stdout := if json then "" else printedLines results
    stderr := noteLines debug results }

/-- Audit the files one after another, until one of them ends the command. The
results of the files before it come with the failure. -/
def auditFiles (auditor : Auditor) (limit : Option Limit)
    (read : String → Except ReadError (List UInt8)) :
    List String → Except (Failure × List FileResult) (List FileResult)
  | [] => .ok []
  | file :: rest => do
    let result ← (auditNext auditor limit read file).mapError fun failure => (failure, [])
    let results ← (auditFiles auditor limit read rest).mapError fun stopped =>
      (stopped.1, result :: stopped.2)
    return result :: results

/-- Run the command with these arguments. -/
def run (configuration : Configuration) (read : String → Except ReadError (List UInt8))
    (argv : List String) : Except Interruption Outcome :=
  match Request.ofArguments argv with
  | .error e => .ok e.outcome
  | .ok .help => .ok ⟨0, help, ""⟩
  | .ok (.audit a) =>
    match auditFiles configuration.auditor a.limit read a.files with
    | .error (failure, results) =>
      .error (interruptionOf configuration.debug a.json results failure)
    | .ok results => .ok (outcomeOf configuration.debug a.json results)

end PageLandmarks.CommandLine
