import Storyline.Options

/-!
# The command line

Rehearses feature files: every step is looked up among no definitions at all, and every
check is put to no prompt, so the transcripts show what a script asks for. The transcripts
go to the standard output. The exit code is 0 if no run has a fault, 1 if one has, and 2 if
the command line cannot be read.
-/

namespace Storyline.Main

/-- How the program is used. -/
def usage : String :=
  "Run feature files against registered steps

Usage: storyline [OPTIONS] [feature]...

Arguments:
  [feature]...  Feature files to run, `.feature` extension may be omitted

Options:
  -l, --label <tag>                Tag text a block has to mention to be run
      --color <auto|always|never>  Coloring policy for a transcript [default: auto]
  -h, --help                       Print help"

/-- What is wrong with a command line, in words. -/
def complaint : OptionProblem → String
  | .unknownArgument => "unexpected argument"
  | .invalidValue => "a value is required"
  | .valueValidation => Coloring.complaint
  | .argumentConflict => "an option cannot be used multiple times"
  | .tooManyValues => "unexpected value"
  | .displayHelp => usage

/-- Why the system does not read a file, in words. -/
def reason : IO.Error → String
  | .noFileOrDirectory .. => "No such file or directory (os error 2)"
  | .inappropriateType _ 21 _ => "Is a directory (os error 21)"
  | .inappropriateType .. => "Not a directory (os error 20)"
  | error => toString error

/-- The text of a file, or the reason why there is none. -/
def readFile (path : String) : IO (Except String String) := do
  if path.contains '\x00' then return .error "file name contained an unexpected NUL byte"
  match ← (IO.FS.readBinFile path).toBaseIO with
  | .error error => return .error (reason error)
  | .ok content =>
      match String.fromUTF8? content with
      | some text => return .ok text
      | none => return .error "stream did not contain valid UTF-8"

/-- Runs the feature files of a command line. Says whether every run succeeded. -/
def runFiles (options : Options) : IO Bool := do
  let paths := options.features.map Path.resolve
  let texts ← paths.mapM fun path => return (path, ← readFile path)
  let read path := (texts.lookup path).getD (.error "No such file or directory (os error 2)")
  let interpreter : Interpreter Unit := { coloring := options.coloring }
  let output ← IO.getStdout
  let console := Console.ansi (← output.isTty)
  let reports := (options.run interpreter read ()).map (interpreter.report console)
  for report in reports do
    output.putStr report.transcript
  return reports.all (·.success)

end Storyline.Main

/-- Runs the program. -/
def main (arguments : List String) : IO UInt32 := do
  match Storyline.Options.parse arguments with
  | .ok options => return if ← Storyline.Main.runFiles options then 0 else 1
  | .error .displayHelp => do
      IO.println Storyline.Main.usage
      return 0
  | .error problem => do
      IO.eprintln ("error: " ++ Storyline.Main.complaint problem)
      return 2
