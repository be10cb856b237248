import MobileStation.Console.Program

/-!
# The command line

Reads the configuration file named on the command line, then commands from standard input until the
user quits or the input ends.
-/

namespace MobileStation.CommandLine

open Console

/-- What the command line asks for. -/
structure Arguments where
  file : Option String := none
  level : Option LogLevel := none

/-- How the program is called. -/
def usage : String := "usage: " ++ programName ++ " -c FILE [-l LEVEL]"

/-- An argument as words, with a value that is attached to its option taken off. -/
def splitArgument (argument : String) : List String :=
  match argument.toList with
  | '-' :: '-' :: cs =>
    match cs.dropWhile (· ≠ '=') with
    | '=' :: value => ["--" ++ String.ofList (cs.takeWhile (· ≠ '=')), String.ofList value]
    | _ => [argument]
  | '-' :: c :: '=' :: value => [String.ofList ['-', c], String.ofList value]
  | '-' :: c :: d :: value => [String.ofList ['-', c], String.ofList (d :: value)]
  | _ => [argument]

/-- Reads the words of the arguments. -/
def readArguments : List String → Arguments → Except String Arguments
  | [], a => .ok a
  | flag :: value :: rest, a =>
    if flag = "-c" ∨ flag = "--config" then readArguments rest { a with file := some value }
    else if flag = "-l" ∨ flag = "--log-level" then
      match LogLevel.read value with
      | .ok level => readArguments rest { a with level := some level }
      | .error e => .error e
    else .error ("unexpected argument " ++ flag)
  | [flag], _ => .error ("unexpected argument " ++ flag)

/-- The reason for which a file could not be read. -/
def fileError : IO.Error → FileError
  | .noFileOrDirectory .. => .notFound
  | .permissionDenied .. => .permissionDenied
  | .inappropriateType .. => .isDirectory
  | e => .other (toString e)

/-- The contents of a file. -/
def readContents (path : String) : IO (Except FileError String) := do
  try
    let bytes ← IO.FS.readBinFile path
    match String.fromUTF8? bytes with
    | some text => return .ok text
    | none => return .error .notText
  catch e => return .error (fileError e)

/-- Writes the reports that the level lets through. -/
def writeReports (level : LogLevel) (reports : List Report) : IO Unit := do
  for r in reports do
    if r.isShown level then IO.println r.text

/-- Time between two looks at the timers, in milliseconds. -/
def tickInterval : UInt32 := 100

/-- Lets time pass until a line has been read. -/
partial def awaitLine (level : LogLevel) (line : Task (Except IO.Error String)) (p : Program) :
    IO Program := do
  let (reports, p) := p.tick (← IO.monoMsNow)
  writeReports level reports
  if ← IO.hasFinished line then return p
  let pause ← IO.asTask (IO.sleep tickInterval)
  let _ ← IO.waitAny [line.map fun _ => (), pause.map fun _ => ()]
  awaitLine level line p

/-- Answers lines until the user quits or the input ends. -/
partial def loop (level : LogLevel) (input : IO.FS.Stream) (p : Program) : IO Program := do
  let reading ← IO.asTask input.getLine Task.Priority.dedicated
  let p ← awaitLine level reading p
  let line ← IO.ofExcept reading.get
  if line.isEmpty then return p
  let chance ← IO.rand 0 (UInt32.size - 1)
  let (reports, p) := p.readLine (← IO.monoMsNow) chance (line.dropEndWhile (· == '\n')).toString
  writeReports level reports
  if p.isOver then return p else loop level input p

/-- Runs the station of a configuration. -/
def runStation (config : Config) (level : LogLevel) : IO Unit := do
  let (reports, p) := Program.start config
  writeReports level reports
  let p ← loop level (← IO.getStdin) p
  writeReports level p.finish.1

/-- Runs the program. The exit code is 1 if the configuration is refused, and 2 if the arguments
are. -/
def run (args : List String) : IO UInt32 := do
  match readArguments (args.flatMap splitArgument) {} with
  | .error e =>
    IO.eprintln e
    IO.eprintln usage
    return 2
  | .ok ⟨none, _⟩ =>
    IO.eprintln usage
    return 2
  | .ok ⟨some path, level⟩ =>
    match loadConfig path (← readContents path) with
    | .error e =>
      IO.eprintln e.message
      return 1
    | .ok config =>
      runStation config (level.getD config.logLevel)
      return 0

end MobileStation.CommandLine

def main (args : List String) : IO UInt32 := MobileStation.CommandLine.run args
