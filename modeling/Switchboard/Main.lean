import Std.Time.DateTime.Timestamp
import Switchboard.CommandLine
import Switchboard.Console.Session
import Switchboard.MetricsReport

/-!
# The program

Runs the bundled commands over the console until it is interrupted. Lines, files and time are
brought to the session from here, and what it writes is printed.
-/

namespace Switchboard

/-- The state of the program between two looks at the clock. -/
structure Program where
  session : ConsoleSession
  report : MetricsReport
  /-- Where the files of templates are. -/
  base : Option FilePath
  /-- The line that is being read; none after the last one. -/
  reader : Option (Task (Except IO.Error ByteArray))
  /-- When the clock was looked at. -/
  time : Nat

namespace Program

/-- How often files and the clock are looked at, in milliseconds. -/
def pollPeriod : Nat := 100

/-- The files that templates may be configured by, as far as they can be read. -/
def readFiles (base : FilePath) : IO FileTree := do
  let root ← IO.currentDir
  let mut files : FileTree := {}
  if ← (root / base.text).isDir then
    files := files.makeDirectory base.names
  for p in ConsoleSession.candidates base do
    try
      let content ← IO.FS.readBinFile (root / p.text)
      files := files.write p.names content.toList
    catch _ => pure ()
  return files

/-- Settings from a file, or the defaults if there is none. -/
def readSettings (path : String) : IO (Except String RunnerSettings) := do
  try
    let text ← IO.FS.readFile path
    return (RunnerSettings.parse text).mapError SettingsError.message
  catch _ =>
    IO.eprintln s!"{path} not found, using default configuration"
    return .ok {}

/-- The wall clock. -/
def wallClock : IO Timestamp := do
  let nanos := (← Std.Time.Timestamp.now).toNanosecondsSinceUnixEpoch.toInt
  return ⟨nanos / 1000000000, (nanos % 1000000000).toNat⟩

/-- Reads a line in the background. -/
def readLine : IO (Task (Except IO.Error ByteArray)) := do
  let input ← IO.getStdin
  IO.asTask do return (← input.getLine).toUTF8

/-- Prints what a session has written. -/
def flush (s : ConsoleSession) : IO ConsoleSession := do
  let (output, log) := s.written
  output.forM fun line => IO.println line
  (← IO.getStdout).flush
  log.forM fun line => IO.eprintln line.render
  return s.forget

/-- Hears the line that was read, if there is one, and reads the next. -/
def listen (p : Program) : IO Program := do
  match p.reader with
  | none => return p
  | some line =>
    if ← IO.hasFinished line then
      match line.get with
      | .ok bytes =>
        if bytes.isEmpty then return { p with session := p.session.close, reader := none }
        else
          return { p with session := p.session.hear bytes.toList, reader := some (← readLine) }
      | .error _ => return { p with session := p.session.close, reader := none }
    else return p

/-- Runs until the run has ended. -/
partial def serve (p : Program) : IO Unit := do
  IO.sleep pollPeriod.toUInt32
  let time ← IO.monoMsNow
  let p := { p with session := p.session.advance (time - p.time) }
  let p ← match p.base with
    | some base => do pure { p with session := p.session.look base (← readFiles base) }
    | none => pure p
  let p ← p.listen
  let report :=
    { p.report with metrics := p.session.runner.metrics }.advance (time - p.time)
  report.log.forM fun line => IO.eprintln line.render
  let session ← flush p.session
  unless session.runner.isOver do
    serve { p with session, report := { report with log := [] }, time }

/-- Runs the program with options. -/
def run (options : CommandLine) : IO UInt32 := do
  match ← readSettings options.config with
  | .error message => do
    IO.eprintln s!"invalid configuration {options.config}: {message}"
    return 1
  | .ok settings =>
    let here : FilePath := ⟨(← IO.currentDir).toString⟩
    let base := settings.watch.baseDirectory.map fun d => (here.join d).tidy
    let settings := { settings with watch.baseDirectory := base.map FilePath.text }
    let files ← match base with
      | some base => readFiles base
      | none => pure {}
    let session ← flush (.start settings files (← wallClock))
    match session.runner.course with
    | .failed e => do
      IO.eprintln s!"error: {e.message}"
      return 1
    | _ => do
      let report := MetricsReport.start options.reportPeriod
      serve { session, report, base, reader := some (← readLine), time := ← IO.monoMsNow }
      return 0

end Program

end Switchboard

def main (args : List String) : IO UInt32 := do
  match ({} : Switchboard.CommandLine).parse args with
  | .ok options => Switchboard.Program.run options
  | .error e => do
    IO.eprintln s!"error: {e.message}"
    return 2
