import Handoff.CommandLine
import Std.Time.DateTime.Timestamp
/-!
# The program

Gathers what the command needs from the world, runs it, and shows the result: requests on standard
output, events and errors on standard error.
-/

namespace Handoff

/-- The text of a file; `none` if it cannot be read. -/
def fileText (path : String) : IO (Option String) := do
  try
    return some (← IO.FS.readFile path)
  catch _ =>
    return none

/-- The variables with these names, as far as they are set. -/
def environmentOf (names : List String) : IO Variables := do
  let values ← names.mapM fun name => return (← IO.getEnv name).map (name, ·)
  return values.filterMap id

/-- The text of the lines before the first one that is no text. -/
def leadingText (bytes : ByteArray) : String :=
  let lines := EnvFile.physicalLines bytes.size (bytes.toList.map fun b => Char.ofNat b.toNat)
  let texts := lines.map fun line =>
    String.fromUTF8? ⟨(line.map fun c => c.toNat.toUInt8).toArray⟩
  String.join (texts.takeWhile (·.isSome)).reduceOption

/-- What stands under the name of the environment file in the working directory and in those above
it. -/
def envEntries : IO (List EnvFile.Entry) := do
  let mut entries := []
  let mut directory ← try some <$> IO.currentDir catch _ => pure none
  repeat
    let some here := directory | break
    let path := here / EnvFile.name
    let entry ←
      try
        if (← path.metadata).type == .file then
          pure (.file (leadingText (← IO.FS.readBinFile path)))
        else pure .absent
      catch
        | .noFileOrDirectory .. => pure .absent
        | _ => pure .unreadable
    entries := entries.concat entry
    directory := here.parent
  return entries

end Handoff

open Handoff

/-- Runs the command and waits, unless it is to end once the queue is empty. -/
def main (args : List String) : IO UInt32 := do
  let arguments := Arguments.parse args
  let entries ← envEntries
  let envFile := (EnvFile.find? entries).getD ""
  let environment ← environmentOf (Settings.keys ++ EnvFile.mentioned envFile)
  -- the fixture is the only other file that a run reads
  let fixture ←
    match arguments with
    | .options options => fileText options.fixture
    | _ => pure none
  let started ← Std.Time.Timestamp.now
  let now (i : Nat) : Instant :=
    (Instant.ofNanos? (started.toNanosecondsSinceUnixEpoch.val + i)).getD .epoch
  let result := RunResult.of args environment entries (fun _ => fixture) now
  for event in result.events do
    if event.level ≠ .debug then
      IO.eprintln event.document.print
  for line in result.stdout do
    IO.println line
  if let some message := result.error then
    IO.eprintln message
  (← IO.getStdout).flush
  if let .options options := arguments then
    if result.code = 0 ∧ ¬ options.exitWhenIdle then
      -- only an interruption ends the wait
      repeat IO.sleep 1000
  return result.code.toUInt32
