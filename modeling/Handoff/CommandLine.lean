import Handoff.EnvFile
import Handoff.Fixture
import Handoff.Loop
import Handoff.Wiring
/-!
# The command

The command reads a fixture, queues its references and runs a consumer whose dispatcher prints each
request as a line of JSON. Asked to, it ends once the queue is empty; otherwise it waits to be
interrupted.

* `Options.parse`: what the arguments ask for.
* `Plan.make`: all that comes before the loop, or the message with which the command fails.
* `Plan.output`: the lines printed until the queue is empty.
* `RunResult.of`: a whole run.
-/

namespace Handoff

/-! ## Arguments -/

/-- What the arguments ask for. -/
structure Options where
  fixture : String
  exitWhenIdle : Bool
  deriving DecidableEq

/-- What becomes of the arguments: options, a wish for help, or arguments that make no sense. -/
inductive Arguments where
  | options (options : Options)
  | help
  | unusable
  deriving DecidableEq

namespace Arguments

/-- The arguments read so far. -/
structure Seen where
  fixture : Option String
  exitWhenIdle : Bool

/-- A fixture may be named once, and not by the empty text. -/
def Seen.withFixture (s : Seen) (path : List Char) : Option Seen :=
  if s.fixture.isSome ∨ path = [] then none
  else some { s with fixture := some (String.ofList path) }

/-- The flag may be given once. -/
def Seen.withFlag (s : Seen) : Option Seen :=
  if s.exitWhenIdle then none else some { s with exitWhenIdle := true }

/-- The options, if a fixture was named. -/
def Seen.finish (s : Seen) : Arguments :=
  match s.fixture with
  | some fixture => .options ⟨fixture, s.exitWhenIdle⟩
  | none => .unusable

/-- An argument that cannot be the value of an option: it starts with a hyphen and goes on. -/
def isOption : List Char → Bool
  | '-' :: _ :: _ => true
  | _ => false

/-- One argument: it is complete, it wants the next argument as its value, it ends all options, it
asks for help, or it is no option. -/
inductive Reading where
  | seen (s : Seen)
  | wantsValue
  | endOfOptions
  | help
  | bad

/-- Reads an argument. A short option takes its value from the rest of the argument, with or without
an equals sign. -/
def readOne (s : Seen) (arg : List Char) : Reading :=
  let done (r : Option Seen) : Reading := match r with | some s => .seen s | none => .bad
  if arg = "--".toList then .endOfOptions
  else if arg = "--help".toList then .help
  else if arg = "--exit-when-idle".toList then done s.withFlag
  else if arg = "--fixture".toList then .wantsValue
  else if "--fixture=".toList.isPrefixOf arg then done (s.withFixture (arg.drop 10))
  else
    match arg with
    | ['-', 'f'] => .wantsValue
    | '-' :: 'f' :: '=' :: path => done (s.withFixture path)
    | '-' :: 'f' :: path => done (s.withFixture path)
    | '-' :: 'h' :: _ => .help
    | _ => .bad

/-- Reads arguments one after another; nothing may follow the end of options. -/
def readAll (s : Seen) : List (List Char) → Arguments
  | [] => s.finish
  | arg :: args =>
    match readOne s arg with
    | .seen s => readAll s args
    | .help => .help
    | .bad => .unusable
    | .endOfOptions => if args = [] then s.finish else .unusable
    | .wantsValue =>
      match args with
      | [] => .unusable
      | value :: args =>
        if isOption value then .unusable
        else
          match s.withFixture value with
          | some s => readAll s args
          | none => .unusable

/-- What the arguments ask for. -/
def parse (args : List String) : Arguments :=
  readAll ⟨none, false⟩ (args.map String.toList)

end Arguments

/-! ## The run -/

/-- All that the loop needs. -/
structure Plan where
  settings : Settings
  records : Snapshot
  references : List Reference

namespace Plan

/-- The words for a fixture that cannot be read from its file. -/
def readingMessage (path : String) : String := "reading fixture " ++ path

/-- The words for a text that is no fixture. -/
def parsingMessage (path : String) : String := "parsing fixture " ++ path

/-- The plan for a fixture of this text, or the message with which the command fails. Settings are
looked at first, then the file, its text, and the ready texts in it. -/
def make (lookup : String → Option String) (path : String) (text : Option String)
    (now : Nat → Instant) : Except String Plan := do
  let settings ← (Settings.ofLookup lookup).mapError Fault.message
  let text ← match text with
    | some text => .ok text
    | none => .error (readingMessage path)
  let fixture ← match Fixture.read? text with
    | some fixture => .ok fixture
    | none => .error (parsingMessage path)
  let references ← (fixture.references settings.defaultWorkerGroup now).mapError
    Fixture.readyMessage
  return ⟨settings, fixture.records, references⟩

/-- The queue with all references in it. -/
def queue (p : Plan) : Queue :=
  ⟨Queue.sorted p.references, false⟩

/-- The desk: all records can be looked up, and every request is accepted. -/
def desk (p : Plan) : Desk :=
  .fresh (.fresh (.ofSnapshot p.records) fun _ => none) []

/-- The loop at its start. -/
def loop (p : Plan) : Loop :=
  .spawn ⟨.standard, p.settings⟩ p.queue p.desk

/-- The loop when it waits for more references. -/
def idle (p : Plan) : Loop :=
  p.loop.runAlone

/-- The loop after it was asked to stop while waiting. -/
def ended (p : Plan) : Loop :=
  ((p.idle.step .requestStop).getD p.idle).runAlone

/-- The lines printed until the queue is empty. -/
def output (p : Plan) : List String :=
  p.idle.desk.requests.map Request.line

/-- What happened until the loop ended, or until it waits if it is not to end. -/
def events (p : Plan) (exitWhenIdle : Bool) : List Event :=
  (if exitWhenIdle then p.ended else p.idle).desk.session.events

end Plan

/-- How a run of the command ends: its exit code, the lines it printed, the events it logged, and
the message of the error that ended it early. -/
structure RunResult where
  code : Nat
  stdout : List String
  events : List Event
  error : Option String
  deriving DecidableEq

/-- The text that explains the command. -/
def helpLines : List String :=
  ["Resolve ready tasks from a fixture and print their execution requests", "",
    "Usage: relay [OPTIONS] --fixture <FIXTURE>", "", "Options:",
    "  -f, --fixture <FIXTURE>  JSON fixture with records and ready task references",
    "      --exit-when-idle     Stop once the queue is drained instead of waiting for Ctrl-C",
    "  -h, --help               Print help"]

namespace RunResult

/-- The environment with the variables that an environment file adds, if there is one. -/
def withEnvFile (environment : Variables) : Option String → Option Variables
  | some file => EnvFile.load environment file
  | none => some environment

/-- A run of the command in an environment, until it ends or waits to be interrupted. -/
def ofArguments (environment : Variables) (readFile : String → Option String)
    (now : Nat → Instant) : Arguments → RunResult
  | .unusable => ⟨2, [], [], none⟩
  | .help => ⟨0, helpLines, [], none⟩
  | .options options =>
    match Plan.make environment.value? options.fixture (readFile options.fixture) now with
    | .error message => ⟨1, [], [], some ("Error: " ++ message)⟩
    | .ok plan => ⟨0, plan.output, plan.events options.exitWhenIdle, none⟩

/-- A run of the command. The environment file is looked for and read before anything else; if it holds
a value that no variable can have, the run breaks off. `entries` tells what stands under the name of
that file in the working directory and in those above it, `readFile` gives the text of a file. -/
def of (args : List String) (environment : Variables) (entries : List EnvFile.Entry)
    (readFile : String → Option String) (now : Nat → Instant) : RunResult :=
  match withEnvFile environment (EnvFile.find? entries) with
  | none => ⟨101, [], [], none⟩
  | some environment => ofArguments environment readFile now (Arguments.parse args)

end RunResult

end Handoff
