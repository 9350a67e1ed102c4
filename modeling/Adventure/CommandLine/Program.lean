import Adventure.CommandLine.Directory
import Adventure.CommandLine.Messages
import Adventure.Play.Saved
import Adventure.Play.Session
import Adventure.View.Console
import Adventure.World.Load
import Adventure.World.Snapshot

/-!
# The program

A run of the program in a directory: it reads its arguments, loads a world, plays it with what
comes from the standard input and leaves a snapshot behind. `Program.run` says all that can be
seen of a run from outside.
-/

namespace Adventure

namespace Input

/-- What a line of bytes, without its line end, is as an input. -/
def ofLineBytes (bytes : List UInt8) : Input :=
  match String.fromUTF8? ⟨bytes.toArray⟩ with
  | some text => .line text
  | none => .broken "stream did not contain valid UTF-8"

/-- Takes a carriage return away from the end of a line. -/
def withoutReturn (bytes : List UInt8) : List UInt8 :=
  if bytes.getLast? = some 13 then bytes.dropLast else bytes

/-- The inputs that bytes make up: one for each line. A line feed ends a line, perhaps after a
carriage return; the last line may do without. -/
def ofBytes (bytes : List UInt8) : List Input :=
  match Text.splitWhen (· = 10) bytes with
  | [] => []
  | parts =>
    let ended := parts.dropLast.map fun part => ofLineBytes (withoutReturn part)
    match parts.getLast? with
    | some [] | none => ended
    | some last => ended ++ [ofLineBytes last]

end Input

namespace CommandLine

/-- The folders in which the bundled world may lie, the preferred one first. -/
def dataFolders : List String := ["wander_engine/data", "data"]

/-- The path of the bundled world, where `isFolder` knows the folders that exist. -/
def bundledPath (isFolder : String → Bool) : String :=
  ((dataFolders.find? isFolder).getD "wander_engine/data") ++ "/world.ron"

/-- Why no world could be loaded. -/
inductive StartError
  | resuming
  | loading
  deriving DecidableEq, Repr

/-- How it is reported. -/
def StartError.message : StartError → String
  | resuming => "while resuming from snapshot"
  | loading => "while loading World"

/-- The world of a story, given its text if it could be read. -/
def worldOfStory (text : Option String) : Except StartError World :=
  match text.map World.ofText? with
  | some (.ok w) => .ok w
  | _ => .error .loading

/-- The world of a snapshot, given its text if it could be read. -/
def worldOfSnapshot (text : Option String) : Except StartError World :=
  match text.bind World.restore? with
  | some w => .ok w
  | none => .error .resuming

/-- How a failure is reported. -/
def complaint (message : String) : String := "Error: " ++ message

end CommandLine

/-- What a run of the program is given. -/
structure Program where
  arguments : List String
  input : List UInt8
  color : Bool

namespace Program

open CommandLine

/-- What can be seen of a run: its exit code, what it prints, what it complains about and the
directory it leaves. -/
structure Outcome where
  code : Nat
  output : String
  complaint : String
  directory : Directory

/-- Loads the world that is asked for. -/
def load (d : Directory) (world resume : Option String) : Except StartError World :=
  match resume, world with
  | some path, _ => worldOfSnapshot (d.read? path)
  | none, some path => worldOfStory (d.read? path)
  | none, none => worldOfStory (d.read? (bundledPath d.isFolder))

/-- The store for a play that is saved at a path, if anywhere. -/
def store (d : Directory) (save : Option String) : Store :=
  match save with
  | none => .accepting
  | some path =>
    match d.write path "" with
    | .ok _ => .accepting
    | .error e => .unwritable e.message

/-- The directory after a play. -/
def saved (d : Directory) (save : Option String) (events : List Event) : Directory :=
  match save, (Copy.ofEvents events).saved with
  | some path, some w =>
    match d.write path w.snapshot with
    | .ok d => d
    | .error _ => d
  | _, _ => d

/-- Plays a world. -/
def play (p : Program) (d : Directory) (save : Option String) (w : World) : Outcome :=
  let session := (Session.start w (store d save)).run (Input.ofBytes p.input)
  let output := Console.opening p.color w.game
    ++ Console.transcript Console.defaultWidth p.color w.game.colors session.events
  let d := saved d save session.events
  match session.failure? with
  | none => ⟨0, output, "", d⟩
  | some failure => ⟨1, output, complaint failure.message, d⟩

/-- Runs the program in a directory. -/
def run (p : Program) (d : Directory) : Outcome :=
  match Request.ofArguments? p.arguments with
  | .error e => ⟨2, "", e.message p.color, d⟩
  | .ok .help => ⟨0, helpText p.color, "", d⟩
  | .ok .version => ⟨0, versionText, "", d⟩
  | .ok (.play world resume save) =>
    match load d world resume with
    | .error e => ⟨1, "", complaint e.message, d⟩
    | .ok w => p.play d save w

end Program

end Adventure
