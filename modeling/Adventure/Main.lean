import Adventure.CommandLine.Program

/-!
# Main

The program on a real terminal and real files. Each line of the standard input takes the session
one step on; what the step has brought is shown, and the world is saved if the store has made a
copy.
-/

namespace Adventure.CommandLine

/-- Bytes up to the end of a line; none at the end of the input. -/
partial def readLineBytes (input : IO.FS.Stream) (line : List UInt8) :
    IO (Option (List UInt8 × Bool)) := do
  let bytes ← input.read 1
  match bytes.toList with
  | [] => return if line.isEmpty then none else some (line.reverse, false)
  | b :: _ => if b = 10 then return some (line.reverse, true) else readLineBytes input (b :: line)

/-- What the player sends next (`read_line`). -/
def nextInput (input : IO.FS.Stream) : IO Input := do
  match ← readLineBytes input [] with
  | none => return .ended
  | some (line, true) => return .ofLineBytes (Input.withoutReturn line)
  | some (line, false) => return .ofLineBytes line

/-- The text of a file, if it can be read. -/
def readText (path : String) : IO (Option String) := do
  try return some (← IO.FS.readFile path) catch _ => return none

/-- Whether a path leads to a folder: only then can a path that goes on from it be opened. -/
def folderExists (path : String) : IO Bool := do
  try
    let _ ← IO.FS.Handle.mk (path ++ "/.") .read
    return true
  catch _ => return false

/-- Saves a world; the result says why this is not possible. -/
def saveWorld (path : String) (w : World) : IO (Option Directory.WriteError) := do
  let parent := Directory.parentPath path
  try
    unless parent.isEmpty do IO.FS.createDirAll parent
  catch _ => return some (.folder parent)
  try
    IO.FS.writeFile path w.snapshot
    return none
  catch _ => return some (.file path)

/-- Whether colors are wanted: forced, forbidden or as the terminal is. -/
def wantsColor (output : IO.FS.Stream) : IO Bool := do
  match ← IO.getEnv "CLICOLOR_FORCE", ← IO.getEnv "NO_COLOR" with
  | some "0", none => output.isTty
  | some "0", some _ => return false
  | some _, _ => return true
  | none, some _ => return false
  | none, none => output.isTty

/-- Reports a failure. -/
def complain (message : String) : IO UInt32 := do
  (← IO.getStderr).putStrLn message
  return 1

/-- Shows what has happened since `seen` events and goes on with the next input. -/
partial def playOn (color : Bool) (colors : Colors) (save : Option String) (copy : Copy)
    (seen : Nat) (session : Session) : IO UInt32 := do
  let output ← IO.getStdout
  let fresh := session.events.drop seen
  output.putStr (Console.transcript Console.defaultWidth color colors fresh)
  let copy := fresh.foldl Copy.after copy
  match save, copy.saved with
  | some path, some w =>
    if let some e ← saveWorld path w then return ← complain (complaint e.message)
  | _, _ => pure ()
  match session.phase with
  | .over none => return 0
  | .over (some failure) => complain (complaint failure.message)
  | .command | .choice _ =>
    let prompt : Prompt := if session.phase matches .command then .command else .choice
    output.putStr (Console.promptText color prompt)
    output.flush
    let input ← nextInput (← IO.getStdin)
    let next := session.step input
    playOn color colors save { copy with saved := none } (session.events.length + 1) next

/-- The world that is asked for. -/
def loadWorld (world resume : Option String) : IO (Except StartError World) := do
  match resume, world with
  | some path, _ => return worldOfSnapshot (← readText path)
  | none, some path => return worldOfStory (← readText path)
  | none, none =>
    let present ← dataFolders.filterM folderExists
    return worldOfStory (← readText (bundledPath present.contains))

end Adventure.CommandLine

open Adventure CommandLine in
/-- Reads the arguments and does what they ask for. -/
def main (arguments : List String) : IO UInt32 := do
  let output ← IO.getStdout
  let color ← wantsColor output
  match Request.ofArguments? arguments with
  | .error e =>
    (← IO.getStderr).putStrLn (e.message color)
    return 2
  | .ok .help =>
    output.putStr (helpText color)
    return 0
  | .ok .version =>
    output.putStr versionText
    return 0
  | .ok (.play world resume save) =>
    match ← loadWorld world resume with
    | .error e => complain (complaint e.message)
    | .ok w =>
      output.putStr (Console.opening color w.game)
      playOn color w.game.colors save {} 0 (Session.start w .accepting)
