/-!
# Arguments

The words after the name of the program. There are three options with a path as their value, which
follows as a word of its own or after an equals sign, and two flags that ask for information. The
first mistake from the left is reported; that two options exclude each other is noticed last.
-/

namespace Adventure.CommandLine

/-- The options that have a value. -/
inductive PathOption
  | world
  | resume
  | save
  deriving DecidableEq, Repr

/-- The word of an option. -/
def PathOption.word : PathOption → String
  | world => "--world"
  | resume => "--resume"
  | save => "--save"

/-- An option as it is named in messages. -/
def PathOption.label (option : PathOption) : String := option.word ++ " <PATH>"

/-- What is asked of the program. -/
inductive Request
  /-- A game, from a story or a snapshot and perhaps with a place to save it. -/
  | play (world resume save : Option String)
  | help
  | version
  deriving DecidableEq, Repr

/-- What is wrong with the arguments. -/
inductive ArgumentError
  | unexpected (argument : String)
  | unneededValue (value flag : String)
  | missingValue (option : PathOption)
  | repeated (option : PathOption)
  | conflict (first second : PathOption)
  deriving DecidableEq, Repr

/-! ## Reading -/

/-- What has been read: the options with their values, and the last option if its value is still
awaited or not yet checked. -/
structure Reading where
  given : List (PathOption × String) := []
  pending : Option (PathOption × Option String) := none

namespace Reading

/-- Takes the value of an option, unless the option has one or the value is empty. -/
def take (r : Reading) (option : PathOption) (value : String) : Except ArgumentError Reading :=
  if (r.given.lookup option).isSome then .error (.repeated option)
  else if value.isEmpty then .error (.missingValue option)
  else .ok ⟨r.given ++ [(option, value)], none⟩

/-- Finishes the last option. -/
def settle (r : Reading) : Except ArgumentError Reading :=
  match r.pending with
  | none => .ok r
  | some (option, none) => .error (.missingValue option)
  | some (option, some value) => r.take option value

/-- The options together. -/
def finish (r : Reading) : Except ArgumentError Request := do
  let r ← r.settle
  let exclusive := (r.given.map (·.1)).filter (· ≠ .save)
  match exclusive with
  | first :: second :: _ => .error (.conflict first second)
  | _ =>
    return .play (r.given.lookup .world) (r.given.lookup .resume) (r.given.lookup .save)

end Reading

/-- A word that begins with two hyphens, as its name and what follows the first equals sign. -/
def longWord (cs : List Char) : String × Option String :=
  let name := String.ofList (cs.takeWhile (· ≠ '='))
  match cs.dropWhile (· ≠ '=') with
  | _ :: value => (name, some (String.ofList value))
  | [] => (name, none)

/-- The option with a name. -/
def optionNamed? (name : String) : Option PathOption :=
  if name = "world" then some .world
  else if name = "resume" then some .resume
  else if name = "save" then some .save
  else none

/-- The flag with a name. -/
def flagNamed? (name : String) : Option Request :=
  if name = "help" then some .help else if name = "version" then some .version else none

/-- The flag with a letter. -/
def flagLettered? (c : Char) : Option Request :=
  if c = 'h' then some .help else if c = 'V' then some .version else none

/-- Reads the words from the left. -/
def readFrom (r : Reading) : List String → Except ArgumentError Request
  | [] => r.finish
  | word :: rest =>
    match word.toList with
    | ['-', '-'] =>
      match rest with
      | [] => r.finish
      | extra :: _ => .error (.unexpected extra)
    | '-' :: '-' :: cs =>
      let (name, value?) := longWord cs
      match flagNamed? name, value? with
      | some flag, none => do
        let _ ← r.settle
        return flag
      | some _, some value => .error (.unneededValue value ("--" ++ name))
      | none, value? =>
        match optionNamed? name, value? with
        | none, _ => .error (.unexpected ("--" ++ name))
        | some option, none => do
          let r ← r.settle
          readFrom { r with pending := some (option, none) } rest
        | some option, some value => do
          let r ← r.settle
          readFrom (← r.take option value) rest
    | '-' :: c :: _ =>
      match flagLettered? c with
      | some flag => do
        let _ ← r.settle
        return flag
      | none => .error (.unexpected (String.ofList ['-', c]))
    | _ =>
      match r.pending with
      | some (option, none) => readFrom { r with pending := some (option, some word) } rest
      | _ => .error (.unexpected word)

/-- What the arguments ask for. -/
def Request.ofArguments? (words : List String) : Except ArgumentError Request := readFrom {} words

end Adventure.CommandLine
