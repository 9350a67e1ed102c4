import Adventure.Failure
import Adventure.Regex.Engine
import Adventure.Text.Sorted

/-!
# Patterns

The templates of a verb make up a pattern. A line matches it if it is an expansion of one of the
templates: a group is kept without its brackets or left out, and a marker is replaced by a word.
The first template in the list that has the line as an expansion supplies the parameters. Where
a template has several readings of a line, groups are rather kept than left out and words are as
long as possible, from the left. `Pattern.read` takes the parameters from the captures of the
regular expression and fails if one is missing.
-/

namespace Adventure

namespace Template

/-- The words that the markers of a template stand for. -/
abbrev Bindings := List (Marker × List Char)

/-- Tries the non-empty beginnings of `cs` of at most `n` characters as a word, longest first. -/
def longestWord {α : Type} (cs : List Char) (accept : List Char → List Char → Option α) :
    Nat → Option α
  | 0 => none
  | n + 1 =>
    match accept (cs.take (n + 1)) (cs.drop (n + 1)) with
    | some a => some a
    | none => longestWord cs accept n

/-- The words that the markers stand for if the whole of `cs` is an expansion of the pieces. -/
def matchPieces? : List Piece → List Char → Option Bindings
  | [], [] => some []
  | [], _ :: _ => none
  | .letter _ :: _, [] => none
  | .letter c :: pieces, x :: cs => if x = c then matchPieces? pieces cs else none
  | .group g :: pieces, cs =>
    match if g.isPrefixOf cs then matchPieces? pieces (cs.drop g.length) else none with
    | some bindings => some bindings
    | none => matchPieces? pieces cs
  | .slot m :: pieces, cs =>
    longestWord cs
      (fun word rest => (matchPieces? pieces rest).map fun bindings => (m, word) :: bindings)
      (cs.takeWhile Unicode.isWordChar).length

/-- The words that the markers stand for if `line` is an expansion of the template. -/
def match? (template : Template) (line : List Char) : Option Bindings :=
  matchPieces? template.pieces line

end Template

/-- An object that a command names: the name of its capture and the word the player typed
(`Parameter`). -/
structure Parameter where
  group : String
  value : String
  deriving DecidableEq, Repr

/-- The templates of a verb (`CompiledPattern`). -/
structure Pattern where
  verb : Verb
  templates : List Template
  deriving DecidableEq

namespace Pattern

/-- The templates with the given texts. -/
def parseAll (verb : Verb) : List String → Except Failure (List Template)
  | [] => .ok []
  | text :: texts =>
    match Template.parse? verb.arity text with
    | .error cause => .error (.badTemplate verb text cause)
    | .ok template => (parseAll verb texts).map (template :: ·)

/-- The number from which the captures of the template at a given place are counted. -/
def base (verb : Verb) (place : Nat) : Nat := place * verb.arity

/-- The pattern as a regular expression for whole lines. -/
def regexText (pattern : Pattern) : String :=
  let bodies := pattern.templates.mapIdx fun i t => t.regexText (base pattern.verb i)
  "^(?:" ++ "|".intercalate bodies ++ ")$"

/-- The pattern of a list of templates (`build_pattern`); there is none without templates, and the
engine may refuse the expression that they make up. -/
def build (verb : Verb) (texts : List String) (engine : Regex.Engine := .unlimited) :
    Except Failure (Option Pattern) := do
  let templates ← parseAll verb texts
  if templates.isEmpty then return none
  else if engine.accepts (regexText ⟨verb, templates⟩) then return some ⟨verb, templates⟩
  else throw (.badPattern verb)

/-- The parameters that bound words make for a verb, with captures numbered from `base`. -/
def parameters (verb : Verb) (base : Nat) (bindings : Template.Bindings) : List Parameter :=
  let values := ([Marker.a, Marker.b].take verb.arity).filterMap fun m => bindings.lookup m
  values.mapIdx fun i value => ⟨Template.captureName (base + i), String.ofList value⟩

/-- The parameters of the first of the templates, counted from `place`, that match the line. -/
def matchFrom? (verb : Verb) (line : List Char) : Nat → List Template → Option (List Parameter)
  | _, [] => none
  | place, template :: rest =>
    match template.match? line with
    | some bindings => some (parameters verb (base verb place) bindings)
    | none => matchFrom? verb line (place + 1) rest

/-- The parameters of a line that matches. -/
def match? (pattern : Pattern) (line : String) : Option (List Parameter) :=
  matchFrom? pattern.verb line.toList 0 pattern.templates

/-! ## Captures

A regular expression that matches tells only what its captures hold. The first capture of each
template tells which template took part, and its captures make up the parameters. -/

/-- The place of a marker among the captures of its template. -/
def captureIndex : Marker → Nat
  | .a => 0
  | .b => 1

/-- What the captures hold, by name, for the first of the templates, counted from `place`, that
matches the line. -/
def capturesFrom? (verb : Verb) (line : List Char) :
    Nat → List Template → Option (List (String × String))
  | _, [] => none
  | place, template :: rest =>
    match template.match? line with
    | some bindings => some <| bindings.map fun (m, word) =>
        (Template.captureName (base verb place + captureIndex m), String.ofList word)
    | none => capturesFrom? verb line (place + 1) rest

/-- What the captures of the pattern hold, by name, if the line matches. -/
def captures? (pattern : Pattern) (line : String) : Option (List (String × String)) :=
  capturesFrom? pattern.verb line.toList 0 pattern.templates

/-- The names of the captures of each template. -/
def groups (pattern : Pattern) : List (List String) :=
  pattern.templates.mapIdx fun i _ =>
    Template.captureNames pattern.verb.arity (base pattern.verb i)

/-- The parameters that captures hold for the given names, all of which have to be there. -/
def collect (pattern : Pattern) (line : String) (captures : List (String × String)) :
    List String → Except Failure (List Parameter)
  | [] => .ok []
  | group :: rest =>
    match captures.lookup group with
    | none => .error (.missingCapture pattern.verb line group)
    | some value => (collect pattern line captures rest).map (⟨group, value⟩ :: ·)

/-- The parameters of a line that matches, as they are read off the captures (`match_input`). -/
def read (pattern : Pattern) (line : String) : Except Failure (Option (List Parameter)) :=
  match pattern.captures? line with
  | none => .ok none
  | some captures =>
    if pattern.verb.arity = 0 then .ok (some [])
    else
      match pattern.groups.find? fun names =>
        names.head?.any fun group => (captures.lookup group).isSome with
      | none => .error (.missingCapture pattern.verb line "o?")
      | some names => (pattern.collect line captures names).map some

end Pattern

end Adventure
