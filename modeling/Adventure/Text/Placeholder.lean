import Adventure.Text.Replace
import Adventure.Text.Words

/-!
# Placeholders in messages

A message may mention the objects that a command is about. `<identifier>` stands for the word the
player typed and `<name>` for the name of the object; `<identifier2>` and `<name2>` do so for the
second object of a command. A capital letter (`<Name>`) capitalizes the inserted value. The second
object is filled in first, then the first one, each placeholder in a pass of its own over the text
as the passes before have left it.
-/

namespace Adventure.Text

/-- What one object contributes to a message (`Subject`). -/
structure Subject where
  identifier : String
  name : String
  deriving DecidableEq, Repr

namespace Subject

/-- An object that was named but not found goes by the word it was named with
(`Subject::unresolved`). -/
def unresolved (identifier : String) : Subject := ⟨identifier, identifier⟩

/-- The placeholders of a subject in the order they are filled, with their values. -/
def fillings (subject : Subject) (suffix : String) : List (String × String) :=
  [("<identifier" ++ suffix ++ ">", subject.identifier),
   ("<Identifier" ++ suffix ++ ">", capitalize subject.identifier),
   ("<name" ++ suffix ++ ">", subject.name),
   ("<Name" ++ suffix ++ ">", capitalize subject.name)]

end Subject

/-- Fills in placeholders one after the other (`substitute`). -/
def fillAll (fillings : List (String × String)) (text : String) : String :=
  fillings.foldl (fun text (placeholder, value) => replace placeholder value text) text

/-- The text with the placeholders of the given subjects filled in (`fill_placeholders`); those of a
missing subject stay as they are. -/
def fillPlaceholders (text : String) (first second : Option Subject) : String :=
  fillAll ((second.map (·.fillings "2")).getD [] ++ (first.map (·.fillings "")).getD []) text

end Adventure.Text
