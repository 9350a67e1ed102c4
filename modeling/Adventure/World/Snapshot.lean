import Adventure.Ron.Parser
import Adventure.Ron.Printer
import Adventure.Ron.Schema
import Adventure.World.Schema

/-!
# Snapshots

A snapshot is the whole state of a world as a text, from which the world can be restored.
-/

namespace Adventure.World

/-- The text that a world is saved as (`save_snapshot`). -/
def snapshot (w : World) : String := (schema.toRon w).print

/-- The world that a text was saved from (`load_snapshot`). Its version may be any. -/
def restore? (text : String) : Option World := do
  let (extensions, ron) ← Ron.parse? text
  schema.ofRon? extensions ron

end Adventure.World
