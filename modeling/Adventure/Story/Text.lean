import Adventure.Ron.Parser
import Adventure.Ron.Schema
import Adventure.Story.Schema

/-!
# Texts of stories

Authors write stories in RON.
-/

namespace Adventure.Story

/-- The story that a text writes (`load_worlddef`). -/
def ofText? (text : String) : Option Story := do
  let (extensions, ron) ← Ron.parse? text
  schema.ofRon? extensions ron

end Adventure.Story
