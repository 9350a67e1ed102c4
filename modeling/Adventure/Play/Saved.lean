import Adventure.Play.Basic

/-!
# Saved worlds

A store that keeps a copy of the world makes one at each commit before which it was flushed. Which
copy it holds in the end can be read off the log of a play.
-/

namespace Adventure

/-- The copy that a store holds, and whether the world has changed since. -/
structure Copy where
  saved : Option World := none
  stale : Bool := false

namespace Copy

/-- The copy after an event. Calls that were refused change nothing. -/
def after (c : Copy) : Event → Copy
  | .store .flush _ none => { c with stale := true }
  | .store .commit w none => if c.stale then ⟨some w, false⟩ else c
  | _ => c

/-- The copy after some events. -/
def ofEvents (events : List Event) : Copy := events.foldl after {}

end Copy

end Adventure
