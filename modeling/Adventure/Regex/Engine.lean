/-!
# Engines

An engine compiles the text of an expression. It may refuse to, even if the text is well formed:
the compiled form of an expression can take more room than the engine allows. Which expressions fit
is the engine's affair. What is said of patterns holds for every engine; the numbers of `room` are
not exact and only serve to tell of an expression that is by far too large.
-/

namespace Adventure.Regex

/-- What is known of an engine: whether it accepts the text of a well-formed expression. -/
structure Engine where
  accepts : String → Bool

namespace Engine

/-- The engine without limits. -/
def unlimited : Engine := ⟨fun _ => true⟩

/-- The room in bytes, roughly, that the compiled form of an expression takes: a sign has one state,
and the class of characters that a backslash introduces has many. -/
def room (cs : List Char) : Nat := 32 * cs.length + 44200 * cs.count '\\'

/-- The engine that allows expressions to take a given room. -/
def limited (limit : Nat) : Engine := ⟨fun text => room text.toList ≤ limit⟩

/-- The engine that allows ten mebibytes. -/
def standard : Engine := limited (10 * 1024 * 1024)

end Engine

end Adventure.Regex
