/-!
# Verbs

A verb is a kind of command. It fixes how many objects its phrasings name, and verbs are tried in
a fixed order when a line is read.
-/

namespace Adventure

/-- The kinds of commands (`CommandKind`). -/
inductive Verb
  | exit | help | lookAround | inventory | inspect | take | talkTo | move | use | useWith
  deriving DecidableEq, Repr, Inhabited

namespace Verb

/-- All verbs in the order in which a line is tried on them. Using one object with another comes
before using an object, so that "use key with door" names two objects. -/
def inOrder : List Verb :=
  [exit, help, lookAround, inventory, inspect, take, talkTo, move, useWith, use]

theorem mem_inOrder (v : Verb) : v ∈ inOrder := by cases v <;> decide

/-- How many objects a phrasing of the verb names (`arity`). -/
def arity : Verb → Nat
  | exit | help | lookAround | inventory => 0
  | inspect | take | talkTo | move | use => 1
  | useWith => 2

theorem arity_le_two (v : Verb) : v.arity ≤ 2 := by cases v <;> decide

/-- What the verb is called in lists of commands and in messages (`label`). -/
def label : Verb → String
  | exit => "exit"
  | help => "help"
  | lookAround => "look around"
  | inventory => "inventory"
  | inspect => "inspect"
  | take => "take"
  | talkTo => "talk to"
  | move => "move"
  | use => "use"
  | useWith => "use with / combine"

end Verb

end Adventure
