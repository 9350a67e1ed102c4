import Adventure.Command.Cache
import Adventure.View.Item
import Adventure.World.Edit

/-!
# Plays

A play is a world in the course of a game: with the patterns compiled so far, whether the game
goes on, the messages that wait to be shown and the store that is told of every change. All that
passes between the engine and the outside is logged. An act carries a play on and may fail; what
it has done by then stays done.
-/

namespace Adventure

/-- What the player sends when asked for a line (`InputEvent`). -/
inductive Input
  | line (text : String)
  /-- The player interrupts the line. -/
  | interrupt
  /-- The input ends. -/
  | ended
  /-- The input breaks. -/
  | broken (text : String)
  deriving DecidableEq, Repr

/-- What the player is asked for. -/
inductive Prompt
  | command
  | choice
  deriving DecidableEq, Repr

/-- How the player is asked. -/
def Prompt.text : Prompt → String
  | command => "\n> "
  | choice => "> "

/-- What a store is told: that an action has changed the world or that a command is done
(`StoreEvent`). -/
inductive StoreCall
  | flush
  | commit
  deriving DecidableEq, Repr

/-- A store may refuse a call and says why (`WorldStore`); `refusal?` decides by the calls before,
the newest first. -/
structure Store where
  refusal? : List StoreCall → StoreCall → Option String

namespace Store

/-- The store that accepts everything. -/
def accepting : Store := ⟨fun _ _ => none⟩

/-- The store that refuses the flush with the given number, counted from one. -/
def fullAt (n : Nat) : Store :=
  ⟨fun calls call =>
    if call = .flush ∧ calls.count .flush + 1 = n then some "store is full" else none⟩

/-- The store that keeps a copy of the world where nothing can be written, for a reason: it
refuses to commit what has changed. -/
def unwritable (reason : String) : Store :=
  ⟨fun calls call => if call = .commit ∧ calls.contains .flush then some reason else none⟩

end Store

/-- What passes between the engine and the outside. -/
inductive Event
  | read (prompt : Prompt) (input : Input)
  | line (tone : Tone) (text : String)
  /-- The store was told of the world and accepted, or refused and said why. -/
  | store (call : StoreCall) (world : World) (refusal : Option String)

/-- The call to the store that an event is. -/
def Event.call? : Event → Option StoreCall
  | store call _ _ => some call
  | _ => none

/-- An action that has taken effect. -/
structure Deed where
  action : World.Action
  /-- The world in which the action took effect. -/
  world : World
  /-- How many events had been logged by then. -/
  place : Nat

/-- Whether a game goes on (`SessionStatus`). -/
inductive Status
  | running
  | gameOver
  | quit
  deriving DecidableEq, Repr

/-- A world in the course of a game (`GameSession`). -/
structure Play where
  world : World
  cache : PatternCache := {}
  status : Status := .running
  /-- The messages that wait to be shown. -/
  view : List ViewItem := []
  store : Store := .accepting
  /-- What has happened, the newest event first. -/
  log : List Event := []
  /-- All messages so far, in order. Like the deeds they are kept for the record only. -/
  said : List ViewItem := []
  /-- The actions that have taken effect, the newest first. -/
  deeds : List Deed := []

namespace Play

/-- The calls to the store, the newest first. -/
def calls (p : Play) : List StoreCall := p.log.filterMap Event.call?

/-- Whether the game has ended (`is_over`). -/
def isOver (p : Play) : Bool := decide (p.status ≠ .running)

/-- The play after something has been said, which is yet to be shown. -/
def say (p : Play) (items : List ViewItem) : Play :=
  { p with view := p.view ++ items, said := p.said ++ items }

@[simp] theorem say_nil (p : Play) : p.say [] = p := by simp [say]

@[simp] theorem say_say (p : Play) (items others : List ViewItem) :
    (p.say items).say others = p.say (items ++ others) := by
  simp [say]

end Play

/-- A step of a play, which may fail. -/
abbrev Act := ExceptT Failure (StateM Play)

namespace Act

variable {α : Type} {kind : EntityKind}

/-- Stops with a failure. -/
def fail (failure : Failure) : Act α := fun p => (.error failure, p)

/-- The result of looking at the world. -/
def look (f : World → Except Failure α) : Act α := fun p => (f p.world, p)

/-- The entity with a given identifier, which has to exist (`lookup`). -/
def find (id : EntityId kind) : Act (World.Entity kind) := look (·.find id)

theorem find_present {id : EntityId kind} {e : World.Entity kind} {p : Play}
    (h : p.world.get? id = some e) : (find id : Act (World.Entity kind)) p = (.ok e, p) := by
  simp [find, look, World.find, h]

theorem find_absent {id : EntityId kind} {p : Play}
    (h : p.world.get? id = none) :
    (find id : Act (World.Entity kind)) p = (.error (.unknownEntity kind id.uuid), p) := by
  simp [find, look, World.find, h]

/-- The world as it is. -/
def world : Act World := look .ok

/-- The texts of the game. -/
def texts : Act Texts := look fun w => .ok w.game.texts

/-- Changes the world. -/
def edit (e : Edit α) : Act α := fun p =>
  ((e p.world).1, { p with world := (e p.world).2 })

/-- Adds a message to those that wait (`View::push`). -/
def push (item : ViewItem) : Act Unit := fun p => (.ok (), p.say [item])

/-- Ends the game (`quit`, `end_game`). -/
def finish (status : Status) : Act Unit := fun p => (.ok (), { p with status })

/-- Logs an event. -/
def log (event : Event) : Act Unit := fun p => (.ok (), { p with log := event :: p.log })

/-- The lines of messages, as events in order (`ViewItem::lines`). -/
def printed (items : List ViewItem) : List Event :=
  items.flatMap fun item => item.lines.map (Event.line item.tone)

/-- Shows the messages that wait (`View::flush`). -/
def display : Act Unit := fun p =>
  (.ok (), { p with view := [], log := (printed p.view).reverse ++ p.log })

/-- Tells the store of the world (`GameSession::flush`, `commit`). -/
def tell (call : StoreCall) : Act Unit := fun p =>
  let refusal := p.store.refusal? p.calls call
  let p := { p with log := .store call p.world refusal :: p.log }
  match refusal with
  | none => (.ok (), p)
  | some text => (.error (.store text), p)

end Act

end Adventure
