import Adventure.Proofs.Phases
import Adventure.Proofs.Records

/-!
# Rounds of a session

At the main prompt the player sends line after line, and what the outside sees from one such line to
the next is a round (`Round`). A blank line does nothing and an interrupt is only answered. While a
command is carried out lines are printed, actions are flushed and a conversation may read further
lines (`Event.Works`); the commit comes last. The end of the input is answered and committed like a
command. A session is over after a round, or it ends in the middle of one, because the store refuses
a call (`Refused`) or because something else fails (`Failed`). `Present` says what the outside has
seen of the present round, and how far the play is, by what the session waits for.
-/

namespace Adventure

/-! ## Events -/

/-- What the outside may see while a command is carried out: lines, further lines of the player in a
conversation, and calls to flush that the store accepts. -/
def Event.Works : Event → Prop
  | line _ _ | read .choice _ | store .flush _ none => True
  | _ => False

/-- What the player has sent. -/
def Event.input? : Event → Option Input
  | read _ input => some input
  | _ => none

namespace Event

variable {e : Event}

theorem works_of_isLine (h : e.isLine = true) : e.Works := by
  cases e with
  | line => trivial
  | read | store => cases h

theorem input?_of_isLine (h : e.isLine = true) : e.input? = none := by
  cases e with
  | read => cases h
  | line | store => rfl

end Event

section

variable {acts withdraws answers : Prop} {h : List Happening}

/-- Apart from lines, work shows accepted calls to flush and what the player sends in a
conversation, each where it may. -/
theorem Work.events (hw : Work acts withdraws answers h) :
    ∀ e ∈ h.flatMap Happening.events, e.isLine = true ∨
      (acts ∧ ∃ w, e = .store .flush w none) ∨ answers ∧ ∃ input, e = .read .choice input := by
  induction hw with
  | nil => exact List.forall_mem_nil _
  | @quiet e h quiet _ ih =>
    rw [List.flatMap_cons, List.forall_mem_append]
    refine ⟨fun event hevent => .inl ?_, ih⟩
    cases e with
    | shown items => exact Act.isLine_of_mem_printed hevent
    | parsed | said | left => cases hevent
    | read | did | withdrew | told | halted | spoiled => cases quiet
  | deed allowed _ ih => exact List.forall_mem_cons.2 ⟨.inr (.inl ⟨allowed, _, rfl⟩), ih⟩
  | withdrawal _ _ ih => exact ih
  | answer allowed _ ih => exact List.forall_mem_cons.2 ⟨.inr (.inr ⟨allowed, _, rfl⟩), ih⟩

theorem Work.works (hw : Work acts withdraws answers h) :
    ∀ e ∈ h.flatMap Happening.events, e.Works := by
  intro e he
  rcases hw.events e he with hline | ⟨-, w, rfl⟩ | ⟨-, input, rfl⟩
  · exact Event.works_of_isLine hline
  · trivial
  · trivial

/-- Without lines of a conversation nothing is read in the course of work. -/
theorem Work.unread (hw : Work acts withdraws False h) :
    ∀ e ∈ h.flatMap Happening.events, e.input? = none := by
  intro e he
  rcases hw.events e he with hline | ⟨-, w, rfl⟩ | ⟨allowed, -⟩
  · exact Event.input?_of_isLine hline
  · rfl
  · exact allowed.elim

/-- Without actions and further lines, work is nothing but messages. -/
theorem Work.lines (hw : Work False withdraws False h) :
    ∀ e ∈ h.flatMap Happening.events, e.isLine = true := by
  intro e he
  rcases hw.events e he with hline | ⟨allowed, -⟩ | ⟨allowed, -⟩
  · exact hline
  · exact allowed.elim
  · exact allowed.elim

/-- What fails shows nothing of itself. -/
theorem Broken.exists_work {failure : Failure} (hb : Broken acts withdraws answers failure h) :
    ∃ before, Work acts withdraws answers before ∧
      h.flatMap Happening.events = before.flatMap Happening.events := by
  rcases hb with work | ⟨-, work⟩ <;> exact ⟨_, work, by simp [Happening.events]⟩

theorem Unflushed.exists_work {reason : String} (hu : Unflushed acts withdraws answers reason h) :
    ∃ before w, Work acts withdraws answers before ∧ h.flatMap Happening.events
      = before.flatMap Happening.events ++ [.store .flush w (some reason)] := by
  cases hu with
  | @mk before _ _ w _ work => exact ⟨before, w, work, by simp [Happening.events]⟩

end

/-! ## Rounds -/

/-- What the outside sees at the main prompt from one line to the next. -/
inductive Round : List Event → Prop
  | blank {line : String} (blank : line.toList.all Unicode.isWhitespace = true) :
      Round [.read .command (.line line)]
  | interrupt {events : List Event} (lines : ∀ e ∈ events, e.isLine = true) :
      Round (.read .command .interrupt :: events)
  | command {line : String} {events : List Event} {w : World}
      (filled : line.toList.all Unicode.isWhitespace = false) (works : ∀ e ∈ events, e.Works) :
      Round (.read .command (.line line) :: (events ++ [.store .commit w none]))
  | leave {events : List Event} {w : World} (lines : ∀ e ∈ events, e.isLine = true) :
      Round (.read .command .ended :: (events ++ [.store .commit w none]))

/-- A round that ends with a call that the store refuses. -/
inductive Refused (reason : String) : StoreCall → List Event → Prop
  | flush {line : String} {events : List Event} {w : World}
      (filled : line.toList.all Unicode.isWhitespace = false) (works : ∀ e ∈ events, e.Works) :
      Refused reason .flush
        (.read .command (.line line) :: (events ++ [.store .flush w (some reason)]))
  | commit {line : String} {events : List Event} {w : World}
      (filled : line.toList.all Unicode.isWhitespace = false) (works : ∀ e ∈ events, e.Works) :
      Refused reason .commit
        (.read .command (.line line) :: (events ++ [.store .commit w (some reason)]))
  | leave {events : List Event} {w : World} (lines : ∀ e ∈ events, e.isLine = true) :
      Refused reason .commit
        (.read .command .ended :: (events ++ [.store .commit w (some reason)]))

/-- An opening or a round in which something fails that is not for the store. -/
inductive Failed : Failure → List Event → Prop
  | opening {failure : Failure} {events : List Event} (lines : ∀ e ∈ events, e.isLine = true) :
      Failed failure events
  | command {failure : Failure} {line : String} {events : List Event}
      (filled : line.toList.all Unicode.isWhitespace = false) (works : ∀ e ∈ events, e.Works) :
      Failed failure (.read .command (.line line) :: events)
  | input (text : String) : Failed .commandInput [.read .command (.broken text)]

/-- What the outside has seen of the present round of a session. -/
inductive Present : Session → List Event → Prop
  | command {q : Play} (ready : q.Ready) : Present ⟨q, .command⟩ []
  | choice {q : Play} {d : Dialogue} {line : String} {events : List Event} (ready : q.Ready)
      (filled : line.toList.all Unicode.isWhitespace = false) (works : ∀ e ∈ events, e.Works) :
      Present ⟨q, .choice d⟩ (.read .command (.line line) :: events)
  /-- The game is over after a round. -/
  | finished {q : Play} (shown : q.view = []) (ended : q.status ≠ .running) :
      Present ⟨q, .over none⟩ []
  /-- The store has refused a call; a commit comes when everything has been shown. -/
  | refused {q : Play} {reason : String} {call : StoreCall} {events : List Event}
      (shown : call = .commit → q.view = []) (refused : Refused reason call events) :
      Present ⟨q, .over (some (.store reason))⟩ events
  | failed {q : Play} {failure : Failure} {events : List Event} (failed : Failed failure events) :
      Present ⟨q, .over (some failure)⟩ events

namespace Present

variable {s : Session} {events : List Event}

/-- Where a session waits the play is ready. -/
theorem ready (h : Present s events) {prompt : Prompt}
    (hprompt : s.phase.prompt? = some prompt) : s.play.Ready := by
  cases h with
  | command ready | choice ready => exact ready
  | finished | refused | failed => cases hprompt

/-- A game that is over has shown everything. -/
theorem shown (h : Present s events) (hover : s.phase = .over none) :
    s.play.view = [] ∧ s.play.status ≠ .running := by
  cases h with
  | finished shown ended => exact ⟨shown, ended⟩
  | command | choice | refused | failed => cases hover

end Present

end Adventure
