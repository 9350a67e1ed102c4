import Adventure.Proofs.Outputs
import Adventure.Proofs.SafeSessions

/-!
# The store protocol

Every action that takes effect is flushed at once, and every command is committed when it is done
and everything has been shown. Nothing else is flushed or committed: no blank line, no interrupt and
no line of a conversation. The end of the input is committed like a command. After a call that the
store refuses nothing happens any more, and the session ends with what the store has said.
`Session.exists_transcript` says this of every session of a story that loads, with any store and
after any lines: what the outside has seen is an opening and rounds (`Round`), which follow the
lines of the player one by one, and perhaps the part of a round that the session has come to
(`Present`).

Only where the input breaks, or where the digests of two names are the same (`Story.DistinctIds`),
may something else fail.
-/

namespace Adventure

open Steps World

namespace Session

/-! ## The last commit -/

/-- The last that has happened is a commit that the store has accepted. -/
def Committed (p : Play) : Prop := ∃ w, p.log.head? = some (.store .commit w none)

theorem committed_of_tell {p q : Play} {u : Unit} (h : Act.tell .commit p = (.ok u, q)) :
    Committed q := by
  unfold Act.tell at h
  cases hrefusal : p.store.refusal? p.calls .commit with
  | none =>
    simp only [hrefusal] at h
    cases h
    exact ⟨p.world, rfl⟩
  | some reason =>
    simp only [hrefusal] at h
    cases h

theorem committed_of_continueCommand {dialogue : Option Dialogue} {p q : Play}
    (h : continueCommand dialogue p = (.ok (.over none), q)) : Committed q := by
  cases dialogue with
  | none =>
    obtain ⟨-, p₁, -, h⟩ := ok_of_bind h
    obtain ⟨u, p₂, htell, h⟩ := ok_of_bind h
    obtain rfl : p₂ = q := congrArg Prod.snd h
    exact committed_of_tell htell
  | some d => cases h

/-- A game ends with a commit. -/
theorem committed_of_takeInput {input : Input} {phase : Phase} {p q : Play} {prompt : Prompt}
    (hprompt : phase.prompt? = some prompt)
    (h : takeInput input phase p = (.ok (.over none), q)) : Committed q := by
  rcases phase with _ | d | failure
  · obtain ⟨-, p₁, -, h⟩ := ok_of_bind h
    cases input with
    | broken text => cases h
    | ended =>
      obtain ⟨-, p₂, -, h⟩ := ok_of_bind h
      obtain ⟨-, p₃, -, h⟩ := ok_of_bind h
      obtain ⟨u, p₄, htell, h⟩ := ok_of_bind h
      obtain rfl : p₄ = q := congrArg Prod.snd h
      exact committed_of_tell htell
    | interrupt =>
      obtain ⟨-, p₂, -, h⟩ := ok_of_bind h
      obtain ⟨-, p₃, -, h⟩ := ok_of_bind h
      cases h
    | line line =>
      rw [takeCommand] at h
      split at h
      · cases h
      · obtain ⟨dialogue, p₂, -, h⟩ := ok_of_bind h
        exact committed_of_continueCommand h
  · obtain ⟨dialogue, p₁, -, h⟩ := ok_of_bind h
    exact committed_of_continueCommand h
  · cases hprompt

theorem committed_step {s : Session} (hs : s.phase = .over none → Committed s.play)
    {input : Input} (h : (s.step input).phase = .over none) : Committed (s.step input).play := by
  cases hprompt : s.phase.prompt? with
  | none =>
    rw [step_of_over hprompt] at h ⊢
    exact hs h
  | some prompt =>
    rw [step_eq] at h ⊢
    rcases htake : takeInput input s.phase s.play with ⟨failure | phase, q⟩
    · rw [ofAct_error htake] at h
      cases h
    · rw [ofAct_ok htake] at h ⊢
      obtain rfl : phase = .over none := h
      exact committed_of_takeInput hprompt htake

theorem committed_foldl {s : Session} (hs : s.phase = .over none → Committed s.play)
    (inputs : List Input) (h : (inputs.foldl step s).phase = .over none) :
    Committed (inputs.foldl step s).play := by
  induction inputs generalizing s with
  | nil => exact hs h
  | cons input inputs ih => exact ih (fun hover => committed_step hs hover) h

/-! ## Transcripts -/

/-- What the outside has seen of a session after some lines of the player. -/
structure Transcript (store : Store) (inputs : List Input) (s : Session) (opening : List Event)
    (rounds : List (List Event)) (present : List Event) : Prop where
  events : s.events = opening ++ rounds.flatten ++ present
  opens : ∀ e ∈ opening, e.isLine = true
  past : ∀ round ∈ rounds, Round round
  suits : Present s present
  /-- Each line is read in its turn, until the session is over. -/
  reads : s.taken <+: inputs ∧ (s.phase.prompt? ≠ none → s.taken = inputs)
  /-- Each action that has taken effect is flushed before anything else happens. -/
  settled : s.play.Settled
  answered : store.Answers s.play.log
  /-- What was said and does not wait has been printed. -/
  shown : s.play.Shown

theorem Chronicle.transcript {p : Play} {inputs : List Input} {free : Session}
    {opening present : List Event} {rounds : List (List Event)} (hlog : p.log = [])
    (h : Chronicle (inputs.foldl Session.step (resume p)) free opening rounds present) :
    Transcript p.store inputs (inputs.foldl Session.step (resume p)) opening rounds present where
  events := h.record.log
  opens := h.record.opens
  past := h.record.past
  suits := h.suits
  reads := taken_initial hlog inputs
  settled := h.record.recorded.settled
  answered := by
    have hstore := (store_foldl (resume p) inputs).trans (taken_resume hlog).2
    rw [← hstore]
    exact h.record.recorded.answered
  shown := h.record.recorded.shown

/-- With a store that accepts everything a session of a story that loads ends without a failure. -/
theorem run_accepting {story : Story} {w : World} (hload : World.load story = .ok w)
    (hd : story.DistinctIds) {inputs : List Input}
    (hinputs : ∀ input ∈ inputs, ∀ text, input ≠ .broken text) :
    ((start w .accepting).run inputs).phase = .over none := by
  have hloaded := loaded_of_load hload
  have hs := hloaded.sound_ofStory hd
  have hstart : Sane (ofStory story) (start w .accepting) :=
    sane_start hs (hloaded.intact hd) fun _ _ => rfl
  exact (hstart.run hs hinputs).1

/-- Whatever lines the player sends and whatever the store refuses: what has happened in a session
is made up of rounds, in which actions are flushed one by one and commands are committed one by one.
At the end of the input the session is over, with a commit or with a call that the store refuses. -/
theorem exists_transcript {story : Story} {w : World} (hload : World.load story = .ok w)
    (store : Store) (inputs : List Input) :
    (∃ opening rounds present,
      Transcript store inputs (inputs.foldl step (start w store)) opening rounds present) ∧
    let s := (start w store).run inputs
    ∃ opening rounds present failure,
      Transcript store (inputs ++ [.ended, .ended]) s opening rounds present ∧
      s.phase = .over failure ∧
      (failure = none ∧ Committed s.play ∨
        (∃ reason call, failure = some (.store reason) ∧ Refused reason call present) ∨
        (∃ text, .broken text ∈ inputs) ∨ ¬story.DistinctIds) := by
  let p : Play := { world := w, store }
  have hrecorded : p.Recorded := Play.recorded_new w {} .running store
  have hfree : resume p.freed = start w .accepting := (start_eq w .accepting).symm
  rw [start_eq w store]
  refine ⟨?_, ?_⟩
  · obtain ⟨opening, rounds, present, h⟩ := exists_chronicle rfl hrecorded inputs
    exact ⟨opening, rounds, present, h.transcript rfl⟩
  obtain ⟨opening, rounds, present, h⟩ :=
    exists_chronicle rfl hrecorded (inputs ++ [.ended, .ended])
  obtain ⟨failure, hover⟩ := over_run (resume p) inputs
  refine ⟨opening, rounds, present, failure, h.transcript rfl, hover, ?_⟩
  by_cases hbroken : ∃ text, .broken text ∈ inputs
  · exact .inr (.inr (.inl hbroken))
  by_cases hd : story.DistinctIds
  · have hinputs : ∀ input ∈ inputs, ∀ text, input ≠ .broken text := by
      rintro input hmem text rfl
      exact hbroken ⟨text, hmem⟩
    rcases h.alike with ⟨reason, call, hphase, hrefused⟩ | hfreed
    · exact .inr (.inl ⟨reason, call, Phase.over.inj (hover.symm.trans hphase), hrefused⟩)
    · -- With a store that accepts everything the session comes to the same end.
      have hphase : ((start w .accepting).run inputs).phase = .over failure := by
        rw [← hfree]
        exact (congrArg Session.phase hfreed).trans hover
      obtain rfl : none = failure :=
        Phase.over.inj ((run_accepting hload hd hinputs).symm.trans hphase)
      have hbegins : (resume p).phase = .over none → Committed (resume p).play := by
        intro hbegins
        rw [← start_eq] at hbegins
        rcases start_command w store with hcommand | ⟨failure, hfailed⟩
        · cases hcommand.symm.trans hbegins
        · cases hfailed.symm.trans hbegins
      exact .inl ⟨rfl, committed_foldl hbegins _ hover⟩
  · exact .inr (.inr (.inr hd))

theorem exists_transcript_gateStory : ∃ w, World.load Story.gateStory = .ok w ∧
    let s := (start w (.fullAt 1)).run [.line "take lamp", .interrupt]
    ∃ opening rounds present failure,
      Transcript (.fullAt 1) [.line "take lamp", .interrupt, .ended, .ended] s opening rounds
        present ∧
      s.phase = .over failure ∧
      (failure = none ∧ Committed s.play ∨
        ∃ reason call, failure = some (.store reason) ∧ Refused reason call present) := by
  obtain ⟨w, hload⟩ := load_gateStory
  obtain ⟨-, opening, rounds, present, failure, htranscript, hover, hends⟩ :=
    exists_transcript hload (.fullAt 1) [.line "take lamp", .interrupt]
  refine ⟨w, hload, opening, rounds, present, failure, htranscript, hover, ?_⟩
  rcases hends with hnone | hrefused | ⟨text, hbroken⟩ | hd
  · exact .inl hnone
  · exact .inr hrefused
  · simp at hbroken
  · exact absurd Story.distinctIds_gateStory hd

end Session

end Adventure
