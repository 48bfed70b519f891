import Dialogue.Session

/-!
# Conversations

A conversation is a list of events that one bot hears in one session.  A
classifier need not answer alike each time it is asked, so every message comes
with the classifier that is asked about it.
-/

namespace Dialogue

inductive Event where
  | message (classify : String → String) (text : String)
  | reset

namespace Session

def hear (session : Session) (bot : Bot) : Event → List String × Session
  | .message classify text => session.turn bot classify text
  | .reset => ([], new)

def converse (session : Session) (bot : Bot) : List Event → List (List String) × Session
  | [] => ([], session)
  | event :: events =>
      let (replies, later) := session.hear bot event
      let (others, last) := later.converse bot events
      (replies :: others, last)

@[simp] theorem converse_nil (session : Session) (bot : Bot) :
    session.converse bot [] = ([], session) := rfl

@[simp] theorem converse_cons (session : Session) (bot : Bot) (event : Event)
    (events : List Event) :
    session.converse bot (event :: events) =
      ((session.hear bot event).1 :: ((session.hear bot event).2.converse bot events).1,
        ((session.hear bot event).2.converse bot events).2) := rfl

theorem converse_invariant {bot : Bot} (Holds : Session → Prop)
    (kept : ∀ session event, Holds session → Holds (session.hear bot event).2)
    {session : Session} (holds : Holds session) (events : List Event) :
    Holds (session.converse bot events).2 := by
  induction events generalizing session with
  | nil => exact holds
  | cons event events ih => exact ih (kept session event holds)

/-! ## How a turn begins -/

/-- The session in which a message lets a block run, if it lets one run: the
current block goes on after an answer, and the block that the message names
begins otherwise. -/
def entered? (session : Session) (bot : Bot) (classify : String → String)
    (text : String) : Option Session :=
  match session.phase with
  | .awaiting name => some (session.answer name text)
  | .idle => (bot.heading? (classify text)).map session.start

theorem turn_eq_entered? (session : Session) (bot : Bot) (classify : String → String)
    (text : String) :
    session.turn bot classify text =
      match session.entered? bot classify text with
      | some entered => entered.resume bot
      | none => ([], session.leave) := by
  unfold turn entered?
  cases session.phase with
  | awaiting name => rfl
  | idle => cases bot.heading? (classify text) <;> rfl

theorem phase_of_entered?_eq_none {session : Session} {bot : Bot}
    {classify : String → String} {text : String}
    (nothing : session.entered? bot classify text = none) : session.phase = .idle := by
  unfold entered? at nothing
  split at nothing
  case h_1 => cases nothing
  case h_2 idle => exact idle

theorem isAwaiting_iff {session : Session} :
    session.isAwaiting ↔ ∃ name, session.phase = .awaiting name := by
  cases phase : session.phase <;> simp [isAwaiting, phase]

theorem not_isAwaiting_of_idle {session : Session} (idle : session.phase = .idle) :
    ¬ session.isAwaiting := by
  simp [isAwaiting, idle]

theorem resume_eq_run {session : Session} {bot : Bot} {heading : Heading} {block : Block}
    (current : session.current = some heading) (found : bot.block? heading = some block) :
    session.resume bot = session.run (block.actions.drop session.cursor) := by
  simp [resume, current, found]

end Session

theorem Bot.block?_of_heading? {bot : Bot} {name : String} {heading : Heading}
    (answers : bot.heading? name = some heading) :
    ∃ block, bot.block? heading = some block ∧ bot.resolve? name = some block := by
  have resolved := bot.resolve?_eq_bind name
  unfold heading? at answers
  split at answers
  case isTrue declared =>
    cases answers
    obtain ⟨block, found⟩ := Option.isSome_iff_exists.mp declared
    exact ⟨block, found, by simp [resolve?, found]⟩
  case isFalse missing =>
    split at answers
    case isTrue fallback =>
      cases answers
      obtain ⟨block, found⟩ := Option.isSome_iff_exists.mp fallback
      have undeclared : bot.intent? name = none := by simpa using missing
      exact ⟨block, found, by simp [resolve?, undeclared, found]⟩
    case isFalse => cases answers

theorem Bot.heading?_eq_none_iff {bot : Bot} {name : String} :
    bot.heading? name = none ↔ bot.resolve? name = none := by
  rw [resolve?_eq_bind]
  cases answers : bot.heading? name with
  | none => simp
  | some heading =>
      obtain ⟨block, found, -⟩ := block?_of_heading? answers
      simp [found]

namespace Session

section

variable {bot : Bot} {classify : String → String} {text : String}

theorem turn_of_heading? {session : Session} {heading : Heading}
    (idle : session.phase = .idle) (answers : bot.heading? (classify text) = some heading) :
    session.turn bot classify text = (session.start heading).resume bot := by
  rw [turn, idle]
  simp only [answers]

theorem turn_of_heading?_eq_none {session : Session} (idle : session.phase = .idle)
    (nothing : bot.heading? (classify text) = none) :
    session.turn bot classify text = ([], session.leave) := by
  rw [turn, idle]
  simp only [nothing]

theorem turn_of_resolve? {session : Session} {block : Block} (idle : session.phase = .idle)
    (named : bot.resolve? (classify text) = some block) :
    ∃ heading, bot.heading? (classify text) = some heading ∧ bot.block? heading = some block ∧
      session.turn bot classify text = (session.start heading).run block.actions := by
  rw [Bot.resolve?_eq_bind] at named
  obtain ⟨heading, answers, found⟩ := Option.bind_eq_some_iff.mp named
  refine ⟨heading, answers, found, ?_⟩
  rw [turn_of_heading? idle answers]
  exact resume_eq_run rfl found

theorem turn_of_resolve?_eq_none {session : Session} (idle : session.phase = .idle)
    (unknown : bot.resolve? (classify text) = none) :
    session.turn bot classify text = ([], session.leave) :=
  turn_of_heading?_eq_none idle (Bot.heading?_eq_none_iff.mpr unknown)

end

end Session

end Dialogue
