import Dialogue.Proofs.Session.Conversation

/-!
# The shapes of a session

In a conversation with one bot a session is at rest, or its current block has run
out, or it waits behind an `ask` of its current block.  The cursor ties the
session to the bot: no action in front of it is an `end`.
-/

namespace Dialogue.Session

def AtRest (session : Session) : Prop :=
  session.phase = .idle ∧ session.current = none ∧ session.cursor = 0

def RanOut (session : Session) (bot : Bot) : Prop :=
  session.phase = .idle ∧
    ∃ heading block, session.current = some heading ∧ bot.block? heading = some block ∧
      session.cursor = block.actions.length ∧ .finish ∉ block.actions

def Suspended (session : Session) (bot : Bot) : Prop :=
  ∃ name, session.phase = .awaiting name ∧
    ∃ heading block, session.current = some heading ∧ bot.block? heading = some block ∧
      1 ≤ session.cursor ∧ session.cursor ≤ block.actions.length ∧
      (∃ prompt, block.actions[session.cursor - 1]? = some (.ask prompt name)) ∧
      .finish ∉ block.actions.take session.cursor

def Shaped (bot : Bot) (session : Session) : Prop :=
  session.AtRest ∨ session.RanOut bot ∨ session.Suspended bot

theorem shaped_leave (bot : Bot) {session : Session} (idle : session.phase = .idle) :
    Shaped bot session.leave :=
  .inl ⟨idle, rfl, rfl⟩

theorem shaped_run {bot : Bot} {heading : Heading} {block : Block}
    (found : bot.block? heading = some block) {rest done : List Action}
    (whole : block.actions = done ++ rest) (endless : .finish ∉ done) {session : Session}
    (idle : session.phase = .idle) (current : session.current = some heading)
    (cursor : session.cursor = done.length) : Shaped bot (session.run rest).2 := by
  -- `done` grows as `rest` shrinks, so the cursor stays at the border of the two.
  induction rest generalizing session done with
  | nil =>
      rw [List.append_nil] at whole
      exact .inr (.inl ⟨idle, heading, block, current, found, whole ▸ cursor, whole ▸ endless⟩)
  | cons action rest ih =>
      have onward : block.actions = (done ++ [action]) ++ rest := by simp [whole]
      have moved : session.cursor + 1 = (done ++ [action]).length := by simp [cursor]
      cases action with
      | say text => exact ih onward (by simpa using endless) idle current moved
      | set name value => exact ih onward (by simpa using endless) idle current moved
      | finish => exact shaped_leave bot idle
      | ask prompt name =>
          refine .inr (.inr ⟨name, rfl, heading, block, current, found, ?_, ?_, ?_, ?_⟩)
          · exact Nat.le_add_left 1 session.cursor
          · show session.cursor + 1 ≤ _
            rw [moved, onward]
            exact (List.sublist_append_left _ rest).length_le
          · show ∃ prompt', block.actions[session.cursor + 1 - 1]? = _
            exact ⟨prompt, by simp [whole, cursor]⟩
          · show .finish ∉ block.actions.take (session.cursor + 1)
            rw [moved, onward, List.take_left]
            simpa using endless

def Ready (bot : Bot) (session : Session) : Prop :=
  session.phase = .idle ∧
    ∃ heading block, session.current = some heading ∧ bot.block? heading = some block ∧
      session.cursor ≤ block.actions.length ∧ .finish ∉ block.actions.take session.cursor

theorem shaped_resume {bot : Bot} {session : Session} (ready : Ready bot session) :
    Shaped bot (session.resume bot).2 := by
  obtain ⟨idle, heading, block, current, found, within, endless⟩ := ready
  rw [resume_eq_run current found]
  have whole := (List.take_append_drop session.cursor block.actions).symm
  exact shaped_run found whole endless idle current (List.length_take_of_le within).symm

theorem ready_of_entered? {bot : Bot} {session entered : Session}
    (shaped : Shaped bot session) {classify : String → String} {text : String}
    (enters : session.entered? bot classify text = some entered) : Ready bot entered := by
  unfold entered? at enters
  split at enters
  case h_1 name awaiting =>
    cases enters
    rcases shaped with ⟨idle, -⟩ | ⟨idle, -⟩ | ⟨-, -, heading, block, current, found, -,
      within, -, endless⟩
    · cases awaiting.symm.trans idle
    · cases awaiting.symm.trans idle
    · exact ⟨rfl, heading, block, current, found, within, endless⟩
  case h_2 idle =>
    obtain ⟨heading, answers, rfl⟩ := Option.map_eq_some_iff.mp enters
    obtain ⟨block, found, -⟩ := Bot.block?_of_heading? answers
    exact ⟨idle, heading, block, rfl, found, Nat.zero_le _, by simp [start]⟩

theorem shaped_turn {bot : Bot} {session : Session} (shaped : Shaped bot session)
    (classify : String → String) (text : String) :
    Shaped bot (session.turn bot classify text).2 := by
  rw [turn_eq_entered?]
  cases enters : session.entered? bot classify text with
  | none => exact shaped_leave bot (phase_of_entered?_eq_none enters)
  | some entered => exact shaped_resume (ready_of_entered? shaped enters)

theorem shaped_new (bot : Bot) : Shaped bot new :=
  .inl ⟨rfl, rfl, rfl⟩

theorem shaped_hear {bot : Bot} {session : Session} (shaped : Shaped bot session)
    (event : Event) : Shaped bot (session.hear bot event).2 := by
  cases event with
  | message classify text => exact shaped_turn shaped classify text
  | reset => exact shaped_new bot

theorem shaped_converse {bot : Bot} {session : Session} (shaped : Shaped bot session)
    (events : List Event) : Shaped bot (session.converse bot events).2 :=
  converse_invariant (Shaped bot) (fun _ event shaped => shaped_hear shaped event) shaped events

theorem Shaped.exists_block {bot : Bot} {session : Session} (shaped : Shaped bot session)
    {heading : Heading} (current : session.current = some heading) :
    ∃ block, bot.block? heading = some block := by
  rcases shaped with ⟨-, none, -⟩ | ⟨-, _, block, current', found, -⟩ |
    ⟨_, -, _, block, current', found, -⟩
  · cases none.symm.trans current
  · cases current'.symm.trans current
    exact ⟨block, found⟩
  · cases current'.symm.trans current
    exact ⟨block, found⟩

/-! ## The shapes exclude each other -/

theorem AtRest.not_ranOut {session : Session} (rest : session.AtRest) (bot : Bot) :
    ¬ session.RanOut bot := by
  rintro ⟨-, heading, block, current, -⟩
  cases rest.2.1.symm.trans current

theorem Suspended.phase_ne_idle {session : Session} {bot : Bot}
    (suspended : session.Suspended bot) : session.phase ≠ .idle := by
  obtain ⟨name, awaiting, -⟩ := suspended
  intro idle
  cases idle.symm.trans awaiting

/-- In every conversation with one bot the session has exactly one of the three
shapes, and a message never resumes a block that the bot lacks. -/
theorem conversation_shaped (bot : Bot) (events : List Event) :
    let session := (new.converse bot events).2
    ((session.AtRest ∧ ¬ session.RanOut bot ∧ ¬ session.Suspended bot) ∨
      (¬ session.AtRest ∧ session.RanOut bot ∧ ¬ session.Suspended bot) ∨
      (¬ session.AtRest ∧ ¬ session.RanOut bot ∧ session.Suspended bot)) ∧
    ∀ classify text entered, session.entered? bot classify text = some entered →
      session.turn bot classify text = entered.resume bot ∧
        ∃ heading block, entered.current = some heading ∧ bot.block? heading = some block := by
  intro session
  have shaped : Shaped bot session := shaped_converse (shaped_new bot) events
  constructor
  · rcases shaped with rest | ranOut | suspended
    · exact .inl ⟨rest, rest.not_ranOut bot, fun other => other.phase_ne_idle rest.1⟩
    · refine .inr (.inl ⟨fun other => other.not_ranOut bot ranOut, ranOut, ?_⟩)
      exact fun other => other.phase_ne_idle ranOut.1
    · refine .inr (.inr ⟨?_, ?_, suspended⟩)
      · exact fun other => suspended.phase_ne_idle other.1
      · exact fun other => suspended.phase_ne_idle other.1
  · intro classify text entered enters
    obtain ⟨-, heading, block, current, found, -⟩ := ready_of_entered? shaped enters
    refine ⟨?_, heading, block, current, found⟩
    rw [turn_eq_entered?, enters]

end Dialogue.Session
