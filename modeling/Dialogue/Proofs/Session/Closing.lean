import Dialogue.Proofs.Session.Shape

/-!
# Closed blocks

A closed block has one `end`, as its last action.  Every block can be closed: what
stands behind its first `end` goes, and a block without an `end` gets one.  A bot
whose blocks are closed holds the same conversations.  Only between turns it can
be told apart, since a block that has come to its `end` is left, while one that
has run out is still the current one.
-/

namespace Dialogue

/-- The actions up to their first `end`, or with an `end` behind them if they have
none. -/
def Action.closed : List Action → List Action
  | [] => [.finish]
  | .finish :: _ => [.finish]
  | action :: rest => action :: closed rest

def Block.closed (block : Block) : Block :=
  { block with actions := Action.closed block.actions }

def Bot.closed (bot : Bot) : Bot :=
  { bot with
    intents := bot.intents.map fun _ block => block.closed
    defaultBlock := bot.defaultBlock.map Block.closed }

theorem Action.closed_cons {action : Action} (other : action ≠ .finish) (rest : List Action) :
    closed (action :: rest) = action :: closed rest := by
  cases action with
  | finish => exact (other rfl).elim
  | say | ask | set => rfl

theorem Action.closed_append {done : List Action} (endless : .finish ∉ done)
    (rest : List Action) : closed (done ++ rest) = done ++ closed rest := by
  induction done with
  | nil => rfl
  | cons action done ih =>
      have other : action ≠ .finish := (List.ne_of_not_mem_cons endless).symm
      have later : .finish ∉ done := List.not_mem_of_not_mem_cons endless
      rw [List.cons_append, closed_cons other, ih later, List.cons_append]

theorem Action.drop_closed {actions : List Action} {cursor : Nat}
    (within : cursor ≤ actions.length) (endless : .finish ∉ actions.take cursor) :
    (closed actions).drop cursor = closed (actions.drop cursor) := by
  have whole := closed_append endless (actions.drop cursor)
  rw [List.take_append_drop] at whole
  rw [whole, List.drop_left' (List.length_take_of_le within)]

namespace Bot

theorem intent?_closed (bot : Bot) (name : String) :
    bot.closed.intent? name = (bot.intent? name).map Block.closed :=
  Std.ExtTreeMap.getElem?_map

theorem block?_closed (bot : Bot) (heading : Heading) :
    bot.closed.block? heading = (bot.block? heading).map Block.closed := by
  cases heading with
  | intent name => exact bot.intent?_closed name
  | default => rfl

theorem heading?_closed (bot : Bot) (name : String) :
    bot.closed.heading? name = bot.heading? name := by
  have fallback : bot.closed.defaultBlock.isSome = bot.defaultBlock.isSome :=
    Option.isSome_map
  rw [heading?, heading?, intent?_closed, Option.isSome_map, fallback]

end Bot

namespace Session

/-- Two sessions that cannot be told apart by what comes next: they are in the same
phase, with the same values, and if they wait for an answer they wait at the same
place. -/
structure Agrees (session other : Session) : Prop where
  phase : session.phase = other.phase
  bindings : session.bindings = other.bindings
  place : session.isAwaiting → session.current = other.current ∧ session.cursor = other.cursor

theorem Agrees.refl (session : Session) : session.Agrees session :=
  ⟨rfl, rfl, fun _ => ⟨rfl, rfl⟩⟩

theorem agrees_of_idle {session other : Session} (idle : session.phase = .idle)
    (phase : session.phase = other.phase) (bindings : session.bindings = other.bindings) :
    session.Agrees other :=
  ⟨phase, bindings, fun waits => (not_isAwaiting_of_idle idle waits).elim⟩

theorem run_closed {session : Session} (idle : session.phase = .idle) (actions : List Action) :
    (session.run (Action.closed actions)).1 = (session.run actions).1 ∧
      (session.run actions).2.Agrees (session.run (Action.closed actions)).2 := by
  -- The two runs part only where the actions run out: there the closed ones come to an
  -- `end`, and the block is left.
  induction actions generalizing session with
  | nil => exact ⟨rfl, agrees_of_idle idle rfl rfl⟩
  | cons action rest ih =>
      cases action with
      | say text =>
          have advanced : session.advance.phase = .idle := idle
          obtain ⟨said, agree⟩ := ih advanced
          exact ⟨congrArg (Template.render session.bindings text :: ·) said, agree⟩
      | ask prompt name => exact ⟨rfl, .refl _⟩
      | set name value =>
          have assigned : (session.advance.assign name (session.value value)).phase = .idle := idle
          exact ih assigned
      | finish => exact ⟨rfl, .refl _⟩

section

variable {bot : Bot}

theorem Agrees.entered?_closed {session other : Session} (agree : session.Agrees other)
    (classify : String → String) (text : String) :
    other.entered? bot.closed classify text = session.entered? bot classify text := by
  obtain ⟨bindings, phase, current, cursor⟩ := session
  obtain ⟨bindings', phase', current', cursor'⟩ := other
  obtain ⟨rfl, rfl, place⟩ := agree
  cases phase with
  | awaiting name =>
      obtain ⟨rfl, rfl⟩ := place (isAwaiting_iff.mpr ⟨name, rfl⟩)
      rfl
  | idle =>
      unfold entered?
      rw [Bot.heading?_closed]
      rfl

theorem resume_closed {session : Session} (ready : Ready bot session) :
    (session.resume bot.closed).1 = (session.resume bot).1 ∧
      (session.resume bot).2.Agrees (session.resume bot.closed).2 := by
  obtain ⟨idle, heading, block, current, found, within, endless⟩ := ready
  have found' : bot.closed.block? heading = some block.closed := by
    rw [Bot.block?_closed, found, Option.map_some]
  rw [resume_eq_run current found, resume_eq_run current found', Block.closed,
    Action.drop_closed within endless]
  exact run_closed idle _

theorem Agrees.turn_closed {session other : Session} (shaped : Shaped bot session)
    (agree : session.Agrees other) (classify : String → String) (text : String) :
    (other.turn bot.closed classify text).1 = (session.turn bot classify text).1 ∧
      (session.turn bot classify text).2.Agrees (other.turn bot.closed classify text).2 := by
  rw [turn_eq_entered?, turn_eq_entered?, agree.entered?_closed]
  cases enters : session.entered? bot classify text with
  | none =>
      have idle := phase_of_entered?_eq_none enters
      exact ⟨rfl, agrees_of_idle idle agree.phase agree.bindings⟩
  | some entered => exact resume_closed (ready_of_entered? shaped enters)

theorem Agrees.hear_closed {session other : Session} (shaped : Shaped bot session)
    (agree : session.Agrees other) (event : Event) :
    (other.hear bot.closed event).1 = (session.hear bot event).1 ∧
      (session.hear bot event).2.Agrees (other.hear bot.closed event).2 := by
  cases event with
  | message classify text => exact agree.turn_closed shaped classify text
  | reset => exact ⟨rfl, .refl new⟩

theorem Agrees.converse_closed {session other : Session} (shaped : Shaped bot session)
    (agree : session.Agrees other) (events : List Event) :
    (other.converse bot.closed events).1 = (session.converse bot events).1 ∧
      (session.converse bot events).2.Agrees (other.converse bot.closed events).2 := by
  induction events generalizing session other with
  | nil => exact ⟨rfl, agree⟩
  | cons event events ih =>
      obtain ⟨replies, later⟩ := agree.hear_closed shaped event
      obtain ⟨others, last⟩ := ih (shaped_hear shaped event) later
      refine ⟨?_, last⟩
      rw [converse_cons, converse_cons, replies, others]

end

/-- A bot and the bot with its blocks closed answer every event of a conversation
alike, and the sessions agree after it.  The events may be any, so also those up
to each turn of a longer conversation. -/
theorem closed_converses_alike (bot : Bot) (events : List Event) :
    (new.converse bot.closed events).1 = (new.converse bot events).1 ∧
      (new.converse bot events).2.Agrees (new.converse bot.closed events).2 :=
  (Agrees.refl new).converse_closed (shaped_new bot) events

end Session

end Dialogue
