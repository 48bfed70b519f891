import Dialogue.Proofs.Session.Conversation

/-!
# Answers given beforehand

`Action.perform` runs a block in one go, with the answers to its asks in a list.
A bot that stops at every `ask` and goes on when the answer comes says and
stores the same, however often it is stopped.
-/

namespace Dialogue

def SetValue.evaluate (bindings : Bindings) : SetValue → String
  | literal text => Template.render bindings text
  | copy source => bindings[source]?.getD source

/-- Runs actions from the first, and takes the next answer at every `ask`.  It ends
at an `end`, after the last action, or at an `ask` that no answer is left for. -/
def Action.perform (bindings : Bindings) : List String → List Action → List String × Bindings
  | _, [] => ([], bindings)
  | answers, say text :: rest =>
      let (replies, last) := perform bindings answers rest
      (Template.render bindings text :: replies, last)
  | [], ask prompt _ :: _ => ([Template.render bindings prompt], bindings)
  | answer :: answers, ask prompt name :: rest =>
      let (replies, last) := perform (bindings.insert name answer) answers rest
      (Template.render bindings prompt :: replies, last)
  | answers, set name value :: rest =>
      perform (bindings.insert name (value.evaluate bindings)) answers rest
  | _, finish :: _ => ([], bindings)

namespace Session

def outcome (session : Session) (bot : Bot) (events : List Event) : List String × Bindings :=
  ((session.converse bot events).1.flatten, (session.converse bot events).2.bindings)

def AwaitsEach (session : Session) (bot : Bot) (classify : String → String)
    (answers : List String) : Prop :=
  ∀ i < answers.length,
    (session.converse bot ((answers.take i).map (.message classify))).2.isAwaiting

section

variable {bot : Bot} {classify : String → String}

theorem awaitsEach_cons {session : Session} {answer : String} {answers : List String} :
    session.AwaitsEach bot classify (answer :: answers) ↔
      session.isAwaiting ∧ (session.turn bot classify answer).2.AwaitsEach bot classify answers := by
  constructor
  · intro awaited
    refine ⟨awaited 0 (Nat.zero_lt_succ _), ?_⟩
    intro i bound
    exact awaited (i + 1) (Nat.succ_lt_succ bound)
  · rintro ⟨now, later⟩ i bound
    cases i with
    | zero => exact now
    | succ i => exact later i (Nat.lt_of_succ_lt_succ bound)

theorem AwaitsEach.eq_nil_of_idle {session : Session} {answers : List String}
    (awaited : session.AwaitsEach bot classify answers) (idle : session.phase = .idle) :
    answers = [] := by
  cases answers with
  | nil => rfl
  | cons answer answers =>
      have waits := (awaitsEach_cons.mp awaited).1
      exact (not_isAwaiting_of_idle idle waits).elim

theorem turn_of_awaiting {session : Session} {heading : Heading} {block : Block} {name : String}
    (awaiting : session.phase = .awaiting name) (current : session.current = some heading)
    (found : bot.block? heading = some block) (text : String) :
    session.turn bot classify text =
      (session.answer name text).run (block.actions.drop session.cursor) := by
  rw [turn, awaiting]
  exact resume_eq_run current found

theorem turn_of_idle {session : Session} {block : Block} {text : String}
    (idle : session.phase = .idle) (named : bot.resolve? (classify text) = some block) :
    ∃ heading, bot.block? heading = some block ∧
      session.turn bot classify text = (session.start heading).run block.actions := by
  obtain ⟨heading, -, found, begun⟩ := turn_of_resolve? idle named
  exact ⟨heading, found, begun⟩

/-! ## One block over several turns -/

def runOutcome (session : Session) (bot : Bot) (classify : String → String)
    (actions : List Action) (answers : List String) : List String × Bindings :=
  let (replies, later) := session.run actions
  let (others, bindings) := later.outcome bot (answers.map (.message classify))
  (replies ++ others, bindings)

theorem outcome_message (session : Session) (text : String) (texts : List String) :
    session.outcome bot ((text :: texts).map (.message classify)) =
      let (replies, later) := session.turn bot classify text
      let (others, bindings) := later.outcome bot (texts.map (.message classify))
      (replies ++ others, bindings) := by
  simp [outcome, hear]

theorem value_eq_evaluate (session : Session) (value : SetValue) :
    session.value value = value.evaluate session.bindings := by
  cases value <;> rfl

theorem drop_succ_of_drop_eq_cons {actions rest : List Action} {action : Action} {cursor : Nat}
    (ahead : actions.drop cursor = action :: rest) : actions.drop (cursor + 1) = rest := by
  rw [← List.tail_drop, ahead, List.tail_cons]

theorem runOutcome_eq_perform {heading : Heading} {block : Block}
    (found : bot.block? heading = some block) {ahead : List Action} {answers : List String}
    {session : Session} (idle : session.phase = .idle)
    (current : session.current = some heading)
    (place : block.actions.drop session.cursor = ahead)
    (awaited : (session.run ahead).2.AwaitsEach bot classify answers) :
    session.runOutcome bot classify ahead answers =
      Action.perform session.bindings answers ahead := by
  -- An `ask` with an answer ends one turn, and the next turn begins with exactly the
  -- actions behind it, so the induction goes through the turns without noticing them.
  induction ahead generalizing session answers with
  | nil =>
      cases awaited.eq_nil_of_idle idle
      simp [runOutcome, run, outcome, Action.perform]
  | cons action ahead ih =>
      have onward := drop_succ_of_drop_eq_cons place
      cases action with
      | say text =>
          have rest : session.advance.runOutcome bot classify ahead answers =
              Action.perform session.bindings answers ahead :=
            ih idle current onward awaited
          simp only [Action.perform, ← rest]
          rfl
      | set name value =>
          have rest : (session.advance.assign name (session.value value)).runOutcome bot
              classify ahead answers = Action.perform
                (session.bindings.insert name (session.value value)) answers ahead :=
            ih idle current onward awaited
          rw [Action.perform, ← value_eq_evaluate, ← rest]
          rfl
      | finish =>
          have left : session.leave.AwaitsEach bot classify answers := awaited
          cases left.eq_nil_of_idle idle
          simp [runOutcome, run, outcome, Action.perform, leave]
      | ask prompt name =>
          cases answers with
          | nil => simp [runOutcome, run, outcome, Action.perform, advance, suspend]
          | cons answer answers =>
              let waiting := session.advance.suspend name
              have asked : waiting.phase = .awaiting name := rfl
              have resumed : waiting.turn bot classify answer =
                  (waiting.answer name answer).run ahead := by
                rw [← onward]
                exact turn_of_awaiting asked current found answer
              have waits : ((waiting.answer name answer).run ahead).2.AwaitsEach bot classify
                  answers := by
                rw [← resumed]
                exact (awaitsEach_cons.mp awaited).2
              have rest : (waiting.answer name answer).runOutcome bot classify ahead answers =
                  Action.perform (session.bindings.insert name answer) answers ahead :=
                ih rfl current onward waits
              have next : waiting.outcome bot ((answer :: answers).map (.message classify)) =
                  (waiting.answer name answer).runOutcome bot classify ahead answers := by
                rw [outcome_message, resumed]
                rfl
              simp only [runOutcome, run, Action.perform, ← rest]
              rw [next]
              rfl

end

/-- Suspending and resuming cannot be seen: the turns of one block say and store
what the block says and stores in one go with the answers given beforehand. -/
theorem outcome_eq_perform {session : Session} {bot : Bot} {classify : String → String}
    {first : String} {block : Block} {answers : List String}
    (idle : session.phase = .idle) (named : bot.resolve? (classify first) = some block)
    (awaited : (session.turn bot classify first).2.AwaitsEach bot classify answers) :
    session.outcome bot ((first :: answers).map (.message classify)) =
      Action.perform session.bindings answers block.actions := by
  obtain ⟨heading, found, begun⟩ := turn_of_idle idle named
  rw [begun] at awaited
  rw [outcome_message, begun]
  have ready : (session.start heading).phase = .idle := idle
  exact runOutcome_eq_perform found ready rfl rfl awaited

theorem outcome_eq_perform_twice :
    let block : Block := ⟨"order", [.ask "First?" "name",
      .ask "Again, \x7b\x7bname\x7d\x7d?" "name", .set "copy" (.copy "name"),
      .say "Thanks, \x7b\x7bcopy\x7d\x7d.", .ask "More?" "more"]⟩
    let bot : Bot := ⟨"Shop", ∅, some block⟩
    bot.resolve? "hello" = some block ∧
      (new.turn bot id "hello").2.AwaitsEach bot id ["Ann", "Bob"] ∧
      new.outcome bot (["hello", "Ann", "Bob"].map (.message id)) =
        Action.perform ∅ ["Ann", "Bob"] block.actions := by
  intro block bot
  have named : bot.resolve? "hello" = some block := rfl
  have awaited : (new.turn bot id "hello").2.AwaitsEach bot id ["Ann", "Bob"] :=
    awaitsEach_cons.mpr ⟨rfl, awaitsEach_cons.mpr ⟨rfl, nofun⟩⟩
  exact ⟨named, awaited, outcome_eq_perform rfl named awaited⟩

end Session

end Dialogue
