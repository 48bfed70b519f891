import Dialogue.Proofs.Session.Conversation

/-!
# What a turn depends on

A turn of an idle session depends on its values and on which block the recognised
name resolves to.  The block that was run before and the cursor in it are
overwritten.  A turn of a session that waits for an answer does not depend on the
classifier.
-/

namespace Dialogue

def Bot.SameIntent (bot : Bot) (name other : String) : Prop :=
  (bot.intent? name).isSome ∧ name = other ∨ bot.intent? name = none ∧ bot.intent? other = none

theorem Bot.SameIntent.heading?_eq {bot : Bot} {name other : String}
    (same : bot.SameIntent name other) : bot.heading? name = bot.heading? other := by
  rcases same with ⟨-, rfl⟩ | ⟨undeclared, undeclared'⟩
  · rfl
  · rw [heading?, heading?, undeclared, undeclared']
    rfl

namespace Session

def runs? (session : Session) (bot : Bot) (classify : String → String) (text : String) :
    Option Block :=
  (session.entered? bot classify text).bind fun entered => entered.current.bind bot.block?

section

variable {bot : Bot} {classify classify' : String → String} {text text' : String}

/-! ## Idle sessions -/

theorem start_eq_of_bindings {session other : Session} (phase : session.phase = other.phase)
    (bindings : session.bindings = other.bindings) (heading : Heading) :
    session.start heading = other.start heading := by
  simp only [start, phase, bindings]

theorem leave_eq_of_bindings {session other : Session} (phase : session.phase = other.phase)
    (bindings : session.bindings = other.bindings) : session.leave = other.leave := by
  simp only [leave, phase, bindings]

theorem turn_eq_of_sameIntent {session other : Session} (idle : session.phase = .idle)
    (idle' : other.phase = .idle) (bindings : session.bindings = other.bindings)
    (same : bot.SameIntent (classify text) (classify' text')) :
    session.turn bot classify text = other.turn bot classify' text' := by
  have phase : session.phase = other.phase := idle.trans idle'.symm
  cases answers : bot.heading? (classify text) with
  | none =>
      have answers' := same.heading?_eq.symm.trans answers
      rw [turn_of_heading?_eq_none idle answers, turn_of_heading?_eq_none idle' answers',
        leave_eq_of_bindings phase bindings]
  | some heading =>
      have answers' := same.heading?_eq.symm.trans answers
      rw [turn_of_heading? idle answers, turn_of_heading? idle' answers',
        start_eq_of_bindings phase bindings]

theorem runs?_of_idle {session : Session} (idle : session.phase = .idle) :
    session.runs? bot classify text = bot.resolve? (classify text) := by
  rw [runs?, entered?, idle, Bot.resolve?_eq_bind]
  cases bot.heading? (classify text) <;> rfl

/-! ## Sessions that wait for an answer -/

theorem turn_eq_of_isAwaiting {session : Session} (waits : session.isAwaiting) :
    session.turn bot classify text = session.turn bot classify' text := by
  obtain ⟨name, awaiting⟩ := isAwaiting_iff.mp waits
  rw [turn, turn, awaiting]

end

/-- Idle sessions with equal values take the same turn when the names recognised in
their messages stand for the same intent, and cannot be told apart afterwards.  A
session that waits for an answer takes the same turn whatever the classifier.  The
block that runs in an idle session is the one that the recognised name resolves to. -/
theorem turn_dependence (bot : Bot) :
    (∀ (session other : Session) (classify classify' : String → String) (text text' : String),
      session.phase = .idle → other.phase = .idle → session.bindings = other.bindings →
      bot.SameIntent (classify text) (classify' text') →
        session.turn bot classify text = other.turn bot classify' text' ∧
        ∀ events, session.converse bot (.message classify text :: events) =
          other.converse bot (.message classify' text' :: events)) ∧
    (∀ (session : Session) (classify classify' : String → String) (text : String),
      session.isAwaiting →
        session.turn bot classify text = session.turn bot classify' text) ∧
    (∀ (session : Session) (classify : String → String) (text : String),
      session.phase = .idle →
        session.runs? bot classify text = bot.resolve? (classify text) ∧
        (∀ block, bot.resolve? (classify text) = some block →
          ∃ heading, bot.heading? (classify text) = some heading ∧
            bot.block? heading = some block ∧
            session.turn bot classify text = (session.start heading).run block.actions) ∧
        (bot.resolve? (classify text) = none →
          session.turn bot classify text = ([], session.leave))) := by
  refine ⟨?_, ?_, ?_⟩
  · intro session other classify classify' text text' idle idle' bindings same
    have alike := turn_eq_of_sameIntent idle idle' bindings same
    refine ⟨alike, fun events => ?_⟩
    rw [converse_cons, converse_cons, hear, hear, alike]
  · intro session classify classify' text waits
    exact turn_eq_of_isAwaiting waits
  · intro session classify text idle
    exact ⟨runs?_of_idle idle, fun block => turn_of_resolve? idle, turn_of_resolve?_eq_none idle⟩

theorem turn_dependence_shop :
    let block : Block := ⟨"buy", [.ask "What?" "item", .say "One \x7b\x7bitem\x7d\x7d."]⟩
    let bot : Bot := ⟨"Shop", (∅ : Std.ExtTreeMap String Block).insert "buy" block, none⟩
    let stale : Session := ⟨∅, .idle, some (.intent "sell"), 7⟩
    let waiting : Session := ⟨∅, .awaiting "item", some (.intent "buy"), 1⟩
    stale.turn bot id "buy" = new.turn bot (fun _ => "buy") "hello" ∧
      waiting.turn bot id "buy" = waiting.turn bot (fun _ => "sell") "buy" ∧
      stale.runs? bot id "buy" = bot.resolve? "buy" := by
  intro block bot stale waiting
  have same : bot.SameIntent "buy" "buy" := .inl ⟨by decide +kernel, rfl⟩
  obtain ⟨idle, awaiting, resolved⟩ := turn_dependence bot
  refine ⟨?_, awaiting waiting id _ "buy" rfl, (resolved stale id "buy" rfl).1⟩
  exact (idle stale new id (fun _ => "buy") "buy" "hello" rfl rfl rfl same).1

end Session

end Dialogue
