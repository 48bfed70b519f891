import Dialogue.Proofs.Session.Resumption
import Mathlib.Data.List.Induction

/-!
# Sessions that change bots

Nothing ties a session to one bot: each message may be heard by another one.  What
holds of the session then holds of the bot that heard the last message, and an
answer depends on that part of one block alone which is still ahead.
-/

namespace Dialogue

inductive Visit where
  | message (bot : Bot) (classify : String → String) (text : String)
  | reset

def Visit.bot? : Visit → Option Bot
  | message bot _ _ => some bot
  | reset => none

def Visit.lastBot? (visits : List Visit) : Option Bot :=
  visits.reverse.findSome? bot?

namespace Session

def visit (session : Session) : Visit → List String × Session
  | .message bot classify text => session.turn bot classify text
  | .reset => ([], new)

def travel (session : Session) (visits : List Visit) : Session :=
  visits.foldl (fun session step => (session.visit step).2) session

theorem travel_concat (session : Session) (visits : List Visit) (step : Visit) :
    session.travel (visits ++ [step]) = ((session.travel visits).visit step).2 := by
  rw [travel, List.foldl_append]
  rfl

/-! ## After a turn -/

/-- How a session stands to the bot that heard its last message. -/
structure Settled (bot : Bot) (session : Session) : Prop where
  free : session.current = none → session.phase = .idle ∧ session.cursor = 0
  waits : ∀ name, session.phase = .awaiting name →
    ∃ heading block prompt, session.current = some heading ∧ bot.block? heading = some block ∧
      1 ≤ session.cursor ∧ block.actions[session.cursor - 1]? = some (.ask prompt name)
  ended : ∀ heading, session.phase = .idle → session.current = some heading →
    ∃ block, bot.block? heading = some block ∧ block.actions.length ≤ session.cursor

variable {bot : Bot}

theorem settled_of_free {session : Session} (idle : session.phase = .idle)
    (free : session.current = none) (cursor : session.cursor = 0) : Settled bot session where
  free _ := ⟨idle, cursor⟩
  waits _ awaiting := nomatch awaiting.symm.trans idle
  ended _ _ current := nomatch current.symm.trans free

theorem settled_leave (bot : Bot) {session : Session} (idle : session.phase = .idle) :
    Settled bot session.leave :=
  settled_of_free idle rfl rfl

theorem getElem?_of_drop_eq_cons {actions ahead : List Action} {action : Action} {cursor : Nat}
    (place : actions.drop cursor = action :: ahead) : actions[cursor]? = some action := by
  rw [← List.head?_drop, place, List.head?_cons]

theorem settled_run {heading : Heading} {block : Block}
    (found : bot.block? heading = some block) {ahead : List Action} {session : Session}
    (idle : session.phase = .idle) (current : session.current = some heading)
    (place : block.actions.drop session.cursor = ahead) :
    Settled bot (session.run ahead).2 := by
  -- The cursor may stand behind the end of the block, since another bot may have left
  -- it there, so what is ahead is kept and not what is done.
  induction ahead generalizing session with
  | nil =>
      have ended := List.drop_eq_nil_iff.mp place
      refine ⟨?_, ?_, ?_⟩
      · intro free
        cases current.symm.trans free
      · intro name awaiting
        cases idle.symm.trans awaiting
      · intro heading' _ current'
        cases current.symm.trans current'
        exact ⟨block, found, ended⟩
  | cons action ahead ih =>
      have onward := drop_succ_of_drop_eq_cons place
      cases action with
      | say text => exact ih idle current onward
      | set name value => exact ih idle current onward
      | finish => exact settled_leave bot idle
      | ask prompt name =>
          refine ⟨?_, ?_, ?_⟩
          · intro free
            cases current.symm.trans free
          · rintro name' ⟨⟩
            have asked := getElem?_of_drop_eq_cons place
            exact ⟨heading, block, prompt, current, found, Nat.le_add_left 1 _, asked⟩
          · intro heading' idle'
            cases idle'

theorem settled_resume {session : Session} (idle : session.phase = .idle) :
    Settled bot (session.resume bot).2 := by
  cases ready : session.current.bind bot.block? with
  | none =>
      rw [resume, ready]
      exact settled_leave bot idle
  | some block =>
      obtain ⟨heading, current, found⟩ := Option.bind_eq_some_iff.mp ready
      rw [resume_eq_run current found]
      exact settled_run found idle current rfl

theorem idle_of_entered? {session entered : Session} {classify : String → String}
    {text : String} (enters : session.entered? bot classify text = some entered) :
    entered.phase = .idle := by
  unfold entered? at enters
  split at enters
  case h_1 =>
    cases enters
    rfl
  case h_2 idle =>
    obtain ⟨heading, -, rfl⟩ := Option.map_eq_some_iff.mp enters
    exact idle

theorem settled_turn (session : Session) (bot : Bot) (classify : String → String)
    (text : String) : Settled bot (session.turn bot classify text).2 := by
  rw [turn_eq_entered?]
  cases enters : session.entered? bot classify text with
  | none => exact settled_leave bot (phase_of_entered?_eq_none enters)
  | some entered => exact settled_resume (idle_of_entered? enters)

theorem travel_cases (visits : List Visit) :
    new.travel visits = new ∨
      ∃ bot, Visit.lastBot? visits = some bot ∧ Settled bot (new.travel visits) := by
  cases visits using List.reverseRecOn with
  | nil => exact .inl rfl
  | append_singleton visits step =>
      rw [travel_concat]
      cases step with
      | reset => exact .inl rfl
      | message bot classify text =>
          refine .inr ⟨bot, ?_, settled_turn _ bot classify text⟩
          rw [Visit.lastBot?, List.reverse_append]
          rfl

/-! ## Answers -/

def ahead? (session : Session) (bot : Bot) : Option (List Action) :=
  (session.current.bind bot.block?).map fun block => block.actions.drop session.cursor

theorem resume_eq_ahead? (session : Session) (bot : Bot) :
    session.resume bot =
      match session.ahead? bot with
      | some ahead => session.run ahead
      | none => ([], session.leave) := by
  unfold resume ahead?
  cases session.current.bind bot.block? <;> rfl

theorem turn_of_ahead? {session : Session} {name : String}
    (awaiting : session.phase = .awaiting name) (classify : String → String) (text : String) :
    session.turn bot classify text =
      match session.ahead? bot with
      | some ahead => (session.answer name text).run ahead
      | none => ([], (session.answer name text).leave) := by
  rw [turn, awaiting]
  exact resume_eq_ahead? (session.answer name text) bot

/-- A session may be handed from bot to bot.  It stays in order with the bot that
heard the last message, and an answer does the same with every bot that has the same
actions ahead.  A bot without the block stores the answer, and that is all. -/
theorem travel_resumes :
    (∀ visits : List Visit,
      let session := new.travel visits
      (session.current = none → session.cursor = 0 ∧ session.phase = .idle) ∧
      (∀ name, session.phase = .awaiting name →
        ∃ bot heading block prompt, Visit.lastBot? visits = some bot ∧
          session.current = some heading ∧ bot.block? heading = some block ∧
          1 ≤ session.cursor ∧ block.actions[session.cursor - 1]? = some (.ask prompt name)) ∧
      (∀ heading, session.phase = .idle → session.current = some heading →
        ∃ bot block, Visit.lastBot? visits = some bot ∧ bot.block? heading = some block ∧
          block.actions.length ≤ session.cursor)) ∧
    ∀ (session : Session) (name : String), session.phase = .awaiting name →
      (∀ (bot other : Bot) (classify classify' : String → String) (text : String),
        session.ahead? bot = session.ahead? other →
          session.turn bot classify text = session.turn other classify' text) ∧
      (∀ (bot : Bot) (classify : String → String) (text : String),
        session.current.bind bot.block? = none →
          let later := (session.turn bot classify text).2
          (session.turn bot classify text).1 = [] ∧
          later.bindings[name]? = some text ∧
          (∀ other, other ≠ name → later.bindings[other]? = session.bindings[other]?) ∧
          later.current = none ∧ later.cursor = 0 ∧ later.phase = .idle) := by
  constructor
  · intro visits session
    rcases travel_cases visits with fresh | ⟨bot, last, settled⟩
    · refine ⟨fun _ => ?_, fun name awaiting => ?_, fun heading _ current => ?_⟩
      · rw [show session = new from fresh]
        exact ⟨rfl, rfl⟩
      · cases (congrArg phase fresh).symm.trans awaiting
      · cases (congrArg Session.current fresh).symm.trans current
    · refine ⟨fun free => (settled.free free).symm, ?_, ?_⟩
      · intro name awaiting
        obtain ⟨heading, block, prompt, asked⟩ := settled.waits name awaiting
        exact ⟨bot, heading, block, prompt, last, asked⟩
      · intro heading idle current
        obtain ⟨block, ended⟩ := settled.ended heading idle current
        exact ⟨bot, block, last, ended⟩
  · intro session name awaiting
    constructor
    · intro bot other classify classify' text same
      rw [turn_of_ahead? awaiting, turn_of_ahead? awaiting, same]
    · intro bot classify text lacking
      have nothing : session.ahead? bot = none := by rw [ahead?, lacking, Option.map_none]
      rw [turn_of_ahead? awaiting, nothing]
      refine ⟨rfl, Std.ExtTreeMap.getElem?_insert_self, ?_, rfl, rfl, rfl⟩
      intro other different
      have unequal : compare name other ≠ .eq := fun same =>
        different (Std.LawfulEqOrd.eq_of_compare same).symm
      exact Std.ExtTreeMap.getElem?_insert.trans (if_neg unequal)

theorem travel_resumes_shops :
    let buy : Block := ⟨"buy", [.ask "What?" "item", .say "One \x7b\x7bitem\x7d\x7d."]⟩
    let sell : Block := ⟨"buy", [.say "Welcome.", .say "One \x7b\x7bitem\x7d\x7d."]⟩
    let shop : Bot := ⟨"Shop", (∅ : Std.ExtTreeMap String Block).insert "buy" buy, none⟩
    let store : Bot := ⟨"Store", (∅ : Std.ExtTreeMap String Block).insert "buy" sell, none⟩
    let stall : Bot := ⟨"Stall", ∅, some buy⟩
    let waiting := new.travel [.message stall id "hello", .reset, .message shop id "buy"]
    waiting.phase = .awaiting "item" ∧ waiting.ahead? shop = waiting.ahead? store ∧
      waiting.current.bind stall.block? = none ∧
      waiting.turn shop id "tea" = waiting.turn store id "tea" ∧
      (waiting.turn stall id "tea").1 = [] ∧
      ∃ bot heading block prompt, some shop = some bot ∧
        waiting.current = some heading ∧ bot.block? heading = some block ∧
        1 ≤ waiting.cursor ∧ block.actions[waiting.cursor - 1]? = some (.ask prompt "item") := by
  intro buy sell shop store stall waiting
  have awaiting : waiting.phase = .awaiting "item" := by decide +kernel
  have same : waiting.ahead? shop = waiting.ahead? store := by decide +kernel
  have lacking : waiting.current.bind stall.block? = none := by decide +kernel
  obtain ⟨ordered, answers⟩ := travel_resumes
  obtain ⟨alike, alone⟩ := answers waiting "item" awaiting
  exact ⟨awaiting, same, lacking, alike shop store id id "tea" same,
    (alone stall id "tea" lacking).1, (ordered _).2.1 "item" awaiting⟩

end Session

end Dialogue
