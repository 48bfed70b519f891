import Dialogue.Proofs.Session.Conversation
import Dialogue.Proofs.Template.Pattern

/-!
# Answers are opaque

An outline is a session whose values are patterns.  A conversation can be carried
out on outlines as soon as the names that its messages are recognised as are known,
with a hole in the place of every answer.  Whatever the answers are then, filling
the holes gives the conversation: an answer is copied about, but neither searched
for placeholders nor looked at to find the next action.
-/

namespace Dialogue

structure Message where
  classify : String → String
  text : String

def Message.name (message : Message) : String :=
  message.classify message.text

namespace Session

def turns (session : Session) (bot : Bot) : List Message → List (List String × Session)
  | [] => []
  | message :: messages =>
      let outcome := session.turn bot message.classify message.text
      outcome :: outcome.2.turns bot messages

def namesHeard (session : Session) (bot : Bot) : List Message → List String
  | [] => []
  | message :: messages =>
      let later := (session.turn bot message.classify message.text).2
      match session.phase with
      | .idle => message.name :: later.namesHeard bot messages
      | .awaiting _ => later.namesHeard bot messages

/-- The messages with other answers: those that are answers to an `ask` are replaced
by the given texts in turn. -/
def reanswer (session : Session) (bot : Bot) (answers : Nat → String) :
    List Message → List Message
  | [] => []
  | message :: messages =>
      let later := (session.turn bot message.classify message.text).2
      match session.phase with
      | .idle => message :: later.reanswer bot answers messages
      | .awaiting _ =>
          { message with text := answers 0 } ::
            later.reanswer bot (fun number => answers (number + 1)) messages

/-- What a session shows of itself apart from its values: phase, current block,
cursor, and which names are bound. -/
def control (session : Session) : Phase × Option Heading × Nat × List String :=
  (session.phase, session.current, session.cursor, session.bindings.keys)

end Session

/-! ## Outlines -/

structure Outline where
  bindings : Std.ExtTreeMap String Pattern
  phase : Phase
  current : Option Heading
  cursor : Nat

namespace Outline

def new : Outline :=
  ⟨∅, .idle, none, 0⟩

def fill (answers : Nat → String) (outline : Outline) : Session :=
  ⟨Template.fillBindings answers outline.bindings, outline.phase, outline.current,
    outline.cursor⟩

def assign (outline : Outline) (name : String) (value : Pattern) : Outline :=
  { outline with bindings := outline.bindings.insert name value }

def leave (outline : Outline) : Outline :=
  { outline with current := none, cursor := 0 }

def advance (outline : Outline) : Outline :=
  { outline with cursor := outline.cursor + 1 }

def value (outline : Outline) : SetValue → Pattern
  | .literal text => Template.pattern outline.bindings text
  | .copy source => outline.bindings[source]?.getD [.literal source.toList]

def run (outline : Outline) : List Action → List Pattern × Outline
  | [] => ([], outline)
  | .say text :: rest =>
      let (replies, later) := outline.advance.run rest
      (Template.pattern outline.bindings text :: replies, later)
  | .ask prompt name :: _ =>
      ([Template.pattern outline.bindings prompt],
        { outline.advance with phase := .awaiting name })
  | .set name value :: rest =>
      (outline.advance.assign name (outline.value value)).run rest
  | .finish :: _ => ([], outline.leave)

def resume (outline : Outline) (bot : Bot) : List Pattern × Outline :=
  match outline.current.bind bot.block? with
  | some block => outline.run (block.actions.drop outline.cursor)
  | none => ([], outline.leave)

def named (outline : Outline) (bot : Bot) (name : String) : List Pattern × Outline :=
  match bot.heading? name with
  | some heading => { outline with current := some heading, cursor := 0 }.resume bot
  | none => ([], outline.leave)

def answered (outline : Outline) (bot : Bot) (name : String) (number : Nat) :
    List Pattern × Outline :=
  { outline.assign name [.answer number] with phase := .idle }.resume bot

/-- The patterns replied and the outline after each of a number of turns, in which
the given names are recognised.  The answers are numbered from `number` on. -/
def turns (outline : Outline) (bot : Bot) (number : Nat) :
    (count : Nat) → (names : List String) → List (List Pattern × Outline)
  | 0, _ => []
  | count + 1, names =>
      match outline.phase, names with
      | .awaiting name, names =>
          let outcome := outline.answered bot name number
          outcome :: outcome.2.turns bot (number + 1) count names
      | .idle, name :: names =>
          let outcome := outline.named bot name
          outcome :: outcome.2.turns bot number count names
      | .idle, [] => []

def fillOutcome (answers : Nat → String) (outcome : List Pattern × Outline) :
    List String × Session :=
  (outcome.1.map (Pattern.fill answers), outcome.2.fill answers)

/-! ## Filling the holes before a turn or after it -/

section

variable (answers : Nat → String)

theorem fill_assign (outline : Outline) (name : String) (value : Pattern) :
    (outline.assign name value).fill answers =
      (outline.fill answers).assign name (value.fill answers) := by
  simp only [fill, assign, Session.assign, Template.fillBindings_insert]

theorem fill_value (outline : Outline) (value : SetValue) :
    (outline.value value).fill answers = (outline.fill answers).value value := by
  cases value with
  | literal text => exact Template.fill_pattern answers outline.bindings text
  | copy source =>
      rw [Outline.value, Session.value, fill, Template.getElem?_fillBindings]
      cases outline.bindings[source]? with
      | none => exact Pattern.fill_literal answers source
      | some value => rfl

theorem fill_run (outline : Outline) (actions : List Action) :
    fillOutcome answers (outline.run actions) = (outline.fill answers).run actions := by
  induction actions generalizing outline with
  | nil => rfl
  | cons action rest ih =>
      cases action with
      | say text =>
          have said := Template.fill_pattern answers outline.bindings text
          have advanced : (outline.fill answers).advance = outline.advance.fill answers := rfl
          simp only [run, Session.run, advanced, ← ih, fillOutcome, List.map_cons, said]
          rfl
      | ask prompt name =>
          have asked := Template.fill_pattern answers outline.bindings prompt
          exact Prod.ext (congrArg List.singleton asked) rfl
      | set name value =>
          have later := ih (outline.advance.assign name (outline.value value))
          rw [fill_assign, fill_value] at later
          exact later
      | finish => rfl

theorem fill_resume (outline : Outline) (bot : Bot) :
    fillOutcome answers (outline.resume bot) = (outline.fill answers).resume bot := by
  have current : (outline.fill answers).current = outline.current := rfl
  rw [resume, Session.resume, current]
  cases outline.current.bind bot.block? with
  | none => rfl
  | some block => exact fill_run answers outline _

theorem fill_named {outline : Outline} (idle : outline.phase = .idle) (bot : Bot)
    (message : Message) :
    fillOutcome answers (outline.named bot message.name) =
      (outline.fill answers).turn bot message.classify message.text := by
  have phase : (outline.fill answers).phase = .idle := idle
  rw [named, Session.turn, phase, Message.name]
  cases bot.heading? (message.classify message.text) with
  | none => rfl
  | some heading => exact fill_resume answers _ bot

theorem fill_answered {outline : Outline} {name : String}
    (waiting : outline.phase = .awaiting name) (bot : Bot) (number : Nat)
    (classify : String → String) :
    fillOutcome answers (outline.answered bot name number) =
      (outline.fill answers).turn bot classify (answers number) := by
  have phase : (outline.fill answers).phase = .awaiting name := waiting
  have bound := fill_assign answers outline name [.answer number]
  rw [Pattern.fill_answer] at bound
  rw [answered, Session.turn, phase, fill_resume]
  exact congrArg (fun session : Session => { session with phase := .idle }.resume bot) bound

@[simp] theorem control_fill (outline : Outline) :
    (outline.fill answers).control =
      (outline.phase, outline.current, outline.cursor, outline.bindings.keys) := by
  simp [Session.control, fill, Template.fillBindings]

end

end Outline

/-! ## Two sessions that differ in their values -/

namespace Session

def Alike (first second : Session) : Prop :=
  first.phase = second.phase ∧ first.current = second.current ∧ first.cursor = second.cursor

theorem Alike.run {first second : Session} (alike : first.Alike second)
    (actions : List Action) : (first.run actions).2.Alike (second.run actions).2 := by
  induction actions generalizing first second with
  | nil => exact alike
  | cons action rest ih =>
      obtain ⟨phase, current, cursor⟩ := alike
      have moved : first.cursor + 1 = second.cursor + 1 := congrArg (· + 1) cursor
      cases action with
      | say text => exact ih ⟨phase, current, moved⟩
      | ask prompt name => exact ⟨rfl, current, moved⟩
      | set name value => exact ih ⟨phase, current, moved⟩
      | finish => exact ⟨phase, rfl, rfl⟩

theorem Alike.resume {first second : Session} (alike : first.Alike second) (bot : Bot) :
    (first.resume bot).2.Alike (second.resume bot).2 := by
  rw [Session.resume, Session.resume, alike.2.1, alike.2.2]
  cases second.current.bind bot.block? with
  | none => exact ⟨alike.1, rfl, rfl⟩
  | some block => exact alike.run _

theorem Alike.turn_of_idle {first second : Session} (alike : first.Alike second)
    (idle : first.phase = .idle) (bot : Bot) (classify : String → String) (text : String) :
    (first.turn bot classify text).2.Alike (second.turn bot classify text).2 := by
  have idle' : second.phase = .idle := alike.1.symm.trans idle
  rw [turn, turn, idle, idle']
  cases bot.heading? (classify text) with
  | none => exact ⟨alike.1, rfl, rfl⟩
  | some heading =>
      have started : (first.start heading).Alike (second.start heading) := ⟨alike.1, rfl, rfl⟩
      exact started.resume bot

theorem Alike.turn_of_awaiting {first second : Session} (alike : first.Alike second)
    {name : String} (waiting : first.phase = .awaiting name) (bot : Bot)
    (classify : String → String) (text text' : String) :
    (first.turn bot classify text).2.Alike (second.turn bot classify text').2 := by
  have waiting' : second.phase = .awaiting name := alike.1.symm.trans waiting
  rw [turn, turn, waiting, waiting']
  have answered : (first.answer name text).Alike (second.answer name text') :=
    ⟨rfl, alike.2⟩
  exact answered.resume bot

/-! ## Whole conversations -/

theorem turns_reanswer {session : Session} {outline : Outline} {answers : Nat → String}
    (alike : session.Alike (outline.fill answers)) (bot : Bot) (number : Nat)
    (messages : List Message) :
    (outline.fill answers).turns bot
        (session.reanswer bot (fun k => answers (k + number)) messages) =
      (outline.turns bot number messages.length (session.namesHeard bot messages)).map
        (Outline.fillOutcome answers) := by
  -- Three conversations go side by side: the one as it was held, which says where the
  -- answers are, the one with the other answers, and the one on outlines.
  induction messages generalizing session outline number with
  | nil => rfl
  | cons message messages ih =>
      cases phase : session.phase with
      | idle =>
          have idle : outline.phase = .idle := alike.1.symm.trans phase
          have outcome := Outline.fill_named answers idle bot message
          have onward := alike.turn_of_idle phase bot message.classify message.text
          rw [← outcome] at onward
          simp only [reanswer, namesHeard, phase, List.length_cons, Outline.turns, idle,
            turns, List.map_cons, ← outcome]
          exact congrArg _ (ih onward number)
      | awaiting name =>
          have waiting : outline.phase = .awaiting name := alike.1.symm.trans phase
          have outcome := Outline.fill_answered answers waiting bot number message.classify
          have onward := alike.turn_of_awaiting phase bot message.classify message.text
            (answers number)
          rw [← outcome] at onward
          have shifted : (fun k => answers (k + 1 + number)) =
              fun k => answers (k + (number + 1)) := by
            funext k
            rw [Nat.add_right_comm, Nat.add_assoc]
          simp only [reanswer, namesHeard, phase, List.length_cons, Outline.turns, waiting,
            turns, List.map_cons, Nat.zero_add, ← outcome, shifted]
          exact congrArg _ (ih onward (number + 1))

theorem turns_reanswer_new (bot : Bot) (messages : List Message) (answers : Nat → String) :
    new.turns bot (new.reanswer bot answers messages) =
      (Outline.new.turns bot 0 messages.length (new.namesHeard bot messages)).map
        (Outline.fillOutcome answers) := by
  have begun : Outline.new.fill answers = new := rfl
  have alike : new.Alike (Outline.new.fill answers) := ⟨rfl, rfl, rfl⟩
  exact begun ▸ turns_reanswer alike bot 0 messages

theorem exists_reanswer_eq_self (session : Session) (bot : Bot) (messages : List Message) :
    ∃ answers, session.reanswer bot answers messages = messages := by
  induction messages generalizing session with
  | nil => exact ⟨fun _ => "", rfl⟩
  | cons message messages ih =>
      obtain ⟨answers, kept⟩ := ih (session.turn bot message.classify message.text).2
      cases phase : session.phase with
      | idle => exact ⟨answers, by simp only [reanswer, phase, kept]⟩
      | awaiting name =>
          refine ⟨fun | 0 => message.text | number + 1 => answers number, ?_⟩
          simp only [reanswer, phase, kept]

theorem control_turns_reanswer (bot : Bot) (messages : List Message)
    (answers answers' : Nat → String) :
    (new.turns bot (new.reanswer bot answers messages)).map (fun outcome => outcome.2.control) =
      (new.turns bot (new.reanswer bot answers' messages)).map
        (fun outcome => outcome.2.control) := by
  have filled (given : Nat → String) :
      (new.turns bot (new.reanswer bot given messages)).map (fun outcome => outcome.2.control) =
        (Outline.new.turns bot 0 messages.length (new.namesHeard bot messages)).map
          (fun outcome => (outcome.2.phase, outcome.2.current, outcome.2.cursor,
            outcome.2.bindings.keys)) := by
    rw [turns_reanswer_new, List.map_map]
    exact List.map_congr_left fun outcome _ => Outline.control_fill given outcome.2
  rw [filled, filled]

/-- A conversation from a new session is one conversation on outlines, found from the
bot and the names recognised alone, with its holes filled by the answers as they are
written.  Other answers fill the same holes and change nothing else. -/
theorem answers_opaque (bot : Bot) (messages : List Message) :
    (∃ answers, new.reanswer bot answers messages = messages) ∧
    ∀ answers,
      new.turns bot (new.reanswer bot answers messages) =
        (Outline.new.turns bot 0 messages.length (new.namesHeard bot messages)).map
          (Outline.fillOutcome answers) ∧
      (new.turns bot (new.reanswer bot answers messages)).map
          (fun outcome => outcome.2.control) =
        (new.turns bot messages).map (fun outcome => outcome.2.control) := by
  obtain ⟨sent, same⟩ := exists_reanswer_eq_self new bot messages
  refine ⟨⟨sent, same⟩, fun answers => ⟨turns_reanswer_new bot messages answers, ?_⟩⟩
  have unchanged := control_turns_reanswer bot messages answers sent
  rwa [same] at unchanged

end Session

end Dialogue
