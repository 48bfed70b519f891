import Dialogue.Proofs.Script.Printing
import Dialogue.Proofs.Session.Conversation
import Dialogue.Proofs.Template.Placeholder

/-!
# What is bound, and reading it back

In a conversation only those names are bound that an `ask` or a `set` of the bot
stores a value under.  A bot that was loaded has these names from its script, where
a scan has found them as identifiers, so a template can refer to each of them.
-/

namespace Dialogue

def Action.target? : Action → Option String
  | .ask _ name => some name
  | .set name _ => some name
  | .say _ => none
  | .finish => none

def Bot.Binds (bot : Bot) (name : String) : Prop :=
  ∃ heading block, bot.block? heading = some block ∧
    ∃ action ∈ block.actions, action.target? = some name

namespace Session

/-- Every name that is bound, and the one that waits for an answer, is a name that
the bot binds. -/
def Bound (bot : Bot) (session : Session) : Prop :=
  (∀ name ∈ session.bindings, bot.Binds name) ∧
    ∀ name, session.phase = .awaiting name → bot.Binds name

section

variable {bot : Bot}

theorem bound_new (bot : Bot) : Bound bot new := by
  constructor
  · intro name member
    exact (Std.ExtTreeMap.not_mem_empty member).elim
  · intro name awaiting
    cases awaiting

theorem Bound.assign {session : Session} (bound : Bound bot session) {name : String}
    (binds : bot.Binds name) (value : String) : Bound bot (session.assign name value) := by
  refine ⟨fun other member => ?_, bound.2⟩
  rcases Std.ExtTreeMap.mem_insert.mp member with same | known
  · cases Std.LawfulEqOrd.compare_eq_iff_eq.mp same
    exact binds
  · exact bound.1 other known

theorem Bound.idle {session : Session} (bound : Bound bot session) :
    Bound bot { session with phase := .idle } :=
  ⟨bound.1, fun _ awaiting => nomatch awaiting⟩

theorem bound_run {actions : List Action}
    (targets : ∀ action ∈ actions, ∀ name, action.target? = some name → bot.Binds name)
    {session : Session} (bound : Bound bot session) : Bound bot (session.run actions).2 := by
  induction actions generalizing session with
  | nil => exact bound
  | cons action rest ih =>
      have first := targets action List.mem_cons_self
      have onward {next : Session} : Bound bot next → Bound bot (next.run rest).2 :=
        ih fun other member => targets other (List.mem_cons_of_mem action member)
      cases action with
      | say text => exact onward bound
      | set name value =>
          have advanced : Bound bot session.advance := bound
          exact onward (advanced.assign (first name rfl) _)
      | finish => exact bound
      | ask prompt name =>
          refine ⟨bound.1, fun other awaiting => ?_⟩
          cases awaiting
          exact first name rfl

theorem bound_resume {session : Session} (bound : Bound bot session) :
    Bound bot (session.resume bot).2 := by
  unfold resume
  split
  case h_1 block current =>
    obtain ⟨heading, -, found⟩ := Option.bind_eq_some_iff.mp current
    apply bound_run _ bound
    intro action member name target
    exact ⟨heading, block, found, action, List.mem_of_mem_drop member, target⟩
  case h_2 => exact bound

theorem Bound.entered {session entered : Session} (bound : Bound bot session)
    {classify : String → String} {text : String}
    (enters : session.entered? bot classify text = some entered) : Bound bot entered := by
  unfold entered? at enters
  split at enters
  case h_1 name awaiting =>
    cases enters
    exact (bound.assign (bound.2 name awaiting) text).idle
  case h_2 =>
    obtain ⟨heading, -, rfl⟩ := Option.map_eq_some_iff.mp enters
    exact bound

theorem bound_turn {session : Session} (bound : Bound bot session)
    (classify : String → String) (text : String) :
    Bound bot (session.turn bot classify text).2 := by
  rw [turn_eq_entered?]
  cases enters : session.entered? bot classify text with
  | none => exact bound
  | some entered => exact bound_resume (bound.entered enters)

theorem bound_converse (bot : Bot) (events : List Event) :
    Bound bot (new.converse bot events).2 := by
  apply converse_invariant (Bound bot) _ (bound_new bot)
  intro session event bound
  cases event with
  | message classify text => exact bound_turn bound classify text
  | reset => exact bound_new bot

end

end Session

/-! ## Names of a loaded bot -/

theorem Action.identifier_mem_kinds {action : Action} {name : String}
    (target : action.target? = some name) : .identifier name ∈ action.kinds := by
  cases action with
  | say | finish => cases target
  | ask prompt other =>
      cases target
      simp [kinds]
  | set other value =>
      cases target
      simp [kinds]

theorem Script.Declares.identifier_mem_kinds {script : Script} {bot : Bot}
    (declares : script.Declares bot) {name : String} (binds : bot.Binds name) :
    .identifier name ∈ script.kinds := by
  obtain ⟨heading, block, found, action, member, target⟩ := binds
  obtain ⟨-, part⟩ := (declares.block?_iff heading block).mp found
  have inside : .identifier name ∈ Section.kinds ⟨heading, block.actions⟩ := by
    have among := List.mem_flatMap.mpr ⟨action, member, Action.identifier_mem_kinds target⟩
    simp [Section.kinds, among]
  have among := List.mem_flatMap.mpr ⟨_, part, inside⟩
  simp [Script.kinds, among]

theorem Bot.Binds.isName {options : ScriptOptions} {source : String} {bot : Bot}
    (loaded : load options source = .ok bot) {name : String} (binds : bot.Binds name) :
    Name.IsName name.toList := by
  obtain ⟨script, scans, -, declares⟩ := (load_eq_ok_iff options source bot).mp loaded
  exact (scans.scannable _ (declares.identifier_mem_kinds binds)).1

namespace Session

/-- Whatever is bound in a conversation with a loaded bot is bound by one of its
actions, and a reference to it renders to the value as it is. -/
theorem bound_read_back {options : ScriptOptions} {source : String} {bot : Bot}
    (loaded : load options source = .ok bot) (events : List Event) :
    let session := (new.converse bot events).2
    ∀ name value, session.bindings[name]? = some value →
      bot.Binds name ∧ Template.render session.bindings (Template.reference name) = value := by
  intro session name value found
  have member : name ∈ session.bindings := by
    rw [← Std.ExtTreeMap.isSome_getElem?_iff_mem, found]
    rfl
  have binds : bot.Binds name := (bound_converse bot events).1 name member
  exact ⟨binds, Template.render_reference (binds.isName loaded) found⟩

theorem bound_read_back_shop :
    let source := "bot \"Shop\" \x7b default \x7b set _1 = \"x\" ask \"What?\" as item \x7d \x7d"
    let answer := "\x7b\x7bitem\x7d\x7d \"\x7b\x7b_1\x7d\x7d\"\n"
    let events : List Event := [.message id "hello", .message id answer]
    ∃ bot, load ⟨.bare⟩ source = .ok bot ∧
      let session := (new.converse bot events).2
      session.bindings["item"]? = some answer ∧ bot.Binds "item" ∧
        Template.render session.bindings (Template.reference "item") = answer := by
  intro source answer events
  let script : Script :=
    ⟨"Shop", [⟨.default, [.set "_1" (.literal "x"), .ask "What?" "item"]⟩]⟩
  have differ : script.HeadingsDiffer := by
    show (script.sections.map Section.heading).Nodup
    decide
  have loaded : load ⟨.bare⟩ source = .ok script.toBot :=
    load_eq_ok_toBot (by decide +kernel) differ
  have found : (new.converse script.toBot events).2.bindings["item"]? = some answer := by
    decide +kernel
  exact ⟨script.toBot, loaded, found, bound_read_back loaded events "item" answer found⟩

end Session

end Dialogue
