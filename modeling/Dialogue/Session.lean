import Dialogue.Bot
import Dialogue.Template

/-!
# Sessions

The state of one conversation, and the turn that a message brings about.  A
message is the answer to a pending `ask`, or else it names the block to run.  A
block runs up to its next `ask`, an `end`, or its last action.
-/

namespace Dialogue

inductive Phase where
  | idle
  | awaiting (name : String)
  deriving DecidableEq, Repr

/-- One conversation: `current` is the block that was begun last and has not come
to an `end`, and `cursor` counts its actions that are done. -/
structure Session where
  bindings : Bindings
  phase : Phase
  current : Option Heading
  cursor : Nat
  deriving DecidableEq

namespace Session

def new : Session :=
  ⟨∅, .idle, none, 0⟩

def isAwaiting (session : Session) : Bool :=
  session.phase != .idle

def currentName? (session : Session) : Option String :=
  session.current.map Heading.blockName

def assign (session : Session) (name value : String) : Session :=
  { session with bindings := session.bindings.insert name value }

def start (session : Session) (heading : Heading) : Session :=
  { session with current := some heading, cursor := 0 }

def leave (session : Session) : Session :=
  { session with current := none, cursor := 0 }

def advance (session : Session) : Session :=
  { session with cursor := session.cursor + 1 }

def suspend (session : Session) (name : String) : Session :=
  { session with phase := .awaiting name }

def answer (session : Session) (name text : String) : Session :=
  { session.assign name text with phase := .idle }

/-- The value that a `set` assigns: a literal is rendered, and a variable is
copied as it is, or gives its own name when it is not bound. -/
def value (session : Session) : SetValue → String
  | .literal text => Template.render session.bindings text
  | .copy source => session.bindings[source]?.getD source

def run (session : Session) : List Action → List String × Session
  | [] => ([], session)
  | .say text :: rest =>
      let (replies, later) := session.advance.run rest
      (Template.render session.bindings text :: replies, later)
  | .ask prompt name :: _ =>
      ([Template.render session.bindings prompt], session.advance.suspend name)
  | .set name value :: rest =>
      (session.advance.assign name (session.value value)).run rest
  | .finish :: _ => ([], session.leave)

/-- Runs the current block of a bot from the cursor on.  A block that the bot
lacks is left at once. -/
def resume (session : Session) (bot : Bot) : List String × Session :=
  match session.current.bind bot.block? with
  | some block => session.run (block.actions.drop session.cursor)
  | none => ([], session.leave)

/-- One turn: the replies of a bot to a message, and the session after it.
`classify` gives the name of the intent that a text expresses. -/
def turn (session : Session) (bot : Bot) (classify : String → String) (text : String) :
    List String × Session :=
  match session.phase with
  | .awaiting name => (session.answer name text).resume bot
  | .idle =>
      match bot.heading? (classify text) with
      | some heading => (session.start heading).resume bot
      | none => ([], session.leave)

end Session

end Dialogue
