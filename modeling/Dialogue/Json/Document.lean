import Dialogue.Json.Token

/-!
# Documents

The tree of a JSON text.  A text that breaks off or goes wrong has a tree too:
each container says how it ends, and nothing follows the place of a fault.  What
a fault is called depends on what the reader looks for there, so the tree keeps
the facts and leaves the words to the decoders.  `Document.read` builds the tree
token by token; `Mode` says what comes next and the frames hold the containers
that are open.
-/

namespace Dialogue.Json

inductive ArrayEnd where
  | closed
  | endOfText
  | commaClosed
  | commaEnd
  | noComma
  deriving DecidableEq, Repr

inductive ObjectEnd where
  | closed
  | endOfText
  | commaClosed
  | commaEnd
  | noComma
  | badKey
  /-- A key without a colon after it; `ended` if the text ends there. -/
  | noColon (key : RawText) (ended : Bool)
  deriving DecidableEq, Repr

inductive Node where
  | nothing
  | stray
  | atom (atom : Atom)
  | array (items : List Node) (ending : ArrayEnd)
  | object (fields : List (RawText × Node)) (ending : ObjectEnd)
  deriving Repr

structure Document where
  root : Node
  trailing : Bool
  deriving Repr

/-- A container that is open around the value being read; what is in it already
stands with the latest first. -/
inductive Frame where
  | array (items : List Node)
  | object (fields : List (RawText × Node)) (key : RawText)
  deriving Repr

/-- Puts a broken value into the containers around it, which end there. -/
def enclose : List Frame → Node → Node
  | [], node => node
  | .array items :: frames, node =>
      enclose frames (.array (node :: items).reverse .endOfText)
  | .object fields key :: frames, node =>
      enclose frames (.object ((key, node) :: fields).reverse .endOfText)

inductive Mode where
  | value
  | firstItem
  | item (items : List Node)
  | firstKey
  | key (fields : List (RawText × Node))
  | colon (fields : List (RawText × Node)) (key : RawText)
  | after (node : Node)

namespace Mode

def begin (frames : List Frame) : Token → Except Document (Mode × List Frame)
  | .atom atom => .ok (.after (.atom atom), frames)
  | .openBracket => .ok (.firstItem, frames)
  | .openBrace => .ok (.firstKey, frames)
  | _ => .error ⟨enclose frames .stray, false⟩

def beginKey (frames : List Frame) (fields : List (RawText × Node)) :
    Token → Except Document (Mode × List Frame)
  | .atom (.string name) => .ok (.colon fields name, frames)
  | _ => .error ⟨enclose frames (.object fields.reverse .badKey), false⟩

def step (frames : List Frame) :
    Mode → Token → Except Document (Mode × List Frame)
  | value, token => begin frames token
  | firstItem, .closeBracket => .ok (.after (.array [] .closed), frames)
  | firstItem, token => begin (.array [] :: frames) token
  | item items, .closeBracket =>
      .error ⟨enclose frames (.array items.reverse .commaClosed), false⟩
  | item items, token => begin (.array items :: frames) token
  | firstKey, .closeBrace => .ok (.after (.object [] .closed), frames)
  | firstKey, token => beginKey frames [] token
  | key fields, .closeBrace =>
      .error ⟨enclose frames (.object fields.reverse .commaClosed), false⟩
  | key fields, token => beginKey frames fields token
  | colon fields name, .colon => .ok (.value, .object fields name :: frames)
  | colon fields name, _ =>
      .error ⟨enclose frames (.object fields.reverse (.noColon name false)), false⟩
  | after node, token =>
      match frames, token with
      | [], _ => .error ⟨node, true⟩
      | .array items :: frames, .comma => .ok (.item (node :: items), frames)
      | .array items :: frames, .closeBracket =>
          .ok (.after (.array (node :: items).reverse .closed), frames)
      | .array items :: frames, _ =>
          .error ⟨enclose frames (.array (node :: items).reverse .noComma), false⟩
      | .object fields name :: frames, .comma =>
          .ok (.key ((name, node) :: fields), frames)
      | .object fields name :: frames, .closeBrace =>
          .ok (.after (.object ((name, node) :: fields).reverse .closed), frames)
      | .object fields name :: frames, _ =>
          .error ⟨enclose frames (.object ((name, node) :: fields).reverse .noComma), false⟩

def finish (frames : List Frame) : Mode → Document
  | value => ⟨enclose frames .nothing, false⟩
  | firstItem => ⟨enclose frames (.array [] .endOfText), false⟩
  | item items => ⟨enclose frames (.array items.reverse .commaEnd), false⟩
  | firstKey => ⟨enclose frames (.object [] .endOfText), false⟩
  | key fields => ⟨enclose frames (.object fields.reverse .commaEnd), false⟩
  | colon fields name =>
      ⟨enclose frames (.object fields.reverse (.noColon name true)), false⟩
  | after node => ⟨enclose frames node, false⟩

end Mode

namespace Document

def readOn (mode : Mode) (frames : List Frame) : List Token → Document
  | [] => mode.finish frames
  | token :: tokens =>
      match mode.step frames token with
      | .ok (mode, frames) => readOn mode frames tokens
      | .error document => document

def read (text : String) : Document :=
  readOn .value [] (Token.all text.toList)

end Document

end Dialogue.Json
