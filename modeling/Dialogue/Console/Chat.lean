import Dialogue.Error
import Dialogue.Session
import Dialogue.Text.Blank

/-!
# Chatting on a console

The program asks for a line, answers it, and asks again, until the lines end or
one says `exit`.
-/

namespace Dialogue.Console

def prompt : String := "you: "

def greeting (bot : Bot) : String :=
  "Chatting with " ++ bot.name ++ ". Type 'exit' to quit.\n"

def message (line : String) : String :=
  .ofList (Text.trimEnd (fun c => c == '\r' || c == '\n') line.toList)

def isExit (message : String) : Bool :=
  (Text.trim message.toList).map Char.toLower = ['e', 'x', 'i', 't']

def replyText (replies : List String) : String :=
  String.join (replies.map fun reply => "bot: " ++ reply ++ "\n")

def byteLines (bytes : List UInt8) : List (List UInt8) :=
  match bytes with
  | [] => []
  | byte :: rest =>
      if byte = 10 then
        [byte] :: byteLines rest
      else
        match byteLines rest with
        | [] => [[byte]]
        | line :: lines => (byte :: line) :: lines

inductive Heard where
  | answered (printed : String) (later : Session)
  | ended (fault : Option FileFault)

/-- What a line brings about.  One that is not text ends the chat with a fault. -/
def hear (bot : Bot) (classify : String → String) (session : Session)
    (line : List UInt8) : Heard :=
  match String.fromUTF8? ⟨line.toArray⟩ with
  | none => .ended (some .notText)
  | some line =>
      let text := message line
      if isExit text then
        .ended none
      else
        let (replies, later) := session.turn bot classify text
        .answered (replyText replies) later

variable {m : Type → Type} [Monad m] {Input : Type} [ForIn m Input (List UInt8)]

/-- Asks for the lines of an input, in any monad that can print and in which the input can
be gone through. -/
def converse (print : String → m Unit) (bot : Bot) (classify : String → String)
    (session : Session) (lines : Input) : m (Option FileFault) := do
  print prompt
  let mut session := session
  for line in lines do
    match hear bot classify session line with
    | .ended fault => return fault
    | .answered printed later =>
        print (printed ++ prompt)
        session := later
  return none

def chat (print : String → m Unit) (bot : Bot) (classify : String → String)
    (lines : Input) : m (Option FileFault) := do
  print (greeting bot)
  converse print bot classify .new lines

end Dialogue.Console
