import Dialogue.Codec.Bot
import Dialogue.Codec.Config
import Dialogue.Console.Arguments
import Dialogue.Console.Chat
import Dialogue.Load
import Dialogue.Text.Quoted

/-!
# The program

What one use of the program does.  `plan` reads the files that it needs and says what is
to be done, and `use` does it, in any monad that has a host.  `run` is the same on
files and an input that are given beforehand.
-/

namespace Dialogue.Console

structure Failure where
  context : Option String
  message : String
  deriving DecidableEq, Repr

/-- The failure as it is printed.  A cause stands below its context, every line of
it indented. -/
def Failure.text (failure : Failure) : String :=
  match failure.context with
  | none => "Error: " ++ failure.message ++ "\n"
  | some context =>
      let lines := (failure.message.splitOn "\n").map ("    " ++ ·)
      "Error: " ++ context ++ "\n\nCaused by:\n" ++ "\n".intercalate lines ++ "\n"

def kindText (kind : TokenKind) : String :=
  match kind with
  | .string text => kind.label ++ "(" ++ Text.quoted text ++ ")"
  | .identifier name => kind.label ++ "(" ++ Text.quoted name ++ ")"
  | _ => kind.label

def tokenLine (token : Token) : String :=
  toString token.position.line ++ ":" ++ toString token.position.column ++ "\t" ++
    kindText token.kind ++ "\t" ++ token.lexeme ++ "\n"

def tokenListing (tokens : List Token) : String :=
  String.join (tokens.map tokenLine)

def summary (bot : Bot) : String :=
  "Bot name: " ++ bot.name ++ "\n" ++
    "Intents: [" ++ ", ".intercalate (bot.intentNames.map Text.quoted) ++ "]\n" ++
    "Default intent: " ++ (bot.defaultBlock.map Block.name).getD "none" ++ "\n"

/-- Without rules every message goes to the first intent by name. -/
def firstIntentClassifier (bot : Bot) : KeywordClassifier :=
  .new (bot.intentNames.head?.getD "")

inductive Plan where
  | print (text : String)
  | converse (bot : Bot) (classifier : KeywordClassifier)

namespace Invocation

def options (invocation : Invocation) : ScriptOptions :=
  ⟨if invocation.bareKeywords then .bare else .wordBoundary⟩

def inContext {ε α : Type} (context : Option String) (message : ε → String) :
    Except ε α → Except Failure α
  | .ok value => .ok value
  | .error error => .error ⟨context, message error⟩

def loading (invocation : Invocation) (source : String) : Except Failure Bot :=
  inContext (some ("loading " ++ invocation.script)) Error.message
    (load invocation.options source)

def classifier (bot : Bot) : Option String → Except Failure KeywordClassifier
  | none => .ok (firstIntentClassifier bot)
  | some text =>
      inContext none Error.message (KeywordClassifier.ofRules <$> KeywordRules.ofJson text)

variable {m : Type → Type} [Monad m]

def need (readFile : String → m (Except FileFault String)) (what path : String) :
    ExceptT Failure m String := do
  let text ← (readFile path : m _)
  MonadExcept.ofExcept (inContext (some (what ++ " " ++ path)) FileFault.message text)

def plan (readFile : String → m (Except FileFault String)) (invocation : Invocation) :
    ExceptT Failure m Plan := do
  let source ← need readFile "reading script" invocation.script
  match invocation.command with
  | .tokens =>
      let tokens ← MonadExcept.ofExcept <|
        inContext none Error.message (scan (.ofOptions invocation.options) source)
      return .print (tokenListing tokens)
  | .check =>
      let bot ← MonadExcept.ofExcept (invocation.loading source)
      return .print (if invocation.json then bot.encode.pretty ++ "\n" else summary bot)
  | .chat =>
      let bot ← MonadExcept.ofExcept (invocation.loading source)
      let rules ←
        match invocation.rules with
        | none => pure none
        | some path => some <$> need readFile "reading rules" path
      let classifier ← MonadExcept.ofExcept (classifier bot rules)
      return .converse bot classifier

end Invocation

structure Host (m : Type → Type) (Input : Type) where
  readFile : String → m (Except FileFault String)
  print : String → m Unit
  complain : String → m Unit
  input : Input

def usage : String :=
  "Usage: [--prefix-keywords] tokens SCRIPT\n" ++
    "       [--prefix-keywords] check [--json] SCRIPT\n" ++
    "       [--prefix-keywords] chat [--rules RULES] SCRIPT\n"

section

variable {m : Type → Type} [Monad m] {Input : Type} [ForIn m Input (List UInt8)]

def Invocation.perform (host : Host m Input) (invocation : Invocation) :
    ExceptT Failure m Unit := do
  match ← invocation.plan host.readFile with
  | .print text => host.print text
  | .converse bot classifier =>
      match ← (chat host.print bot classifier.recognize host.input : m _) with
      | none => return
      | some fault => throw ⟨none, fault.message⟩

def use (host : Host m Input) (arguments : List String) : m Nat := do
  match Invocation.ofArguments? arguments with
  | none =>
      host.complain usage
      return 2
  | some invocation =>
      match ← (invocation.perform host).run with
      | .ok () => return 0
      | .error failure =>
          host.complain failure.text
          return 1

end

structure Outcome where
  status : Nat
  printed : String
  complaint : String
  deriving DecidableEq, Repr

namespace Outcome

def misuse : Outcome :=
  ⟨2, "", usage⟩

def print (text : String) (outcome : Outcome) : Outcome :=
  { outcome with printed := outcome.printed ++ text }

def complain (text : String) (outcome : Outcome) : Outcome :=
  { outcome with complaint := outcome.complaint ++ text }

theorem print_print (first second : String) (outcome : Outcome) :
    (outcome.print first).print second = outcome.print (first ++ second) := by
  simp [print, String.append_assoc]

end Outcome

abbrev keep (text : String) : StateM Outcome Unit :=
  modify (Outcome.print text)

/-- A host that is given beforehand and keeps what is printed. -/
def Host.given (readFile : String → Except FileFault String) (input : ByteArray) :
    Host (StateM Outcome) (List (List UInt8)) where
  readFile path := return readFile path
  print := keep
  complain text := modify (Outcome.complain text)
  input := byteLines input.toList

def run (arguments : List String) (readFile : String → Except FileFault String)
    (input : ByteArray) : Outcome :=
  let (status, outcome) := (use (.given readFile input) arguments).run ⟨0, "", ""⟩
  { outcome with status }

end Dialogue.Console
