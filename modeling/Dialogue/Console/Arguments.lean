/-!
# Arguments of the command line

A command with its script and its options.  Options may stand before and after
the script; everything after `--` is a path.  `--prefix-keywords` may also stand
before the command.
-/

namespace Dialogue.Console

inductive Command where
  | tokens
  | check
  | chat
  deriving DecidableEq, Repr

def Command.ofText? : String → Option Command
  | "tokens" => some .tokens
  | "check" => some .check
  | "chat" => some .chat
  | _ => none

structure Given where
  script : Option String
  bareKeywords : Bool
  json : Bool
  rules : Option String
  deriving DecidableEq, Repr

structure Invocation where
  command : Command
  script : String
  bareKeywords : Bool
  json : Bool
  rules : Option String
  deriving DecidableEq, Repr

/-- Whether an argument is an option, right or wrong, and not a path.  A lone dash
is a path. -/
def isOption (argument : String) : Bool :=
  argument.startsWith "-" && argument != "-"

namespace Given

def none : Given :=
  ⟨.none, false, false, .none⟩

def addScript (given : Given) (path : String) : Option Given :=
  if path = "" ∨ given.script.isSome then .none
  else some { given with script := some path }

def addRules (given : Given) (path : String) : Option Given :=
  if path = "" ∨ given.rules.isSome then .none
  else some { given with rules := some path }

def addBareKeywords (given : Given) : Option Given :=
  if given.bareKeywords then .none else some { given with bareKeywords := true }

def addJson (given : Given) : Option Given :=
  if given.json then .none else some { given with json := true }

end Given

def rulesPath? (argument : String) : Option String :=
  let begin := "--rules="
  if argument.startsWith begin then some (argument.drop begin.length).copy else none

def readGiven (command : Command) (given : Given) : List String → Option Given
  | [] => some given
  | "--" :: paths => paths.foldlM Given.addScript given
  | "--prefix-keywords" :: rest => do
      let given ← given.addBareKeywords
      readGiven command given rest
  | "--json" :: rest => do
      guard (command = .check)
      let given ← given.addJson
      readGiven command given rest
  | "--rules" :: rest => do
      guard (command = .chat)
      match rest with
      | [] => failure
      | path :: rest =>
          guard !isOption path
          let given ← given.addRules path
          readGiven command given rest
  | argument :: rest =>
      match rulesPath? argument with
      | some path => do
          guard (command = .chat)
          let given ← given.addRules path
          readGiven command given rest
      | .none => do
          guard !isOption argument
          let given ← given.addScript argument
          readGiven command given rest

def readCommand (name : String) (before : Bool) (arguments : List String) :
    Option Invocation := do
  let command ← Command.ofText? name
  let given ← readGiven command .none arguments
  let script ← given.script
  return ⟨command, script, before || given.bareKeywords, given.json, given.rules⟩

def Invocation.ofArguments? : List String → Option Invocation
  | "--prefix-keywords" :: name :: arguments => readCommand name true arguments
  | name :: arguments => readCommand name false arguments
  | [] => .none

end Dialogue.Console
