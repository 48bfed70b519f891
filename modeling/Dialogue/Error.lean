import Dialogue.Json.Error
import Dialogue.Script.Slot

/-!
# Errors

Why a script, its options or its rules could not be loaded.  Running a loaded
bot never fails.
-/

namespace Dialogue

inductive FileFault where
  | notFound
  | notDirectory
  | isDirectory
  | nameTooLong
  | notText
  | other (message : String)
  deriving DecidableEq, Repr

def FileFault.message : FileFault → String
  | notFound => "No such file or directory (os error 2)"
  | notDirectory => "Not a directory (os error 20)"
  | isDirectory => "Is a directory (os error 21)"
  | nameTooLong => "File name too long (os error 36)"
  | notText => "stream did not contain valid UTF-8"
  | other message => message

inductive Error where
  /-- A character that begins no token; a quote here begins a string that never
  ends. -/
  | character (position : Position) (found : Char)
  | token (position : Position) (slot : Slot) (found : TokenKind)
  | endOfScript (slot : Slot)
  | unterminated (block : OpenBlock)
  | duplicateIntent (name : String) (position : Position)
  | secondDefault (position : Position)
  | file (path : String) (fault : FileFault)
  | config (cause : Json.Error)
  deriving DecidableEq, Repr

inductive Severity where
  | fatal
  | recoverable
  deriving DecidableEq, Repr

def Position.text (position : Position) : String :=
  "line " ++ toString position.line ++ ", column " ++ toString position.column

namespace Error

def severity : Error → Severity
  | file .. => .recoverable
  | config _ => .recoverable
  | _ => .fatal

def position? : Error → Option Position
  | character position _ => some position
  | token position _ _ => some position
  | endOfScript _ => none
  | unterminated block => some block.keyword
  | duplicateIntent _ position => some position
  | secondDefault position => some position
  | file .. => none
  | config _ => none

def message : Error → String
  | character position found =>
      "Lexical error at " ++ position.text ++ ": unexpected character '" ++
        found.toString ++ "'" ++
        (if found = '"' then ": unterminated string literal" else "")
  | token position slot found =>
      "Syntax error at " ++ position.text ++ ": " ++ slot.complaint found
  | endOfScript slot => "Unexpected end of input: expected " ++ slot.expected
  | unterminated block =>
      "Unterminated " ++ block.label.text ++ " block opened at " ++
        block.keyword.text ++ ": missing closing `\x7d`"
  | duplicateIntent name position =>
      "Duplicate intent name \"" ++ name ++ "\" at " ++ position.text
  | secondDefault position =>
      "Multiple default blocks are not allowed (second one at " ++ position.text ++ ")"
  | file path fault => "Cannot read script '" ++ path ++ "': " ++ fault.message
  | config cause => "Configuration error: " ++ cause.message

end Error

end Dialogue
