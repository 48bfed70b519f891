import Dialogue.Script.Reader
import Dialogue.Token.Scan

/-!
# Loading scripts

From the text of a script to the bot that it declares: scan the text, then read
the tokens.
-/

namespace Dialogue

def Scan.result (scan : Scan) : Except Error (List Token) :=
  match scan.rest with
  | [] => .ok scan.tokens
  | found :: _ => .error (.character scan.position found)

structure Scanner where
  lexicon : Lexicon
  position : Position
  rest : List Char

namespace Scanner

def ofSource (lexicon : Lexicon) (source : String) : Scanner :=
  ⟨lexicon, .start, source.toList⟩

/-- Scans what is left: the answer, and the scanner after it.  Asked again, a
scanner gives no more tokens after a success and the same error after a failure. -/
def scan (scanner : Scanner) : Except Error (List Token) × Scanner :=
  let scan := scanFrom scanner.lexicon scanner.position scanner.rest
  (scan.result, { scanner with position := scan.position, rest := scan.rest })

end Scanner

def scan (lexicon : Lexicon) (source : String) : Except Error (List Token) :=
  (Scanner.ofSource lexicon source).scan.1

def load (options : ScriptOptions) (source : String) : Except Error Bot :=
  scan (.ofOptions options) source >>= Bot.ofTokens

def loadFile (options : ScriptOptions) (readFile : String → Except FileFault String)
    (path : String) : Except Error Bot :=
  match readFile path with
  | .ok source => load options source
  | .error fault => .error (.file path fault)

end Dialogue
