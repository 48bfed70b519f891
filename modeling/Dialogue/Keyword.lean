/-!
# Keywords

The eight words that the script language reserves, and the two rules for where
a keyword ends.
-/

namespace Dialogue

inductive Keyword where
  | bot
  | intent
  | default
  | say
  | ask
  | set
  | finish
  | into
  deriving DecidableEq, Repr

namespace Keyword

/-- Every keyword, in the order in which they are tried: `ask` comes before
`as`, which begins it. -/
def all : List Keyword :=
  [bot, intent, .default, say, ask, set, finish, into]

def text : Keyword → String
  | bot => "bot"
  | intent => "intent"
  | .default => "default"
  | say => "say"
  | ask => "ask"
  | set => "set"
  | finish => "end"
  | into => "as"

def label : Keyword → String
  | bot => "Bot"
  | intent => "Intent"
  | .default => "Default"
  | say => "Say"
  | ask => "Ask"
  | set => "Set"
  | finish => "End"
  | into => "As"

def ofText? : String → Option Keyword
  | "bot" => some bot
  | "intent" => some intent
  | "default" => some .default
  | "say" => some say
  | "ask" => some ask
  | "set" => some set
  | "end" => some finish
  | "as" => some into
  | _ => none

@[simp] theorem ofText?_text (word : Keyword) : ofText? word.text = some word := by
  cases word <;> rfl

theorem text_of_ofText? {text : String} {word : Keyword}
    (found : ofText? text = some word) : word.text = text := by
  unfold ofText? at found
  split at found <;> cases found <;> rfl

theorem mem_all (word : Keyword) : word ∈ all := by
  cases word <;> decide

def letters (word : Keyword) : List Char :=
  word.text.toList

theorem letters_ne_nil (word : Keyword) : word.letters ≠ [] := by
  cases word <;> decide

def strip? (word : Keyword) (text : List Char) : Option (List Char) :=
  if word.letters.isPrefixOf text then some (text.drop word.letters.length) else none

theorem strip?_eq_some {word : Keyword} {text rest : List Char} :
    word.strip? text = some rest ↔ text = word.letters ++ rest := by
  unfold strip?
  split
  · rename_i begins
    obtain ⟨tail, rfl⟩ := List.isPrefixOf_iff_prefix.mp begins
    simp
  · rename_i other
    constructor
    · intro found
      cases found
    · rintro rfl
      simp at other

end Keyword

inductive KeywordMatching where
  /-- Only where the next character cannot continue a word: `botname` is one name. -/
  | wordBoundary
  /-- Right after its letters: `botname` is `bot` and then `name`. -/
  | bare
  deriving DecidableEq, Repr

structure ScriptOptions where
  keywordMatching : KeywordMatching := .wordBoundary
  deriving DecidableEq, Repr

end Dialogue
