import Dialogue.Text.Case.Table

/-!
# Lower case

The full lower-case form of a text, in no particular language.  Two characters
are not mapped one to one: `İ` becomes `i` with a dot above, and a capital sigma
becomes `ς` at the end of a word and `σ` elsewhere.
-/

namespace Dialogue.Text

def lowerChar (c : Char) : List Char :=
  if c = 'İ' then
    ['i', '\u0307']
  else
    match caseRanges.find? fun range => c.toNat ≤ range.last with
    | none => [c]
    | some range =>
        if range.first ≤ c.toNat ∧ (c.toNat - range.first) % range.stride = 0 then
          [Char.ofNat (c.toNat - range.first + range.lower)]
        else
          [c]

def beginsCased (text : List Char) : Bool :=
  match text.dropWhile caseIgnorable.contains with
  | [] => false
  | c :: _ => cased.contains c

/-- Whether a place is the end of a word: letters stand before it and none after.
`before` is the text in front of the place, read backwards. -/
def endsWord (before rest : List Char) : Bool :=
  beginsCased before && !beginsCased rest

/-- The lower-case form of a text, given the text in front of it read backwards. -/
def lowerAfter (before : List Char) : List Char → List Char
  | [] => []
  | c :: rest =>
      let lowered :=
        if c = 'Σ' then
          if endsWord before rest then ['ς'] else ['σ']
        else
          lowerChar c
      lowered ++ lowerAfter (c :: before) rest

def lower (text : List Char) : List Char :=
  lowerAfter [] text

end Dialogue.Text
