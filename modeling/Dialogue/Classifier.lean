import Dialogue.Text.Case
import Dialogue.Text.Search

/-!
# Keyword classifiers

A classifier gives the name of the intent that a text expresses.  A keyword
classifier tries its rules in order: the first with a keyword that occurs in the
text wins, and case does not matter.
-/

namespace Dialogue

structure KeywordRule where
  intent : String
  keywords : List String
  deriving DecidableEq, Repr

/-- Rules in the order in which they are tried, and the name for a text that
matches none. -/
structure KeywordRules where
  rules : List KeywordRule
  fallback : String
  deriving DecidableEq, Repr

structure LoweredRule where
  intent : String
  keywords : List (List Char)
  deriving DecidableEq, Repr

def KeywordRule.lowered (rule : KeywordRule) : LoweredRule :=
  ⟨rule.intent, rule.keywords.map fun keyword => Text.lower keyword.toList⟩

def LoweredRule.matches (rule : LoweredRule) (text : List Char) : Bool :=
  rule.keywords.any (Text.occursIn · text)

structure KeywordClassifier where
  rules : List LoweredRule
  fallback : String
  deriving DecidableEq, Repr

namespace KeywordClassifier

def new (fallback : String) : KeywordClassifier :=
  ⟨[], fallback⟩

def rule (classifier : KeywordClassifier) (rule : KeywordRule) : KeywordClassifier :=
  { classifier with rules := classifier.rules ++ [rule.lowered] }

def ofRules (rules : KeywordRules) : KeywordClassifier :=
  ⟨rules.rules.map KeywordRule.lowered, rules.fallback⟩

def recognize (classifier : KeywordClassifier) (text : String) : String :=
  match classifier.rules.find? (·.matches (Text.lower text.toList)) with
  | some rule => rule.intent
  | none => classifier.fallback

end KeywordClassifier

end Dialogue
