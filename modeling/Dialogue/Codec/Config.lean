import Dialogue.Classifier
import Dialogue.Error
import Dialogue.Json.Decode
import Dialogue.Json.Value
import Dialogue.Keyword

/-!
# Options and keyword rules as JSON

Both come from files that a user writes, so a fault in them is an error of the
configuration.
-/

namespace Dialogue

open Json

namespace KeywordMatching

def label : KeywordMatching → String
  | wordBoundary => "word_boundary"
  | bare => "prefix"

def encode (matching : KeywordMatching) : Value :=
  .string matching.label

def decoder : Decoder KeywordMatching :=
  Variant.decoder ([wordBoundary, bare].map fun matching =>
    ⟨matching.label, .nothing matching⟩)

end KeywordMatching

namespace ScriptOptions

def encode (options : ScriptOptions) : Value :=
  .object [("keyword_matching", options.keywordMatching.encode)]

def decoder : Decoder ScriptOptions := fun node =>
  let usual : ScriptOptions := {}
  let record :=
    Record.field "keyword_matching" KeywordMatching.decoder
      (some usual.keywordMatching) .optional
  ScriptOptions.mk <$> record.decoder "struct ScriptOptions" node

end ScriptOptions

namespace KeywordRule

def encode (rule : KeywordRule) : Value :=
  .object [("intent", .string rule.intent), ("keywords", .array (rule.keywords.map .string))]

def decoder : Decoder KeywordRule := fun node =>
  let record :=
    (Record.field "intent" Decoder.string).both
      (Record.field "keywords" (Decoder.list Decoder.string))
  (fun (intent, keywords) => ⟨intent, keywords⟩) <$>
    record.decoder "struct KeywordRule" node

end KeywordRule

namespace KeywordRules

def encode (rules : KeywordRules) : Value :=
  .object [("rules", .array (rules.rules.map KeywordRule.encode)),
    ("fallback", .string rules.fallback)]

/-- There may be no rules, but there must be a fallback. -/
def decoder : Decoder KeywordRules := fun node =>
  let record :=
    (Record.field "rules" (Decoder.list KeywordRule.decoder) (some []) .optional).both
      (Record.field "fallback" Decoder.string)
  (fun (rules, fallback) => ⟨rules, fallback⟩) <$>
    record.decoder "struct KeywordRules" node

end KeywordRules

def readConfig {α : Type} (decoder : Decoder α) (text : String) : Except Error α :=
  match decode decoder text with
  | .ok value => .ok value
  | .error cause => .error (.config cause)

def ScriptOptions.ofJson (text : String) : Except Error ScriptOptions :=
  readConfig decoder text

def KeywordRules.ofJson (text : String) : Except Error KeywordRules :=
  readConfig decoder text

end Dialogue
