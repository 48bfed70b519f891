import Dialogue.Codec.Bot
import Dialogue.Codec.Config
import Dialogue.Codec.Session
import Dialogue.Codec.Token
import Dialogue.Proofs.Json.Record

/-!
# What is written as JSON is read back

Each decoder undoes its encoder on the tree of a value, and so on both texts of
the value.
-/

namespace Dialogue

open Json

/-! ## Tokens -/

namespace TokenKind

def stringVariant : Variant TokenKind :=
  ⟨"String", .value fun node => string <$> Decoder.string node⟩

def identifierVariant : Variant TokenKind :=
  ⟨"Identifier", .value fun node => identifier <$> Decoder.string node⟩

def variants : List (Variant TokenKind) :=
  Keyword.all.map (fun word => bare (keyword word)) ++
    [stringVariant, identifierVariant, bare leftBrace, bare rightBrace, bare equal]

theorem variants_differ : (variants.map Variant.name).Nodup := by
  decide

theorem decoder_bare {kind : TokenKind} (mem : bare kind ∈ variants) :
    decoder (Value.string kind.label).node = .ok kind :=
  (Variant.decoder_string variants_differ mem :)

theorem decoder_encode (kind : TokenKind) : decoder kind.encode.node = .ok kind := by
  cases kind with
  | keyword word => cases word <;> exact decoder_bare (by simp [variants, Keyword.all])
  | string value =>
      have mem : stringVariant ∈ variants := by simp [variants]
      exact (Variant.decoder_object variants_differ mem (.string value)).trans
        (congrArg (string <$> ·) (Decoder.string_node value))
  | identifier name =>
      have mem : identifierVariant ∈ variants := by simp [variants]
      exact (Variant.decoder_object variants_differ mem (.string name)).trans
        (congrArg (identifier <$> ·) (Decoder.string_node name))
  | leftBrace => exact decoder_bare (by simp [variants])
  | rightBrace => exact decoder_bare (by simp [variants])
  | equal => exact decoder_bare (by simp [variants])

end TokenKind

theorem Token.decoder_encode {token : Token} (line : token.position.line ≤ Number.maxNatural)
    (column : token.position.column ≤ Number.maxNatural) :
    Token.decoder token.encode.node = .ok token := by
  have kindRead := Record.reads_field "kind" token.kind.decoder_encode
  have lexemeRead := Record.reads_field "lexeme" (Decoder.string_node token.lexeme)
  have lineRead := Record.reads_field "line" (Decoder.natural_node line)
  have columnRead := Record.reads_field "column" (Decoder.natural_node column)
  exact (kindRead.both (lexemeRead.both (lineRead.both columnRead))).decoder_node "struct Token" _

/-! ## Bots -/

namespace SetValue

def literalVariant : Variant SetValue :=
  ⟨"Literal", .value fun node => literal <$> Decoder.string node⟩

def copyVariant : Variant SetValue :=
  ⟨"Variable", .value fun node => copy <$> Decoder.string node⟩

def variants : List (Variant SetValue) :=
  [literalVariant, copyVariant]

theorem decoder_encode (value : SetValue) : decoder value.encode.node = .ok value := by
  have differ : (variants.map Variant.name).Nodup := by decide
  cases value with
  | literal text =>
      have mem : literalVariant ∈ variants := by simp [variants]
      exact (Variant.decoder_object differ mem (.string text)).trans
        (congrArg (literal <$> ·) (Decoder.string_node text))
  | copy source =>
      have mem : copyVariant ∈ variants := by simp [variants]
      exact (Variant.decoder_object differ mem (.string source)).trans
        (congrArg (copy <$> ·) (Decoder.string_node source))

end SetValue

namespace Action

def variants : List (Variant Action) :=
  [⟨"Say", .record sayDecoder⟩, ⟨"Ask", .record askDecoder⟩, ⟨"Set", .record setDecoder⟩,
    ⟨"End", .nothing finish⟩]

theorem decoder_encode (action : Action) : decoder action.encode.node = .ok action := by
  have differ : (variants.map Variant.name).Nodup := by decide
  cases action with
  | say text =>
      have mem : ⟨"Say", .record sayDecoder⟩ ∈ variants := by simp [variants]
      have textRead := Record.reads_field "text" (Decoder.string_node text)
      exact (Variant.decoder_object differ mem _).trans
        (textRead.decoder_node "struct variant Action::Say" say)
  | ask prompt name =>
      have mem : ⟨"Ask", .record askDecoder⟩ ∈ variants := by simp [variants]
      have promptRead := Record.reads_field "prompt" (Decoder.string_node prompt)
      have nameRead := Record.reads_field "variable" (Decoder.string_node name)
      exact (Variant.decoder_object differ mem _).trans
        ((promptRead.both nameRead).decoder_node "struct variant Action::Ask" _)
  | set name value =>
      have mem : ⟨"Set", .record setDecoder⟩ ∈ variants := by simp [variants]
      have nameRead := Record.reads_field "variable" (Decoder.string_node name)
      have valueRead := Record.reads_field "value" value.decoder_encode
      exact (Variant.decoder_object differ mem _).trans
        ((nameRead.both valueRead).decoder_node "struct variant Action::Set" _)
  | finish =>
      have mem : ⟨"End", .nothing finish⟩ ∈ variants := by simp [variants]
      exact Variant.decoder_string differ mem

end Action

theorem Block.decoder_encode (block : Block) : Block.decoder block.encode.node = .ok block := by
  have nameRead := Record.reads_field "name" (Decoder.string_node block.name)
  have actionsRead := Record.reads_field "actions"
    (Decoder.list_node Action.decoder_encode block.actions)
  exact (nameRead.both actionsRead).decoder_node "struct IntentDef" _

namespace Bot

/-- A bot with its blocks in an order of their own, which a map does not have. -/
def encodeAs (entries : List (String × Block)) (bot : Bot) : Value :=
  .object [("name", .string bot.name),
    ("intents", .object (entries.map fun (name, block) => (name, block.encode))),
    ("default_intent", (bot.defaultBlock.map Block.encode).getD .null)]

theorem encode_eq_encodeAs (bot : Bot) : bot.encode = bot.encodeAs bot.intents.toList :=
  rfl

theorem option_decoder_encode (block : Option Block) :
    Decoder.option Block.decoder ((block.map Block.encode).getD .null).node = .ok block := by
  cases block with
  | none => rfl
  | some block => exact congrArg (some <$> ·) block.decoder_encode

theorem ofList_of_perm {entries : List (String × Block)}
    {intents : Std.ExtTreeMap String Block} (order : entries.Perm intents.toList) :
    Std.ExtTreeMap.ofList entries = intents := by
  have distinct : entries.Pairwise fun entry other => ¬compare entry.1 other.1 = .eq :=
    (order.pairwise_iff fun differ same => differ (Std.OrientedCmp.eq_symm same)).mpr
      Std.ExtTreeMap.distinct_keys_toList
  refine Std.ExtTreeMap.ext_getElem? fun name => ?_
  have mem_iff (block : Block) : (name, block) ∈ entries ↔ intents[name]? = some block := by
    rw [order.mem_iff, Std.ExtTreeMap.mem_toList_iff_getElem?_eq_some]
  cases found : intents[name]? with
  | some block =>
      exact Std.ExtTreeMap.getElem?_ofList_of_mem Std.ReflCmp.compare_self distinct
        ((mem_iff block).mpr found)
  | none =>
      have absent : (entries.map Prod.fst).contains name = false := by
        rw [Bool.eq_false_iff, ne_eq, List.contains_iff_mem, List.mem_map]
        rintro ⟨⟨_, block⟩, mem, rfl⟩
        simp [(mem_iff block).mp mem] at found
      exact Std.ExtTreeMap.getElem?_ofList_of_contains_eq_false absent

theorem decoder_encodeAs (bot : Bot) {entries : List (String × Block)}
    (order : entries.Perm bot.intents.toList) :
    decoder (bot.encodeAs entries).node = .ok bot := by
  have nameRead := Record.reads_field "name" (Decoder.string_node bot.name)
  have intentsRead := Record.reads_field "intents" (Decoder.map_node Block.decoder_encode entries)
  have defaultRead := Record.reads_field "default_intent" (option_decoder_encode bot.defaultBlock)
    (some none) .optionalInObject
  have read : decoder (bot.encodeAs entries).node =
      .ok ⟨bot.name, .ofList entries, bot.defaultBlock⟩ :=
    (nameRead.both (intentsRead.both defaultRead)).decoder_node "struct BotDef" _
  rw [read, ofList_of_perm order]

end Bot

/-! ## Sessions, options and keyword rules -/

namespace Phase

def variants : List (Variant Phase) :=
  [⟨"Idle", .nothing idle⟩, ⟨"AwaitingInput", .record awaitingDecoder⟩]

theorem decoder_encode (phase : Phase) : decoder phase.encode.node = .ok phase := by
  have differ : (variants.map Variant.name).Nodup := by decide
  cases phase with
  | idle =>
      have mem : ⟨"Idle", .nothing idle⟩ ∈ variants := by simp [variants]
      exact Variant.decoder_string differ mem
  | awaiting name =>
      have mem : ⟨"AwaitingInput", .record awaitingDecoder⟩ ∈ variants := by simp [variants]
      have nameRead := Record.reads_field "variable" (Decoder.string_node name)
      exact (Variant.decoder_object differ mem _).trans
        (nameRead.decoder_node "struct variant SessionPhase::AwaitingInput" awaiting)

end Phase

namespace KeywordMatching

def variants : List (Variant KeywordMatching) :=
  [wordBoundary, bare].map fun matching => ⟨matching.label, .nothing matching⟩

theorem decoder_encode (matching : KeywordMatching) :
    decoder matching.encode.node = .ok matching := by
  have differ : (variants.map Variant.name).Nodup := by decide
  have mem : ⟨matching.label, .nothing matching⟩ ∈ variants := by
    cases matching <;> simp [variants]
  exact (Variant.decoder_string differ mem :)

end KeywordMatching

theorem ScriptOptions.decoder_encode (options : ScriptOptions) :
    ScriptOptions.decoder options.encode.node = .ok options := by
  have matchingRead := Record.reads_field "keyword_matching"
    options.keywordMatching.decoder_encode (some ({} : ScriptOptions).keywordMatching) .optional
  exact matchingRead.decoder_node "struct ScriptOptions" ScriptOptions.mk

theorem KeywordRule.decoder_encode (rule : KeywordRule) :
    KeywordRule.decoder rule.encode.node = .ok rule := by
  have intentRead := Record.reads_field "intent" (Decoder.string_node rule.intent)
  have keywordsRead := Record.reads_field "keywords"
    (Decoder.list_node Decoder.string_node rule.keywords)
  exact (intentRead.both keywordsRead).decoder_node "struct KeywordRule" _

theorem KeywordRules.decoder_encode (rules : KeywordRules) :
    KeywordRules.decoder rules.encode.node = .ok rules := by
  have rulesRead := Record.reads_field "rules"
    (Decoder.list_node KeywordRule.decoder_encode rules.rules) (some []) .optional
  have fallbackRead := Record.reads_field "fallback" (Decoder.string_node rules.fallback)
  exact (rulesRead.both fallbackRead).decoder_node "struct KeywordRules" _

/-! ## Both texts -/

def ReadAs {ε α : Type} (read : String → Except ε α) (value : Value) (a : α) : Prop :=
  read value.compact = .ok a ∧ read value.pretty = .ok a

theorem readAs_decode {α : Type} {decoder : Decoder α} {value : Value} {a : α}
    (decoded : decoder value.node = .ok a) : ReadAs (decode decoder) value a :=
  ⟨(decode_compact decoder value).trans decoded, (decode_pretty decoder value).trans decoded⟩

theorem ReadAs.config {α : Type} {decoder : Decoder α} {value : Value} {a : α}
    (read : ReadAs (decode decoder) value a) : ReadAs (readConfig decoder) value a := by
  simp [ReadAs, readConfig, read.1, read.2]

/-- Everything that is written as JSON is read back from either text, whatever
characters its strings have.  The numbers of a token must fit into 64 bits, and the
blocks of a bot may be written in any order. -/
theorem json_read_back :
    (∀ token : Token, token.position.line ≤ Number.maxNatural →
      token.position.column ≤ Number.maxNatural →
        ReadAs (decode Token.decoder) token.encode token) ∧
    (∀ kind : TokenKind, ReadAs (decode TokenKind.decoder) kind.encode kind) ∧
    (∀ value : SetValue, ReadAs (decode SetValue.decoder) value.encode value) ∧
    (∀ action : Action, ReadAs (decode Action.decoder) action.encode action) ∧
    (∀ block : Block, ReadAs (decode Block.decoder) block.encode block) ∧
    (∀ bot : Bot, ReadAs (decode Bot.decoder) bot.encode bot) ∧
    (∀ (bot : Bot) (entries : List (String × Block)), entries.Perm bot.intents.toList →
      ReadAs (decode Bot.decoder) (bot.encodeAs entries) bot) ∧
    (∀ phase : Phase, ReadAs (decode Phase.decoder) phase.encode phase) ∧
    (∀ matching : KeywordMatching,
      ReadAs (decode KeywordMatching.decoder) matching.encode matching) ∧
    (∀ options : ScriptOptions,
      ReadAs (decode ScriptOptions.decoder) options.encode options ∧
        ReadAs ScriptOptions.ofJson options.encode options) ∧
    (∀ rule : KeywordRule, ReadAs (decode KeywordRule.decoder) rule.encode rule) ∧
    (∀ rules : KeywordRules,
      ReadAs (decode KeywordRules.decoder) rules.encode rules ∧
        ReadAs KeywordRules.ofJson rules.encode rules) := by
  refine ⟨fun token line column => ?_, fun kind => ?_, fun value => ?_, fun action => ?_,
    fun block => ?_, fun bot => ?_, fun bot entries order => ?_, fun phase => ?_,
    fun matching => ?_, fun options => ?_, fun rule => ?_, fun rules => ?_⟩
  · exact readAs_decode (Token.decoder_encode line column)
  · exact readAs_decode kind.decoder_encode
  · exact readAs_decode value.decoder_encode
  · exact readAs_decode action.decoder_encode
  · exact readAs_decode block.decoder_encode
  · rw [bot.encode_eq_encodeAs]
    exact readAs_decode (bot.decoder_encodeAs (.refl _))
  · exact readAs_decode (bot.decoder_encodeAs order)
  · exact readAs_decode phase.decoder_encode
  · exact readAs_decode matching.decoder_encode
  · have read := readAs_decode options.decoder_encode
    exact ⟨read, read.config⟩
  · exact readAs_decode rule.decoder_encode
  · have read := readAs_decode rules.decoder_encode
    exact ⟨read, read.config⟩

theorem json_read_back_odd_text :
    let token : Token := ⟨.string "\"\\ \x00\n\x7f é 🦀", "\u2028", ⟨Number.maxNatural, 1⟩⟩
    let first : Block := ⟨"\t", [.say "\"", .finish]⟩
    let second : Block := ⟨"a", [.ask "" "é", .set "\\" (.copy "\x1b")]⟩
    let bot : Bot := ⟨"\r", .ofList [("a", first), ("b", second)], some second⟩
    token.position.line ≤ Number.maxNatural ∧ token.position.column ≤ Number.maxNatural ∧
      [("b", second), ("a", first)].Perm bot.intents.toList ∧
      ReadAs (decode Token.decoder) token.encode token ∧
      ReadAs (decode Bot.decoder) (bot.encodeAs [("b", second), ("a", first)]) bot := by
  intro token first second bot
  have line : token.position.line ≤ Number.maxNatural := by decide
  have column : token.position.column ≤ Number.maxNatural := by decide
  have order : [("b", second), ("a", first)].Perm bot.intents.toList := .swap _ _ []
  obtain ⟨tokens, -, -, -, -, -, bots, -⟩ := json_read_back
  exact ⟨line, column, order, tokens token line column, bots bot _ order⟩

end Dialogue
