import Dialogue.Proofs.Script.Acceptance
import Dialogue.Proofs.Token.Kinds

/-!
# Printing a bot and loading it again

A bot is printed block by block, in any order, and every action is printed in
one piece (`Action.text`); any white space may stand between the pieces.  No text
is escaped.  It need not be, because a loaded bot holds nothing but what a scan
under the same keyword rule has given.
-/

namespace Dialogue

/-! ## What is loaded -/

theorem load_eq_ok_iff (options : ScriptOptions) (source : String) (bot : Bot) :
    load options source = .ok bot ↔
      ∃ script : Script, ScansTo (.ofOptions options) source.toList script.kinds ∧
        script.HeadingsDiffer ∧ script.Declares bot := by
  have split : load options source = .ok bot ↔
      ∃ tokens, scan (.ofOptions options) source = .ok tokens ∧
        Bot.ofTokens tokens = .ok bot := by
    unfold load
    cases scan (.ofOptions options) source with
    | error cause => simp [bind, Except.bind]
    | ok tokens => simp [bind, Except.bind]
  rw [split]
  constructor
  · rintro ⟨tokens, scanned, read⟩
    obtain ⟨script, kinds, differ, rfl⟩ := (Bot.ofTokens_eq_ok_iff_toBot tokens bot).mp read
    exact ⟨script, scansTo_iff_scan.mpr ⟨tokens, scanned, kinds⟩, differ, differ.declares_toBot⟩
  · rintro ⟨script, scans, differ, declares⟩
    obtain ⟨tokens, scanned, kinds⟩ := scansTo_iff_scan.mp scans
    refine ⟨tokens, scanned, (Bot.ofTokens_eq_ok_iff_toBot tokens bot).mpr ?_⟩
    exact ⟨script, kinds, differ, (differ.declares_iff.mp declares).symm⟩

theorem load_eq_ok_toBot {options : ScriptOptions} {source : String} {script : Script}
    (scanned : (scan (.ofOptions options) source).map (·.map Token.kind) = .ok script.kinds)
    (differ : script.HeadingsDiffer) : load options source = .ok script.toBot := by
  refine (load_eq_ok_iff _ _ _).mpr ⟨script, scansTo_iff_scan.mpr ?_, differ,
    differ.declares_toBot⟩
  cases found : scan (.ofOptions options) source with
  | error cause =>
      rw [found] at scanned
      cases scanned
  | ok tokens =>
      rw [found] at scanned
      exact ⟨tokens, rfl, Except.ok.inj scanned⟩

/-! ## The blocks of a bot -/

def Bot.sections (bot : Bot) : List Section :=
  bot.intents.toList.map (fun (name, block) => ⟨.intent name, block.actions⟩) ++
    bot.defaultBlock.toList.map fun block => ⟨.default, block.actions⟩

theorem Bot.sections_headings_nodup (bot : Bot) :
    (bot.sections.map Section.heading).Nodup := by
  have headings : bot.sections.map Section.heading =
      bot.intents.keys.map Heading.intent ++ bot.defaultBlock.toList.map fun _ => .default := by
    rw [sections, List.map_append, List.map_map, List.map_map,
      ← Std.ExtTreeMap.map_fst_toList_eq_keys, List.map_map]
    rfl
  rw [headings, List.nodup_append]
  refine ⟨?_, ?_, ?_⟩
  · apply Std.ExtTreeMap.nodup_keys.map
    intro first second same
    cases same
    rfl
  · cases bot.defaultBlock <;> simp
  · intro first named second fallback same
    obtain ⟨name, -, rfl⟩ := List.mem_map.mp named
    obtain ⟨block, -, rfl⟩ := List.mem_map.mp fallback
    cases same

theorem Script.Declares.mem_sections_iff {script : Script} {bot : Bot}
    (declares : script.Declares bot) (part : Section) :
    part ∈ bot.sections ↔ part ∈ script.sections := by
  obtain ⟨heading, actions⟩ := part
  simp only [Bot.sections, List.mem_append, List.mem_map, Option.mem_toList,
    Prod.exists, Section.mk.injEq]
  cases heading with
  | intent name =>
      constructor
      · rintro (⟨key, block, found, same, rfl⟩ | ⟨block, -, other, -⟩)
        · cases same
          rw [Std.ExtTreeMap.mem_toList_iff_getElem?_eq_some, declares.intent_iff] at found
          exact found.2
        · cases other
      · intro member
        refine .inl ⟨name, ⟨name, actions⟩, ?_, rfl, rfl⟩
        rw [Std.ExtTreeMap.mem_toList_iff_getElem?_eq_some, declares.intent_iff]
        exact ⟨rfl, member⟩
  | default =>
      constructor
      · rintro (⟨key, block, -, other, -⟩ | ⟨block, found, -, rfl⟩)
        · cases other
        · exact ((declares.default_iff block).mp found).2
      · intro member
        refine .inr ⟨⟨Block.defaultName, actions⟩, ?_, rfl, rfl⟩
        rw [declares.default_iff]
        exact ⟨rfl, member⟩

/-! ## Printed pieces -/

inductive Phrase where
  | token (kind : TokenKind)
  | action (whole : Action)

namespace Phrase

def text : Phrase → String
  | token kind => kind.text
  | action whole => whole.text

def kinds : Phrase → List TokenKind
  | token kind => [kind]
  | action whole => whole.kinds

end Phrase

def Section.phrases (part : Section) : List Phrase :=
  part.heading.kinds.map .token ++
    .token .leftBrace :: part.actions.map .action ++ [.token .rightBrace]

def Script.phrases (script : Script) : List Phrase :=
  .token (.keyword .bot) :: .token (.string script.name) :: .token .leftBrace ::
    script.sections.flatMap Section.phrases ++ [.token .rightBrace]

/-- A text that consists of the given phrases with white space between them, and
perhaps behind them. -/
inductive Spaced : List Phrase → List Char → Prop
  | last (phrase : Phrase) {gap : List Char} :
      (∀ c ∈ gap, Rule.isSpace c) → Spaced [phrase] (phrase.text.toList ++ gap)
  | cons (phrase : Phrase) {gap : List Char} {phrases : List Phrase} {text : List Char} :
      gap ≠ [] → (∀ c ∈ gap, Rule.isSpace c) → Spaced phrases text →
        Spaced (phrase :: phrases) (phrase.text.toList ++ gap ++ text)

def Script.text (script : Script) : String :=
  " ".intercalate (script.phrases.map Phrase.text)

theorem isSpace_of_mem_blank : ∀ c ∈ [' '], Rule.isSpace c :=
  List.forall_mem_singleton.mpr rfl

theorem spaced_intercalate (phrase : Phrase) (phrases : List Phrase) :
    Spaced (phrase :: phrases) (" ".intercalate ((phrase :: phrases).map Phrase.text)).toList := by
  induction phrases generalizing phrase with
  | nil =>
      have last : Spaced [phrase] (phrase.text.toList ++ []) := .last phrase (by simp)
      simpa using last
  | cons next phrases ih =>
      have joined := Spaced.cons phrase (List.cons_ne_nil ' ' []) isSpace_of_mem_blank (ih next)
      rw [List.map_cons, List.map_cons, String.intercalate_cons_cons]
      simpa using joined

theorem Script.spaced_text (script : Script) : Spaced script.phrases script.text.toList :=
  spaced_intercalate _ _

theorem Section.flatMap_kinds_phrases (part : Section) :
    part.phrases.flatMap Phrase.kinds = part.kinds := by
  simp [phrases, kinds, Phrase.kinds, List.flatMap_map, List.flatMap_singleton']

theorem Script.flatMap_kinds_phrases (script : Script) :
    script.phrases.flatMap Phrase.kinds = script.kinds := by
  simp [phrases, kinds, Phrase.kinds, List.flatMap_assoc, Section.flatMap_kinds_phrases]

/-! ## Printed pieces are scanned as they are meant -/

/-- The text is scanned as these kinds, wherever it is not continued. -/
def Prints (lexicon : Lexicon) (text : List Char) (kinds : List TokenKind) : Prop :=
  ∀ rest more, lexicon.Delimits rest → ScansTo lexicon rest more →
    ScansTo lexicon (text ++ rest) (kinds ++ more)

section

variable {lexicon : Lexicon}

theorem Prints.scansTo {text : List Char} {kinds : List TokenKind}
    (prints : Prints lexicon text kinds) : ScansTo lexicon text kinds := by
  have whole := prints [] [] lexicon.delimits_nil .nil
  rwa [List.append_nil, List.append_nil] at whole

theorem prints_token {kind : TokenKind} (scannable : kind.Scannable lexicon.matching) :
    Prints lexicon kind.text.toList [kind] :=
  fun _ _ delimits scans => scans.token scannable delimits

theorem Prints.spaces {text gap : List Char} {kinds : List TokenKind}
    (prints : Prints lexicon text kinds) (spaces : ∀ c ∈ gap, Rule.isSpace c) :
    Prints lexicon (text ++ gap) kinds := by
  intro rest more delimits scans
  rw [List.append_assoc]
  exact prints _ _ (delimits.spaces spaces) (scans.spaces spaces)

theorem Prints.append {first second gap : List Char} {kinds kinds' : List TokenKind}
    (one : Prints lexicon first kinds) (nonempty : gap ≠ [])
    (spaces : ∀ c ∈ gap, Rule.isSpace c) (other : Prints lexicon second kinds') :
    Prints lexicon (first ++ gap ++ second) (kinds ++ kinds') := by
  intro rest more delimits scans
  rw [List.append_assoc, List.append_assoc, List.append_assoc]
  apply one
  · cases gap with
    | nil => exact (nonempty rfl).elim
    | cons c gap => exact Lexicon.delimits_of_isSpace (spaces c List.mem_cons_self) _
  · exact (other rest more delimits scans).spaces spaces

theorem Prints.blank {first second : List Char} {kinds kinds' : List TokenKind}
    (one : Prints lexicon first kinds) (other : Prints lexicon second kinds') :
    Prints lexicon (first ++ ' ' :: second) (kinds ++ kinds') := by
  have joined := one.append (List.cons_ne_nil ' ' []) isSpace_of_mem_blank other
  rwa [List.append_assoc] at joined

theorem prints_value {value : SetValue} (scannable : value.kind.Scannable lexicon.matching) :
    Prints lexicon value.text.toList [value.kind] := by
  have same : value.text = value.kind.text := by cases value <;> rfl
  rw [same]
  exact prints_token scannable

theorem prints_action {action : Action}
    (scannable : ∀ kind ∈ action.kinds, kind.Scannable lexicon.matching) :
    Prints lexicon action.text.toList action.kinds := by
  have keyword (word : Keyword) :
      Prints lexicon (TokenKind.keyword word).text.toList [.keyword word] := prints_token trivial
  have equal : Prints lexicon TokenKind.equal.text.toList [.equal] := prints_token trivial
  have content (kind : TokenKind) (member : kind ∈ action.kinds) :
      Prints lexicon kind.text.toList [kind] := prints_token (scannable kind member)
  cases action with
  | say text =>
      have string := content (.string text) (by simp [Action.kinds])
      have joined := (keyword .say).blank string
      simpa [Action.text, Action.kinds, TokenKind.text, Keyword.text] using joined
  | ask prompt name =>
      have string := content (.string prompt) (by simp [Action.kinds])
      have identifier := content (.identifier name) (by simp [Action.kinds])
      have joined := (keyword .ask).blank (string.blank ((keyword .into).blank identifier))
      simpa [Action.text, Action.kinds, TokenKind.text, Keyword.text] using joined
  | set name value =>
      have identifier := content (.identifier name) (by simp [Action.kinds])
      have value := prints_value (scannable value.kind (by simp [Action.kinds]))
      have joined := (keyword .set).blank (identifier.blank (equal.blank value))
      simpa [Action.text, Action.kinds, TokenKind.text, Keyword.text] using joined
  | finish => exact keyword .finish

theorem prints_of_spaced {phrases : List Phrase} {text : List Char}
    (spaced : Spaced phrases text)
    (scannable : ∀ kind ∈ phrases.flatMap Phrase.kinds, kind.Scannable lexicon.matching) :
    Prints lexicon text (phrases.flatMap Phrase.kinds) := by
  have single : ∀ {phrase : Phrase}, (∀ kind ∈ phrase.kinds, kind.Scannable lexicon.matching) →
      Prints lexicon phrase.text.toList phrase.kinds := by
    intro phrase plain
    cases phrase with
    | token kind => exact prints_token (plain kind List.mem_cons_self)
    | action whole => exact prints_action plain
  induction spaced with
  | last phrase spaces =>
      rw [List.flatMap_cons, List.flatMap_nil, List.append_nil] at scannable ⊢
      exact (single scannable).spaces spaces
  | @cons phrase gap phrases text nonempty spaces _ ih =>
      rw [List.flatMap_cons] at scannable ⊢
      have front := single fun kind member => scannable kind (List.mem_append_left _ member)
      have back := ih fun kind member => scannable kind (List.mem_append_right _ member)
      exact front.append nonempty spaces back

end

/-! ## The round trip -/

/-- A loaded bot that is printed with its blocks in any order and with any white
space between their pieces is loaded again, under the same keyword rule. -/
theorem load_printed {options : ScriptOptions} {source : String} {bot : Bot}
    (loaded : load options source = .ok bot) {sections : List Section}
    (order : sections.Perm bot.sections) {text : String}
    (printed : Spaced (Script.phrases ⟨bot.name, sections⟩) text.toList) :
    load options text = .ok bot := by
  obtain ⟨script, scans, differ, declares⟩ := (load_eq_ok_iff options source bot).mp loaded
  have same : ∀ part, part ∈ sections ↔ part ∈ script.sections := fun part =>
    order.mem_iff.trans (declares.mem_sections_iff part)
  have scannable : ∀ kind ∈ Script.kinds ⟨bot.name, sections⟩,
      kind.Scannable options.keywordMatching := by
    intro kind member
    apply scans.scannable kind
    rw [declares.name_eq] at member
    simp only [Script.kinds, List.mem_cons, List.mem_append, List.mem_flatMap] at member ⊢
    simpa only [same] using member
  rw [load_eq_ok_iff]
  refine ⟨⟨bot.name, sections⟩, ?_, ?_, ?_⟩
  · rw [← Script.flatMap_kinds_phrases] at scannable ⊢
    have prints : Prints (.ofOptions options) text.toList _ :=
      prints_of_spaced printed scannable
    exact prints.scansTo
  · exact (order.map Section.heading).nodup_iff.mpr bot.sections_headings_nodup
  · exact declares.of_mem_iff declares.name_eq same

theorem load_printed_shop :
    let source := "bot\"Shop\"\x7bdefault\x7bsay\"Hi\"end\x7d # first\n" ++
      "intent\"buy\"\x7bask\"What?\"as item\n\n set last=item\x7d\x7d"
    let text := "bot \"Shop\" \x7b intent \"buy\" \x7b ask \"What?\" as item " ++
      "set last = item \x7d default \x7b say \"Hi\" end \x7d \x7d"
    ∃ bot, load ⟨.bare⟩ source = .ok bot ∧ load ⟨.bare⟩ text = .ok bot := by
  intro source text
  let buy : Section := ⟨.intent "buy", [.ask "What?" "item", .set "last" (.copy "item")]⟩
  let fallback : Section := ⟨.default, [.say "Hi", .finish]⟩
  let script : Script := ⟨"Shop", [fallback, buy]⟩
  have differ : script.HeadingsDiffer := by
    show (script.sections.map Section.heading).Nodup
    decide
  have loaded : load ⟨.bare⟩ source = .ok script.toBot :=
    load_eq_ok_toBot (by decide +kernel) differ
  have order : [buy, fallback].Perm script.toBot.sections := by
    rw [List.perm_ext_iff_of_nodup (by decide) (.of_map _ script.toBot.sections_headings_nodup)]
    intro part
    rw [differ.declares_toBot.mem_sections_iff]
    simp [script, or_comm]
  have written : Script.text ⟨"Shop", [buy, fallback]⟩ = text := by decide +kernel
  refine ⟨script.toBot, loaded, load_printed loaded order ?_⟩
  rw [← written]
  exact Script.spaced_text ⟨"Shop", [buy, fallback]⟩

end Dialogue
