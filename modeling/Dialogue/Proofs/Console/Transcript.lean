import Dialogue.Console.Program
import Dialogue.Proofs.Console.Lines
import Dialogue.Proofs.Script.Printing
import Dialogue.Proofs.Session.Conversation
import Dialogue.Proofs.Text.Trimming

/-!
# The transcript of a chat

A chat is one conversation: every line up to the first that says `exit` is a message of
the same session, and the console shows a prompt for each line and the replies to it.
What comes behind the line that says `exit` is not even read as text.
-/

namespace Dialogue.Console

/-! ## Lines that end a chat -/

/-- The line is the word `exit`, in letters of either case, with blanks around it. -/
def SaysExit (line : List Char) : Prop :=
  ∃ front word back, line = front ++ word ++ back ∧ Text.Blank front ∧ Text.Blank back ∧
    word.map Char.toLower = "exit".toList

theorem toLower_of_whiteSpace {c : Char} (blank : Text.whiteSpace.contains c) : c.toLower = c := by
  have outside : ¬ (c.val ≥ 'A'.val ∧ c.val ≤ 'Z'.val) := by
    rintro ⟨low, high⟩
    have least : 65 ≤ c.toNat := UInt32.le_iff_toNat_le.mp low
    have greatest : c.toNat ≤ 90 := UInt32.le_iff_toNat_le.mp high
    simp [Text.CharSet.contains, Text.whiteSpace] at blank
    omega
  exact dif_neg outside

theorem not_whiteSpace_of_exit {word : List Char} (exit : word.map Char.toLower = "exit".toList)
    {c : Char} (member : c ∈ word) : ¬ Text.whiteSpace.contains c := by
  intro blank
  have letter : c.toLower ∈ "exit".toList := exit ▸ List.mem_map_of_mem member
  rw [toLower_of_whiteSpace blank] at letter
  have solid : "exit".toList.all fun d => !Text.whiteSpace.contains d := by decide
  have differs := List.all_eq_true.mp solid c letter
  simp [blank] at differs

theorem ne_nil_of_exit {word : List Char} (exit : word.map Char.toLower = "exit".toList) :
    word ≠ [] := by
  rintro rfl
  cases exit

theorem isExit_iff {text : String} : isExit text ↔ SaysExit text.toList := by
  rw [isExit, decide_eq_true_iff]
  constructor
  · intro exit
    obtain ⟨front, back, split, before, behind⟩ := Text.exists_trim text.toList
    exact ⟨front, _, back, split, before, behind, exit⟩
  · rintro ⟨front, word, back, split, before, behind, exit⟩
    have solid {c : Char} (member : c ∈ word) := not_whiteSpace_of_exit exit member
    rw [split, Text.trim_append before behind (ne_nil_of_exit exit)
      (fun c first => solid (List.mem_of_mem_head? first))
      (fun c last => solid (List.mem_of_mem_getLast? last))]
    exact exit

theorem isExit_message_iff {line : String} : isExit (message line) ↔ SaysExit line.toList := by
  have blank {c : Char} (ends : c = '\r' ∨ c = '\n') : Text.whiteSpace.contains c := by
    rcases ends with rfl | rfl <;> decide
  rw [isExit_iff, message, String.toList_ofList]
  constructor
  · rintro ⟨front, word, back, split, before, behind, exit⟩
    obtain ⟨tail, whole, ends⟩ := Text.exists_trimEnd (fun c => c == '\r' || c == '\n') line.toList
    refine ⟨front, word, back ++ tail, ?_, before, ?_, exit⟩
    · rw [whole, split, List.append_assoc]
    · intro c member
      rcases List.mem_append.mp member with member | member
      · exact behind c member
      · exact blank (by simpa using ends c member)
  · rintro ⟨front, word, back, split, before, behind, exit⟩
    have last : ∀ c ∈ (front ++ word).getLast?, ¬ (c == '\r' || c == '\n') := by
      rw [List.getLast?_append_of_ne_nil front (ne_nil_of_exit exit)]
      intro c final ends
      have solid := not_whiteSpace_of_exit exit (List.mem_of_mem_getLast? final)
      exact solid (blank (by simpa using ends))
    obtain ⟨tail, whole, -⟩ := Text.exists_trimEnd (fun c => c == '\r' || c == '\n') back
    rw [split, Text.trimEnd_append last]
    refine ⟨front, word, _, rfl, before, fun c member => behind c ?_, exit⟩
    rw [whole]
    exact List.mem_append_left tail member

instance : DecidablePred SaysExit := fun line =>
  decidable_of_iff (isExit (.ofList line)) (by rw [isExit_iff, String.toList_ofList])

/-! ## Messages of one session -/

/-- What is shown for some lines: a prompt for each of them, and the replies to what is left
of it without the carriage returns and newlines at its end. -/
def exchanges (session : Session) (bot : Bot) (classify : String → String)
    (lines : List (List Char)) : String :=
  let events := lines.map fun line =>
    Event.message classify (.ofList (line.rdropWhile fun c => c == '\r' || c == '\n'))
  String.join ((session.converse bot events).1.map fun replies =>
    "you: " ++ String.join (replies.map fun reply => "bot: " ++ reply ++ "\n"))

section

variable {bot : Bot} {classify : String → String}

theorem message_ofList (line : List Char) :
    message (.ofList line) =
      .ofList (line.rdropWhile fun c => c == '\r' || c == '\n') := by
  rw [message, String.toList_ofList]
  rfl

theorem exchanges_cons (session : Session) (line : List Char) (lines : List (List Char)) :
    exchanges session bot classify (line :: lines) =
      let turn := session.turn bot classify (message (.ofList line))
      prompt ++ replyText turn.1 ++ exchanges turn.2 bot classify lines := by
  simp only [exchanges, List.map_cons, Session.converse_cons, String.join_cons, message_ofList]
  rfl

theorem hear_exit (session : Session) {line : List Char} (exit : SaysExit line) :
    hear bot classify session (utf8 line) = .ended none := by
  have leaves : isExit (message (.ofList line)) := isExit_message_iff.mpr (by simpa using exit)
  simp only [hear, fromUTF8?_utf8, if_pos leaves]

theorem hear_line (session : Session) {line : List Char} (onward : ¬ SaysExit line) :
    hear bot classify session (utf8 line) =
      let turn := session.turn bot classify (message (.ofList line))
      .answered (replyText turn.1) turn.2 := by
  have stays : ¬ isExit (message (.ofList line)) := fun exit =>
    onward (by simpa using isExit_message_iff.mp exit)
  simp only [hear, fromUTF8?_utf8, if_neg stays]

theorem converse_ended {session : Session} {line : List UInt8} {fault : Option FileFault}
    (heard : hear bot classify session line = .ended fault) (lines : List (List UInt8))
    (outcome : Outcome) :
    (converse keep bot classify session (line :: lines)).run outcome =
      (fault, outcome.print prompt) := by
  simp only [converse, List.forIn_cons, heard]
  rfl

theorem converse_answered {session later : Session} {line : List UInt8} {printed : String}
    (heard : hear bot classify session line = .answered printed later)
    (lines : List (List UInt8)) (outcome : Outcome) :
    (converse keep bot classify session (line :: lines)).run outcome =
      (converse keep bot classify later lines).run (outcome.print (prompt ++ printed)) := by
  simp [converse, heard, Outcome.print_print, String.append_assoc]

theorem converse_append {lines : List (List Char)} (onward : ∀ line ∈ lines, ¬ SaysExit line)
    {more : List (List UInt8)}
    (stops : ∀ (later : Session) outcome,
      (converse keep bot classify later more).run outcome = (none, outcome.print prompt))
    (session : Session) (outcome : Outcome) :
    (converse keep bot classify session (lines.map utf8 ++ more)).run outcome =
      (none, outcome.print (exchanges session bot classify lines ++ prompt)) := by
  induction lines generalizing session outcome with
  | nil =>
      rw [List.map_nil, List.nil_append, stops]
      rfl
  | cons line lines ih =>
      obtain ⟨first, others⟩ := List.forall_mem_cons.mp onward
      rw [List.map_cons, List.cons_append, converse_answered (hear_line session first),
        ih others, exchanges_cons, Outcome.print_print]
      simp only [String.append_assoc]

theorem converse_eq_exchanges {lines : List (List Char)} {more : List (List UInt8)}
    (enough : more = [] ∨ ∃ line ∈ lines, SaysExit line) (session : Session)
    (outcome : Outcome) :
    (converse keep bot classify session (lines.map utf8 ++ more)).run outcome =
      (none, outcome.print
        (exchanges session bot classify (lines.takeWhile (¬ SaysExit ·)) ++ prompt)) := by
  have onward : ∀ line ∈ lines.takeWhile (¬ SaysExit ·), ¬ SaysExit line := fun line member => by
    simpa using List.mem_takeWhile_imp member
  have split : lines.map utf8 ++ more = (lines.takeWhile (¬ SaysExit ·)).map utf8 ++
      ((lines.dropWhile (¬ SaysExit ·)).map utf8 ++ more) := by
    rw [← List.append_assoc, ← List.map_append, List.takeWhile_append_dropWhile]
  rw [split]
  refine converse_append onward (fun later outcome => ?_) session outcome
  cases behind : lines.dropWhile (¬ SaysExit ·) with
  | nil =>
      have none_exits := List.dropWhile_eq_nil_iff.mp behind
      rcases enough with rfl | ⟨line, member, exit⟩
      · rfl
      · simpa [exit] using none_exits line member
  | cons line rest =>
      have exit := List.head?_dropWhile_not (fun line => decide (¬ SaysExit line)) lines
      rw [behind] at exit
      exact converse_ended (hear_exit later (by simpa using exit)) _ outcome

end

/-! ## Without rules -/

/-- The block that answers when there are no rules: that of the least intent by the code
points of its name, or the default block if there is no intent. -/
inductive FirstBlock (bot : Bot) : Heading → Block → Prop where
  | intent {name : String} {block : Block} : bot.intent? name = some block →
      (∀ other, (bot.intent? other).isSome → other ≠ name → name.toList < other.toList) →
      FirstBlock bot (.intent name) block
  | default {block : Block} : (∀ name, bot.intent? name = none) →
      bot.defaultBlock = some block → FirstBlock bot .default block

theorem firstBlock_of_intentNames_eq_cons {bot : Bot} {name : String} {others : List String}
    (names : bot.intentNames = name :: others) :
    ∃ block, bot.heading? name = some (.intent name) ∧ FirstBlock bot (.intent name) block := by
  have declared : (bot.intent? name).isSome := by
    rw [← Bot.mem_intentNames_iff, names]
    exact List.mem_cons_self
  obtain ⟨block, found⟩ := Option.isSome_iff_exists.mp declared
  refine ⟨block, by rw [Bot.heading?, if_pos declared], .intent found ?_⟩
  intro other known different
  have least := bot.intentNames_pairwise
  rw [names] at least
  rw [← Bot.mem_intentNames_iff, names] at known
  exact List.rel_of_pairwise_cons least (List.mem_of_ne_of_mem different known)

theorem intent?_of_intentNames_eq_nil {bot : Bot} (names : bot.intentNames = []) (name : String) :
    bot.intent? name = none := by
  rw [← Option.not_isSome_iff_eq_none, ← Bot.mem_intentNames_iff, names]
  exact List.not_mem_nil

theorem FirstBlock.block? {bot : Bot} {heading : Heading} {block : Block}
    (first : FirstBlock bot heading block) : bot.block? heading = some block := by
  cases first with
  | intent found => exact found
  | default _ found => exact found

theorem heading?_firstIntentClassifier (bot : Bot) (text : String) :
    (∃ heading block, FirstBlock bot heading block ∧
      bot.heading? ((firstIntentClassifier bot).recognize text) = some heading) ∨
    ((∀ heading, bot.block? heading = none) ∧
      bot.heading? ((firstIntentClassifier bot).recognize text) = none) := by
  have named : (firstIntentClassifier bot).recognize text = bot.intentNames.head?.getD "" := rfl
  rw [named]
  cases names : bot.intentNames with
  | cons name others =>
      obtain ⟨block, known, first⟩ := firstBlock_of_intentNames_eq_cons names
      exact .inl ⟨.intent name, block, first, known⟩
  | nil =>
      have undeclared := intent?_of_intentNames_eq_nil names
      cases fallback : bot.defaultBlock with
      | some block =>
          refine .inl ⟨.default, block, .default undeclared fallback, ?_⟩
          simp [Bot.heading?, undeclared, fallback]
      | none =>
          refine .inr ⟨fun heading => ?_, by simp [Bot.heading?, undeclared, fallback]⟩
          cases heading with
          | intent name => exact undeclared name
          | default => exact fallback

theorem turn_of_firstIntentClassifier {session : Session} (idle : session.phase = .idle)
    (bot : Bot) (text : String) :
    (∃ heading block, FirstBlock bot heading block ∧
      session.turn bot (firstIntentClassifier bot).recognize text =
        (session.start heading).run block.actions) ∨
    ((∀ heading, bot.block? heading = none) ∧
      session.turn bot (firstIntentClassifier bot).recognize text = ([], session.leave)) := by
  rcases heading?_firstIntentClassifier bot text with
    ⟨heading, block, first, answers⟩ | ⟨no_block, answers⟩
  · refine .inl ⟨heading, block, first, ?_⟩
    rw [Session.turn_of_heading? idle answers]
    exact Session.resume_eq_run rfl first.block?
  · exact .inr ⟨no_block, Session.turn_of_heading?_eq_none idle answers⟩

/-! ## The program -/

inductive RulesFrom (readFile : String → Except FileFault String) :
    Option String → Option KeywordRules → Prop where
  | nothing : RulesFrom readFile none none
  | file {path text : String} {rules : KeywordRules} : readFile path = .ok text →
      KeywordRules.ofJson text = .ok rules → RulesFrom readFile (some path) (some rules)

structure Chats (readFile : String → Except FileFault String) (invocation : Invocation)
    (bot : Bot) (rules : Option KeywordRules) : Prop where
  command : invocation.command = .chat
  script : ∃ source, readFile invocation.script = .ok source ∧
    load invocation.options source = .ok bot
  rules : RulesFrom readFile invocation.rules rules

def chosen (bot : Bot) : Option KeywordRules → KeywordClassifier
  | none => firstIntentClassifier bot
  | some rules => .ofRules rules

section

variable {m : Type → Type} [Monad m]

theorem ofExcept_ok {α : Type} (value : α) :
    (MonadExcept.ofExcept (.ok value : Except Failure α) : ExceptT Failure m α) = pure value := rfl

variable [LawfulMonad m]

theorem need_eq {readFile : String → Except FileFault String} {path text : String}
    (read : readFile path = .ok text) (what : String) :
    Invocation.need (m := m) (fun path => pure (readFile path)) what path = pure text := by
  simp [Invocation.need, read, Invocation.inContext, ofExcept_ok]

theorem Chats.plan_eq {readFile : String → Except FileFault String} {invocation : Invocation}
    {bot : Bot} {rules : Option KeywordRules} (chats : Chats readFile invocation bot rules) :
    invocation.plan (m := m) (fun path => pure (readFile path)) =
      pure (.converse bot (chosen bot rules)) := by
  obtain ⟨command, ⟨source, read, loaded⟩, rules⟩ := chats
  have from_source : invocation.loading source = .ok bot := by
    rw [Invocation.loading, loaded]
    rfl
  simp only [Invocation.plan, need_eq read, command, from_source, ofExcept_ok, pure_bind]
  cases named : invocation.rules with
  | none =>
      rw [named] at rules
      cases rules
      have from_nothing : Invocation.classifier bot none = .ok (firstIntentClassifier bot) := rfl
      simp only [from_nothing, ofExcept_ok, pure_bind]
      rfl
  | some path =>
      rw [named] at rules
      cases rules with
      | @file _ text rules found valid =>
          have from_text : Invocation.classifier bot (some text) = .ok (.ofRules rules) := by
            rw [Invocation.classifier, valid]
            rfl
          simp only [need_eq found, from_text, ofExcept_ok, map_pure, pure_bind]
          rfl

end

theorem run_of_chats {arguments : List String} {readFile : String → Except FileFault String}
    {invocation : Invocation} {bot : Bot} {rules : Option KeywordRules}
    (given : Invocation.ofArguments? arguments = some invocation)
    (chats : Chats readFile invocation bot rules) {input : ByteArray} {printed : String}
    (shown : ∀ outcome, (converse keep bot (chosen bot rules).recognize .new
      (byteLines input.toList)).run outcome = (none, outcome.print printed)) :
    run arguments readFile input = ⟨0, greeting bot ++ printed, ""⟩ := by
  have plan : invocation.plan (m := StateM Outcome) (fun path => pure (readFile path)) =
      pure (.converse bot (chosen bot rules)) := chats.plan_eq
  have chatted (outcome : Outcome) :
      (chat keep bot (chosen bot rules).recognize (byteLines input.toList)).run outcome =
        (none, outcome.print (greeting bot ++ printed)) := by
    simp [chat, shown, Outcome.print_print]
  have performed (outcome : Outcome) :
      (invocation.perform (.given readFile input)).run.run outcome =
        (.ok (), outcome.print (greeting bot ++ printed)) := by
    simp only [Invocation.perform, Host.given, plan, pure_bind]
    rw [ExceptT.run_bind, ExceptT.run_liftM, StateT.run_bind, StateT.run_map, chatted]
    rfl
  have first : Outcome.print (greeting bot ++ printed) ⟨0, "", ""⟩ =
      ⟨0, greeting bot ++ printed, ""⟩ := by
    simp [Outcome.print]
  simp only [run, use, given, StateT.run_bind, performed, first]
  rfl

/-- A chat shows a line of greeting, for each line up to the first that says `exit` a prompt
with the replies of one session, and a last prompt, and it succeeds.  Without rules every
message outside of an `ask` is for the first block.  Bytes behind the line that says
`exit` need not even be text. -/
theorem run_chat {arguments : List String} {readFile : String → Except FileFault String}
    {invocation : Invocation} {bot : Bot} {rules : Option KeywordRules}
    (given : Invocation.ofArguments? arguments = some invocation)
    (chats : Chats readFile invocation bot rules) :
    (∀ text : String, (∃ lines, Lines '\n' text.toList lines) ∧
      ∀ lines, Lines '\n' text.toList lines →
        run arguments readFile text.toUTF8 =
          ⟨0, "Chatting with " ++ bot.name ++ ". Type 'exit' to quit.\n" ++
            exchanges .new bot (chosen bot rules).recognize (lines.takeWhile (¬ SaysExit ·)) ++
            "you: ", ""⟩) ∧
    (∀ (text : String) (lines : List (List Char)) (line : List Char) (bytes : ByteArray),
      Lines '\n' text.toList (lines ++ [line ++ ['\n']]) → SaysExit (line ++ ['\n']) →
        run arguments readFile (text.toUTF8 ++ bytes) = run arguments readFile text.toUTF8) ∧
    (rules = none → ∀ (session : Session) (text : String), session.phase = .idle →
      (∃ heading block, FirstBlock bot heading block ∧
        session.turn bot (chosen bot rules).recognize text =
          (session.start heading).run block.actions) ∨
      ((∀ heading, bot.block? heading = none) ∧
        session.turn bot (chosen bot rules).recognize text = ([], session.leave))) := by
  have shown {text : String} {lines : List (List Char)} (cut : Lines '\n' text.toList lines) :
      run arguments readFile text.toUTF8 =
        ⟨0, greeting bot ++ (exchanges .new bot (chosen bot rules).recognize
          (lines.takeWhile (¬ SaysExit ·)) ++ prompt), ""⟩ := by
    apply run_of_chats given chats
    rw [toList_toUTF8, cut.map_utf8.byteLines_eq, ← List.append_nil (lines.map utf8)]
    exact converse_eq_exchanges (.inl rfl) .new
  refine ⟨fun text => ⟨Lines.exists_lines '\n' text.toList, fun lines cut => ?_⟩, ?_, ?_⟩
  · rw [shown cut, ← String.append_assoc]
    rfl
  · intro text lines line bytes cut exit
    rw [shown cut]
    apply run_of_chats given chats
    obtain ⟨others, behind⟩ := Lines.exists_lines 10 bytes.toList
    have ends : (lines ++ [line ++ ['\n']]).map utf8 = lines.map utf8 ++ [utf8 line ++ [10]] := by
      simp [utf8, utf8EncodeChar_newline]
    have whole := cut.map_utf8
    rw [ends] at whole
    rw [toList_append, toList_toUTF8, (whole.append behind).byteLines_eq, ← ends]
    exact converse_eq_exchanges (.inr ⟨_, by simp, exit⟩) .new
  · rintro rfl session text idle
    exact turn_of_firstIntentClassifier idle bot text

theorem run_chat_shop :
    let source := "bot \"Shop\" \x7b intent \"sell\" \x7b \x7d intent \"buy\" \x7b " ++
      "ask \"What?\" as item say \"One \x7b\x7bitem\x7d\x7d.\" \x7d \x7d"
    let readFile : String → Except FileFault String := fun path =>
      if path = "shop.bot" then .ok source else .error .notFound
    let invocation : Invocation := ⟨.chat, "shop.bot", false, false, none⟩
    let text := "hello\ntea\r\n\n Exit \n"
    let bytes : ByteArray := ⟨#[0xFF]⟩
    ∃ bot, Invocation.ofArguments? ["chat", "shop.bot"] = some invocation ∧
      Chats readFile invocation bot none ∧
      run ["chat", "shop.bot"] readFile (text.toUTF8 ++ bytes) =
        ⟨0, "Chatting with Shop. Type 'exit' to quit.\n" ++
          "you: bot: What?\nyou: bot: One tea.\nyou: bot: What?\nyou: ", ""⟩ := by
  intro source readFile invocation text bytes
  let script : Script := ⟨"Shop", [⟨.intent "sell", []⟩, ⟨.intent "buy",
    [.ask "What?" "item", .say "One \x7b\x7bitem\x7d\x7d."]⟩]⟩
  have differ : script.HeadingsDiffer := by
    show (script.sections.map Section.heading).Nodup
    decide
  have given : Invocation.ofArguments? ["chat", "shop.bot"] = some invocation := by
    decide +kernel
  have chats : Chats readFile invocation script.toBot none :=
    ⟨rfl, ⟨source, rfl, load_eq_ok_toBot (by decide +kernel) differ⟩, .nothing⟩
  let said := ["hello".toList ++ ['\n'], "tea\r".toList ++ ['\n'], [] ++ ['\n']]
  have cut : Lines '\n' text.toList (said ++ [" Exit ".toList ++ ['\n']]) := by
    have written : text.toList = "hello".toList ++ '\n' :: ("tea\r".toList ++
        '\n' :: ([] ++ '\n' :: (" Exit ".toList ++ '\n' :: []))) := by
      decide
    rw [written]
    exact .ended (by decide) (.ended (by decide) (.ended (by decide) (.ended (by decide) .done)))
  have exit : SaysExit (" Exit ".toList ++ ['\n']) := by decide +kernel
  obtain ⟨shown, beyond, -⟩ := run_chat given chats
  have exchanged : exchanges .new script.toBot (chosen script.toBot none).recognize
      ((said ++ [" Exit ".toList ++ ['\n']]).takeWhile (¬ SaysExit ·)) =
        "you: bot: What?\nyou: bot: One tea.\nyou: bot: What?\n" := by
    decide +kernel
  refine ⟨script.toBot, given, chats, ?_⟩
  rw [beyond text said _ bytes cut exit, (shown text).2 _ cut, exchanged, String.append_assoc]
  rfl

end Dialogue.Console
