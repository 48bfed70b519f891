import Dialogue.Proofs.Script.Blame

/-!
# Tokens that stand elsewhere

The grammar looks at the kinds of tokens and only keeps their places for errors.  When
every token is moved, the stages move along and the reading goes the same way.  Any
tokens are those of a list numbered in order, moved from their numbers to their places,
so two lists of the same kinds are read alike.
-/

namespace Dialogue

/-! ## Moving what a reading keeps -/

def OpenBlock.move (place : Position → Position) (block : OpenBlock) : OpenBlock :=
  ⟨block.label, place block.keyword⟩

def BlockDraft.move (place : Position → Position) (block : BlockDraft) : BlockDraft :=
  ⟨place block.keyword, block.heading, block.actions⟩

def BotDraft.move (place : Position → Position) (bot : BotDraft) : BotDraft :=
  ⟨place bot.keyword, bot.name, bot.blocks.map (BlockDraft.move place)⟩

def Conflict.move (place : Position → Position) : Conflict → Conflict
  | repeatedIntent name keyword => repeatedIntent name (place keyword)
  | secondDefault keyword => secondDefault (place keyword)

def Error.move (place : Position → Position) : Error → Error
  | character position found => character (place position) found
  | token position slot found => token (place position) slot found
  | endOfScript slot => endOfScript slot
  | unterminated block => unterminated (block.move place)
  | duplicateIntent name position => duplicateIntent name (place position)
  | secondDefault position => secondDefault (place position)
  | file path fault => file path fault
  | config cause => config cause

def Stage.move (place : Position → Position) : Stage → Stage
  | start => start
  | botKeyword keyword => botKeyword (place keyword)
  | botName keyword name => botName (place keyword) name
  | between bot => between (bot.move place)
  | intentKeyword bot keyword => intentKeyword (bot.move place) (place keyword)
  | intentName bot keyword name => intentName (bot.move place) (place keyword) name
  | defaultKeyword bot keyword => defaultKeyword (bot.move place) (place keyword)
  | inBlock bot block statement => inBlock (bot.move place) (block.move place) statement
  | closed bot => closed (bot.move place)

section

variable (place : Position → Position)

theorem BotDraft.toScript_move (bot : BotDraft) : (bot.move place).toScript = bot.toScript := by
  simp only [toScript, move, ← List.map_reverse, List.map_map]
  rfl

/-! ## Each step moves along -/

namespace Stage

theorem slot_move (stage : Stage) : (stage.move place).slot = stage.slot := by
  cases stage <;> rfl

theorem openBlocks_move (stage : Stage) :
    (stage.move place).openBlocks = stage.openBlocks.map (OpenBlock.move place) := by
  cases stage <;> rfl

theorem endError_move (stage : Stage) (opened : List OpenBlock) :
    (stage.move place).endError (opened.map (OpenBlock.move place)) =
      (stage.endError opened).move place := by
  cases opened with
  | nil => exact congrArg Error.endOfScript (stage.slot_move place)
  | cons => rfl

theorem conflict?_move (stage : Stage) :
    (stage.move place).conflict? = stage.conflict?.map (Conflict.move place) := by
  have known (blocks : List BlockDraft) (heading : Heading) :
      (blocks.map (BlockDraft.move place)).any (·.heading = heading) =
        blocks.any (·.heading = heading) := List.any_map
  cases stage with
  | between bot =>
      obtain ⟨keyword, name, blocks⟩ := bot
      cases blocks with
      | nil => rfl
      | cons latest earlier =>
          obtain ⟨keyword, heading, actions⟩ := latest
          cases heading with
          | default => rfl
          | intent name =>
              simp only [move, BotDraft.move, BlockDraft.move, List.map_cons, conflict?, known]
              split <;> rfl
  | defaultKeyword bot keyword =>
      simp only [move, BotDraft.move, conflict?, known]
      split <;> rfl
  | _ => rfl

theorem next?_move (stage : Stage) {token token' : Token} (kind : token'.kind = token.kind)
    (moved : token'.position = place token.position) :
    (stage.move place).next? token' = (stage.next? token).map (move place) := by
  unfold next?
  rw [kind, moved]
  cases stage with
  | inBlock bot block statement =>
      cases statement <;> cases token.kind with
      | keyword word => cases word <;> rfl
      | _ => rfl
  | _ =>
      cases token.kind with
      | keyword word => cases word <;> rfl
      | _ => rfl

theorem readOn_move (outer : List OpenBlock) (stage : Stage) {tokens tokens' : List Token}
    (moved : List.Forall₂ (fun token token' => token'.kind = token.kind ∧
      token'.position = place token.position) tokens tokens') :
    ((stage.move place).readOn (outer.map (OpenBlock.move place)) tokens').1 =
      (stage.readOn outer tokens).1.mapError (Error.move place) := by
  fun_induction readOn outer stage tokens generalizing tokens' with
  | case1 draft =>
      cases moved
      exact congrArg (Except.ok ∘ Script.toBot) (draft.toScript_move place)
  | case2 stage unfinished =>
      cases moved
      have unfinished' : ∀ draft, stage.move place ≠ closed draft := by
        intro draft same
        cases stage with
        | closed draft => exact unfinished draft rfl
        | _ => cases same
      rw [readOn.eq_2 _ _ unfinished', openBlocks_move, ← List.map_append]
      exact congrArg Except.error (stage.endError_move place _)
  | case3 stage token rest refused =>
      cases moved with
      | cons here behind =>
          rw [readOn, next?_move place stage here.1 here.2, refused]
          simp only [Option.map_none, here, slot_move]
          rfl
  | case4 stage token rest later step calm ih =>
      cases moved with
      | cons here behind =>
          rw [readOn, next?_move place stage here.1 here.2, step]
          simp only [Option.map_some, conflict?_move, calm, Option.map_none]
          exact ih behind
  | case5 stage token rest later step conflict clash =>
      cases moved with
      | cons here behind =>
          rw [readOn, next?_move place stage here.1 here.2, step]
          simp only [Option.map_some, conflict?_move, clash]
          cases conflict <;> rfl

end Stage

theorem Error.position?_move (error : Error) :
    (error.move place).position? = error.position?.map place := by
  cases error <;> rfl

theorem Error.move_of_position? {error : Error} {position : Position}
    (here : error.position? = some position) (other : Position → Position) :
    error.move other = (error.move place).move fun _ => other position := by
  cases error <;> cases here <;> rfl

end

/-! ## Tokens that are numbered -/

def Token.numbered (kinds : List TokenKind) : List Token :=
  kinds.zipIdx.map fun (kind, i) => ⟨kind, kind.text, ⟨i, 0⟩⟩

/-- The place of the token that a place is the number of. -/
def Token.placeIn (tokens : List Token) (number : Position) : Position :=
  (tokens[number.line]?.map Token.position).getD number

theorem Bot.ofTokens_eq_numbered (tokens : List Token) :
    Bot.ofTokens tokens =
      (Bot.ofTokens (Token.numbered (tokens.map Token.kind))).mapError
        (Error.move (Token.placeIn tokens)) := by
  apply Stage.readOn_move (Token.placeIn tokens) [] .start
  rw [List.forall₂_iff_get]
  simp +contextual [Token.numbered, Token.placeIn, ScriptReader.ofTokens]

theorem Token.exists_placeIn {kinds : List TokenKind} {before after : List Token} {token : Token}
    (split : numbered kinds = before ++ token :: after) {tokens : List Token}
    (same : tokens.map kind = kinds) :
    ∃ known, tokens[before.length]? = some known ∧
      placeIn tokens token.position = known.position := by
  have here : (numbered kinds)[before.length]? = some token := by simp [split]
  subst same
  simp only [numbered, List.getElem?_map, List.getElem?_zipIdx, Option.map_map,
    Option.map_eq_some_iff] at here
  obtain ⟨known, found, rfl⟩ := here
  exact ⟨known, found, by simp [placeIn, found]⟩

namespace Bot

/-- Tokens of the same kinds are read alike, whatever their texts and places are: as the
same bot, or with the same error.  An error that has a place has that of one token, and
in both lists this is the token of the same number. -/
theorem ofTokens_of_same_kinds {tokens tokens' : List Token}
    (same : tokens.map Token.kind = tokens'.map Token.kind) :
    (∃ bot, Bot.ofTokens tokens = .ok bot ∧ Bot.ofTokens tokens' = .ok bot) ∨
    (∃ slot, Bot.ofTokens tokens = .error (.endOfScript slot) ∧
      Bot.ofTokens tokens' = .error (.endOfScript slot)) ∨
    ∃ (i : Nat) (token token' : Token) (error error' : Error),
      tokens[i]? = some token ∧ tokens'[i]? = some token' ∧
      Bot.ofTokens tokens = .error error ∧ error.position? = some token.position ∧
      Bot.ofTokens tokens' = .error error' ∧ error'.position? = some token'.position ∧
      error' = error.move fun _ => token'.position := by
  have answer := ofTokens_eq_numbered tokens
  have answer' := ofTokens_eq_numbered tokens'
  rw [← same] at answer'
  cases read : Bot.ofTokens (Token.numbered (tokens.map Token.kind)) with
  | ok bot =>
      rw [read] at answer answer'
      exact .inl ⟨bot, answer, answer'⟩
  | error error =>
      rw [read] at answer answer'
      rcases blames_of_ofTokens read with ⟨slot, rfl, -⟩ | ⟨before, token, after, split, place, -⟩
      · exact .inr (.inl ⟨slot, answer, answer'⟩)
      · obtain ⟨known, found, here⟩ := Token.exists_placeIn split rfl
        obtain ⟨known', found', here'⟩ := Token.exists_placeIn split same.symm
        refine .inr (.inr ⟨before.length, known, known', _, _, found, found', answer, ?_,
          answer', ?_, ?_⟩)
        · rw [error.position?_move, place, Option.map_some, here]
        · rw [error.position?_move, place, Option.map_some, here']
        · rw [← here']
          exact Error.move_of_position? _ place _

theorem ofTokens_of_same_kinds_say :
    let token (kind : TokenKind) (line column : Nat) : Token := ⟨kind, kind.text, ⟨line, column⟩⟩
    let tokens := [token (.keyword .bot) 1 1, token (.string "Shop") 1 5, token .leftBrace 1 12,
      token (.keyword .default) 2 3, token .leftBrace 2 11, token (.keyword .say) 2 13,
      token (.keyword .finish) 2 17, token .rightBrace 2 21, token .rightBrace 3 1]
    let tokens' := tokens.map fun token => ⟨token.kind, "", ⟨0, 9⟩⟩
    tokens.map Token.kind = tokens'.map Token.kind ∧
      Bot.ofTokens tokens = .error (.token ⟨2, 17⟩ .sayText (.keyword .finish)) ∧
      Bot.ofTokens tokens' = .error (.token ⟨0, 9⟩ .sayText (.keyword .finish)) := by
  intro token tokens tokens'
  have same : tokens.map Token.kind = tokens'.map Token.kind := rfl
  have known : Bot.ofTokens tokens = .error (.token ⟨2, 17⟩ .sayText (.keyword .finish)) := rfl
  refine ⟨same, known, ?_⟩
  rcases ofTokens_of_same_kinds same with ⟨bot, accepted, -⟩ | ⟨slot, ended, -⟩ |
    ⟨i, _, token', _, _, -, found', answer, -, answer', -, rfl⟩
  · cases known.symm.trans accepted
  · cases known.symm.trans ended
  · cases known.symm.trans answer
    have place : token'.position = ⟨0, 9⟩ := by
      obtain ⟨_, -, rfl⟩ := List.mem_map.mp (List.mem_of_getElem? found')
      rfl
    rw [answer', place]
    rfl

end Bot

end Dialogue
