import Dialogue.Script.Stage

/-!
# Reading scripts from tokens

`ScriptReader.read` reads one script and stops at the first error.  A reader can
be asked again: it goes on with the tokens it has not used, and it still knows
the blocks that a failed reading left open.
-/

namespace Dialogue

structure ScriptReader where
  tokens : List Token
  leftOpen : List OpenBlock
  deriving DecidableEq, Repr

namespace ScriptReader

def ofTokens (tokens : List Token) : ScriptReader :=
  ⟨tokens, []⟩

end ScriptReader

namespace Stage

/-- The error of a script that ends here, when `opened` are the blocks open,
innermost first. -/
def endError (stage : Stage) : (opened : List OpenBlock) → Error
  | [] => .endOfScript stage.slot
  | innermost :: _ => .unterminated innermost

/-- Reads the rest of a script from a stage.  A token that is refused is left
unread, and so is a second `default`; `outer` are the blocks left open before. -/
def readOn (outer : List OpenBlock) :
    Stage → List Token → Except Error Bot × ScriptReader
  | closed bot, [] => (.ok bot.toScript.toBot, ⟨[], outer⟩)
  | stage, [] =>
      let opened := stage.openBlocks ++ outer
      (.error (stage.endError opened), ⟨[], opened⟩)
  | stage, token :: rest =>
      match stage.next? token with
      | none =>
          (.error (.token token.position stage.slot token.kind),
            ⟨token :: rest, stage.openBlocks ++ outer⟩)
      | some later =>
          match later.conflict? with
          | none => later.readOn outer rest
          | some conflict =>
              let unread :=
                match conflict with
                | .repeatedIntent .. => rest
                | .secondDefault _ => token :: rest
              (.error conflict.error, ⟨unread, later.openBlocks ++ outer⟩)

theorem tokens_readOn (outer : List OpenBlock) (stage : Stage) (tokens : List Token) :
    (stage.readOn outer tokens).2.tokens <:+ tokens := by
  fun_induction readOn outer stage tokens with
  | case1 => exact List.suffix_rfl
  | case2 => exact List.suffix_rfl
  | case3 => exact List.suffix_rfl
  | case4 _ _ _ _ _ _ ih => exact ih.trans (List.suffix_cons _ _)
  | case5 _ _ _ _ _ conflict =>
      cases conflict with
      | repeatedIntent name keyword => exact List.suffix_cons _ _
      | secondDefault keyword => exact List.suffix_rfl

end Stage

namespace ScriptReader

def read (reader : ScriptReader) : Except Error Bot × ScriptReader :=
  Stage.start.readOn reader.leftOpen reader.tokens

end ScriptReader

def Bot.ofTokens (tokens : List Token) : Except Error Bot :=
  (ScriptReader.ofTokens tokens).read.1

end Dialogue
