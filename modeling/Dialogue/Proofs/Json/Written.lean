import Dialogue.Proofs.Json.Atom

/-!
# Values read back

Both texts of a value have the same tokens, and the tokens of a value are read as
one tree, so that decoding either text is decoding that tree.
-/

namespace Dialogue.Json

namespace Value

mutual

def tokens : Value → List Token
  | null => [.atom .null]
  | natural n => [.atom (.numeral (.ofNatural n))]
  | string text => [.atom (.string (.ofString text))]
  | array items => .openBracket :: itemTokens items ++ [.closeBracket]
  | object fields => .openBrace :: fieldTokens fields ++ [.closeBrace]

def itemTokens : List Value → List Token
  | [] => []
  | [item] => item.tokens
  | item :: items => item.tokens ++ .comma :: itemTokens items

def fieldTokens : List (String × Value) → List Token
  | [] => []
  | [(key, value)] => .atom (.string (.ofString key)) :: .colon :: value.tokens
  | (key, value) :: fields =>
      .atom (.string (.ofString key)) :: .colon :: value.tokens ++ .comma :: fieldTokens fields

end

mutual

def node : Value → Node
  | null => .atom .null
  | natural n => .atom (.numeral (.ofNatural n))
  | string text => .atom (.string (.ofString text))
  | array items => .array (itemNodes items) .closed
  | object fields => .object (fieldNodes fields) .closed

def itemNodes : List Value → List Node
  | [] => []
  | item :: items => item.node :: itemNodes items

def fieldNodes : List (String × Value) → List (RawText × Node)
  | [] => []
  | (key, value) :: fields => (.ofString key, value.node) :: fieldNodes fields

end

theorem itemNodes_eq_map (items : List Value) : itemNodes items = items.map node := by
  induction items with
  | nil => rfl
  | cons item items ih => rw [itemNodes, ih, List.map_cons]

theorem fieldNodes_eq_map (fields : List (String × Value)) :
    fieldNodes fields = fields.map fun field => (.ofString field.1, field.2.node) := by
  induction fields with
  | nil => rfl
  | cons field fields ih => rw [fieldNodes, ih, List.map_cons]

end Value

/-! ## From the text to the tokens -/

namespace Token

theorem all_cons {c : Char} (visible : isBlank c = false) (rest : List Char) :
    all (c :: rest) = (read c rest).1 :: all (read c rest).2 := by
  rw [all]
  simp [visible]

theorem all_blank {c : Char} (blank : isBlank c = true) (rest : List Char) :
    all (c :: rest) = all rest := by
  rw [all]
  simp [blank]

/-- A text with these tokens, in front of whatever ends a number. -/
def Spells (text : List Char) (tokens : List Token) : Prop :=
  ∀ rest, EndsNumber rest → all (text ++ rest) = tokens ++ all rest

theorem spells_null : Spells ['n', 'u', 'l', 'l'] [.atom .null] := by
  intro rest _
  rw [List.cons_append, all_cons (by decide)]
  rfl

theorem spells_stringText (text : String) :
    Spells (stringText text) [.atom (.string (.ofString text))] := by
  intro rest _
  have closed := RawText.read_flatMap text.toList rest
  rw [stringText, List.append_assoc, List.cons_append, all_cons (by decide)]
  simp only [read, readString, List.cons_append, List.nil_append, closed]
  rfl

theorem isBlank_of_isDigit {c : Char} (digit : c.isDigit = true) : isBlank c = false := by
  rw [Bool.eq_false_iff]
  intro blank
  simp only [isBlank, Bool.or_eq_true, beq_iff_eq] at blank
  rcases blank with ((rfl | rfl) | rfl) | rfl <;> exact absurd digit (by decide)

theorem read_of_isDigit {c : Char} (digit : c.isDigit = true) (rest : List Char) :
    read c rest = readNumeral (c :: rest) := by
  unfold read
  split <;> simp_all

theorem spells_naturalText (n : Nat) :
    Spells (naturalText n) [.atom (.numeral (.ofNatural n))] := by
  intro rest ends
  have taken := Numeral.read_naturalText n ends
  obtain ⟨c, digits, written, -⟩ := naturalText_eq_cons n
  have digit : c.isDigit = true := isDigit_of_mem_naturalText (written ▸ List.mem_cons_self)
  rw [written, List.cons_append] at taken ⊢
  rw [all_cons (isBlank_of_isDigit digit), read_of_isDigit digit, readNumeral, taken]
  rfl

namespace Spells

theorem nil : Spells [] [] :=
  fun _ _ => rfl

theorem mark {c : Char} {token : Token} {text : List Char} {tokens : List Token}
    (visible : isBlank c = false) (single : ∀ rest, read c rest = (token, rest))
    (spells : Spells text tokens) : Spells (c :: text) (token :: tokens) := by
  intro rest ends
  rw [List.cons_append, all_cons visible, single, spells rest ends]
  rfl

theorem blank {c : Char} {text : List Char} {tokens : List Token} (blank : isBlank c = true)
    (spells : Spells text tokens) : Spells (c :: text) tokens := by
  intro rest ends
  rw [List.cons_append, all_blank blank, spells rest ends]

theorem newline {text : List Char} {tokens : List Token} (depth : Nat)
    (spells : Spells text tokens) : Spells (Value.newline depth ++ text) tokens := by
  have spaces (n : Nat) : Spells (List.replicate n ' ' ++ text) tokens := by
    induction n with
    | zero => exact spells
    | succ n ih => exact ih.blank (by decide)
  exact (spaces (2 * depth)).blank (by decide)

theorem append {c : Char} {first second : List Char} {tokens more : List Token}
    (left : Spells first tokens) (ends : continuesNumber c = false) (right : Spells (c :: second) more) :
    Spells (first ++ c :: second) (tokens ++ more) := by
  intro rest after
  have stops : EndsNumber (c :: second ++ rest) := by simpa [EndsNumber] using ends
  rw [List.append_assoc, left _ stops, right rest after, List.append_assoc]

theorem field {text : List Char} {tokens : List Token} (key : String)
    (spells : Spells text tokens) :
    Spells (stringText key ++ ':' :: text) (.atom (.string (.ofString key)) :: .colon :: tokens) :=
  (spells_stringText key).append (by decide) (spells.mark (by decide) fun _ => rfl)

theorem comma {first second : List Char} {tokens more : List Token}
    (left : Spells first tokens) (right : Spells second more) :
    Spells (first ++ ',' :: second) (tokens ++ .comma :: more) :=
  left.append (by decide) (right.mark (by decide) fun _ => rfl)

theorem brackets {text : List Char} {tokens : List Token} (spells : Spells text tokens) :
    Spells ('[' :: text ++ [']']) (.openBracket :: tokens ++ [.closeBracket]) :=
  (spells.append (by decide) (nil.mark (by decide) fun _ => rfl)).mark (by decide)
    fun _ => rfl

theorem braces {text : List Char} {tokens : List Token} (spells : Spells text tokens) :
    Spells ('\x7b' :: text ++ ['\x7d']) (.openBrace :: tokens ++ [.closeBrace]) :=
  (spells.append (by decide) (nil.mark (by decide) fun _ => rfl)).mark (by decide)
    fun _ => rfl

theorem indented {text : List Char} {tokens : List Token} (spells : Spells text tokens)
    (depth : Nat) :
    Spells (Value.newline (depth + 1) ++ text ++ Value.newline depth) tokens := by
  have closing : Spells (Value.newline depth) [] := by
    simpa using nil.newline depth
  have joined : Spells (text ++ Value.newline depth) (tokens ++ []) :=
    spells.append (by decide) closing
  rw [List.append_nil] at joined
  rw [List.append_assoc]
  exact joined.newline (depth + 1)

end Spells

end Token

namespace Value

open Token

mutual

theorem spells_compactChars : ∀ value : Value, Spells value.compactChars value.tokens
  | null => spells_null
  | natural n => spells_naturalText n
  | string text => spells_stringText text
  | array items => (spells_compactItems items).brackets
  | object fields => (spells_compactFields fields).braces

theorem spells_compactItems : ∀ items, Spells (compactItems items) (itemTokens items)
  | [] => .nil
  | [item] => spells_compactChars item
  | item :: next :: items => (spells_compactChars item).comma (spells_compactItems (next :: items))

theorem spells_compactFields : ∀ fields, Spells (compactFields fields) (fieldTokens fields)
  | [] => .nil
  | [(key, value)] => (spells_compactChars value).field key
  | (key, value) :: next :: fields =>
      ((spells_compactChars value).field key).comma (spells_compactFields (next :: fields))

end

mutual

theorem spells_prettyChars :
    ∀ (depth : Nat) (value : Value), Spells (value.prettyChars depth) value.tokens
  | _, null => spells_null
  | _, natural n => spells_naturalText n
  | _, string text => spells_stringText text
  | _, array [] => Spells.nil.brackets
  | depth, array (item :: items) =>
      ((spells_prettyItems (depth + 1) (item :: items)).indented depth).brackets
  | _, object [] => Spells.nil.braces
  | depth, object (field :: fields) =>
      ((spells_prettyFields (depth + 1) (field :: fields)).indented depth).braces

theorem spells_prettyItems :
    ∀ (depth : Nat) (items : List Value), Spells (prettyItems depth items) (itemTokens items)
  | _, [] => .nil
  | depth, [item] => spells_prettyChars depth item
  | depth, item :: next :: items => by
      rw [prettyItems, List.append_assoc]
      · exact (spells_prettyChars depth item).comma
          ((spells_prettyItems depth (next :: items)).newline depth)
      · simp

theorem spells_prettyFields :
    ∀ (depth : Nat) (fields : List (String × Value)),
      Spells (prettyFields depth fields) (fieldTokens fields)
  | _, [] => .nil
  | depth, [(key, value)] => ((spells_prettyChars depth value).blank (by decide)).field key
  | depth, (key, value) :: next :: fields => by
      rw [prettyFields, List.append_assoc]
      · exact (((spells_prettyChars depth value).blank (by decide)).field key).comma
          ((spells_prettyFields depth (next :: fields)).newline depth)
      · simp

end

end Value

/-! ## From the tokens to the tree -/

namespace Document

open Value


theorem readOn_firstItem (item : Value) (items : List Value) (frames : List Frame)
    (rest : List Token) :
    readOn .firstItem frames (itemTokens (item :: items) ++ rest) =
      readOn .value (.array [] :: frames) (itemTokens (item :: items) ++ rest) := by
  cases items <;> cases item <;> rfl

theorem readOn_item (item : Value) (items : List Value) (read : List Node)
    (frames : List Frame) (rest : List Token) :
    readOn (.item read) frames (itemTokens (item :: items) ++ rest) =
      readOn .value (.array read :: frames) (itemTokens (item :: items) ++ rest) := by
  cases items <;> cases item <;> rfl

theorem readOn_firstKey (field : String × Value) (fields : List (String × Value))
    (frames : List Frame) (rest : List Token) :
    readOn .firstKey frames (fieldTokens (field :: fields) ++ rest) =
      readOn (.key []) frames (fieldTokens (field :: fields) ++ rest) := by
  cases fields <;> rfl

mutual

theorem readOn_tokens : ∀ (value : Value) (frames : List Frame) (rest : List Token),
    readOn .value frames (value.tokens ++ rest) = readOn (.after value.node) frames rest
  | .null, _, _ | .natural _, _, _ | .string _, _, _ | .array [], _, _ | .object [], _, _ => rfl
  | .array (item :: items), frames, rest => by
      calc readOn .value frames ((Value.array (item :: items)).tokens ++ rest)
        _ = readOn .firstItem frames
              (itemTokens (item :: items) ++ .closeBracket :: rest) := by
            simp [Value.tokens, readOn, Mode.step, Mode.begin]
        _ = readOn .value (.array [] :: frames)
              (itemTokens (item :: items) ++ .closeBracket :: rest) :=
            readOn_firstItem item items frames _
        _ = _ := readOn_itemTokens (item :: items) (by simp) [] frames rest
  | .object (field :: fields), frames, rest => by
      calc readOn .value frames ((Value.object (field :: fields)).tokens ++ rest)
        _ = readOn .firstKey frames
              (fieldTokens (field :: fields) ++ .closeBrace :: rest) := by
            simp [Value.tokens, readOn, Mode.step, Mode.begin]
        _ = readOn (.key []) frames
              (fieldTokens (field :: fields) ++ .closeBrace :: rest) :=
            readOn_firstKey field fields frames _
        _ = _ := readOn_fieldTokens (field :: fields) (by simp) [] frames rest

theorem readOn_itemTokens : ∀ items : List Value, items ≠ [] →
    ∀ (read : List Node) (frames : List Frame) (rest : List Token),
    readOn .value (.array read :: frames) (itemTokens items ++ .closeBracket :: rest) =
      readOn (.after (.array (read.reverse ++ itemNodes items) .closed)) frames rest
  | [], filled, _, _, _ => absurd rfl filled
  | [item], _, read, frames, rest => by
      rw [itemTokens, readOn_tokens item]
      simp [readOn, Mode.step, itemNodes]
  | item :: next :: items, _, read, frames, rest => by
      calc readOn .value (.array read :: frames)
            (itemTokens (item :: next :: items) ++ .closeBracket :: rest)
        _ = readOn (.after item.node) (.array read :: frames)
              (.comma :: itemTokens (next :: items) ++ .closeBracket :: rest) := by
            rw [← readOn_tokens item, ← List.append_assoc]
            rfl
        _ = readOn (.item (item.node :: read)) frames
              (itemTokens (next :: items) ++ .closeBracket :: rest) := rfl
        _ = _ := readOn_item next items _ frames _
        _ = _ := readOn_itemTokens (next :: items) (by simp) (item.node :: read) frames rest
        _ = _ := by simp [itemNodes]

theorem readOn_fieldTokens : ∀ fields : List (String × Value), fields ≠ [] →
    ∀ (read : List (RawText × Node)) (frames : List Frame) (rest : List Token),
    readOn (.key read) frames (fieldTokens fields ++ .closeBrace :: rest) =
      readOn (.after (.object (read.reverse ++ fieldNodes fields) .closed)) frames rest
  | [], filled, _, _, _ => absurd rfl filled
  | [(key, value)], _, read, frames, rest => by
      calc readOn (.key read) frames (fieldTokens [(key, value)] ++ .closeBrace :: rest)
        _ = readOn .value (.object read (.ofString key) :: frames)
              (value.tokens ++ .closeBrace :: rest) := rfl
        _ = _ := readOn_tokens value _ _
        _ = _ := by simp [readOn, Mode.step, fieldNodes]
  | (key, value) :: next :: fields, _, read, frames, rest => by
      calc readOn (.key read) frames
            (fieldTokens ((key, value) :: next :: fields) ++ .closeBrace :: rest)
        _ = readOn .value (.object read (.ofString key) :: frames)
              (value.tokens ++ .comma :: fieldTokens (next :: fields) ++ .closeBrace :: rest) := rfl
        _ = readOn (.after value.node) (.object read (.ofString key) :: frames)
              (.comma :: fieldTokens (next :: fields) ++ .closeBrace :: rest) := by
            rw [List.append_assoc, readOn_tokens value]
        _ = readOn (.key ((.ofString key, value.node) :: read)) frames
              (fieldTokens (next :: fields) ++ .closeBrace :: rest) := rfl
        _ = _ := readOn_fieldTokens (next :: fields) (by simp) _ frames rest
        _ = _ := by simp [fieldNodes]

end

theorem readOn_spelled {text : List Char} {value : Value}
    (spells : Token.Spells text value.tokens) :
    readOn .value [] (Token.all text) = ⟨value.node, false⟩ := by
  have whole : Token.all text = value.tokens ++ [] := by
    simpa [Token.all] using spells [] (by simp [EndsNumber])
  rw [whole, readOn_tokens]
  rfl

@[simp] theorem read_compact (value : Value) : read value.compact = ⟨value.node, false⟩ := by
  rw [read, Value.compact, String.toList_ofList]
  exact readOn_spelled value.spells_compactChars

@[simp] theorem read_pretty (value : Value) : read value.pretty = ⟨value.node, false⟩ := by
  rw [read, Value.pretty, String.toList_ofList]
  exact readOn_spelled (value.spells_prettyChars 0)

end Document

variable {α : Type}

theorem decode_compact (decoder : Decoder α) (value : Value) :
    decode decoder value.compact = decoder value.node := by
  simp only [decode, Document.read_compact]
  exact bind_pure (decoder value.node)

theorem decode_pretty (decoder : Decoder α) (value : Value) :
    decode decoder value.pretty = decoder value.node := by
  simp only [decode, Document.read_pretty]
  exact bind_pure (decoder value.node)

end Dialogue.Json
