import Dialogue.Json.Document
import Dialogue.Text.Quoted

/-!
# Decoding

Reading a tree as a value of a given kind.  A decoder reports the first fault in
the order of the text, whether the text is not JSON there or is JSON of another
kind.  Records may be written as objects, in any order and with other fields
beside theirs, or as arrays in the order of their declaration.
-/

namespace Dialogue.Json

abbrev Decoder (α : Type) := Node → Except Error α

/-! ## A value of the wrong kind -/

def Atom.mismatch (expected : String) : Atom → Error
  | null => .invalidType "null" expected
  | bool true => .invalidType "boolean `true`" expected
  | bool false => .invalidType "boolean `false`" expected
  | string text =>
      match text.decode with
      | .ok value => .invalidType ("string " ++ Text.quoted value) expected
      | .error error => error
  | numeral written =>
      match written.number with
      | .ok value => .invalidType value.describe expected
      | .error error => error
  | badNumeral fault => fault.error
  | badWord true => .endInValue
  | badWord false => .expectedWord

def Node.mismatch (expected : String) : Node → Error
  | nothing => .endInValue
  | stray => .expectedValue
  | atom value => value.mismatch expected
  | array .. => .invalidType "sequence" expected
  | object .. => .invalidType "map" expected

/-! ## Skipping -/

def Atom.skip : Atom → Except Error Unit
  | string text => text.skip
  | badNumeral _ => .error .invalidNumber
  | badWord true => .error .endInValue
  | badWord false => .error .expectedWord
  | _ => .ok ()

def ArrayEnd.skip : ArrayEnd → Except Error Unit
  | closed => .ok ()
  | endOfText => .error .endInList
  | commaClosed => .error .expectedValue
  | commaEnd => .error .endInValue
  | noComma => .error .expectedCommaOrBracket

def ObjectEnd.skip : ObjectEnd → Except Error Unit
  | closed => .ok ()
  | endOfText => .error .endInObject
  | commaClosed => .error .keyNotString
  | commaEnd => .error .endInObject
  | noComma => .error .expectedCommaOrBrace
  | badKey => .error .keyNotString
  | noColon key ended => do
      key.skip
      .error (if ended then .endInObject else .expectedColon)

namespace Node

mutual

def skip : Node → Except Error Unit
  | nothing => .error .endInValue
  | stray => .error .expectedValue
  | atom value => value.skip
  | array items ending => do
      skipItems items
      ending.skip
  | object fields ending => do
      skipFields fields
      ending.skip

def skipItems : List Node → Except Error Unit
  | [] => .ok ()
  | item :: items => do
      skip item
      skipItems items

def skipFields : List (RawText × Node) → Except Error Unit
  | [] => .ok ()
  | (key, value) :: fields => do
      key.skip
      skip value
      skipFields fields

end

end Node

/-! ## Plain values -/

namespace Decoder

def string : Decoder String
  | .atom (.string text) => text.decode
  | node => .error (node.mismatch "a string")

def natural : Decoder Nat
  | node@(.atom (.numeral written)) =>
      match written.number with
      | .ok (.natural n) => .ok n
      | .ok value@(.negative _) => .error (.invalidValue value.describe "usize")
      | _ => .error (node.mismatch "usize")
  | node => .error (node.mismatch "usize")

def unit : Decoder Unit
  | .atom .null => .ok ()
  | node => .error (node.mismatch "unit")

def option {α : Type} (decoder : Decoder α) : Decoder (Option α)
  | .atom .null => .ok none
  | node => some <$> decoder node

end Decoder

/-! ## Lists and maps -/

def ArrayEnd.close : ArrayEnd → Except Error Unit
  | closed => .ok ()
  | endOfText => .error .endInList
  | commaClosed => .error .trailingComma
  | commaEnd => .error .endInValue
  | noComma => .error .expectedCommaOrBracket

def ArrayEnd.closeAfter (more : List Node) (ending : ArrayEnd) : Except Error Unit :=
  match more, ending with
  | [], .closed => .ok ()
  | [], .endOfText => .error .endInList
  | [], .commaClosed => .error .trailingComma
  | _, _ => .error .trailingCharacters

def ObjectEnd.close (known : RawText → Except Error Unit) : ObjectEnd → Except Error Unit
  | closed => .ok ()
  | endOfText => .error .endInObject
  | commaClosed => .error .trailingComma
  | commaEnd => .error .endInValue
  | noComma => .error .expectedCommaOrBrace
  | badKey => .error .keyNotString
  | noColon key ended => do
      known key
      .error (if ended then .endInObject else .expectedColon)

namespace Decoder

def list {α : Type} (decoder : Decoder α) : Decoder (List α)
  | .array items ending => do
      let values ← items.mapM decoder
      ending.close
      return values
  | node => .error (node.mismatch "a sequence")

def map {α : Type} (decoder : Decoder α) : Decoder (List (String × α))
  | .object fields ending => do
      let values ← fields.mapM fun (key, value) => do
        let key ← key.decode
        let value ← decoder value
        return (key, value)
      ending.close fun key => do
        let _ ← key.decode
        return ()
      return values
  | node => .error (node.mismatch "a map")

end Decoder

/-! ## Records -/

/-- How a record is being read, which decides what a field without a value means. -/
inductive RecordForm where
  | object
  | array (expected : String)

inductive Presence where
  | required
  | optionalInObject
  | optional
  deriving DecidableEq, Repr

/-- A record of type `α`.  Its fields are put one by one into a draft of type `δ`,
which `finish` turns into the record if nothing is missing.  The number given to
`finish` is the position of the first field. -/
structure Record (δ α : Type) where
  names : List String
  empty : δ
  has : String → δ → Bool
  put : String → Node → δ → Except Error δ
  finish : RecordForm → Nat → δ → Except Error α

namespace Record

def absent {α : Type} (name : String) (default : Option α) (presence : Presence)
    (form : RecordForm) (position : Nat) : Except Error α :=
  match form, presence, default with
  | .object, .optionalInObject, some value => .ok value
  | _, .optional, some value => .ok value
  | .object, _, _ => .error (.missingField name)
  | .array expected, _, _ => .error (.invalidLength position expected)

def field {α : Type} (name : String) (decoder : Decoder α)
    (default : Option α := none) (presence : Presence := .required) :
    Record (Option α) α where
  names := [name]
  empty := none
  has _ draft := draft.isSome
  put _ node _ := some <$> decoder node
  finish form position draft :=
    match draft with
    | some value => .ok value
    | none => absent name default presence form position

def both {δ ε α β : Type} (first : Record δ α) (second : Record ε β) :
    Record (δ × ε) (α × β) where
  names := first.names ++ second.names
  empty := (first.empty, second.empty)
  has name draft :=
    if name ∈ first.names then first.has name draft.1 else second.has name draft.2
  put name node draft :=
    if name ∈ first.names then (·, draft.2) <$> first.put name node draft.1
    else (draft.1, ·) <$> second.put name node draft.2
  finish form position draft := do
    let left ← first.finish form position draft.1
    let right ← second.finish form (position + first.names.length) draft.2
    return (left, right)

variable {δ α : Type}

def key (record : Record δ α) (draft : δ) (text : RawText) : Except Error String := do
  let name ← text.decode
  if name ∈ record.names && record.has name draft then .error (.duplicateField name)
  else .ok name

def readField (record : Record δ α) (draft : δ) (text : RawText) (node : Node) :
    Except Error δ := do
  let name ← record.key draft text
  if name ∈ record.names then
    record.put name node draft
  else
    node.skip
    return draft

/-- Reads items into fields, in the order of the declaration, until one of the two
is used up. -/
def readItems (record : Record δ α) (draft : δ) :
    (names : List String) → (items : List Node) → Except Error (δ × List String × List Node)
  | name :: names, item :: items => do
      let draft ← record.put name item draft
      record.readItems draft names items
  | names, items => .ok (draft, names, items)

def counted (record : Record δ α) (expected : String) : String :=
  match record.names with
  | [_] => expected ++ " with 1 element"
  | names => expected ++ " with " ++ toString names.length ++ " elements"

def decoder (record : Record δ α) (expected : String) : Decoder α
  | .object fields ending => do
      let draft ← fields.foldlM (fun draft (text, node) => record.readField draft text node)
        record.empty
      ending.close fun text => do
        let _ ← record.key draft text
        return ()
      record.finish .object 0 draft
  | .array items ending => do
      let (draft, missing, more) ← record.readItems record.empty record.names items
      if missing ≠ [] then ending.close
      let value ← record.finish (.array (record.counted expected)) 0 draft
      ending.closeAfter more
      return value
  | node => .error (node.mismatch expected)

end Record

/-! ## Variants -/

inductive VariantData (α : Type) where
  | nothing (value : α)
  | value (decoder : Decoder α)
  | record (decoder : Decoder α)

structure Variant (α : Type) where
  name : String
  data : VariantData α

namespace Variant

variable {α : Type}

def find (variants : List (Variant α)) (name : String) : Except Error (Variant α) :=
  match variants.find? (·.name == name) with
  | some variant => .ok variant
  | none => .error (.unknownVariant name (variants.map Variant.name))

def bare (variant : Variant α) : Except Error α :=
  match variant.data with
  | .nothing value => .ok value
  | .value _ => .error (.invalidType "unit variant" "newtype variant")
  | .record _ => .error (.invalidType "unit variant" "struct variant")

def decodeData (variant : Variant α) (node : Node) : Except Error α :=
  match variant.data with
  | .nothing value => do
      Decoder.unit node
      return value
  | .value decoder => decoder node
  | .record decoder => decoder node

def keyFault (variants : List (Variant α)) : ObjectEnd → Error
  | .endOfText => .endInObject
  | .badKey => .keyNotString
  | .noColon key ended =>
      match key.decode >>= find variants with
      | .error error => error
      | .ok _ => if ended then .endInObject else .expectedColon
  | _ => .expectedValue

/-- The decoder of a type with variants: a name, or an object whose only key is
the name and whose value is the data. -/
def decoder (variants : List (Variant α)) : Decoder α
  | .nothing => .error .endInValue
  | .atom (.string text) => do
      let name ← text.decode
      let variant ← find variants name
      variant.bare
  | .object [] ending => .error (keyFault variants ending)
  | .object ((key, node) :: more) ending => do
      let name ← key.decode
      let variant ← find variants name
      let value ← variant.decodeData node
      match more, ending with
      | [], .closed => return value
      | [], .endOfText => .error .endInObject
      | _, _ => .error .expectedValue
  | _ => .error .expectedValue

end Variant

def decode {α : Type} (decoder : Decoder α) (text : String) : Except Error α := do
  let document := Document.read text
  let value ← decoder document.root
  if document.trailing then .error .trailingCharacters else .ok value

end Dialogue.Json
