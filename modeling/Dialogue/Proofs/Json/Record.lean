import Dialogue.Proofs.Json.Written

/-!
# Records, variants and lists read back

What the decoders of composite types make of the tree of a value, said once for
each way in which such a type is written.
-/

namespace Dialogue.Json

theorem mapM_inverse {ε α β : Type} {write : α → β} {read : β → Except ε α}
    (inverse : ∀ a, read (write a) = .ok a) (items : List α) :
    (items.map write).mapM read = .ok items := by
  have same : read ∘ write = pure := funext inverse
  rw [List.mapM_map, same]
  exact (List.mapM_pure (l := items) (f := id)).trans (congrArg pure (List.map_id items))

namespace Decoder

@[simp] theorem string_node (text : String) : string (Value.string text).node = .ok text :=
  RawText.decode_ofString text

theorem natural_node {n : Nat} (fits : n ≤ Number.maxNatural) :
    natural (Value.natural n).node = .ok n := by
  simp [natural, Value.node, Numeral.number_ofNatural fits]

variable {α : Type} {decoder : Decoder α} {encode : α → Value}

theorem list_node (inverse : ∀ a, decoder (encode a).node = .ok a) (items : List α) :
    decoder.list (Value.array (items.map encode)).node = .ok items := by
  have read := mapM_inverse inverse items
  simp only [list, Value.node, Value.itemNodes_eq_map, List.map_map]
  exact congrArg (· >>= _) read

theorem map_node (inverse : ∀ a, decoder (encode a).node = .ok a) (entries : List (String × α)) :
    decoder.map (Value.object (entries.map fun entry => (entry.1, encode entry.2))).node =
      .ok entries := by
  have read : (entries.map fun entry => (RawText.ofString entry.1, (encode entry.2).node)).mapM
      (fun field => do
        let key ← field.1.decode
        let value ← decoder field.2
        return (key, value)) = .ok entries := by
    refine mapM_inverse (fun entry => ?_) entries
    simp only [RawText.decode_ofString, inverse]
    rfl
  simp only [map, Value.node, Value.fieldNodes_eq_map, List.map_map]
  exact congrArg (· >>= _) read

end Decoder

/-! ## Records -/

namespace Record

variable {δ ε α β : Type}

theorem readField_of_mem {record : Record δ α} {name : String} (mem : name ∈ record.names)
    (draft : δ) (node : Node) :
    record.readField draft (.ofString name) node =
      if record.has name draft then .error (.duplicateField name)
      else record.put name node draft := by
  cases had : record.has name draft <;>
    simp [readField, key, mem, had, bind, Except.bind]

def readFields (record : Record δ α) (draft : δ) (fields : List (String × Value)) :
    Except Error δ :=
  fields.foldlM (fun draft (name, value) => record.readField draft (.ofString name) value.node)
    draft

theorem readFields_cons (record : Record δ α) (draft : δ) (field : String × Value)
    (fields : List (String × Value)) :
    record.readFields draft (field :: fields) =
      record.readField draft (.ofString field.1) field.2.node >>= (record.readFields · fields) :=
  rfl

theorem readFields_append (record : Record δ α) (draft : δ) (fields more : List (String × Value)) :
    record.readFields draft (fields ++ more) =
      record.readFields draft fields >>= (record.readFields · more) :=
  List.foldlM_append

theorem decoder_node (record : Record δ α) (expected : String)
    (fields : List (String × Value)) :
    record.decoder expected (Value.object fields).node =
      record.readFields record.empty fields >>= record.finish .object 0 := by
  simp only [decoder, Value.node, Value.fieldNodes_eq_map, List.foldlM_map]
  rfl

/-- The fields are those of the record, and reading them gives the value. -/
structure Reads (record : Record δ α) (fields : List (String × Value)) (value : α) : Prop where
  names : fields.map Prod.fst = record.names
  finishes : ∃ draft, record.readFields record.empty fields = .ok draft ∧
    ∀ form position, record.finish form position draft = .ok value

theorem Reads.decoder_node {record : Record δ α} {fields : List (String × Value)} {value : α}
    (reads : record.Reads fields value) (expected : String) (make : α → β) :
    make <$> record.decoder expected (Value.object fields).node = .ok (make value) := by
  obtain ⟨draft, read, finish⟩ := reads.finishes
  rw [Record.decoder_node, read]
  exact congrArg (make <$> ·) (finish .object 0)

theorem reads_field {decoder : Decoder α} {value : Value} {a : α} (name : String)
    (decoded : decoder value.node = .ok a) (default : Option α := none)
    (presence : Presence := .required) :
    (field name decoder default presence).Reads [(name, value)] a where
  names := rfl
  finishes := by
    refine ⟨some a, ?_, fun _ _ => rfl⟩
    have mem : name ∈ (field name decoder default presence).names := List.mem_singleton_self _
    rw [readFields_cons, readField_of_mem mem]
    simp only [field, decoded]
    rfl

/-! A pair of records reads each field into the draft of the record that has it. -/

section Both

variable {first : Record δ α} {second : Record ε β} {name : String}

theorem readField_both_of_mem (mem : name ∈ first.names) (draft : δ × ε) (node : Node) :
    (first.both second).readField draft (.ofString name) node =
      (·, draft.2) <$> first.readField draft.1 (.ofString name) node := by
  have known : name ∈ (first.both second).names := List.mem_append_left _ mem
  have had : (first.both second).has name draft = first.has name draft.1 := if_pos mem
  have put : (first.both second).put name node draft =
      (·, draft.2) <$> first.put name node draft.1 := if_pos mem
  rw [readField_of_mem known, readField_of_mem mem, had, put]
  cases first.has name draft.1 <;> rfl

theorem readField_both_of_not_mem (notMem : name ∉ first.names) (mem : name ∈ second.names)
    (draft : δ × ε) (node : Node) :
    (first.both second).readField draft (.ofString name) node =
      (draft.1, ·) <$> second.readField draft.2 (.ofString name) node := by
  have known : name ∈ (first.both second).names := List.mem_append_right _ mem
  have had : (first.both second).has name draft = second.has name draft.2 := if_neg notMem
  have put : (first.both second).put name node draft =
      (draft.1, ·) <$> second.put name node draft.2 := if_neg notMem
  rw [readField_of_mem known, readField_of_mem mem, had, put]
  cases second.has name draft.2 <;> rfl

theorem readFields_both_of_mem {fields : List (String × Value)}
    (mem : ∀ name ∈ fields.map Prod.fst, name ∈ first.names) (draft : δ × ε) :
    (first.both second).readFields draft fields =
      (·, draft.2) <$> first.readFields draft.1 fields := by
  induction fields generalizing draft with
  | nil => rfl
  | cons field fields ih =>
      simp only [List.map_cons, List.forall_mem_cons] at mem
      rw [readFields_cons, readFields_cons, readField_both_of_mem mem.1]
      cases first.readField draft.1 (.ofString field.1) field.2.node with
      | error error => rfl
      | ok next => exact ih mem.2 (next, draft.2)

theorem readFields_both_of_not_mem {fields : List (String × Value)}
    (notMem : ∀ name ∈ fields.map Prod.fst, name ∉ first.names)
    (mem : ∀ name ∈ fields.map Prod.fst, name ∈ second.names) (draft : δ × ε) :
    (first.both second).readFields draft fields =
      (draft.1, ·) <$> second.readFields draft.2 fields := by
  induction fields generalizing draft with
  | nil => rfl
  | cons field fields ih =>
      simp only [List.map_cons, List.forall_mem_cons] at mem notMem
      rw [readFields_cons, readFields_cons, readField_both_of_not_mem notMem.1 mem.1]
      cases second.readField draft.2 (.ofString field.1) field.2.node with
      | error error => rfl
      | ok next => exact ih notMem.2 mem.2 (draft.1, next)

theorem Reads.both {fields more : List (String × Value)} {a : α} {b : β}
    (left : first.Reads fields a) (right : second.Reads more b)
    (differ : ∀ name ∈ second.names, name ∉ first.names := by decide) :
    (first.both second).Reads (fields ++ more) (a, b) where
  names := by
    rw [List.map_append, left.names, right.names]
    rfl
  finishes := by
    obtain ⟨draft, readLeft, finishLeft⟩ := left.finishes
    obtain ⟨next, readRight, finishRight⟩ := right.finishes
    have before : (first.both second).readFields (first.empty, second.empty) fields =
        .ok (draft, second.empty) := by
      rw [readFields_both_of_mem (left.names ▸ fun _ mem => mem), readLeft]
      rfl
    have after : (first.both second).readFields (draft, second.empty) more =
        .ok (draft, next) := by
      rw [readFields_both_of_not_mem (right.names ▸ differ) (right.names ▸ fun _ mem => mem),
        readRight]
      rfl
    refine ⟨(draft, next), ?_, fun form position => ?_⟩
    · rw [readFields_append]
      exact (congrArg (· >>= _) before).trans after
    · simp only [Record.both, finishLeft, finishRight]
      rfl

end Both

end Record

/-! ## Variants -/

namespace Variant

variable {α : Type} {variants : List (Variant α)} {variant : Variant α}

theorem find_of_mem (differ : (variants.map Variant.name).Nodup) (mem : variant ∈ variants) :
    find variants variant.name = .ok variant := by
  have found : variants.find? (·.name == variant.name) = some variant := by
    rw [List.find?_eq_some_iff_append]
    obtain ⟨front, back, rfl⟩ := List.append_of_mem mem
    refine ⟨by simp, front, back, rfl, fun other before => ?_⟩
    rw [List.map_append, List.nodup_append] at differ
    have := differ.2.2 _ (List.mem_map_of_mem before) _ (List.mem_map_of_mem List.mem_cons_self)
    simpa using this
  rw [find, found]

theorem decoder_string (differ : (variants.map Variant.name).Nodup) (mem : variant ∈ variants) :
    decoder variants (Value.string variant.name).node = variant.bare := by
  simp only [decoder, Value.node, RawText.decode_ofString, find_of_mem differ mem, bind,
    Except.bind]

theorem decoder_object (differ : (variants.map Variant.name).Nodup) (mem : variant ∈ variants)
    (value : Value) :
    decoder variants (Value.object [(variant.name, value)]).node =
      variant.decodeData value.node := by
  simp only [decoder, Value.node, Value.fieldNodes, RawText.decode_ofString,
    find_of_mem differ mem, bind, Except.bind]
  cases variant.decodeData value.node <;> rfl

end Variant

end Dialogue.Json
