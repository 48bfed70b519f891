import Dialogue.Console.Chat
import Mathlib.Tactic.SplitIfs

/-!
# Lines of a text and of its bytes

A text is cut behind each of its newlines.  In UTF-8 no other character has a byte that
is a newline, so the bytes of a text are cut into the bytes of its lines, and each line
is read back from its own bytes.
-/

namespace Dialogue.Console

/-- The text is made of these lines: each ends with its only newline, but the last one may
lack it. -/
inductive Lines {α : Type} (newline : α) : List α → List (List α) → Prop where
  | done : Lines newline [] []
  | unended {line : List α} : line ≠ [] → newline ∉ line → Lines newline line [line]
  | ended {line rest : List α} {lines : List (List α)} : newline ∉ line →
      Lines newline rest lines → Lines newline (line ++ newline :: rest) ((line ++ [newline]) :: lines)

namespace Lines

variable {α : Type} {newline : α}

theorem cons {c : α} (plain : c ≠ newline) {whole : List α} {lines : List (List α)}
    (cut : Lines newline whole lines) : ∃ longer, Lines newline (c :: whole) longer := by
  cases cut with
  | done => exact ⟨[[c]], .unended (List.cons_ne_nil c []) (by simpa using plain.symm)⟩
  | unended _ free =>
      exact ⟨_, .unended (List.cons_ne_nil c _) (List.not_mem_cons_of_ne_of_not_mem plain.symm free)⟩
  | ended free rest =>
      exact ⟨_, .ended (List.not_mem_cons_of_ne_of_not_mem plain.symm free) rest⟩

theorem exists_lines [DecidableEq α] (newline : α) (whole : List α) :
    ∃ lines, Lines newline whole lines := by
  induction whole with
  | nil => exact ⟨[], .done⟩
  | cons c rest ih =>
      obtain ⟨lines, cut⟩ := ih
      by_cases same : c = newline
      · subst same
        exact ⟨_, .ended (List.not_mem_nil (a := c)) cut⟩
      · exact cut.cons same

theorem append {whole more : List α} {front others : List (List α)} {last : List α}
    (cut : Lines newline whole (front ++ [last ++ [newline]])) (next : Lines newline more others) :
    Lines newline (whole ++ more) (front ++ [last ++ [newline]] ++ others) := by
  generalize named : front ++ [last ++ [newline]] = lines at cut ⊢
  induction cut generalizing front with
  | done => simp at named
  | @unended line _ free =>
      cases front with
      | nil =>
          obtain ⟨rfl, -⟩ := List.cons.inj named
          simp at free
      | cons first front => simp at named
  | @ended line rest lines free behind ih =>
      rw [List.append_assoc, List.cons_append, List.cons_append]
      cases front with
      | nil =>
          obtain ⟨-, rfl⟩ := List.cons.inj named
          cases behind
          exact .ended free next
      | cons first front =>
          obtain ⟨-, rfl⟩ := List.cons.inj named
          exact .ended free (ih rfl)

end Lines

/-! ## Bytes -/

theorem byteLines_append_newline {line : List UInt8} (free : 10 ∉ line) (rest : List UInt8) :
    byteLines (line ++ 10 :: rest) = (line ++ [10]) :: byteLines rest := by
  induction line with
  | nil => simp [byteLines]
  | cons byte line ih =>
      have plain : byte ≠ 10 := (List.ne_of_not_mem_cons free).symm
      rw [List.cons_append, byteLines, if_neg plain, ih (List.not_mem_of_not_mem_cons free)]
      rfl

theorem byteLines_of_not_mem {line : List UInt8} (some_byte : line ≠ []) (free : 10 ∉ line) :
    byteLines line = [line] := by
  induction line with
  | nil => exact (some_byte rfl).elim
  | cons byte line ih =>
      have plain : byte ≠ 10 := (List.ne_of_not_mem_cons free).symm
      rw [byteLines, if_neg plain]
      cases line with
      | nil => rfl
      | cons next line =>
          rw [ih (List.cons_ne_nil next line) (List.not_mem_of_not_mem_cons free)]

theorem Lines.byteLines_eq {bytes : List UInt8} {lines : List (List UInt8)}
    (cut : Lines 10 bytes lines) : byteLines bytes = lines := by
  induction cut with
  | done => rfl
  | unended some_byte free => exact byteLines_of_not_mem some_byte free
  | ended free _ ih => rw [byteLines_append_newline free, ih]

def utf8 (text : List Char) : List UInt8 :=
  text.flatMap String.utf8EncodeChar

theorem utf8EncodeChar_newline : String.utf8EncodeChar '\n' = [10] := rfl

theorem newline_not_mem_utf8EncodeChar {c : Char} (other : c ≠ '\n') :
    10 ∉ String.utf8EncodeChar c := by
  have code : c.val.toNat ≠ 10 := fun same => other (Char.ext (UInt32.toNat_inj.mp same))
  have differs {n : Nat} (high : n % 256 ≠ 10) : 10 ≠ UInt8.ofNat n := by
    rw [ne_eq, ← UInt8.toNat_inj, UInt8.toNat_ofNat']
    exact fun same => high same.symm
  rw [String.utf8EncodeChar]
  split_ifs <;> simp only [List.mem_cons, List.not_mem_nil, or_false, not_or]
  · exact differs (by omega)
  · exact ⟨differs (by omega), differs (by omega)⟩
  · exact ⟨differs (by omega), differs (by omega), differs (by omega)⟩
  · exact ⟨differs (by omega), differs (by omega), differs (by omega), differs (by omega)⟩

theorem newline_not_mem_utf8 {line : List Char} (free : '\n' ∉ line) : 10 ∉ utf8 line := by
  rw [utf8, List.mem_flatMap]
  rintro ⟨c, member, byte⟩
  exact newline_not_mem_utf8EncodeChar (fun same => free (same ▸ member)) byte

theorem utf8_ne_nil {line : List Char} (some_char : line ≠ []) : utf8 line ≠ [] := by
  obtain ⟨c, rest, rfl⟩ := List.exists_cons_of_ne_nil some_char
  rw [utf8, List.flatMap_cons]
  exact List.append_ne_nil_of_left_ne_nil String.utf8EncodeChar_ne_nil _

theorem Lines.map_utf8 {text : List Char} {lines : List (List Char)} (cut : Lines '\n' text lines) :
    Lines 10 (utf8 text) (lines.map utf8) := by
  induction cut with
  | done => exact .done
  | unended some_char free => exact .unended (utf8_ne_nil some_char) (newline_not_mem_utf8 free)
  | @ended line rest lines free _ ih =>
      have whole : utf8 (line ++ '\n' :: rest) =
          utf8 line ++ 10 :: utf8 rest := by
        simp [utf8, utf8EncodeChar_newline]
      have first : utf8 (line ++ ['\n']) = utf8 line ++ [10] := by
        simp [utf8, utf8EncodeChar_newline]
      rw [whole, List.map_cons, first]
      exact .ended (newline_not_mem_utf8 free) ih

theorem toList_loop (bytes : ByteArray) (i : Nat) (front : List UInt8) :
    ByteArray.toList.loop bytes i front = front.reverse ++ bytes.data.toList.drop i := by
  fun_induction ByteArray.toList.loop bytes i front with
  | case1 i front within ih =>
      have next : bytes.data.toList.drop i = bytes.get! i :: bytes.data.toList.drop (i + 1) := by
        rw [List.drop_eq_getElem_cons (by simpa using within)]
        simp [ByteArray.get!, within]
      rw [ih, next, List.reverse_cons, List.append_assoc, List.singleton_append]
  | case2 i front beyond =>
      have nothing : bytes.data.toList.drop i = [] :=
        List.drop_eq_nil_of_le (by simpa using beyond)
      rw [nothing, List.append_nil]

theorem toList_eq_data (bytes : ByteArray) : bytes.toList = bytes.data.toList := by
  rw [ByteArray.toList, toList_loop]
  rfl

theorem toList_toUTF8 (text : String) : text.toUTF8.toList = utf8 text.toList := by
  rw [toList_eq_data, String.toUTF8_eq_toByteArray, ← String.utf8Encode_toList, List.utf8Encode,
    List.toList_data_toByteArray]
  rfl

theorem toList_append (bytes more : ByteArray) :
    (bytes ++ more).toList = bytes.toList ++ more.toList := by
  simp [toList_eq_data]

theorem fromUTF8?_utf8 (line : List Char) :
    String.fromUTF8? ⟨(utf8 line).toArray⟩ = some (.ofList line) := by
  have bytes : (⟨(utf8 line).toArray⟩ : ByteArray) = (String.ofList line).toByteArray := by
    apply ByteArray.ext
    rw [String.toByteArray_ofList, List.utf8Encode, ← Array.toList_inj,
      List.toList_data_toByteArray]
    rfl
  rw [bytes, String.fromUTF8?, dif_pos (String.ofList line).isValidUTF8]
  rfl

end Dialogue.Console
