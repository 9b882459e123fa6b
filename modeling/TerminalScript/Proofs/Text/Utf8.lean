import TerminalScript.Text.Utf8

/-!
The bytes of a text are those of its characters, one after another, and reading them gives the text
back.
-/

namespace TerminalScript.Text

theorem toList_loop (bytes : ByteArray) (place : Nat) (read : List UInt8) :
    ByteArray.toList.loop bytes place read = read.reverse ++ bytes.data.toList.drop place := by
  fun_induction ByteArray.toList.loop bytes place read with
  | case1 place read within ih =>
      have bound : place < bytes.data.toList.length := by simpa using within
      rw [ih, List.drop_eq_getElem_cons bound]
      simp [ByteArray.get!, within]
  | case2 place read beyond =>
      rw [List.drop_eq_nil_of_le (by simpa using Nat.le_of_not_lt beyond)]
      simp

theorem toList_eq_data (bytes : ByteArray) : bytes.toList = bytes.data.toList := by
  simp [ByteArray.toList, toList_loop]

theorem encode_eq (text : String) : encode text = text.toList.flatMap String.utf8EncodeChar := by
  rw [encode, toList_eq_data, String.toUTF8_eq_toByteArray, ← String.utf8Encode_toList,
    List.utf8Encode, List.data_toByteArray]

theorem decode?_encode (text : String) : decode? (encode text) = some text := by
  have bytes : ByteArray.mk (encode text).toArray = text.toUTF8 := by
    rw [encode, toList_eq_data]
  rw [decode?, bytes, String.fromUTF8?]
  exact dif_pos text.isValidUTF8

/-- No character's bytes begin those of another. -/
theorem encodeChar_append_inj {c d : Char} {rest rest' : List UInt8}
    (same : String.utf8EncodeChar c ++ rest = String.utf8EncodeChar d ++ rest') :
    c = d ∧ rest = rest' := by
  have first (c : Char) (rest : List UInt8) :
      (String.utf8EncodeChar c ++ rest).toByteArray.utf8DecodeChar? 0 = some c := by
    rw [List.toByteArray_append, ByteArray.utf8DecodeChar?_utf8EncodeChar_append]
  have read : some c = some d := by rw [← first c rest, same, first]
  obtain rfl := Option.some.inj read
  exact ⟨rfl, List.append_cancel_left same⟩

theorem flatMap_encodeChar_prefix_iff {start chars : List Char} :
    start.flatMap String.utf8EncodeChar <+: chars.flatMap String.utf8EncodeChar ↔
      start <+: chars := by
  constructor
  · intro begins
    induction start generalizing chars with
    | nil => exact List.nil_prefix
    | cons c start ih =>
        obtain ⟨rest, same⟩ := begins
        rw [List.flatMap_cons, List.append_assoc] at same
        cases chars with
        | nil => simp at same
        | cons d chars =>
            rw [List.flatMap_cons] at same
            obtain ⟨rfl, joined⟩ := encodeChar_append_inj same
            exact List.cons_prefix_cons.mpr ⟨rfl, ih ⟨rest, joined⟩⟩
  · rintro ⟨rest, rfl⟩
    rw [List.flatMap_append]
    exact List.prefix_append _ _

theorem flatMap_encodeChar_inj {chars chars' : List Char} :
    chars.flatMap String.utf8EncodeChar = chars'.flatMap String.utf8EncodeChar ↔
      chars = chars' := by
  refine ⟨fun same => ?_, congrArg _⟩
  have begins : chars <+: chars' := flatMap_encodeChar_prefix_iff.mp (same ▸ List.prefix_refl _)
  have begins' : chars' <+: chars := flatMap_encodeChar_prefix_iff.mp (same ▸ List.prefix_refl _)
  exact begins.eq_of_length_le begins'.length_le

end TerminalScript.Text
