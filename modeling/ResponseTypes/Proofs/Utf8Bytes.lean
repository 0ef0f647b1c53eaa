import Mathlib.Data.List.Basic
import ResponseTypes.Proofs.JsonScalars

/-!
# The bytes of texts

The UTF-8 form of a text is that of its characters, one after the other.  A character of ASCII is a
single byte, and every byte of any other character lies above ASCII, so that no byte of it can be
taken for a character with a meaning of its own.

## Main statements

- `toList_toUTF8`, `toList_toUTF8_append`, `toList_toUTF8_intercalate`: the bytes of a text, of two
  texts, and of texts with a separator.
- `utf8EncodeChar_ascii`, `le_of_mem_utf8EncodeChar`: the bytes of a character.
- `Json.textOf?_toUTF8`: the bytes of a text are read back as the text.
-/

namespace ResponseTypes

/-- The bytes of an array from a place on go behind those that have been taken. -/
theorem toList_loop (bytes : ByteArray) (i : Nat) (before : List UInt8) :
    ByteArray.toList.loop bytes i before = before.reverse ++ bytes.data.toList.drop i := by
  fun_induction ByteArray.toList.loop bytes i before with
  | case1 i before hi ih =>
    have hlength : i < bytes.data.toList.length := hi
    have hget : bytes.get! i = bytes.data.toList[i] := by
      rw [ByteArray.get!, getElem!_pos bytes.data i hi, Array.getElem_toList]
    rw [ih, List.drop_eq_getElem_cons hlength, hget, List.reverse_cons, List.append_assoc]
    rfl
  | case2 i before hi =>
    rw [List.drop_eq_nil_of_le (Nat.le_of_not_lt hi), List.append_nil]

theorem toList_eq (bytes : ByteArray) : bytes.toList = bytes.data.toList := by
  rw [ByteArray.toList, toList_loop, List.reverse_nil, List.nil_append, List.drop_zero]

/-- The bytes of two texts are those of the one and then those of the other. -/
theorem toList_toUTF8_append (s t : String) :
    (s ++ t).toUTF8.toList = s.toUTF8.toList ++ t.toUTF8.toList := by
  simp only [toList_eq, String.toUTF8, String.toByteArray_append, ByteArray.data_append,
    Array.toList_append]

/-- The bytes of a text are those of its characters. -/
theorem toList_toUTF8_ofList (s : List Char) :
    (String.ofList s).toUTF8.toList = s.flatMap String.utf8EncodeChar := by
  rw [toList_eq]
  simp [List.utf8Encode]

theorem toList_toUTF8 (s : String) : s.toUTF8.toList = s.toList.flatMap String.utf8EncodeChar := by
  rw [← toList_toUTF8_ofList, String.ofList_toList]

/-- The bytes of texts with a separator between them. -/
theorem toList_toUTF8_intercalate (separator text : String) (texts : List String) :
    (separator.intercalate (text :: texts)).toUTF8.toList = text.toUTF8.toList ++
      texts.flatMap fun next => separator.toUTF8.toList ++ next.toUTF8.toList := by
  induction texts generalizing text with
  | nil => rw [String.intercalate_singleton, List.flatMap_nil, List.append_nil]
  | cons next texts ih =>
    rw [String.intercalate_cons_cons, toList_toUTF8_append, toList_toUTF8_append, ih,
      List.flatMap_cons]
    simp only [List.append_assoc]

/-! ## Characters -/

theorem utf8EncodeChar_ascii {c : Char} (hc : c.toNat < 128) :
    String.utf8EncodeChar c = [c.toUInt8] := by
  have hle : c.val.toNat ≤ 127 := Nat.le_of_lt_succ hc
  rw [String.utf8EncodeChar]
  exact if_pos hle

/-- The bytes of a character above ASCII lie above ASCII. -/
theorem le_of_mem_utf8EncodeChar {c : Char} (hc : ¬ c.toNat < 128) :
    ∀ b ∈ String.utf8EncodeChar c, 128 ≤ b.toNat := by
  have hle : ¬ c.val.toNat ≤ 127 := fun hle => hc (Nat.lt_succ_of_le hle)
  rw [String.utf8EncodeChar]
  simp only [if_neg hle]
  split_ifs <;>
    simp only [List.forall_mem_cons, List.not_mem_nil, false_implies, implies_true, and_true,
      UInt8.toNat_ofNat'] <;>
    omega

/-- The bytes of a text of ASCII are its characters. -/
theorem toList_toUTF8_ascii {s : List Char} (hs : ∀ c ∈ s, c.toNat < 128) :
    (String.ofList s).toUTF8.toList = Json.ascii s := by
  rw [toList_toUTF8_ofList, Json.ascii]
  induction s with
  | nil => rfl
  | cons c s ih =>
    obtain ⟨hc, hs⟩ := List.forall_mem_cons.1 hs
    rw [List.flatMap_cons, utf8EncodeChar_ascii hc, ih hs, List.map_cons, List.singleton_append]

theorem forall_lt_of_all {s : List Char} (hs : (s.all fun c => decide (c.toNat < 128)) = true) :
    ∀ c ∈ s, c.toNat < 128 := fun c hc => of_decide_eq_true (List.all_eq_true.1 hs c hc)

/-- The bytes of a literal of ASCII. -/
theorem toList_toUTF8_literal {s : String}
    (hs : (s.toList.all fun c => decide (c.toNat < 128)) = true) :
    s.toUTF8.toList = Json.ascii s.toList := by
  have hbytes := toList_toUTF8_ascii (forall_lt_of_all hs)
  rwa [String.ofList_toList] at hbytes

/-- The bytes of a text are read back as the text. -/
theorem Json.textOf?_toUTF8 (s : String) : textOf? s.toUTF8.toList = some s := by
  have hbytes : (⟨s.toUTF8.toList.toArray⟩ : ByteArray) = s.toByteArray := by
    rw [toList_eq]
    rfl
  rw [textOf?, hbytes, String.fromUTF8?, dif_pos s.isValidUTF8]
  rfl

end ResponseTypes
