import ResponseTypes.Filter.Datum
import ResponseTypes.Proofs.NameStages
import ResponseTypes.Proofs.Utf8Bytes

/-!
# Written strings

A filter writes a text between quotes, with its quotes, backslashes and control characters escaped
and every other character as it is.  Each of these forms stands for the bytes of its character, so
the written text is a string of JSON again and stands for the text that was written.

## Main statements

- `Json.quoted_quoteChar`: the written form of one character.
- `Json.stringText_quote`: the written form of a text.
-/

namespace ResponseTypes
namespace Json

/-- Written bytes after written bytes stand for what the ones and the others stand for. -/
theorem Quoted.append {content written more writtenMore : Bytes} (h : Quoted content written)
    (hmore : Quoted more writtenMore) : Quoted (content ++ more) (written ++ writtenMore) := by
  induction h with
  | nil => exact hmore
  | byte hquote hslash hcontrol _ ih => exact .byte hquote hslash hcontrol ih
  | escape hescape _ ih =>
    rw [List.append_assoc, List.cons_append, List.append_assoc]
    exact .escape hescape ih

/-- Bytes that need no escape stand for themselves. -/
theorem quoted_self {bytes : Bytes} (h : ∀ b ∈ bytes, b ≠ 34 ∧ b ≠ 92 ∧ ¬ b < 32) :
    Quoted bytes bytes := by
  induction bytes with
  | nil => exact .nil
  | cons b bytes ih =>
    obtain ⟨⟨hquote, hslash, hcontrol⟩, hbytes⟩ := List.forall_mem_cons.1 h
    exact .byte hquote hslash hcontrol (ih hbytes)

/-- One escape alone. -/
theorem quoted_escape {piece escaped : Bytes} (h : Escape piece escaped) :
    Quoted piece (92 :: escaped) := by
  have hquoted := Quoted.escape h .nil
  rwa [List.append_nil, List.append_nil] at hquoted

/-! ## Characters -/

theorem hexValue?_hexDigit : ∀ n < 16, hexValue? (hexDigit n).toUInt8 = some n := by
  decide

theorem hexDigit_ascii : ∀ n < 16, (hexDigit n).toNat < 128 := by
  decide

/-- A control character by its code point. -/
theorem escape_control {c : Char} (hc : c.toNat < 32) :
    Escape (String.utf8EncodeChar c)
      (117 :: [48, 48, (hexDigit (c.toNat / 16)).toUInt8, (hexDigit (c.toNat % 16)).toUInt8]) := by
  have hhex : Hex c.toNat
      [48, 48, (hexDigit (c.toNat / 16)).toUInt8, (hexDigit (c.toNat % 16)).toUInt8] := by
    have hvalue : ((0 * 16 + 0) * 16 + c.toNat / 16) * 16 + c.toNat % 16 = c.toNat := by omega
    have hzero : hexValue? 48 = some 0 := rfl
    have hdigits := Hex.digits hzero hzero (hexValue?_hexDigit (c.toNat / 16) (by omega))
      (hexValue?_hexDigit (c.toNat % 16) (by omega))
    rwa [hvalue] at hdigits
  have hescape := Escape.codePoint (.single hhex (.inl (by omega)))
  rwa [utf8, Char.ofNat_toNat] at hescape

theorem quoted_short {c letter : Char} (hc : c.toNat < 128) (hletter : letter.toNat < 128)
    (h : shortEscape? (Char.ofUInt8 letter.toUInt8) = some c.toUInt8) :
    Quoted (String.utf8EncodeChar c) (['\\', letter].flatMap String.utf8EncodeChar) := by
  rw [List.flatMap_cons, List.flatMap_singleton, utf8EncodeChar_ascii hc,
    utf8EncodeChar_ascii hletter]
  exact quoted_escape (.short h)

/-- A character of ASCII that is written as it is. -/
theorem plain_ascii {c : Char} (hc : c.toNat < 128)
    (hplain : ¬ (c = '"' ∨ c = '\\' ∨ c.toNat < 0x20)) :
    c.toUInt8 ≠ 34 ∧ c.toUInt8 ≠ 92 ∧ ¬ c.toUInt8 < 32 := by
  have hall : ∀ n < 128, (Char.ofNat n = '"' ∨ Char.ofNat n = '\\' ∨ (Char.ofNat n).toNat < 0x20) ∨
      ((Char.ofNat n).toUInt8 ≠ 34 ∧ (Char.ofNat n).toUInt8 ≠ 92 ∧
        ¬ (Char.ofNat n).toUInt8 < 32) := by
    decide
  have hchar := hall c.toNat hc
  rw [Char.ofNat_toNat] at hchar
  exact hchar.resolve_left hplain

/-- The written form of a character stands for its bytes. -/
theorem quoted_quoteChar (c : Char) :
    Quoted (String.utf8EncodeChar c) ((Datum.quoteChar c).flatMap String.utf8EncodeChar) := by
  rw [Datum.quoteChar, quoteChar]
  split_ifs with hspecial hquote hslash hback hfeed hline hreturn htab hcontrol
  · have hcontrol : c.toNat < 32 ∧ c.toNat / 16 = 0 ∧ c.toNat % 16 = c.toNat := by
      rcases hspecial with rfl | rfl <;> decide
    have hescape := escape_control hcontrol.1
    rw [hcontrol.2.1, hcontrol.2.2] at hescape
    have hdigit := hexDigit_ascii c.toNat (by omega)
    simp only [List.flatMap_cons, List.flatMap_nil, utf8EncodeChar_ascii hdigit]
    exact quoted_escape hescape
  · subst hquote
    exact quoted_short (by decide) (by decide) rfl
  · subst hslash
    exact quoted_short (by decide) (by decide) rfl
  · exact absurd (.inl hback) hspecial
  · exact absurd (.inr hfeed) hspecial
  · subst hline
    exact quoted_short (by decide) (by decide) rfl
  · subst hreturn
    exact quoted_short (by decide) (by decide) rfl
  · subst htab
    exact quoted_short (by decide) (by decide) rfl
  · have hfirst := hexDigit_ascii (c.toNat / 16) (by omega)
    have hsecond := hexDigit_ascii (c.toNat % 16) (by omega)
    simp only [List.flatMap_cons, List.flatMap_nil, utf8EncodeChar_ascii hfirst,
      utf8EncodeChar_ascii hsecond]
    exact quoted_escape (escape_control hcontrol)
  · rw [List.flatMap_singleton]
    refine quoted_self fun b hb => ?_
    by_cases hc : c.toNat < 128
    · rw [utf8EncodeChar_ascii hc, List.mem_singleton] at hb
      subst hb
      exact plain_ascii hc (by simp only [hquote, hslash, hcontrol, or_self, not_false_eq_true])
    · have hle := le_of_mem_utf8EncodeChar hc b hb
      refine ⟨?_, ?_, ?_⟩
      · rintro rfl
        exact absurd hle (by decide)
      · rintro rfl
        exact absurd hle (by decide)
      · rw [UInt8.lt_iff_toNat_lt]
        exact fun hlt => absurd (hle.trans_lt hlt) (by decide)

/-- The written form of a text is a string that stands for it. -/
theorem stringText_quote (s : String) :
    ∃ written, StringText s written ∧ (Datum.quote s).toUTF8.toList = 34 :: (written ++ [34]) := by
  have hquoted : ∀ letters : List Char, Quoted (letters.flatMap String.utf8EncodeChar)
      ((letters.flatMap Datum.quoteChar).flatMap String.utf8EncodeChar) := by
    intro letters
    induction letters with
    | nil => exact .nil
    | cons c letters ih =>
      rw [List.flatMap_cons, List.flatMap_cons, List.flatMap_append]
      exact (quoted_quoteChar c).append ih
  refine ⟨_, ⟨_, hquoted s.toList, ?_⟩, ?_⟩
  · rw [← toList_toUTF8]
    exact textOf?_toUTF8 s
  · rw [Datum.quote, toList_toUTF8_ofList, List.cons_append, List.flatMap_cons,
      List.flatMap_append]
    rfl

end Json
end ResponseTypes
