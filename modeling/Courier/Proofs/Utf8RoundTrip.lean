import Courier.Text.Utf8

/-!
Reading UTF-8 undoes writing it. The bytes of a character are those the standard library writes
(`charBytes_eq`); decoding steps over them by the shape of their lead byte and gives the
character back (`decodeLossy_utf8EncodeChar`). So a text of characters, spelled, has UTF-8 bytes,
and decoding them gives the spelling back (`encodeUtf8_spellChars`, `textOfBytesLossy_charBytes`).
-/

namespace Courier.Text

theorem byteArrayToList_loop (bs : ByteArray) (i : Nat) (r : List UInt8) :
    ByteArray.toList.loop bs i r = r.reverse ++ bs.data.toList.drop i := by
  fun_induction ByteArray.toList.loop bs i r with
  | case1 i r hlt ih =>
    rw [ih]
    have hi : i < bs.data.toList.length := by simpa using hlt
    have hget : bs.get! i = bs.data.toList[i] := by
      simp only [ByteArray.get!, Array.getElem_toList]
      exact getElem!_pos bs.data i (by simpa using hlt)
    rw [List.drop_eq_getElem_cons hi, hget]
    simp
  | case2 i r hge =>
    have : bs.data.toList.length ≤ i := by simpa using hge
    simp [List.drop_eq_nil_of_le this]

/-- The bytes of a character are those the standard library writes for it. -/
theorem charBytes_eq (c : Char) : charBytes c = String.utf8EncodeChar c := by
  rw [charBytes, ByteArray.toList, byteArrayToList_loop]
  simp [Char.toString_eq_singleton, String.toByteArray_singleton, List.utf8Encode_singleton]

theorem toNat_ofNat_byte {n : Nat} (h : n < 256) : (UInt8.ofNat n).toNat = n := by
  simp [Nat.mod_eq_of_lt h]

section Steps

variable {b c1 c2 c3 : UInt8} {rest : List UInt8}

theorem decodeStep_ascii (h : b.toNat < 0x80) :
    decodeStep b rest = (some (Char.ofNat b.toNat), rest) := by
  have low : b < 0x80 := by rw [UInt8.lt_iff_toNat_lt]; exact h
  simp [decodeStep, low]

theorem leadShape_two (lo : 0xc2 ≤ b.toNat) (hi : b.toNat ≤ 0xdf) :
    leadShape b = some (0x80, 0xbf, 1) := by
  simp [leadShape, UInt8.lt_iff_toNat_lt, UInt8.le_iff_toNat_le]
  omega

theorem leadShape_e0 (h : b.toNat = 0xe0) : leadShape b = some (0xa0, 0xbf, 2) := by
  simp [leadShape, UInt8.lt_iff_toNat_lt, UInt8.le_iff_toNat_le, h, ← UInt8.toNat_inj]

theorem leadShape_ed (h : b.toNat = 0xed) : leadShape b = some (0x80, 0x9f, 2) := by
  simp [leadShape, UInt8.lt_iff_toNat_lt, UInt8.le_iff_toNat_le, h, ← UInt8.toNat_inj]

theorem leadShape_three (lo : 0xe1 ≤ b.toNat) (hi : b.toNat ≤ 0xef) (ne : b.toNat ≠ 0xed) :
    leadShape b = some (0x80, 0xbf, 2) := by
  have two : ¬ b.toNat ≤ 0xdf := by omega
  have e0 : b.toNat ≠ 0xe0 := by omega
  simp [leadShape, UInt8.lt_iff_toNat_lt, UInt8.le_iff_toNat_le, ← UInt8.toNat_inj, two, e0, ne, hi]
  omega

theorem leadShape_f0 (h : b.toNat = 0xf0) : leadShape b = some (0x90, 0xbf, 3) := by
  simp [leadShape, UInt8.lt_iff_toNat_lt, UInt8.le_iff_toNat_le, h, ← UInt8.toNat_inj]

theorem leadShape_f4 (h : b.toNat = 0xf4) : leadShape b = some (0x80, 0x8f, 3) := by
  simp [leadShape, UInt8.lt_iff_toNat_lt, UInt8.le_iff_toNat_le, h, ← UInt8.toNat_inj]

theorem leadShape_four (lo : 0xf1 ≤ b.toNat) (hi : b.toNat ≤ 0xf3) :
    leadShape b = some (0x80, 0xbf, 3) := by
  have three : ¬ b.toNat ≤ 0xef := by omega
  have f0 : b.toNat ≠ 0xf0 := by omega
  have e0 : b.toNat ≠ 0xe0 := by omega
  have ed : b.toNat ≠ 0xed := by omega
  simp [leadShape, UInt8.lt_iff_toNat_lt, UInt8.le_iff_toNat_le, ← UInt8.toNat_inj, three, f0, e0,
    ed, hi]
  omega

theorem decodeStep_lead_one {lo hi : UInt8} (notAscii : 0x80 ≤ b.toNat)
    (shape : leadShape b = some (lo, hi, 1)) (first : lo ≤ c1 ∧ c1 ≤ hi) :
    decodeStep b (c1 :: rest) = (some (Char.ofNat (b.toNat % 0x20 * 64 + c1.toNat % 64)), rest) := by
  have high : ¬ b < 0x80 := by rw [UInt8.lt_iff_toNat_lt]; simp; omega
  simp [decodeStep, high, shape, first]

theorem decodeStep_lead_two {lo hi : UInt8} (notAscii : 0x80 ≤ b.toNat)
    (shape : leadShape b = some (lo, hi, 2)) (first : lo ≤ c1 ∧ c1 ≤ hi)
    (second : isContinuation c2 = true) :
    decodeStep b (c1 :: c2 :: rest) =
      (some (Char.ofNat ((b.toNat % 0x10 * 64 + c1.toNat % 64) * 64 + c2.toNat % 64)), rest) := by
  have high : ¬ b < 0x80 := by rw [UInt8.lt_iff_toNat_lt]; simp; omega
  simp [decodeStep, high, shape, first, second]

theorem decodeStep_lead_three {lo hi : UInt8} (notAscii : 0x80 ≤ b.toNat)
    (shape : leadShape b = some (lo, hi, 3)) (first : lo ≤ c1 ∧ c1 ≤ hi)
    (second : isContinuation c2 = true) (third : isContinuation c3 = true) :
    decodeStep b (c1 :: c2 :: c3 :: rest) =
      (some (Char.ofNat (((b.toNat % 0x08 * 64 + c1.toNat % 64) * 64 + c2.toNat % 64) * 64 +
        c3.toNat % 64)), rest) := by
  have high : ¬ b < 0x80 := by rw [UInt8.lt_iff_toNat_lt]; simp; omega
  simp [decodeStep, high, shape, first, second, third]

end Steps

theorem decodeLossy_cons_of_step {b : UInt8} {rest r : List UInt8} {c : Char}
    (step : decodeStep b rest = (some c, r)) : decodeLossy (b :: rest) = c :: decodeLossy r := by
  rw [decodeLossy]
  split
  next c' r' h =>
    rw [step] at h
    cases h
    rfl

theorem toNat_continuation (n : Nat) : (UInt8.ofNat (n % 0x40 + 0x80)).toNat = n % 64 + 0x80 :=
  toNat_ofNat_byte (by omega)

theorem isContinuation_ofNat (n : Nat) :
    isContinuation (UInt8.ofNat (n % 0x40 + 0x80)) = true := by
  simp only [isContinuation, Bool.and_eq_true, decide_eq_true_eq, UInt8.le_iff_toNat_le,
    toNat_continuation]
  simp
  omega

/-- The lead byte of a three-byte sequence admits its second byte; the lead bytes `E0` and `ED`
narrow the range, and the character is no surrogate, so it stays inside. -/
theorem lead_three {v : Nat} (lo : 0x800 ≤ v) (hi : v ≤ 0xffff) (valid : v < 0xd800 ∨ 0xdfff < v) :
    ∃ low high, leadShape (UInt8.ofNat (v / 4096 % 0x10 + 0xe0)) = some (low, high, 2) ∧
      low ≤ UInt8.ofNat (v / 64 % 0x40 + 0x80) ∧ UInt8.ofNat (v / 64 % 0x40 + 0x80) ≤ high := by
  have lead : (UInt8.ofNat (v / 4096 % 0x10 + 0xe0)).toNat = v / 4096 + 0xe0 := by
    rw [toNat_ofNat_byte (by omega)]; omega
  by_cases e0 : v / 4096 = 0
  · exact ⟨_, _, leadShape_e0 (by rw [lead]; omega), by simp [UInt8.le_iff_toNat_le]; omega⟩
  by_cases ed : v / 4096 = 13
  · exact ⟨_, _, leadShape_ed (by rw [lead]; omega), by simp [UInt8.le_iff_toNat_le]; omega⟩
  · exact ⟨_, _, leadShape_three (by rw [lead]; omega) (by rw [lead]; omega) (by rw [lead]; omega),
      by simp [UInt8.le_iff_toNat_le]; omega⟩

/-- The lead byte of a four-byte sequence admits its second byte; the lead bytes `F0` and `F4`
narrow the range, and the code point is at most U+10FFFF, so it stays inside. -/
theorem lead_four {v : Nat} (lo : 0x10000 ≤ v) (hi : v < 0x110000) :
    ∃ low high, leadShape (UInt8.ofNat (v / 262144 % 0x08 + 0xf0)) = some (low, high, 3) ∧
      low ≤ UInt8.ofNat (v / 4096 % 0x40 + 0x80) ∧ UInt8.ofNat (v / 4096 % 0x40 + 0x80) ≤ high := by
  have lead : (UInt8.ofNat (v / 262144 % 0x08 + 0xf0)).toNat = v / 262144 + 0xf0 := by
    rw [toNat_ofNat_byte (by omega)]; omega
  by_cases f0 : v / 262144 = 0
  · exact ⟨_, _, leadShape_f0 (by rw [lead]; omega), by simp [UInt8.le_iff_toNat_le]; omega⟩
  by_cases f4 : v / 262144 = 4
  · exact ⟨_, _, leadShape_f4 (by rw [lead]; omega), by simp [UInt8.le_iff_toNat_le]; omega⟩
  · exact ⟨_, _, leadShape_four (by rw [lead]; omega) (by rw [lead]; omega),
      by simp [UInt8.le_iff_toNat_le]; omega⟩

section Lengths

variable {c : Char} (rest : List UInt8)

theorem decodeLossy_encode_one (one : c.toNat ≤ 0x7f) :
    decodeLossy (String.utf8EncodeChar c ++ rest) = c :: decodeLossy rest := by
  have encoded : String.utf8EncodeChar c = [UInt8.ofNat c.toNat] := by
    simp [String.utf8EncodeChar, Char.toNat_val, one]
  rw [encoded, List.singleton_append]
  apply decodeLossy_cons_of_step
  rw [decodeStep_ascii (by rw [toNat_ofNat_byte (by omega)]; omega), toNat_ofNat_byte (by omega),
    Char.ofNat_toNat]

theorem decodeLossy_encode_two (one : ¬ c.toNat ≤ 0x7f) (two : c.toNat ≤ 0x7ff) :
    decodeLossy (String.utf8EncodeChar c ++ rest) = c :: decodeLossy rest := by
  have encoded : String.utf8EncodeChar c =
      [UInt8.ofNat (c.toNat / 64 % 0x20 + 0xc0), UInt8.ofNat (c.toNat % 0x40 + 0x80)] := by
    simp [String.utf8EncodeChar, Char.toNat_val, one, two]
  have lead : (UInt8.ofNat (c.toNat / 64 % 0x20 + 0xc0)).toNat = c.toNat / 64 + 0xc0 := by
    rw [toNat_ofNat_byte (by omega)]; omega
  have value : (c.toNat / 64 + 0xc0) % 0x20 * 64 + (c.toNat % 64 + 0x80) % 64 = c.toNat := by
    omega
  rw [encoded, List.cons_append, List.singleton_append]
  apply decodeLossy_cons_of_step
  rw [decodeStep_lead_one (by rw [lead]; omega) (leadShape_two (by rw [lead]; omega)
    (by rw [lead]; omega)) (by simp [UInt8.le_iff_toNat_le]; omega), lead, toNat_continuation,
    value, Char.ofNat_toNat]

theorem decodeLossy_encode_three (two : ¬ c.toNat ≤ 0x7ff) (three : c.toNat ≤ 0xffff) :
    decodeLossy (String.utf8EncodeChar c ++ rest) = c :: decodeLossy rest := by
  have valid : c.toNat < 0xd800 ∨ (0xdfff < c.toNat ∧ c.toNat < 0x110000) := c.valid
  have one : ¬ c.toNat ≤ 0x7f := by omega
  have encoded : String.utf8EncodeChar c =
      [UInt8.ofNat (c.toNat / 4096 % 0x10 + 0xe0), UInt8.ofNat (c.toNat / 64 % 0x40 + 0x80),
        UInt8.ofNat (c.toNat % 0x40 + 0x80)] := by
    simp [String.utf8EncodeChar, Char.toNat_val, one, two, three]
  have lead : (UInt8.ofNat (c.toNat / 4096 % 0x10 + 0xe0)).toNat = c.toNat / 4096 + 0xe0 := by
    rw [toNat_ofNat_byte (by omega)]; omega
  have value : ((c.toNat / 4096 + 0xe0) % 0x10 * 64 + (c.toNat / 64 % 64 + 0x80) % 64) * 64 +
      (c.toNat % 64 + 0x80) % 64 = c.toNat := by
    omega
  obtain ⟨low, high, shape, first⟩ := lead_three (by omega) three (by omega)
  rw [encoded, List.cons_append, List.cons_append, List.singleton_append]
  apply decodeLossy_cons_of_step
  rw [decodeStep_lead_two (by rw [lead]; omega) shape first (isContinuation_ofNat _), lead,
    toNat_continuation, toNat_continuation, value, Char.ofNat_toNat]

theorem decodeLossy_encode_four (three : ¬ c.toNat ≤ 0xffff) :
    decodeLossy (String.utf8EncodeChar c ++ rest) = c :: decodeLossy rest := by
  have valid : c.toNat < 0xd800 ∨ (0xdfff < c.toNat ∧ c.toNat < 0x110000) := c.valid
  have one : ¬ c.toNat ≤ 0x7f := by omega
  have two : ¬ c.toNat ≤ 0x7ff := by omega
  have encoded : String.utf8EncodeChar c =
      [UInt8.ofNat (c.toNat / 262144 % 0x08 + 0xf0), UInt8.ofNat (c.toNat / 4096 % 0x40 + 0x80),
        UInt8.ofNat (c.toNat / 64 % 0x40 + 0x80), UInt8.ofNat (c.toNat % 0x40 + 0x80)] := by
    simp [String.utf8EncodeChar, Char.toNat_val, one, two, three]
  have lead : (UInt8.ofNat (c.toNat / 262144 % 0x08 + 0xf0)).toNat = c.toNat / 262144 + 0xf0 := by
    rw [toNat_ofNat_byte (by omega)]; omega
  have value : (((c.toNat / 262144 + 0xf0) % 0x08 * 64 + (c.toNat / 4096 % 64 + 0x80) % 64) * 64 +
      (c.toNat / 64 % 64 + 0x80) % 64) * 64 + (c.toNat % 64 + 0x80) % 64 = c.toNat := by
    omega
  obtain ⟨low, high, shape, first⟩ := lead_four (v := c.toNat) (by omega) (by omega)
  rw [encoded, List.cons_append, List.cons_append, List.cons_append, List.singleton_append]
  apply decodeLossy_cons_of_step
  rw [decodeStep_lead_three (by rw [lead]; omega) shape first (isContinuation_ofNat _)
    (isContinuation_ofNat _), lead, toNat_continuation, toNat_continuation, toNat_continuation,
    value, Char.ofNat_toNat]

end Lengths

/-- Reading the UTF-8 bytes of a character gives the character back, whatever the length of its
sequence. -/
theorem decodeLossy_utf8EncodeChar (c : Char) (rest : List UInt8) :
    decodeLossy (String.utf8EncodeChar c ++ rest) = c :: decodeLossy rest := by
  by_cases one : c.toNat ≤ 0x7f
  · exact decodeLossy_encode_one rest one
  by_cases two : c.toNat ≤ 0x7ff
  · exact decodeLossy_encode_two rest one two
  by_cases three : c.toNat ≤ 0xffff
  · exact decodeLossy_encode_three rest two three
  · exact decodeLossy_encode_four rest three

theorem decodeLossy_flatMap_charBytes (cs : List Char) : decodeLossy (cs.flatMap charBytes) = cs := by
  induction cs with
  | nil => simp [decodeLossy]
  | cons c cs ih => rw [List.flatMap_cons, charBytes_eq, decodeLossy_utf8EncodeChar, ih]

theorem codePoints_spellChars (t : String) :
    codePoints (spellChars t).toList = t.toList.map .char := by
  rw [spellChars, String.toList_ofList]
  induction t.toList with
  | nil => rfl
  | cons c cs ih => rw [List.flatMap_cons, codePoints_spellChar, ih, List.map_cons]

theorem encodePoints_chars (acc : List UInt8) (pos : Nat) (cs : List Char) :
    encodePoints acc pos (cs.map .char) = .ok (acc.reverse ++ cs.flatMap charBytes) := by
  induction cs generalizing acc pos with
  | nil => simp [encodePoints]
  | cons c cs ih =>
    rw [List.map_cons, encodePoints, ih]
    simp

/-- A text of characters has UTF-8 bytes: those of its characters in turn. -/
theorem encodeUtf8_spellChars (t : String) :
    encodeUtf8 (spellChars t) = .ok (t.toList.flatMap charBytes) := by
  rw [encodeUtf8, codePoints_spellChars, encodePoints_chars]
  rfl

theorem textOfBytesLossy_charBytes (t : String) :
    textOfBytesLossy (t.toList.flatMap charBytes) = spellChars t := by
  rw [textOfBytesLossy, decodeLossy_flatMap_charBytes, spellChars]

end Courier.Text
