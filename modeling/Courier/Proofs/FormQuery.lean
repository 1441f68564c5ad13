import Courier.Proofs.Utf8RoundTrip
import Courier.Proofs.NextLink
import Courier.Url.Encode

namespace Courier

theorem Except.mapM_eq_ok_map {α β ε : Type} {f : α → Except ε β} {g : α → β} :
    ∀ {l : List α}, (∀ a ∈ l, f a = .ok (g a)) → l.mapM f = .ok (l.map g)
  | [], _ => rfl
  | a :: l, each => by
    rw [List.mapM_cons, each a List.mem_cons_self,
      Except.mapM_eq_ok_map fun x mem => each x (List.mem_cons_of_mem a mem)]
    rfl

end Courier

namespace Courier.Text

/-- A text holding characters only, no surrogate unit: the spelling of a text of characters. -/
def CharsOnly (s : String) : Prop := ∃ t : String, s = spellChars t

theorem cleanBytes_spellChars (t : String) : cleanBytes (spellChars t) = t.toList.flatMap charBytes := by
  rw [cleanBytes, codePoints_spellChars, List.flatMap_map]

theorem charBytes_ascii {c : Char} (ascii : c.toNat < 128) : charBytes c = [UInt8.ofNat c.toNat] := by
  have v : c.val.toNat = c.toNat := rfl
  rw [charBytes_eq]
  simp [String.utf8EncodeChar, v, show c.toNat ≤ 0x7f by omega]

theorem asciiBytes_eq_charBytes : ∀ {cs : List Char}, (∀ c ∈ cs, c.toNat < 128) →
    cs.map (fun c => UInt8.ofNat c.toNat) = cs.flatMap charBytes
  | [], _ => rfl
  | c :: rest, ascii => by
    rw [List.map_cons, List.flatMap_cons, charBytes_ascii (ascii c List.mem_cons_self),
      asciiBytes_eq_charBytes fun x mem => ascii x (List.mem_cons_of_mem c mem)]
    rfl

theorem spellChars_ascii {cs : List Char} (ascii : ∀ c ∈ cs, c.toNat < 128) :
    spellChars (String.ofList cs) = String.ofList cs := by
  rw [spellChars, String.toList_ofList]
  congr 1
  induction cs with
  | nil => rfl
  | cons c rest ih =>
    have unmarked : needsMark c = false := by
      have := ascii c List.mem_cons_self
      simp [needsMark, holdMark_toNat]
      omega
    rw [List.flatMap_cons, spellChar, unmarked, if_neg Bool.false_ne_true,
      ih fun x mem => ascii x (List.mem_cons_of_mem c mem)]
    rfl

section Pieces

variable {sep : Char}

theorem splitPieces_append_of_not_mem {p : List Char} (absent : sep ∉ p) (rest current : List Char) :
    splitPieces [sep] (p ++ rest) 0 current = splitPieces [sep] rest 0 (p.reverse ++ current) := by
  induction p generalizing current with
  | nil => rfl
  | cons c p ih =>
    simp only [List.mem_cons, not_or] at absent
    rw [List.cons_append, splitPieces, if_neg (by simpa using absent.1), ih absent.2]
    simp

theorem splitPieces_sep (rest current : List Char) :
    splitPieces [sep] (sep :: rest) 0 current = current.reverse :: splitPieces [sep] rest 0 [] := by
  simp [splitPieces]

theorem splitPieces_intercalate :
    ∀ {parts : List (List Char)}, parts ≠ [] → (∀ p ∈ parts, sep ∉ p) →
      splitPieces [sep] ([sep].intercalate parts) 0 [] = parts
  | [p], _, absent => by
    rw [List.intercalate_singleton, ← List.append_nil p,
      splitPieces_append_of_not_mem (absent p List.mem_cons_self)]
    simp [splitPieces]
  | p :: q :: more, _, absent => by
    rw [List.intercalate_cons_cons, List.append_assoc,
      splitPieces_append_of_not_mem (absent p List.mem_cons_self), List.singleton_append,
      splitPieces_sep, List.append_nil, List.reverse_reverse,
      splitPieces_intercalate (List.cons_ne_nil q more)
        fun x mem => absent x (List.mem_cons_of_mem p mem)]

end Pieces

/-- Splitting at a one-character separator undoes joining with it pieces that hold none. -/
theorem splitText_intercalate {sep : String} {c : Char} (single : sep.toList = [c])
    {parts : List String} (nonempty : parts ≠ []) (absent : ∀ p ∈ parts, c ∉ p.toList) :
    splitText (sep.intercalate parts) sep = parts := by
  have pieces : parts.map String.toList ≠ [] := by simpa using nonempty
  have present : sep.isEmpty = false := by
    cases empty : sep.isEmpty
    · rfl
    · simp [String.isEmpty_iff.1 empty] at single
  rw [splitText, present, if_neg Bool.false_ne_true, String.toList_intercalate, single,
    splitPieces_intercalate pieces (by simpa using absent), List.map_map]
  simp

end Courier.Text

namespace Courier.Url

open Courier.Text

theorem hexDigitValue_upperHexDigit : ∀ n, n < 16 → hexDigitValue? (upperHexDigit n) = some n := by
  decide

theorem upperHexDigit_plain : ∀ n, n < 16 →
    (upperHexDigit n).toNat < 128 ∧ upperHexDigit n ∉ ['%', '+', '&', '='] := by
  decide

theorem percentBytes_cons_of_ne {c : Char} (h : c ≠ '%') (rest : List Char) :
    percentBytes (c :: rest) = UInt8.ofNat c.toNat :: percentBytes rest := by
  match rest with
  | [] => simp [percentBytes]
  | [_] => simp [percentBytes]
  | _ :: _ :: _ => simp [percentBytes, h]

def plusAsSpace (c : Char) : Char := if c == '+' then ' ' else c

theorem plusAsSpace_of_ne {c : Char} (h : c ≠ '+') : plusAsSpace c = c := by
  simp [plusAsSpace, h]

theorem unreserved_plain {b : UInt8} (h : isUnreservedByte b = true) :
    b.toNat < 128 ∧ b.toNat ≠ 0x2b ∧ b.toNat ≠ 0x25 ∧ b.toNat ≠ 0x26 ∧ b.toNat ≠ 0x3d := by
  simp only [isUnreservedByte, Bool.or_eq_true, Bool.and_eq_true, decide_eq_true_eq,
    UInt8.le_iff_toNat_le, beq_iff_eq, ← UInt8.toNat_inj] at h
  simp at h
  omega

theorem toNat_ofNat_ascii {n : Nat} (h : n < 128) : (Char.ofNat n).toNat = n :=
  toNat_ofNat_valid n (by left; omega)

theorem percentBytes_encodeByte (b : UInt8) (rest : List Char) :
    percentBytes ((encodeByte b).map plusAsSpace ++ rest) = b :: percentBytes rest := by
  unfold encodeByte
  split
  · next unreserved =>
    obtain ⟨ascii, notPlus, notPercent, -, -⟩ := unreserved_plain unreserved
    have char : (Char.ofNat b.toNat).toNat = b.toNat := toNat_ofNat_ascii ascii
    have kept : plusAsSpace (Char.ofNat b.toNat) = Char.ofNat b.toNat := by
      simp only [plusAsSpace, beq_iff_eq, ite_eq_right_iff]
      intro plus
      exact absurd (char.symm.trans (congrArg Char.toNat plus)) notPlus
    have notEscape : Char.ofNat b.toNat ≠ '%' := fun percent =>
      notPercent (char.symm.trans (congrArg Char.toNat percent))
    rw [List.map_singleton, kept, List.singleton_append, percentBytes_cons_of_ne notEscape, char,
      UInt8.ofNat_toNat]
  · split
    · next space =>
      have : b = 0x20 := by simpa using space
      subst this
      rfl
    · have bound : b.toNat < 256 := UInt8.toNat_lt_size b
      have high := hexDigitValue_upperHexDigit (b.toNat / 16) (by omega)
      have low := hexDigitValue_upperHexDigit (b.toNat % 16) (by omega)
      have highPlain := upperHexDigit_plain (b.toNat / 16) (by omega)
      have lowPlain := upperHexDigit_plain (b.toNat % 16) (by omega)
      have whole : b.toNat / 16 * 16 + b.toNat % 16 = b.toNat := by omega
      simp only [List.map_cons, List.map_nil, List.cons_append, List.nil_append]
      rw [show plusAsSpace '%' = '%' from rfl, plusAsSpace_of_ne (by simp_all),
        plusAsSpace_of_ne (by simp_all)]
      simp only [percentBytes, high, low, whole, UInt8.ofNat_toNat]

theorem percentBytes_encodeBytes (bytes : List UInt8) :
    percentBytes ((bytes.flatMap encodeByte).map plusAsSpace) = bytes := by
  induction bytes with
  | nil => simp [percentBytes]
  | cons b bytes ih => rw [List.flatMap_cons, List.map_append, percentBytes_encodeByte, ih]

theorem encodeByte_plain {b : UInt8} {c : Char} (mem : c ∈ encodeByte b) :
    c.toNat < 128 ∧ c ≠ '&' ∧ c ≠ '=' := by
  unfold encodeByte at mem
  split at mem
  · next unreserved =>
    obtain ⟨ascii, -, -, notAmp, notEq⟩ := unreserved_plain unreserved
    have char : (Char.ofNat b.toNat).toNat = b.toNat := toNat_ofNat_ascii ascii
    rw [List.mem_singleton] at mem
    subst mem
    refine ⟨by rw [char]; exact ascii, fun amp => notAmp ?_, fun eq => notEq ?_⟩
    · rw [← char, amp]; rfl
    · rw [← char, eq]; rfl
  · have bound : b.toNat < 256 := UInt8.toNat_lt_size b
    have high := upperHexDigit_plain (b.toNat / 16) (by omega)
    have low := upperHexDigit_plain (b.toNat % 16) (by omega)
    split at mem
    · simp at mem
      subst mem
      decide
    · simp only [List.mem_cons, List.not_mem_nil, or_false] at mem
      rcases mem with rfl | rfl | rfl
      · decide
      · simp_all
      · simp_all

theorem asciiStretches_ascii {cs : List Char} (nonempty : cs ≠ []) (ascii : ∀ c ∈ cs, c.toNat < 128) :
    asciiStretches cs = [(true, cs)] := by
  induction cs with
  | nil => exact absurd rfl nonempty
  | cons c rest ih =>
    have first : decide (c.toNat < 128) = true := by simpa using ascii c List.mem_cons_self
    cases rest with
    | nil => simp [asciiStretches, first]
    | cons d more =>
      rw [asciiStretches, ih (by simp) (fun x mem => ascii x (List.mem_cons_of_mem c mem))]
      simp [first]

theorem percentBytes_of_not_mem {cs : List Char} (absent : '%' ∉ cs) :
    percentBytes cs = cs.map fun c => UInt8.ofNat c.toNat := by
  induction cs with
  | nil => simp [percentBytes]
  | cons c rest ih =>
    simp only [List.mem_cons, not_or] at absent
    rw [percentBytes_cons_of_ne (Ne.symm absent.1), ih absent.2, List.map_cons]

/-- Percent decoding of ASCII text reads its escapes as bytes and the bytes as UTF-8. -/
theorem percentDecode_ascii {cs : List Char} (ascii : ∀ c ∈ cs, c.toNat < 128) :
    percentDecode (String.ofList cs) = textOfBytesLossy (percentBytes cs) := by
  unfold percentDecode
  split
  · next plain =>
    have absent : '%' ∉ cs := by simpa using plain
    have decoded := textOfBytesLossy_charBytes (String.ofList cs)
    rw [String.toList_ofList, spellChars_ascii ascii] at decoded
    rw [percentBytes_of_not_mem absent, asciiBytes_eq_charBytes ascii, decoded]
  · next escaped =>
    have nonempty : cs ≠ [] := by rintro rfl; simp at escaped
    simp [asciiStretches_ascii nonempty ascii]

theorem formDecode_eq (s : String) :
    formDecode s = percentDecode (String.ofList (s.toList.map plusAsSpace)) := by
  rw [formDecode, String.map_eq_internal]
  rfl

theorem formDecode_encodeBytes (bytes : List UInt8) :
    formDecode (String.ofList (bytes.flatMap encodeByte)) = textOfBytesLossy bytes := by
  have ascii : ∀ c ∈ (bytes.flatMap encodeByte).map plusAsSpace, c.toNat < 128 := by
    intro c mem
    obtain ⟨d, written, rfl⟩ := List.mem_map.1 mem
    obtain ⟨b, -, encoded⟩ := List.mem_flatMap.1 written
    have plain := (encodeByte_plain encoded).1
    unfold plusAsSpace
    split
    · decide
    · exact plain
  rw [formDecode_eq, String.toList_ofList, percentDecode_ascii ascii, percentBytes_encodeBytes]

def formEncoded (s : String) : String :=
  String.ofList ((cleanBytes s).flatMap encodeByte)

theorem formEncode_charsOnly {s : String} (chars : CharsOnly s) : formEncode s = .ok (formEncoded s) := by
  obtain ⟨t, rfl⟩ := chars
  simp only [formEncode, formEncoded, encodeUtf8_spellChars, cleanBytes_spellChars]
  rfl

theorem formDecode_formEncoded {s : String} (chars : CharsOnly s) : formDecode (formEncoded s) = s := by
  obtain ⟨t, rfl⟩ := chars
  rw [formEncoded, cleanBytes_spellChars, formDecode_encodeBytes, textOfBytesLossy_charBytes]

theorem formEncoded_plain (s : String) :
    '&' ∉ (formEncoded s).toList ∧ '=' ∉ (formEncoded s).toList := by
  rw [formEncoded, String.toList_ofList]
  constructor
  all_goals
    intro mem
    obtain ⟨b, -, encoded⟩ := List.mem_flatMap.1 mem
    have := encodeByte_plain encoded
    simp at this

/-- Reads one `name=value` piece of a form-encoded query: the text before the first `=` and the
text after it (empty without one), both form decoded. -/
def formDecodePair (piece : String) : String × String :=
  match splitFirst '=' piece.toList with
  | (name, value) => (formDecode (String.ofList name), formDecode (String.ofList (value.getD [])))

/-- Reads a form-encoded query: its non-empty `&`-separated pieces, each read as a pair. -/
def formDecodePairs (query : String) : List (String × String) :=
  ((Text.splitText query "&").filter (!·.isEmpty)).map formDecodePair

section Pairs

variable {params : List (String × String)} (chars : ∀ kv ∈ params, CharsOnly kv.1 ∧ CharsOnly kv.2)
include chars

theorem formEncodePairs_charsOnly :
    formEncodePairs params =
      .ok ("&".intercalate (params.map fun kv => formEncoded kv.1 ++ "=" ++ formEncoded kv.2)) := by
  unfold formEncodePairs encodePairsWith
  rw [Except.mapM_eq_ok_map (g := fun kv => formEncoded kv.1 ++ "=" ++ formEncoded kv.2) fun kv mem => by
    obtain ⟨name, value⟩ := chars kv mem
    obtain ⟨k, v⟩ := kv
    dsimp only
    rw [formEncode_charsOnly name, formEncode_charsOnly value]
    rfl]
  rfl

end Pairs

theorem formDecodePair_encoded {k v : String} (name : CharsOnly k) (value : CharsOnly v) :
    formDecodePair (formEncoded k ++ "=" ++ formEncoded v) = (k, v) := by
  rw [formDecodePair, String.toList_append, String.toList_append, show "=".toList = ['='] from rfl,
    List.append_assoc, List.singleton_append, splitFirst_append_cons (formEncoded_plain k).2]
  simp only [Option.getD_some, String.ofList_toList, formDecode_formEncoded name,
    formDecode_formEncoded value]

/-- Form decoding reads form-encoded parameters of characters back, in order: each byte's
encoding reads back to the byte once `+` is a space, the bytes read back as UTF-8 to the text,
and encoded texts hold neither `&` nor `=`, so splitting at them undoes the joining. -/
theorem formDecodePairs_formEncodePairs {params : List (String × String)}
    (chars : ∀ kv ∈ params, CharsOnly kv.1 ∧ CharsOnly kv.2) :
    ∃ q, formEncodePairs params = .ok q ∧ formDecodePairs q = params := by
  refine ⟨_, formEncodePairs_charsOnly chars, ?_⟩
  cases params with
  | nil => rfl
  | cons first more =>
    have pieces : ∀ p ∈ (first :: more).map (fun kv => formEncoded kv.1 ++ "=" ++ formEncoded kv.2),
        '&' ∉ p.toList ∧ p.isEmpty = false := by
      intro p mem
      obtain ⟨⟨k, v⟩, -, rfl⟩ := List.mem_map.1 mem
      simp [(formEncoded_plain k).1, (formEncoded_plain v).1]
    rw [formDecodePairs, splitText_intercalate rfl (by simp) fun p mem => (pieces p mem).1,
      List.filter_eq_self.2 fun p mem => by simp [(pieces p mem).2], List.map_map]
    have each : ∀ kv ∈ first :: more,
        (formDecodePair ∘ fun kv => formEncoded kv.1 ++ "=" ++ formEncoded kv.2) kv = kv :=
      fun kv mem => by
        rw [Function.comp_apply, formDecodePair_encoded (chars kv mem).1 (chars kv mem).2]
    rw [List.map_congr_left each, List.map_id']

end Courier.Url
