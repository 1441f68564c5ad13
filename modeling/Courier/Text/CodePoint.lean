/-!
Texts whose units are code points, surrogates included. An escape in a JSON or YAML string may
name one half of a surrogate pair on its own, and no Unicode character is such a half, so a
`String` cannot hold it directly. A text spells its code points with characters as follows:

* a surrogate unit is the character at the same place among the last 2048 code points,
  U+10F800 to U+10FFFF;
* a character that itself lies there, or is the mark U+10F7FF just before them, is the mark
  followed by the character;
* every other character is itself.

Every sequence of code points has exactly one spelling, and reading a spelling back gives the
sequence (`codePoints_spell`). Text from outside, which holds characters only, is spelled with
`spellChars`. Delimiters, blanks and letters are spelled as themselves, so splitting, trimming
and case changes work on spellings as on the code points; counting and encoding read the code
points.
-/

namespace Courier.Text

/-- A code point: a character, or a surrogate unit `0xD800 ≤ code < 0xE000`. -/
inductive CodePoint where
  | char (c : Char)
  | surrogate (code : Nat)
  deriving Repr, BEq, Inhabited

def CodePoint.code : CodePoint → Nat
  | .char c => c.toNat
  | .surrogate n => n

def heldSurrogateStart : Nat := 0x10F800

/-- The mark that makes the character after it stand for itself. -/
def holdMark : Char := Char.ofNat 0x10F7FF

def isSurrogateCode (n : Nat) : Bool :=
  0xD800 ≤ n && n < 0xE000

/-- Whether a character is spelled with the mark before it. -/
def needsMark (c : Char) : Bool :=
  holdMark.toNat ≤ c.toNat

def spellChar (c : Char) : List Char :=
  if needsMark c then [holdMark, c] else [c]

def CodePoint.spell : CodePoint → List Char
  | .char c => spellChar c
  | .surrogate n => [Char.ofNat (heldSurrogateStart + (n - 0xD800))]

def ofCodeUnit (n : Nat) : List Char :=
  if isSurrogateCode n then (CodePoint.surrogate n).spell else spellChar (Char.ofNat n)

/-- The spelling of a text read from outside, which holds characters only. -/
def spellChars (s : String) : String :=
  String.ofList (s.toList.flatMap spellChar)

/-- The code points a spelling stands for. A mark at the very end stands for itself. -/
def codePoints : List Char → List CodePoint
  | [] => []
  | c :: rest =>
    if c == holdMark then
      match rest with
      | d :: more => .char d :: codePoints more
      | [] => [.char c]
    else if heldSurrogateStart ≤ c.toNat then
      .surrogate (c.toNat - heldSurrogateStart + 0xD800) :: codePoints rest
    else .char c :: codePoints rest

def ofCodePoints (ps : List CodePoint) : String :=
  String.ofList (ps.flatMap CodePoint.spell)

def pointCount (s : String) : Nat :=
  (codePoints s.toList).length

def hasSurrogate (s : String) : Bool :=
  (codePoints s.toList).any fun
    | .surrogate _ => true
    | .char _ => false

def hexDigits (width : Nat) (n : Nat) : String :=
  let ds := Nat.toDigits 16 n
  String.ofList (List.replicate (width - ds.length) '0' ++ ds)

theorem toNat_ofNat_valid (n : Nat) (h : n.isValidChar) : (Char.ofNat n).toNat = n := by
  rw [Char.ofNat, dif_pos h]
  rfl

theorem holdMark_toNat : holdMark.toNat = 0x10F7FF := by decide

theorem codePoints_spellChar (c : Char) (rest : List Char) :
    codePoints (spellChar c ++ rest) = .char c :: codePoints rest := by
  unfold spellChar needsMark
  by_cases h : holdMark.toNat ≤ c.toNat
  · simp [h, codePoints]
  · have hne : (c == holdMark) = false := by
      apply beq_false_of_ne
      intro e
      subst e
      exact h (Nat.le_refl _)
    have hlt : ¬ heldSurrogateStart ≤ c.toNat := by
      rw [holdMark_toNat] at h
      unfold heldSurrogateStart
      omega
    simp only [h, Bool.false_eq_true, ↓reduceIte, decide_false, List.singleton_append]
    rw [codePoints.eq_def]
    simp [hne, hlt]

/-- Reading the spelling of a code point, then more text, gives the code point first, when a
surrogate has a surrogate code. -/
theorem codePoints_spell_append (p : CodePoint)
    (h : ∀ n, p = .surrogate n → isSurrogateCode n = true) (rest : List Char) :
    codePoints (p.spell ++ rest) = p :: codePoints rest := by
  cases p with
  | char c => exact codePoints_spellChar c rest
  | surrogate n =>
    have hn := h n rfl
    simp only [isSurrogateCode, Bool.and_eq_true, decide_eq_true_eq] at hn
    have hvalid : (heldSurrogateStart + (n - 0xD800)).isValidChar := by
      unfold heldSurrogateStart Nat.isValidChar
      right
      omega
    have hval := toNat_ofNat_valid _ hvalid
    have hne : (Char.ofNat (heldSurrogateStart + (n - 0xD800)) == holdMark) = false := by
      apply beq_false_of_ne
      intro e
      have := congrArg Char.toNat e
      rw [hval, holdMark_toNat] at this
      unfold heldSurrogateStart at this
      omega
    simp only [CodePoint.spell, List.singleton_append]
    rw [codePoints.eq_def]
    simp only [hne, hval, Bool.false_eq_true, ↓reduceIte]
    have hge : heldSurrogateStart ≤ heldSurrogateStart + (n - 0xD800) := Nat.le_add_right _ _
    have hcode : heldSurrogateStart + (n - 0xD800) - heldSurrogateStart + 0xD800 = n := by
      omega
    simp only [hge, ↓reduceIte, hcode]

/-- Reading a spelling back gives the code points spelled, when every surrogate is one. -/
theorem codePoints_spell (ps : List CodePoint)
    (h : ∀ p ∈ ps, ∀ n, p = .surrogate n → isSurrogateCode n = true) :
    codePoints (ps.flatMap CodePoint.spell) = ps := by
  induction ps with
  | nil => rfl
  | cons p ps ih =>
    rw [List.flatMap_cons, codePoints_spell_append p (h p List.mem_cons_self),
      ih (fun q hq => h q (List.mem_cons_of_mem p hq))]

end Courier.Text
