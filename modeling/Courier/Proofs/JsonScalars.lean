import Courier.Json.Reader
import Courier.Json.Writer

namespace Courier.Text

/-- A text is spelled when it is the spelling of its own code points: every sequence of code
points has one (`spelled_ofCodePoints`). -/
def Spelled (s : String) : Prop :=
  ofCodePoints (codePoints s.toList) = s

instance (s : String) : Decidable (Spelled s) :=
  inferInstanceAs (Decidable (_ = _))

/-- Every surrogate among the code points has a surrogate code. -/
def Surrogates (ps : List CodePoint) : Prop :=
  ∀ p ∈ ps, ∀ n, p = .surrogate n → isSurrogateCode n = true

theorem surrogates_cons {p : CodePoint} {ps : List CodePoint} :
    Surrogates (p :: ps) ↔ (∀ n, p = .surrogate n → isSurrogateCode n = true) ∧ Surrogates ps :=
  List.forall_mem_cons

def nonAscii (ps : List CodePoint) : List CodePoint :=
  ps.filter fun p => 0x80 ≤ p.code

@[simp] theorem nonAscii_nil : nonAscii [] = [] := rfl

@[simp] theorem nonAscii_append (ps qs : List CodePoint) :
    nonAscii (ps ++ qs) = nonAscii ps ++ nonAscii qs :=
  List.filter_append _ _

theorem nonAscii_cons_ascii {p : CodePoint} (ascii : p.code < 0x80) (ps : List CodePoint) :
    nonAscii (p :: ps) = nonAscii ps := by
  simp [nonAscii, Nat.not_le.mpr ascii]

theorem toNat_lt_limit (c : Char) : c.toNat < 0x110000 := by
  have valid := c.valid
  simp only [UInt32.isValidChar, Nat.isValidChar] at valid
  change c.val.toNat < 0x110000
  omega

/-- A spelling stands for surrogates with surrogate codes only: the held characters span the
last 2048 code points. -/
theorem surrogates_codePoints (cs : List Char) : Surrogates (codePoints cs) := by
  fun_induction codePoints cs with
  | case1 => simp [Surrogates]
  | case2 c d more _ ih => exact surrogates_cons.mpr ⟨fun _ same => (nomatch same), ih⟩
  | case3 c _ => simp [Surrogates]
  | case4 c rest _ high ih =>
    refine surrogates_cons.mpr ⟨fun n same => ?_, ih⟩
    cases same
    have below := toNat_lt_limit c
    unfold heldSurrogateStart at high ⊢
    simp only [isSurrogateCode, Bool.and_eq_true, decide_eq_true_eq]
    omega
  | case5 c rest _ _ ih => exact surrogates_cons.mpr ⟨fun _ same => (nomatch same), ih⟩

theorem spelled_ofCodePoints {ps : List CodePoint} (valid : Surrogates ps) :
    Spelled (ofCodePoints ps) := by
  unfold Spelled ofCodePoints
  rw [String.toList_ofList, codePoints_spell ps valid]

theorem spellChar_of_unmarked {c : Char} (below : c.toNat < 0x10F7FF) : spellChar c = [c] := by
  simp [spellChar, needsMark, holdMark_toNat, Nat.not_le.mpr below]

theorem codePoints_cons_unmarked {c : Char} (below : c.toNat < 0x10F7FF) (rest : List Char) :
    codePoints (c :: rest) = .char c :: codePoints rest := by
  have head := codePoints_spellChar c rest
  rwa [spellChar_of_unmarked below, List.singleton_append] at head

theorem codePoints_cons_ascii {c : Char} (ascii : c.toNat < 0x80) (rest : List Char) :
    codePoints (c :: rest) = .char c :: codePoints rest :=
  codePoints_cons_unmarked (by omega) rest

/-- A text of characters below the hold mark is spelled: it holds no surrogate. -/
theorem spelled_of_unmarked {s : String} (below : ∀ c ∈ s.toList, c.toNat < 0x10F7FF) :
    Spelled s := by
  have points : ∀ cs : List Char, (∀ c ∈ cs, c.toNat < 0x10F7FF) →
      codePoints cs = cs.map .char := by
    intro cs unmarked
    induction cs with
    | nil => rfl
    | cons c cs ih =>
      rw [codePoints_cons_unmarked (unmarked c List.mem_cons_self), List.map_cons,
        ih fun d mem => unmarked d (List.mem_cons_of_mem c mem)]
  have spelt : ∀ cs : List Char, (∀ c ∈ cs, c.toNat < 0x10F7FF) →
      (cs.map CodePoint.char).flatMap CodePoint.spell = cs := by
    intro cs unmarked
    induction cs with
    | nil => rfl
    | cons c cs ih =>
      rw [List.map_cons, List.flatMap_cons, CodePoint.spell,
        spellChar_of_unmarked (unmarked c List.mem_cons_self),
        ih fun d mem => unmarked d (List.mem_cons_of_mem c mem), List.singleton_append]
  unfold Spelled ofCodePoints
  rw [points _ below, spelt _ below, String.ofList_toList]

theorem nonAscii_codePoints_ascii_append {a : List Char} (ascii : ∀ c ∈ a, c.toNat < 0x80)
    (rest : List Char) : nonAscii (codePoints (a ++ rest)) = nonAscii (codePoints rest) := by
  induction a with
  | nil => rfl
  | cons c a ih =>
    have first := ascii c List.mem_cons_self
    rw [List.cons_append, codePoints_cons_ascii first,
      nonAscii_cons_ascii (by simpa [CodePoint.code] using first)]
    exact ih fun d mem => ascii d (List.mem_cons_of_mem c mem)

end Courier.Text

namespace Courier.Json

open Text

theorem hex4_control : ∀ n < 0x20,
    List.replicate (4 - (Nat.toDigits 16 n).length) '0' ++ Nat.toDigits 16 n =
        ['0', '0', (n / 16).digitChar, (n % 16).digitChar] ∧
      hex4? '0' '0' (n / 16).digitChar (n % 16).digitChar = some n := by
  decide

theorem digitChar_ascii : ∀ n < 16, n.digitChar.toNat < 0x80 := by
  decide

/-- What the writer gives a character inside a string: a one-letter escape, a `\u` escape with
four digits for the other control characters, or the character's own spelling. -/
theorem escapeChar_cases (c : Char) :
    (∃ e, simpleEscape? e = some c ∧ e ≠ 'u' ∧ e.toNat < 0x80 ∧ c.toNat < 0x80 ∧
        (escapeChar false c).toList = ['\\', e]) ∨
      (c.toNat < 0x20 ∧ (escapeChar false c).toList =
        ['\\', 'u', '0', '0', (c.toNat / 16).digitChar, (c.toNat % 16).digitChar]) ∨
      (0x20 ≤ c.toNat ∧ c ≠ '"' ∧ c ≠ '\\' ∧ (escapeChar false c).toList = spellChar c) := by
  unfold escapeChar
  split
  · exact .inl ⟨'"', rfl, by decide, by decide, by decide, rfl⟩
  · exact .inl ⟨'\\', rfl, by decide, by decide, by decide, rfl⟩
  · exact .inl ⟨'n', rfl, by decide, by decide, by decide, rfl⟩
  · exact .inl ⟨'r', rfl, by decide, by decide, by decide, rfl⟩
  · exact .inl ⟨'t', rfl, by decide, by decide, by decide, rfl⟩
  · exact .inl ⟨'b', rfl, by decide, by decide, by decide, rfl⟩
  · exact .inl ⟨'f', rfl, by decide, by decide, by decide, rfl⟩
  · rename_i notQuote notBackslash _ _ _ _ _
    by_cases control : c.toNat < 0x20
    · refine .inr (.inl ⟨control, ?_⟩)
      simp [control, hex4, (hex4_control c.toNat control).1]
    · refine .inr (.inr ⟨by omega, notQuote, notBackslash, ?_⟩)
      simp [control]

theorem escapePoint_ne_nil (p : CodePoint) : (escapePoint false p).toList ≠ [] := by
  cases p with
  | char c =>
    rcases escapeChar_cases c with ⟨e, -, -, -, -, text⟩ | ⟨-, text⟩ | ⟨-, -, -, text⟩
    all_goals rw [escapePoint, text]
    · exact List.cons_ne_nil _ _
    · exact List.cons_ne_nil _ _
    · unfold spellChar
      split <;> exact List.cons_ne_nil _ _
  | surrogate n => simp [escapePoint, CodePoint.spell]

def quotedBody (s : String) : List Char :=
  (codePoints s.toList).flatMap fun p => (escapePoint false p).toList

theorem quote_toList (s : String) : (quote false s).toList = '"' :: quotedBody s ++ ['"'] := by
  simp [quote, quotedBody, String.toList_join, List.flatMap_map]

section StringBody

variable (start : Nat) (acc : List Char) (fuel : Nat) (more : List Char) (pos : Nat)

/-- A printable character other than a quote, a backslash or the mark is read as itself. -/
theorem readStringBody_raw {c : Char} (notQuote : c ≠ '"') (notBackslash : c ≠ '\\')
    (printable : 0x20 ≤ c.toNat) (unmarked : c ≠ holdMark) :
    readStringBody start acc (fuel + 1) (c :: more) pos =
      readStringBody start (c :: acc) fuel more (pos + 1) := by
  have below : ¬ c.toNat < 32 := by omega
  have other : (c == holdMark) = false := beq_false_of_ne unmarked
  cases more with
  | nil => rw [readStringBody.eq_8 _ _ _ _ _ notQuote notBackslash]; simp [below]
  | cons d more =>
    rw [readStringBody.eq_7 _ _ _ _ _ _ _ notQuote notBackslash]
    simp [below, other]

theorem readStringBody_held (d : Char) :
    readStringBody start acc (fuel + 1) (holdMark :: d :: more) pos =
      readStringBody start (d :: holdMark :: acc) fuel more (pos + 1) := by
  rw [readStringBody.eq_7 _ _ _ _ _ _ _ (by decide) (by decide)]
  simp [holdMark_toNat]

theorem readStringBody_simpleEscape {e c : Char} (escape : simpleEscape? e = some c)
    (notU : e ≠ 'u') :
    readStringBody start acc (fuel + 1) ('\\' :: e :: more) pos =
      readStringBody start (c :: acc) fuel more (pos + 2) := by
  rw [readStringBody.eq_6 _ _ _ _ _ _ notU, escape]

/-- A control character's `\u` escape is read as the character; at least one character must
follow the four digits. -/
theorem readStringBody_control {c : Char} (control : c.toNat < 0x20) (follows : more ≠ []) :
    readStringBody start acc (fuel + 1)
        (['\\', 'u', '0', '0', (c.toNat / 16).digitChar, (c.toNat % 16).digitChar] ++ more) pos =
      readStringBody start (c :: acc) fuel more (pos + 6) := by
  have value := (hex4_control c.toNat control).2
  obtain ⟨d, more, rfl⟩ := List.exists_cons_of_ne_nil follows
  have notHigh : ¬ 0xD800 ≤ c.toNat := by omega
  have notSurrogate : isSurrogateCode c.toNat = false := by
    simp [isSurrogateCode, notHigh]
  have single := spellChar_of_unmarked (c := c) (by omega)
  simp only [List.cons_append, List.nil_append]
  -- unfolded rather than rewritten: its equations, generated on first use, would bring a
  -- congruence lemma for the cast of its as-pattern into this module
  rw [readStringBody.eq_5]
  unfold readUnicodeEscape
  dsimp only
  rw [value]
  dsimp only
  rw [if_neg (by omega)]
  simp only [charOfCode, ofCodeUnit, notSurrogate, Bool.false_eq_true, ↓reduceIte,
    Char.ofNat_toNat, single, List.reverse_singleton, List.singleton_append]

/-- A character is read back from what the writer gives it, as its spelling. -/
theorem readStringBody_escapeChar (c : Char) (follows : more ≠ []) :
    ∃ pos', readStringBody start acc (fuel + 1) ((escapeChar false c).toList ++ more) pos =
      readStringBody start ((spellChar c).reverse ++ acc) fuel more pos' := by
  rcases escapeChar_cases c with ⟨e, escape, notU, -, ascii, text⟩ | ⟨control, text⟩ |
    ⟨printable, notQuote, notBackslash, text⟩
  · refine ⟨pos + 2, ?_⟩
    rw [text, spellChar_of_unmarked (by omega)]
    exact readStringBody_simpleEscape start acc fuel more pos escape notU
  · refine ⟨pos + 6, ?_⟩
    rw [text, spellChar_of_unmarked (by omega)]
    exact readStringBody_control start acc fuel more pos control follows
  · refine ⟨pos + 1, ?_⟩
    rw [text]
    unfold spellChar
    by_cases marked : needsMark c
    · simp only [marked, ↓reduceIte, List.cons_append, List.nil_append, List.reverse_cons,
        List.reverse_nil]
      exact readStringBody_held start acc fuel more pos c
    · have unmarked : c ≠ holdMark := by
        rintro rfl
        simp [needsMark] at marked
      simp only [marked, Bool.false_eq_true, ↓reduceIte, List.singleton_append,
        List.reverse_singleton]
      exact readStringBody_raw start acc fuel more pos notQuote notBackslash printable unmarked

/-- A code point is read back from what the writer gives it, as its spelling. -/
theorem readStringBody_escapePoint {p : CodePoint}
    (valid : ∀ n, p = .surrogate n → isSurrogateCode n = true) (follows : more ≠ []) :
    ∃ pos', readStringBody start acc (fuel + 1) ((escapePoint false p).toList ++ more) pos =
      readStringBody start (p.spell.reverse ++ acc) fuel more pos' := by
  cases p with
  | char c => exact readStringBody_escapeChar start acc fuel more pos c follows
  | surrogate n =>
    have code := valid n rfl
    simp only [isSurrogateCode, Bool.and_eq_true, decide_eq_true_eq] at code
    have held : (Char.ofNat (heldSurrogateStart + (n - 0xD800))).toNat =
        heldSurrogateStart + (n - 0xD800) :=
      toNat_ofNat_valid _ (by unfold heldSurrogateStart Nat.isValidChar; omega)
    have differs : ∀ c : Char, c.toNat < heldSurrogateStart →
        Char.ofNat (heldSurrogateStart + (n - 0xD800)) ≠ c := by
      rintro c below rfl
      omega
    refine ⟨pos + 1, ?_⟩
    simp only [escapePoint, Bool.false_eq_true, ↓reduceIte, CodePoint.spell, String.toList_ofList,
      List.singleton_append, List.reverse_singleton]
    apply readStringBody_raw
    · exact differs _ (by decide)
    · exact differs _ (by decide)
    · rw [held]
      unfold heldSurrogateStart
      omega
    · exact differs _ (by rw [holdMark_toNat]; decide)

end StringBody

/-- The written body of code points and the closing quote are read as their spelling; the
reader spends one step of fuel on each code point. -/
theorem readStringBody_escaped (start : Nat) (rest : List Char) :
    ∀ (ps : List CodePoint), Surrogates ps → ∀ acc fuel pos,
      (ps.flatMap fun p => (escapePoint false p).toList).length < fuel → ∃ pos',
        readStringBody start acc fuel
            ((ps.flatMap fun p => (escapePoint false p).toList) ++ '"' :: rest) pos =
          .ok (String.ofList (acc.reverse ++ ps.flatMap CodePoint.spell), rest, pos')
  | [], _, acc, fuel + 1, pos, _ => ⟨pos + 1, by simp [readStringBody]⟩
  | p :: ps, valid, acc, fuel + 1, pos, room => by
    obtain ⟨head, tail⟩ := surrogates_cons.mp valid
    have nonempty := List.length_pos_iff.mpr (escapePoint_ne_nil p)
    have shorter : (ps.flatMap fun p => (escapePoint false p).toList).length < fuel := by
      simp only [List.flatMap_cons, List.length_append] at room
      omega
    obtain ⟨pos', step⟩ := readStringBody_escapePoint start acc fuel
      ((ps.flatMap fun p => (escapePoint false p).toList) ++ '"' :: rest) pos head (by simp)
    obtain ⟨pos'', body⟩ := readStringBody_escaped start rest ps tail _ fuel pos' shorter
    refine ⟨pos'', ?_⟩
    rw [List.flatMap_cons, List.append_assoc, step, body]
    simp

/-- A spelled text, as the writer quotes it (each code point escaped on its own: a one-letter
escape, a `\u` escape for the other control characters, or its own spelling), is read back as
itself whatever follows it. -/
theorem readString_quoted {s : String} (spelled : Spelled s) (rest : List Char) (start : Nat) :
    ∃ pos', readString (quotedBody s ++ '"' :: rest) start = .ok (s, rest, pos') := by
  unfold quotedBody
  have room : ((codePoints s.toList).flatMap fun p => (escapePoint false p).toList).length <
      (((codePoints s.toList).flatMap fun p => (escapePoint false p).toList) ++
        '"' :: rest).length + 1 := by
    simp only [List.length_append, List.length_cons]
    omega
  obtain ⟨pos', read⟩ := readStringBody_escaped start rest (codePoints s.toList)
    (surrogates_codePoints s.toList) [] _ (start + 1) room
  refine ⟨pos', ?_⟩
  rw [readString, read, List.reverse_nil, List.nil_append, ← ofCodePoints, spelled]

theorem nonAscii_escapePoint {p : CodePoint}
    (valid : ∀ n, p = .surrogate n → isSurrogateCode n = true) (rest : List Char) :
    nonAscii (codePoints ((escapePoint false p).toList ++ rest)) =
      nonAscii [p] ++ nonAscii (codePoints rest) := by
  cases p with
  | surrogate n =>
    simp only [escapePoint, Bool.false_eq_true, ↓reduceIte, String.toList_ofList]
    rw [codePoints_spell_append _ valid, ← List.singleton_append, nonAscii_append]
  | char c =>
    rcases escapeChar_cases c with ⟨e, -, -, letter, ascii, text⟩ | ⟨control, text⟩ |
      ⟨-, -, -, text⟩
    · rw [escapePoint, text, nonAscii_codePoints_ascii_append,
        nonAscii_cons_ascii (by simpa [CodePoint.code] using ascii), nonAscii_nil, List.nil_append]
      simp only [List.mem_cons, List.mem_nil_iff, or_false]
      rintro d (rfl | rfl)
      · decide
      · exact letter
    · rw [escapePoint, text, nonAscii_codePoints_ascii_append,
        nonAscii_cons_ascii (by simp [CodePoint.code]; omega), nonAscii_nil, List.nil_append]
      simp only [List.mem_cons, List.mem_nil_iff, or_false]
      rintro d (rfl | rfl | rfl | rfl | rfl | rfl)
      · decide
      · decide
      · decide
      · decide
      · exact digitChar_ascii _ (by omega)
      · exact digitChar_ascii _ (Nat.mod_lt _ (by decide))
    · rw [escapePoint, text, codePoints_spellChar, ← List.singleton_append, nonAscii_append]

/-- The code points outside ASCII in a quoted text are those of the text. -/
theorem nonAscii_quote (s : String) (rest : List Char) :
    nonAscii (codePoints ((quote false s).toList ++ rest)) =
      nonAscii (codePoints s.toList) ++ nonAscii (codePoints rest) := by
  -- the body, by induction on the code points it escapes
  have body : ∀ ps : List CodePoint, Surrogates ps → ∀ rest,
      nonAscii (codePoints ((ps.flatMap fun p => (escapePoint false p).toList) ++ rest)) =
        nonAscii ps ++ nonAscii (codePoints rest) := by
    intro ps valid rest
    induction ps with
    | nil => rfl
    | cons p ps ih =>
      obtain ⟨head, tail⟩ := surrogates_cons.mp valid
      rw [List.flatMap_cons, List.append_assoc, nonAscii_escapePoint head, ih tail,
        ← List.append_assoc, ← nonAscii_append, List.singleton_append]
  have quoteMark : ('"' : Char).toNat < 0x80 := by decide
  have quoteCode : (CodePoint.char '"').code < 0x80 := quoteMark
  simp only [quote_toList, List.cons_append, List.append_assoc, List.nil_append]
  rw [codePoints_cons_ascii quoteMark, nonAscii_cons_ascii quoteCode, quotedBody,
    body _ (surrogates_codePoints s.toList), codePoints_cons_ascii quoteMark,
    nonAscii_cons_ascii quoteCode]

/-- What may follow a value in a document: nothing, or the comma or closing bracket of the array
or object around it. -/
def Delimited : List Char → Prop
  | [] => True
  | c :: _ => c = ',' ∨ c = ']' ∨ c = '}'

theorem toString_int_toList (n : Int) :
    (toString n).toList = (if n < 0 then ['-'] else []) ++ Nat.toDigits 10 n.natAbs := by
  cases n with
  | ofNat m => simp [toString, Int.repr, Nat.toList_repr]
  | negSucc m => simp [toString, Int.repr, Nat.toList_repr, Int.negSucc_lt_zero]

theorem digitsValue_toDigits (m : Nat) : digitsValue (Nat.toDigits 10 m) = m := by
  have fold : digitsValue (Nat.toDigits 10 m) = Nat.ofDigitChars 10 (Nat.toDigits 10 m) 0 := by
    unfold digitsValue Nat.ofDigitChars
    congr 1
    funext acc d
    rw [Nat.mul_comm]
    rfl
  rw [fold, Nat.ofDigitChars_toDigits (by decide) (by decide)]

theorem toDigits_head (m : Nat) (pos : 0 < m) :
    ∃ d ds, Nat.toDigits 10 m = d :: ds ∧ '1' ≤ d ∧ d ≤ '9' := by
  induction m using Nat.strongRecOn with
  | ind m ih =>
    rw [Nat.toDigits_eq_if (by decide)]
    split
    · rename_i small
      have nonzero : ∀ k < 10, 0 < k → '1' ≤ k.digitChar ∧ k.digitChar ≤ '9' := by decide
      exact ⟨_, [], rfl, nonzero m small pos⟩
    · rename_i large
      obtain ⟨d, ds, digits, low, high⟩ := ih (m / 10) (by omega) (by omega)
      exact ⟨d, ds ++ [(m % 10).digitChar], by rw [digits]; rfl, low, high⟩

theorem Delimited.takeWhile_isDigit {rest : List Char} (delimited : Delimited rest) :
    rest.takeWhile Char.isDigit = [] ∧ rest.dropWhile Char.isDigit = rest := by
  cases rest with
  | nil => simp
  | cons c more =>
    simp only [Delimited] at delimited
    rcases delimited with rfl | rfl | rfl <;> simp

theorem Delimited.readExponent_eq_none {rest : List Char} (delimited : Delimited rest) :
    readExponent rest = none := by
  unfold readExponent
  split
  · rename_i e r _
    simp only [Delimited] at delimited
    rcases delimited with rfl | rfl | rfl <;> rfl
  · rfl

/-- A whole number's digits, after an optional minus and before a delimiter, are read as the
integer when there are few enough of them. -/
theorem readNumber_digits {ds : List Char} (fits : ds.length ≤ maxIntegerDigits)
    (whole : ds = ['0'] ∨ ∃ d tail, ds = d :: tail ∧ '1' ≤ d ∧ d ≤ '9' ∧ ∀ c ∈ tail, c.isDigit)
    (negative : Bool) {rest : List Char} (delimited : Delimited rest) (pos : Nat) :
    ∃ pos', readNumber ((if negative then ['-'] else []) ++ ds ++ rest) pos =
      .ok (.int (if negative then -(digitsValue ds : Int) else digitsValue ds), rest, pos') := by
  have noExponent := delimited.readExponent_eq_none
  obtain ⟨noDigits, keep⟩ := delimited.takeWhile_isDigit
  rcases whole with rfl | ⟨d, tail, rfl, low, high, digits⟩
  · have within : maxIntegerDigits ≠ 0 := by
      simp only [List.length_singleton] at fits
      omega
    cases rest with
    | nil => cases negative <;> simp [readNumber, readExponent, within]
    | cons c more =>
      simp only [Delimited] at delimited
      rcases delimited with rfl | rfl | rfl <;> cases negative <;> simp_all [readNumber]
  · have notZero : d ≠ '0' := by rintro rfl; revert low; decide
    have notMinus : d ≠ '-' := by rintro rfl; revert low; decide
    have within : ¬ maxIntegerDigits < tail.length + 1 := by
      simp only [List.length_cons] at fits
      omega
    have takeTail : (tail ++ rest).takeWhile Char.isDigit = tail := by
      rw [List.takeWhile_append_of_pos digits, noDigits, List.append_nil]
    have dropTail : (tail ++ rest).dropWhile Char.isDigit = rest := by
      rw [List.dropWhile_append_of_pos digits, keep]
    cases rest with
    | nil =>
      rw [List.append_nil] at takeTail dropTail
      cases negative <;> simp [readNumber, readExponent, *]
    | cons c more =>
      simp only [Delimited] at delimited
      rcases delimited with rfl | rfl | rfl <;> cases negative <;> simp [readNumber, *]

theorem toDigits_shape (m : Nat) :
    Nat.toDigits 10 m = ['0'] ∨ ∃ d tail, Nat.toDigits 10 m = d :: tail ∧
      '1' ≤ d ∧ d ≤ '9' ∧ ∀ c ∈ tail, c.isDigit := by
  rcases Nat.eq_zero_or_pos m with rfl | pos
  · exact .inl (Nat.toDigits_zero 10)
  · obtain ⟨d, tail, digits, low, high⟩ := toDigits_head m pos
    refine .inr ⟨d, tail, digits, low, high, fun c mem => ?_⟩
    exact Nat.isDigit_of_mem_toDigits (b := 10) (by decide) (by decide) (by rw [digits]; simp [mem])

/-- An integer's text, followed by a delimiter, is read back as the integer when its digits are
within the limit. -/
theorem readNumber_int {n : Int} (fits : (Nat.toDigits 10 n.natAbs).length ≤ maxIntegerDigits)
    {rest : List Char} (delimited : Delimited rest) (pos : Nat) :
    ∃ pos', readNumber ((toString n).toList ++ rest) pos = .ok (.int n, rest, pos') := by
  obtain ⟨pos', read⟩ := readNumber_digits fits (toDigits_shape n.natAbs) (decide (n < 0))
    delimited pos
  refine ⟨pos', ?_⟩
  rw [toString_int_toList]
  by_cases negative : n < 0
  · simpa [negative, digitsValue_toDigits, Int.ofNat_natAbs_of_nonpos (Int.le_of_lt negative)]
      using read
  · simpa [negative, digitsValue_toDigits, Int.natAbs_of_nonneg (Int.not_lt.mp negative)]
      using read

end Courier.Json
