import Courier.Proofs.JsonScalars
import Courier.Proofs.CursorQuery
import Courier.Json.Document

/-!
Writing a value and reading its text back gives the value, for the values that JSON shares with
the writer: null, booleans, integers of at most `maxIntegerDigits` digits, spelled texts, arrays,
and objects with distinct spelled names (`Value.Plain`). Every text is spelled when it comes from
code points, lone surrogates included, so the restriction on texts is only the model's way of
holding them. The proof goes by induction on `Value.Plain`: every written value starts with a
printable character, so no blank stands before it and the reader's first character picks the
right branch; items and members are read one by one until the closing bracket or brace.

The whole document needs room for its nesting: the writer fails once the calls in progress and
the value's nesting pass `callLimit`, and the reader has the same room. Within it, the written
text is read back as the value, and its characters outside ASCII are exactly those of the
value's texts and names, in order.
-/

namespace Courier.Json

open Text


/-- The values that writing and reading agree on: null, booleans, integers of at most
`maxIntegerDigits` digits, spelled texts, arrays of such values, and objects whose member names
are spelled and distinct and whose members are such values. -/
inductive Value.Plain : Value → Prop
  | null : Value.Plain .null
  | bool (b : Bool) : Value.Plain (.bool b)
  | int (n : Int) (fits : (Nat.toDigits 10 n.natAbs).length ≤ maxIntegerDigits) :
      Value.Plain (.int n)
  | str (s : String) (spelled : Spelled s) : Value.Plain (.str s)
  | arr (items : List Value) (each : ∀ v ∈ items, Value.Plain v) : Value.Plain (.arr items)
  | obj (fields : List (String × Value)) (named : ∀ kv ∈ fields, Spelled kv.1)
      (distinct : (fields.map (·.1)).Nodup) (each : ∀ kv ∈ fields, Value.Plain kv.2) :
      Value.Plain (.obj fields)

mutual
/-- The code points of a document's texts and member names, in the order they are written;
numbers, booleans, null and the values JSON lacks have none. -/
def Value.textPoints : Value → List CodePoint
  | .str s => codePoints s.toList
  | .arr items => textPointsOfItems items
  | .obj fields => textPointsOfFields fields
  | _ => []

def textPointsOfItems : List Value → List CodePoint
  | [] => []
  | v :: rest => v.textPoints ++ textPointsOfItems rest

def textPointsOfFields : List (String × Value) → List CodePoint
  | [] => []
  | (k, v) :: rest => codePoints k.toList ++ v.textPoints ++ textPointsOfFields rest
end

/-- A character that may start a written value: printable ASCII other than a closing bracket. -/
def Opening (c : Char) : Prop :=
  0x21 ≤ c.toNat ∧ c.toNat < 0x7f ∧ c ≠ ']' ∧ c ≠ '\x7d'

instance (c : Char) : Decidable (Opening c) :=
  inferInstanceAs (Decidable (_ ∧ _))

theorem isBlank_printable : ∀ n < 0x5e, isBlank (Char.ofNat (0x21 + n)) = false := by
  decide +kernel

theorem Opening.isBlank {c : Char} (opening : Opening c) : isBlank c = false := by
  have low := opening.1
  have high := opening.2.1
  have same : Char.ofNat (0x21 + (c.toNat - 0x21)) = c := by
    rw [show 0x21 + (c.toNat - 0x21) = c.toNat by omega, Char.ofNat_toNat]
  rw [← same]
  exact isBlank_printable _ (by omega)

theorem Opening.isSpace {c : Char} (opening : Opening c) : isSpace c = false := by
  cases space : Json.isSpace c with
  | false => rfl
  | true =>
    simp only [Json.isSpace, Bool.or_eq_true, beq_iff_eq] at space
    have low := opening.1
    rcases space with ((rfl | rfl) | rfl) | rfl <;> simp at low

theorem Opening.of_isDigit {c : Char} (digit : c.isDigit = true) : Opening c := by
  simp only [Char.isDigit, Bool.and_eq_true, decide_eq_true_eq] at digit
  have low : 48 ≤ c.toNat := digit.1
  have high : c.toNat ≤ 57 := digit.2
  refine ⟨by omega, by omega, ?_, ?_⟩
  · rintro rfl; simp at high
  · rintro rfl; simp at high

theorem Value.write_arr (items : List Value) :
    (Value.arr items).write.toList = '[' :: ((writeItems false items).toList ++ [']']) := by
  simp [Value.write, Value.writeWith]

theorem Value.write_obj (fields : List (String × Value)) :
    (Value.obj fields).write.toList =
      '\x7b' :: ((writeFields false fields).toList ++ ['\x7d']) := by
  simp [Value.write, Value.writeWith]

theorem Value.Plain.write_cons {v : Value} (plain : v.Plain) :
    ∃ c t, v.write.toList = c :: t ∧ Opening c := by
  cases plain with
  | null => exact ⟨'n', _, rfl, by decide⟩
  | bool b =>
    cases b
    · exact ⟨'f', _, rfl, by decide⟩
    · exact ⟨'t', _, rfl, by decide⟩
  | int n fits =>
    change ∃ c t, (toString n).toList = c :: t ∧ Opening c
    rw [toString_int_toList]
    split
    · exact ⟨'-', _, rfl, by decide⟩
    · rcases toDigits_shape n.natAbs with digits | ⟨d, tail, digits, low, high, -⟩
      · exact ⟨'0', [], by rw [digits]; rfl, by decide⟩
      · refine ⟨d, tail, by rw [digits]; rfl, Opening.of_isDigit ?_⟩
        simp only [Char.isDigit, Bool.and_eq_true, decide_eq_true_eq]
        exact ⟨Char.le_trans (by decide) low, high⟩
  | str s _ => exact ⟨'"', _, by rw [Value.write, Value.writeWith, quote_toList]; rfl, by decide⟩
  | arr items _ => exact ⟨'[', _, Value.write_arr items, by decide⟩
  | obj fields _ _ _ => exact ⟨'\x7b', _, Value.write_obj fields, by decide⟩

theorem skipSpace_cons {c : Char} (solid : isSpace c = false) (t : List Char) (pos : Nat) :
    skipSpace (c :: t) pos = (c :: t, pos) := by
  simp [skipSpace, solid]

theorem Value.Plain.skipSpace_write {v : Value} (plain : v.Plain) (rest : List Char) (pos : Nat) :
    skipSpace (v.write.toList ++ rest) pos = (v.write.toList ++ rest, pos) := by
  obtain ⟨c, t, text, opening⟩ := plain.write_cons
  rw [text, List.cons_append, skipSpace_cons opening.isSpace]

theorem ne_of_isDigit {d x : Char} (digit : d.isDigit = true) (notDigit : x.isDigit = false) :
    d ≠ x := by
  rintro rfl
  rw [digit] at notDigit
  cases notDigit

theorem readValue_numeral {d : Char} (digit : d.isDigit = true) {sign : List Char}
    (signed : sign = [] ∨ sign = ['-']) (t : List Char) (fuel room pos : Nat) :
    readValue (fuel + 1) room (sign ++ d :: t) pos = readNumber (sign ++ d :: t) pos := by
  rcases signed with rfl | rfl
  · refine readValue.eq_14 _ _ _ _ (List.cons_ne_nil _ _) ?_ ?_ ?_ ?_ ?_ ?_ ?_ ?_ ?_
    all_goals
      intro r same
      exact ne_of_isDigit digit (by decide) (List.cons.inj same).1
  · refine readValue.eq_14 _ _ _ _ (List.cons_ne_nil _ _) ?_ ?_ ?_ ?_ ?_ ?_ ?_ ?_ ?_
    -- eight patterns start with another character; `-Infinity` has a letter second
    iterate 8
      intro r same
      exact absurd (List.cons.inj same).1 (by decide)
    intro r same
    exact ne_of_isDigit digit (by decide) (List.cons.inj (List.cons.inj same).2).1

theorem readValue_int {n : Int} (fits : (Nat.toDigits 10 n.natAbs).length ≤ maxIntegerDigits)
    {rest : List Char} (delimited : Delimited rest) (fuel room pos : Nat) :
    ∃ pos', readValue (fuel + 1) room ((toString n).toList ++ rest) pos =
      .ok (.int n, rest, pos') := by
  obtain ⟨pos', read⟩ := readNumber_int fits delimited pos
  refine ⟨pos', ?_⟩
  obtain ⟨d, tail, digits, digit⟩ : ∃ d tail, Nat.toDigits 10 n.natAbs = d :: tail ∧
      d.isDigit = true := by
    rcases toDigits_shape n.natAbs with zero | ⟨d, tail, digits, low, high, -⟩
    · exact ⟨'0', [], zero, by decide⟩
    · refine ⟨d, tail, digits, ?_⟩
      simp only [Char.isDigit, Bool.and_eq_true, decide_eq_true_eq]
      exact ⟨Char.le_trans (by decide) low, high⟩
  rw [← read, toString_int_toList, digits, List.append_assoc, List.cons_append]
  exact readValue_numeral digit (by split <;> simp) _ fuel room pos

/-- A value's written text is read back as the value, whatever delimiter follows it, with more
fuel than the text has characters and room for the value's nesting. -/
def ReadsBack (v : Value) : Prop :=
  ∀ (fuel room : Nat) (rest : List Char) (pos : Nat), v.write.toList.length < fuel →
    v.nesting ≤ room → Delimited rest →
    ∃ pos', readValue fuel room (v.write.toList ++ rest) pos = .ok (v, rest, pos')

theorem writeItems_single (v : Value) : (writeItems false [v]).toList = v.write.toList := rfl

theorem writeItems_cons_cons (v w : Value) (more : List Value) :
    (writeItems false (v :: w :: more)).toList =
      v.write.toList ++ ',' :: (writeItems false (w :: more)).toList := by
  rw [writeItems.eq_3 _ _ _ (List.cons_ne_nil _ _)]
  simp [Value.write]

theorem writeItems_opening {items : List Value} (plain : ∀ v ∈ items, v.Plain)
    (nonempty : items ≠ []) : ∃ c t, (writeItems false items).toList = c :: t ∧ Opening c := by
  match items, nonempty with
  | [v], _ => exact (plain v List.mem_cons_self).write_cons
  | v :: w :: more, _ =>
    obtain ⟨c, t, text, opening⟩ := (plain v List.mem_cons_self).write_cons
    refine ⟨c, t ++ ',' :: (writeItems false (w :: more)).toList, ?_, opening⟩
    rw [writeItems_cons_cons, text, List.cons_append]

theorem skipSpace_writeItems {items : List Value} (plain : ∀ v ∈ items, v.Plain)
    (nonempty : items ≠ []) (rest : List Char) (pos : Nat) :
    skipSpace ((writeItems false items).toList ++ rest) pos =
      ((writeItems false items).toList ++ rest, pos) := by
  obtain ⟨c, t, text, opening⟩ := writeItems_opening plain nonempty
  rw [text, List.cons_append, skipSpace_cons opening.isSpace]

/-- Written items and the closing bracket are read as the array of the items read before and
these, in order. -/
theorem readItems_writeItems {items : List Value} (plain : ∀ v ∈ items, v.Plain)
    (reads : ∀ v ∈ items, ReadsBack v) (nonempty : items ≠ []) {room : Nat} (fuel : Nat)
    (acc : List Value) (rest : List Char) (pos : Nat)
    (fueled : (writeItems false items).toList.length + 1 < fuel)
    (roomy : nestingOfItems items ≤ room) :
    ∃ pos', readItems fuel room acc ((writeItems false items).toList ++ ']' :: rest) pos =
      .ok (.arr (acc.reverse ++ items), rest, pos') := by
  induction items generalizing acc fuel pos with
  | nil => contradiction
  | cons v more ih =>
    obtain ⟨f, rfl⟩ : ∃ f, fuel = f + 1 := ⟨fuel - 1, by omega⟩
    have vRoom : v.nesting ≤ room := Nat.le_trans (Nat.le_max_left _ _) roomy
    cases more with
    | nil =>
      rw [writeItems_single] at fueled ⊢
      obtain ⟨p, read⟩ := reads v List.mem_cons_self f room (']' :: rest) pos (by omega) vRoom
        (by simp [Delimited])
      refine ⟨p + 1, ?_⟩
      rw [readItems.eq_2, read]
      simp [skipSpace_cons (c := ']') rfl]
    | cons w more =>
      rw [writeItems_cons_cons] at fueled ⊢
      simp only [List.length_append, List.length_cons] at fueled
      obtain ⟨p, read⟩ := reads v List.mem_cons_self f room
        (',' :: ((writeItems false (w :: more)).toList ++ ']' :: rest)) pos (by omega) vRoom
        (by simp [Delimited])
      have restPlain : ∀ u ∈ w :: more, u.Plain := fun u mem => plain u (List.mem_cons_of_mem v mem)
      obtain ⟨p', others⟩ := ih restPlain (fun u mem => reads u (List.mem_cons_of_mem v mem))
        (List.cons_ne_nil _ _) f (v :: acc) (p + 1) (by omega)
        (Nat.le_trans (Nat.le_max_right _ _) roomy)
      refine ⟨p', ?_⟩
      rw [readItems.eq_2, List.append_assoc, List.cons_append, read]
      simp only [skipSpace_cons (c := ',') rfl, skipSpace_writeItems restPlain (List.cons_ne_nil _ _)]
      rw [others]
      simp

theorem writeMember_toList (k : String) (v : Value) :
    (quote false k ++ ":" ++ v.writeWith false).toList =
      '"' :: (quotedBody k ++ '"' :: ':' :: v.write.toList) := by
  simp [quote_toList, Value.write]

theorem writeFields_single (k : String) (v : Value) :
    (writeFields false [(k, v)]).toList = '"' :: (quotedBody k ++ '"' :: ':' :: v.write.toList) :=
  writeMember_toList k v

theorem writeFields_cons_cons (k : String) (v : Value) (kv : String × Value)
    (more : List (String × Value)) :
    (writeFields false ((k, v) :: kv :: more)).toList =
      '"' :: (quotedBody k ++ '"' :: ':' ::
        (v.write.toList ++ ',' :: (writeFields false (kv :: more)).toList)) := by
  rw [writeFields.eq_3 _ _ _ _ (List.cons_ne_nil _ _), String.toList_append,
    String.toList_append, writeMember_toList]
  simp

theorem writeFields_quote {fields : List (String × Value)} (nonempty : fields ≠ []) :
    (writeFields false fields).toList = '"' :: (writeFields false fields).toList.tail := by
  match fields, nonempty with
  | [(k, v)], _ => rw [writeFields_single]; rfl
  | (k, v) :: kv :: more, _ => rw [writeFields_cons_cons]; rfl

theorem Keyed.contains_eq_false_of_not_mem {acc : Fields} {k : String}
    (absent : k ∉ acc.map (·.1)) : Keyed.contains acc k = false := by
  simpa [Keyed.contains] using fun e mem same => absent (List.mem_map.mpr ⟨e, mem, same⟩)

section Member

variable {k : String} {v : Value} (named : Spelled k) (plain : v.Plain) (reads : ReadsBack v)
  {room : Nat} (fuel : Nat) (acc : Fields) (fresh : k ∉ acc.map (·.1))
  (fueled : v.write.toList.length < fuel) (roomy : v.nesting ≤ room)
include named plain reads fresh fueled roomy

/-- The last member is read as its name and value, appended to the members read before. -/
theorem readMembers_last (rest : List Char) (pos : Nat) :
    ∃ pos', readMembers (fuel + 1) room acc
        ('"' :: (quotedBody k ++ '"' :: ':' :: (v.write.toList ++ '\x7d' :: rest))) pos =
      .ok (.obj (acc ++ [(k, v)]), rest, pos') := by
  obtain ⟨p, name⟩ := readString_quoted named (':' :: (v.write.toList ++ '\x7d' :: rest)) pos
  obtain ⟨p', value⟩ := reads fuel room ('\x7d' :: rest) (p + 1) fueled roomy (by simp [Delimited])
  refine ⟨p' + 1, ?_⟩
  rw [readMembers.eq_2, name]
  simp [skipSpace_cons (c := ':') rfl, plain.skipSpace_write, value, Fields.set,
    Keyed.set_of_not_contains (Keyed.contains_eq_false_of_not_mem fresh),
    skipSpace_cons (c := '\x7d') rfl]

/-- A member followed by a comma is read as its name and value, and reading goes on with the
next member. -/
theorem readMembers_next (more : List Char) (pos : Nat) :
    ∃ pos', readMembers (fuel + 1) room acc
        ('"' :: (quotedBody k ++ '"' :: ':' :: (v.write.toList ++ ',' :: '"' :: more))) pos =
      readMembers fuel room (acc ++ [(k, v)]) ('"' :: more) pos' := by
  obtain ⟨p, name⟩ := readString_quoted named (':' :: (v.write.toList ++ ',' :: '"' :: more)) pos
  obtain ⟨p', value⟩ := reads fuel room (',' :: '"' :: more) (p + 1) fueled roomy
    (by simp [Delimited])
  refine ⟨p' + 1, ?_⟩
  rw [readMembers.eq_2, name]
  simp [skipSpace_cons (c := ':') rfl, plain.skipSpace_write, value, Fields.set,
    Keyed.set_of_not_contains (Keyed.contains_eq_false_of_not_mem fresh),
    skipSpace_cons (c := ',') rfl, skipSpace_cons (c := '"') rfl]

end Member

/-- Written members and the closing brace are read as the object of the members read before and
these, in order. -/
theorem readMembers_writeFields {fields : List (String × Value)}
    (named : ∀ kv ∈ fields, Spelled kv.1) (plain : ∀ kv ∈ fields, kv.2.Plain)
    (reads : ∀ kv ∈ fields, ReadsBack kv.2) (nonempty : fields ≠ []) {room : Nat} (fuel : Nat)
    (acc : Fields) (fresh : (acc.map (·.1) ++ fields.map (·.1)).Nodup) (rest : List Char)
    (pos : Nat) (fueled : (writeFields false fields).toList.length + 1 < fuel)
    (roomy : nestingOfFields fields ≤ room) :
    ∃ pos', readMembers fuel room acc ((writeFields false fields).toList ++ '\x7d' :: rest) pos =
      .ok (.obj (acc ++ fields), rest, pos') := by
  induction fields generalizing acc fuel pos with
  | nil => contradiction
  | cons kv more ih =>
    obtain ⟨k, v⟩ := kv
    obtain ⟨f, rfl⟩ : ∃ f, fuel = f + 1 := ⟨fuel - 1, by omega⟩
    have kNamed : Spelled k := named (k, v) List.mem_cons_self
    have vPlain : v.Plain := plain (k, v) List.mem_cons_self
    have vReads : ReadsBack v := reads (k, v) List.mem_cons_self
    have bounded : max v.nesting (nestingOfFields more) ≤ room := by rwa [nestingOfFields] at roomy
    obtain ⟨vRoom, moreRoom⟩ := Nat.max_le.mp bounded
    have kFresh : k ∉ acc.map (·.1) := fun mem =>
      (List.nodup_append.mp fresh).2.2 k mem k (by simp) rfl
    cases more with
    | nil =>
      rw [writeFields_single] at fueled ⊢
      simp only [List.length_cons, List.length_append] at fueled
      simpa using readMembers_last kNamed vPlain vReads f acc kFresh (by omega) vRoom rest pos
    | cons kv' more =>
      obtain ⟨k', v'⟩ := kv'
      rw [writeFields_cons_cons] at fueled ⊢
      simp only [List.length_cons, List.length_append] at fueled
      have opens := writeFields_quote (List.cons_ne_nil (k', v') more)
      rw [opens]
      simp only [List.cons_append, List.append_assoc]
      obtain ⟨p, first⟩ := readMembers_next kNamed vPlain vReads f acc kFresh (by omega) vRoom
        ((writeFields false ((k', v') :: more)).toList.tail ++ '\x7d' :: rest) pos
      obtain ⟨p', others⟩ := ih (fun kv mem => named kv (List.mem_cons_of_mem _ mem))
        (fun kv mem => plain kv (List.mem_cons_of_mem _ mem))
        (fun kv mem => reads kv (List.mem_cons_of_mem _ mem)) (List.cons_ne_nil _ _) f
        (acc ++ [(k, v)]) (by simpa using fresh) p (by omega)
        moreRoom
      rw [opens, List.cons_append] at others
      rw [first]
      exact ⟨p', by simpa using others⟩

theorem ReadsBack.of_succ {v : Value}
    (reads : ∀ f room rest pos, v.write.toList.length < f + 1 → v.nesting ≤ room →
      Delimited rest → ∃ pos', readValue (f + 1) room (v.write.toList ++ rest) pos =
        .ok (v, rest, pos')) :
    ReadsBack v := by
  intro fuel room rest pos fueled roomy delimited
  obtain ⟨f, rfl⟩ : ∃ f, fuel = f + 1 := ⟨fuel - 1, by omega⟩
  exact reads f room rest pos fueled roomy delimited

/-- Every value that writing and reading agree on is read back from its written text. -/
theorem Value.Plain.readsBack {v : Value} (plain : v.Plain) : ReadsBack v := by
  induction plain <;> refine ReadsBack.of_succ fun f room rest pos fueled roomy delimited => ?_
  case null => exact ⟨pos + 4, readValue.eq_8 _ _ _ _⟩
  case bool b =>
    cases b
    · exact ⟨pos + 5, readValue.eq_10 _ _ _ _⟩
    · exact ⟨pos + 4, readValue.eq_9 _ _ _ _⟩
  case int n fits => exact readValue_int fits delimited f room pos
  case str s spelled =>
    obtain ⟨p, read⟩ := readString_quoted spelled rest pos
    refine ⟨p, ?_⟩
    rw [Value.write, Value.writeWith, quote_toList]
    simp only [List.cons_append, List.append_assoc, List.nil_append]
    rw [readValue.eq_3, read]
  case arr items each ih =>
    -- the bracket takes one level of room; the items then need the rest
    obtain ⟨r, rfl⟩ : ∃ r, room = r + 1 := ⟨room - 1, by simp only [Value.nesting] at roomy; omega⟩
    rw [Value.write_arr] at fueled ⊢
    simp only [List.cons_append, List.append_assoc, List.nil_append]
    rw [readValue.eq_7]
    cases items with
    | nil => exact ⟨pos + 2, by simp [writeItems, skipSpace_cons (c := ']') rfl]⟩
    | cons v more =>
      obtain ⟨p, read⟩ := readItems_writeItems each ih (List.cons_ne_nil _ _) f [] rest (pos + 1)
        (by simp only [List.length_cons, List.length_append] at fueled; omega)
        (by simpa [Value.nesting] using roomy)
      refine ⟨p, ?_⟩
      obtain ⟨c, t, opens, opening⟩ := writeItems_opening each (List.cons_ne_nil _ _)
      rw [skipSpace_writeItems each (List.cons_ne_nil _ _)]
      rw [opens] at read ⊢
      dsimp only
      split
      · next same => exact absurd (List.cons.inj same).1 opening.2.2.1
      · simpa using read
  case obj fields named distinct each ih =>
    obtain ⟨r, rfl⟩ : ∃ r, room = r + 1 := ⟨room - 1, by simp only [Value.nesting] at roomy; omega⟩
    rw [Value.write_obj] at fueled ⊢
    simp only [List.cons_append, List.append_assoc, List.nil_append]
    rw [readValue.eq_5]
    cases fields with
    | nil => exact ⟨pos + 2, by simp [writeFields, skipSpace_cons (c := '\x7d') rfl]⟩
    | cons kv more =>
      obtain ⟨p, read⟩ := readMembers_writeFields named each ih (List.cons_ne_nil _ _) f []
        (by simpa using distinct) rest (pos + 1)
        (by simp only [List.length_cons, List.length_append] at fueled; omega)
        (by simpa [Value.nesting] using roomy)
      refine ⟨p, ?_⟩
      have opens := writeFields_quote (List.cons_ne_nil kv more)
      rw [opens] at read ⊢
      simpa [skipSpace_cons (c := '"') rfl] using read


theorem nonAscii_codePoints_cons_ascii {c : Char} (ascii : c.toNat < 0x80) (rest : List Char) :
    nonAscii (codePoints (c :: rest)) = nonAscii (codePoints rest) :=
  nonAscii_codePoints_ascii_append (a := [c]) (by simpa using ascii) rest

theorem quote_toList_append (s : String) (rest : List Char) :
    (quote false s).toList ++ rest = '"' :: (quotedBody s ++ '"' :: rest) := by
  simp [quote_toList]

theorem toString_int_ascii (n : Int) : ∀ c ∈ (toString n).toList, c.toNat < 0x80 := by
  rw [toString_int_toList]
  intro c mem
  rcases List.mem_append.mp mem with sign | digit
  · split at sign <;> simp_all
  · have opening := Opening.of_isDigit
      (Nat.isDigit_of_mem_toDigits (b := 10) (by decide) (by decide) digit)
    have below := opening.2.1
    omega

theorem nonAscii_writeItems {items : List Value}
    (raw : ∀ v ∈ items, ∀ rest, nonAscii (codePoints (v.write.toList ++ rest)) =
      nonAscii v.textPoints ++ nonAscii (codePoints rest))
    (rest : List Char) :
    nonAscii (codePoints ((writeItems false items).toList ++ rest)) =
      nonAscii (textPointsOfItems items) ++ nonAscii (codePoints rest) := by
  induction items with
  | nil => simp [writeItems, textPointsOfItems]
  | cons v more ih =>
    have others := ih fun u mem => raw u (List.mem_cons_of_mem v mem)
    cases more with
    | nil => simp [writeItems_single, raw v List.mem_cons_self, textPointsOfItems]
    | cons w more =>
      rw [writeItems_cons_cons, List.append_assoc, raw v List.mem_cons_self, List.cons_append,
        nonAscii_codePoints_cons_ascii (by decide), others]
      simp [textPointsOfItems]

theorem nonAscii_member (k : String) {v : Value}
    (raw : ∀ rest, nonAscii (codePoints (v.write.toList ++ rest)) =
      nonAscii v.textPoints ++ nonAscii (codePoints rest))
    (rest : List Char) :
    nonAscii (codePoints ('"' :: (quotedBody k ++ '"' :: ':' :: (v.write.toList ++ rest)))) =
      nonAscii (codePoints k.toList) ++ nonAscii v.textPoints ++ nonAscii (codePoints rest) := by
  rw [← quote_toList_append, nonAscii_quote, nonAscii_codePoints_cons_ascii (by decide), raw,
    List.append_assoc]

theorem nonAscii_writeFields {fields : List (String × Value)}
    (raw : ∀ kv ∈ fields, ∀ rest, nonAscii (codePoints (kv.2.write.toList ++ rest)) =
      nonAscii kv.2.textPoints ++ nonAscii (codePoints rest))
    (rest : List Char) :
    nonAscii (codePoints ((writeFields false fields).toList ++ rest)) =
      nonAscii (textPointsOfFields fields) ++ nonAscii (codePoints rest) := by
  induction fields with
  | nil => simp [writeFields, textPointsOfFields]
  | cons kv more ih =>
    obtain ⟨k, v⟩ := kv
    have first := nonAscii_member k (raw (k, v) List.mem_cons_self)
    have others := ih fun kv mem => raw kv (List.mem_cons_of_mem _ mem)
    cases more with
    | nil =>
      rw [writeFields_single]
      simp only [List.cons_append, List.append_assoc]
      simp [first, textPointsOfFields]
    | cons kv more =>
      rw [writeFields_cons_cons]
      simp only [List.cons_append, List.append_assoc]
      rw [first, nonAscii_codePoints_cons_ascii (by decide), others]
      simp [textPointsOfFields]

/-- Writing keeps every character outside ASCII of a value's texts and names as it is, in
order, and adds none. -/
theorem Value.Plain.nonAscii_write {v : Value} (plain : v.Plain) (rest : List Char) :
    nonAscii (codePoints (v.write.toList ++ rest)) =
      nonAscii v.textPoints ++ nonAscii (codePoints rest) := by
  induction plain generalizing rest with
  | null =>
    simp only [Value.textPoints, nonAscii_nil, List.nil_append]
    exact nonAscii_codePoints_ascii_append (by simp [Value.write, Value.writeWith]) rest
  | bool b =>
    simp only [Value.textPoints, nonAscii_nil, List.nil_append]
    exact nonAscii_codePoints_ascii_append (by cases b <;> simp [Value.write, Value.writeWith])
      rest
  | int n _ => exact nonAscii_codePoints_ascii_append (toString_int_ascii n) rest
  | str s _ => exact nonAscii_quote s rest
  | arr items _ ih =>
    rw [Value.write_arr]
    simp only [List.cons_append, List.append_assoc, List.nil_append]
    rw [nonAscii_codePoints_cons_ascii (by decide), nonAscii_writeItems ih,
      nonAscii_codePoints_cons_ascii (by decide), Value.textPoints]
  | obj fields _ _ _ ih =>
    rw [Value.write_obj]
    simp only [List.cons_append, List.append_assoc, List.nil_append]
    rw [nonAscii_codePoints_cons_ascii (by decide), nonAscii_writeFields ih,
      nonAscii_codePoints_cons_ascii (by decide), Value.textPoints]


/-- A written value is a whole document read back as the value when its nesting fits the room:
it starts with no byte-order mark or blank, and nothing follows it. -/
theorem Value.Plain.readNested_write {v : Value} (plain : v.Plain) {room : Nat}
    (roomy : v.nesting ≤ room) : Value.readNested room v.write = .ok v := by
  obtain ⟨c, t, text, opening⟩ := plain.write_cons
  obtain ⟨p, read⟩ := plain.readsBack (2 * v.write.toList.length + 2) room [] 0 (by omega) roomy
    trivial
  rw [List.append_nil, text] at read
  have noMark : c ≠ '\ufeff' := by
    rintro rfl
    exact absurd opening.2.1 (by decide)
  unfold Value.readNested
  dsimp only
  rw [text]
  split
  · next mark => exact absurd (List.cons.inj mark).1 noMark
  · rw [skipSpace_cons opening.isSpace, read]
    simp [skipSpace]

theorem Value.Plain.isBlankText_write {v : Value} (plain : v.Plain) :
    Text.isBlankText v.write = false := by
  obtain ⟨c, t, text, opening⟩ := plain.write_cons
  simp [Text.isBlankText, text, opening.isBlank]

/-- A value built from null, booleans, integers of at most `maxIntegerDigits` digits, texts,
arrays and objects with distinct names, nested shallowly enough for the calls in progress, is
written with `depth` calls in progress, and its text is read back as the value itself with
`depth'` calls in progress; the text keeps the characters outside ASCII of the value's texts and
names as they are, in order, and has no other. -/
theorem Value.Plain.writeText_parses_back {v : Value} (plain : v.Plain) {depth depth' : Nat}
    (writable : depth + 5 + v.nesting ≤ callLimit) (readable : depth' + 5 + v.nesting ≤ callLimit) :
    ∃ text, v.writeText depth = .ok text ∧ Parsed.ofText depth' (some text) = .ok (.value v) ∧
      nonAscii (codePoints text.toList) = nonAscii v.textPoints := by
  refine ⟨v.write, ?_, ?_, ?_⟩
  · simp only [Value.writeText, ite_eq_right_iff, reduceCtorEq, imp_false]
    omega
  · have roomy : v.nesting ≤ nestingRoom (depth' + 1) := by
      unfold nestingRoom
      omega
    simp [Parsed.ofText, plain.isBlankText_write, Value.readText, Value.read,
      plain.readNested_write roomy]
    rfl
  · simpa [codePoints] using plain.nonAscii_write []

theorem Value.Plain.naive_members_parse_back :
    let sample : Value := .obj [("naïve", .arr [.int (-12), .str "a\"b\\\n€", .null]),
      ("ok", .bool true)]
    ∃ text, sample.writeText 4 = .ok text ∧ Parsed.ofText 4 (some text) = .ok (.value sample) ∧
      nonAscii (codePoints text.toList) = nonAscii sample.textPoints := by
  intro sample
  have plain : sample.Plain := by
    refine .obj _ ?_ (by decide) ?_
    · simp only [List.mem_cons, List.mem_nil_iff, or_false, forall_eq_or_imp, forall_eq]
      exact ⟨spelled_of_unmarked (by simp), spelled_of_unmarked (by simp)⟩
    simp only [List.mem_cons, List.mem_nil_iff, or_false, forall_eq_or_imp, forall_eq]
    refine ⟨.arr _ ?_, .bool true⟩
    simp only [List.mem_cons, List.mem_nil_iff, or_false, forall_eq_or_imp, forall_eq]
    exact ⟨.int _ (by decide), .str _ (spelled_of_unmarked (by simp)), .null⟩
  have shallow : sample.nesting = 2 := by
    simp [sample, Value.nesting, nestingOfItems, nestingOfFields]
  exact Value.Plain.writeText_parses_back plain (by simp [shallow, callLimit])
    (by simp [shallow, callLimit])

theorem nesting_repeat_arr (n : Nat) (v : Value) :
    (Nat.repeat (fun v => Value.arr [v]) n v).nesting = v.nesting + n := by
  induction n with
  | zero => rfl
  | succ n ih =>
    rw [Nat.repeat, Value.nesting, nestingOfItems, nestingOfItems, ih]
    omega

/-- A value nested past the calls left is not written at all, even with no call in progress. -/
theorem Value.deep_arrays_not_written :
    (Nat.repeat (fun v => Value.arr [v]) 996 .null).writeText 0 =
      .error (Failure.simple .tooDeep
        "maximum recursion depth exceeded while encoding a JSON object") := by
  rw [Value.writeText, nesting_repeat_arr, if_pos (by decide)]

end Courier.Json
