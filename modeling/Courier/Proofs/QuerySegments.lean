import Mathlib.Data.List.Forall2
import Mathlib.Data.List.TakeWhile
import Courier.Proofs.CursorQuery
import Courier.Proofs.HeaderMerge
import Courier.Connector.Akeneo

/-!
Queries as `&`-separated segments, and setting one parameter. Splitting a text at a one-character
separator is splitting its characters (`List.splitOn`), so joining the pieces gives the text
back and splitting a join of pieces free of the separator gives the pieces.

Setting `key` to `value` goes one of two ways. When some segment is named `key` (names
lowercased), the first segment that assigns the key, that is the key matched without regard to
case and then `=`, is replaced by `key=value`, and every other segment stays as it is, in place.
When no segment is named `key`, the query is rebuilt from a table of its segments keyed by their
names with blanks trimmed, and `key=value` is set in that table; when those names are distinct
and none is the key, that appends `key=value` after the query's segments, leading `&` dropped.
The page size of a catalogue query is set the same way, under `limit`.
-/

namespace Courier.Text

/-- Splitting at a one-character separator is splitting the list of characters, the piece read
so far put in front of the first piece. -/
theorem splitPieces_eq_splitOnPPrepend (sep : Char) :
    ∀ (cs current : List Char),
      splitPieces [sep] cs 0 current = cs.splitOnPPrepend (· == sep) current
  | [], current => rfl
  | c :: rest, current => by
    by_cases at_sep : c = sep
    · subst at_sep
      rw [splitPieces_sep, splitPieces_eq_splitOnPPrepend c rest [],
        List.splitOnPPrepend_cons_pos (by simp)]
      rfl
    · have kept : (c == sep) = false := by simpa using at_sep
      rw [splitPieces, if_neg (by simpa [List.isPrefixOf] using Ne.symm at_sep),
        splitPieces_eq_splitOnPPrepend sep rest (c :: current),
        @List.splitOnPPrepend_cons_neg Char (· == sep) c rest current kept]

theorem splitText_eq_splitOn (s : String) (sep : Char) :
    splitText s (String.singleton sep) = (s.toList.splitOn sep).map String.ofList := by
  rw [splitText, if_neg (by simp [String.isEmpty_iff]), String.toList_singleton,
    splitPieces_eq_splitOnPPrepend]
  rfl

theorem not_mem_of_mem_splitOn {sep : Char} :
    ∀ {cs piece : List Char}, piece ∈ cs.splitOn sep → sep ∉ piece
  | [], piece, mem => by
    rw [List.splitOn_nil, List.mem_singleton] at mem
    simp [mem]
  | c :: rest, piece, mem => by
    rw [List.splitOn_cons_eq_if_modifyHead] at mem
    split at mem
    · rcases List.mem_cons.1 mem with rfl | later
      · simp
      · exact not_mem_of_mem_splitOn later
    · next apart =>
      have different : c ≠ sep := by simpa using apart
      cases pieces : rest.splitOn sep with
      | nil => exact absurd pieces (List.splitOn_ne_nil sep rest)
      | cons first more =>
        rw [pieces, List.modifyHead_cons] at mem
        rcases List.mem_cons.1 mem with rfl | later
        · have rested := @not_mem_of_mem_splitOn sep rest first (by simp [pieces])
          simp [Ne.symm different, rested]
        · exact @not_mem_of_mem_splitOn sep rest piece (by simp [pieces, later])

end Courier.Text

namespace Courier.Url.Query

open Courier.Text


theorem segments_eq (q : String) : segments q = (q.toList.splitOn '&').map String.ofList :=
  splitText_eq_splitOn q '&'

theorem segments_ne_nil (q : String) : segments q ≠ [] := by
  simp [segments_eq]

theorem amp_not_mem_of_mem_segments {q s : String} (mem : s ∈ segments q) : '&' ∉ s.toList := by
  rw [segments_eq] at mem
  obtain ⟨piece, listed, rfl⟩ := List.mem_map.1 mem
  simpa using not_mem_of_mem_splitOn listed

theorem intercalate_segments (q : String) : "&".intercalate (segments q) = q := by
  apply String.toList_injective
  rw [segments_eq, String.toList_intercalate, List.map_map, show "&".toList = ['&'] from rfl]
  simp

theorem segments_intercalate {parts : List String} (nonempty : parts ≠ [])
    (absent : ∀ p ∈ parts, '&' ∉ p.toList) : segments ("&".intercalate parts) = parts :=
  splitText_intercalate rfl nonempty absent

/-- The characters of segments joined with `&`: the first, then `&` before each of the others. -/
def afterSeps (rest : List (List Char)) : List Char :=
  rest.flatMap ('&' :: ·)

theorem intercalate_cons (s : List Char) (rest : List (List Char)) :
    ['&'].intercalate (s :: rest) = s ++ afterSeps rest := by
  induction rest generalizing s with
  | nil => simp [afterSeps]
  | cons t more ih =>
    rw [List.intercalate_cons_cons, ih t]
    simp [afterSeps]

theorem mem_intercalate {c : Char} {s : List Char} {parts : List (List Char)} (mem : c ∈ s)
    (listed : s ∈ parts) : c ∈ ['&'].intercalate parts := by
  obtain ⟨first, rest, rfl⟩ := List.exists_cons_of_ne_nil (List.ne_nil_of_mem listed)
  rw [intercalate_cons]
  rcases List.mem_cons.1 listed with rfl | later
  · exact List.mem_append_left _ mem
  · exact List.mem_append_right _ (List.mem_flatMap.2 ⟨s, later, List.mem_cons_of_mem _ mem⟩)


/-- A segment assigns `key` when it starts with the key, matched without regard to case, then
`=`. -/
def Assigns (key segment : String) : Prop :=
  ∃ name value, segment.toList = name ++ '=' :: value ∧
    List.Forall₂ (fun p c => caselessMatch p c = true) key.toList name

def AssignsChars (key segment : List Char) : Prop :=
  ∃ name value, segment = name ++ '=' :: value ∧
    List.Forall₂ (fun p c => caselessMatch p c = true) key name

/-- A separator matches only itself, so a key free of it never runs past a segment. -/
theorem caselessMatch_amp (p : Char) : caselessMatch p '&' = ('&' == p) := by
  simp [caselessMatch]

theorem caselessMatch_self (p : Char) : caselessMatch p p = true := by
  unfold caselessMatch
  split
  · simp
  · split <;> simp

theorem afterAssignment_of_forall₂ {key name : List Char}
    (matched : List.Forall₂ (fun p c => caselessMatch p c = true) key name) (tail : List Char) :
    afterAssignment key (name ++ '=' :: tail) = some (tail.dropWhile (· ≠ '&')) := by
  induction matched with
  | nil => rfl
  | cons head _ ih => simp [afterAssignment, head, ih]

/-- A segment that assigns the key is matched within itself: the text after it is left. -/
theorem afterAssignment_assigns {key segment : List Char} (assigns : AssignsChars key segment)
    (absent : '&' ∉ segment) (rest : List (List Char)) :
    afterAssignment key (segment ++ afterSeps rest) = some (afterSeps rest) := by
  obtain ⟨name, value, rfl, matched⟩ := assigns
  have valueFree : ∀ c ∈ value, c ≠ '&' := fun c mem same =>
    absent (List.mem_append_right _ (List.mem_cons_of_mem _ (same ▸ mem)))
  rw [List.append_assoc, List.cons_append, afterAssignment_of_forall₂ matched,
    List.dropWhile_append_of_pos (by simpa using valueFree)]
  cases rest with
  | nil => rfl
  | cons t more => simp [afterSeps]

/-- A segment that does not assign the key is not matched at its start, even with the segments
after it. -/
theorem afterAssignment_not_assigns {key : List Char} (keyFree : '&' ∉ key) :
    ∀ {segment : List Char}, ¬ AssignsChars key segment → '&' ∉ segment →
      ∀ rest, afterAssignment key (segment ++ afterSeps rest) = none := by
  induction key with
  | nil =>
    intro segment unassigned absent rest
    match segment, rest with
    | [], [] => rfl
    | [], t :: more => rfl
    | '=' :: value, _ => exact absurd ⟨[], value, rfl, .nil⟩ unassigned
    | c :: value, _ =>
      have different : c ≠ '=' := fun same => unassigned ⟨[], value, by rw [same]; rfl, .nil⟩
      simp [afterAssignment, different]
  | cons p ks ih =>
    intro segment unassigned absent rest
    have notAmp : p ≠ '&' := fun same => keyFree (by simp [same])
    match segment, rest with
    | [], [] => rfl
    | [], t :: more => simp [afterSeps, afterAssignment, caselessMatch_amp, Ne.symm notAmp]
    | c :: tail, rest =>
      by_cases head : caselessMatch p c = true
      · have rested : ¬ AssignsChars ks tail := fun ⟨name, value, split, matched⟩ =>
          unassigned ⟨c :: name, value, by simp [split], .cons head matched⟩
        rw [List.cons_append, afterAssignment, if_pos head]
        exact ih (fun mem => keyFree (List.mem_cons_of_mem p mem)) rested
          (fun mem => absent (List.mem_cons_of_mem c mem)) rest
      · simp [afterAssignment, head]


theorem replaceAfterAmpersand_append {key replacement : List Char} :
    ∀ {segment : List Char}, '&' ∉ segment → ∀ before tail,
      replaceAfterAmpersand key replacement before (segment ++ tail) =
        replaceAfterAmpersand key replacement (segment.reverse ++ before) tail
  | [], _, before, tail => rfl
  | c :: segment, absent, before, tail => by
    have different : c ≠ '&' := fun same => absent (by simp [same])
    rw [List.cons_append, replaceAfterAmpersand.eq_3 _ _ _ _ _ different,
      replaceAfterAmpersand_append (fun mem => absent (List.mem_cons_of_mem c mem))]
    simp

section Replace

variable {key replacement : List Char} (keyFree : '&' ∉ key)
include keyFree

/-- After a separator, the first segment that assigns the key is replaced, every other one kept;
`before` holds the characters passed, last first. -/
theorem replaceAfterAmpersand_afterSeps :
    ∀ {front : List (List Char)} {segment : List Char} {back : List (List Char)},
      (∀ p ∈ front ++ segment :: back, '&' ∉ p) → AssignsChars key segment →
      (∀ p ∈ front, ¬ AssignsChars key p) → ∀ before,
      replaceAfterAmpersand key replacement before (afterSeps (front ++ segment :: back)) =
        before.reverse ++ afterSeps (front ++ replacement :: back)
  | [], segment, back, absent, assigns, _, before => by
    have free := absent segment (by simp)
    simp only [List.nil_append, afterSeps, List.flatMap_cons, List.cons_append]
    rw [replaceAfterAmpersand.eq_2, ← afterSeps, afterAssignment_assigns assigns free back]
    simp [afterSeps]
  | p :: front, segment, back, absent, assigns, earlier, before => by
    have free := absent p (by simp)
    have unassigned := earlier p (by simp)
    simp only [List.cons_append, afterSeps, List.flatMap_cons]
    rw [replaceAfterAmpersand.eq_2, ← afterSeps, afterAssignment_not_assigns keyFree unassigned free]
    dsimp only
    rw [replaceAfterAmpersand_append free,
      replaceAfterAmpersand_afterSeps (fun q mem => absent q (by simp_all))
        assigns (fun q mem => earlier q (by simp [mem]))]
    simp [afterSeps]

/-- A query whose first segment does not assign the key has no match at its start, and the
search after its separators replaces the first segment that does. -/
theorem replaceAfterAmpersand_intercalate {first : List Char} {front : List (List Char)}
    {segment : List Char} {back : List (List Char)}
    (absent : ∀ p ∈ first :: front ++ segment :: back, '&' ∉ p) (assigns : AssignsChars key segment)
    (earlier : ∀ p ∈ first :: front, ¬ AssignsChars key p) :
    afterAssignment key (['&'].intercalate (first :: front ++ segment :: back)) = none ∧
      replaceAfterAmpersand key replacement [] (['&'].intercalate (first :: front ++ segment :: back)) =
        ['&'].intercalate (first :: front ++ replacement :: back) := by
  have free := absent first (by simp)
  simp only [List.cons_append, intercalate_cons]
  refine ⟨afterAssignment_not_assigns keyFree (earlier first (by simp)) free _, ?_⟩
  rw [replaceAfterAmpersand_append free,
    replaceAfterAmpersand_afterSeps keyFree (fun q mem => absent q (by simp_all)) assigns
      (fun q mem => earlier q (by simp [mem]))]
  simp

/-- After a separator, segments none of which assigns the key are passed over unchanged. -/
theorem replaceAfterAmpersand_unassigned :
    ∀ {rest : List (List Char)}, (∀ p ∈ rest, '&' ∉ p) → (∀ p ∈ rest, ¬ AssignsChars key p) →
      ∀ before, replaceAfterAmpersand key replacement before (afterSeps rest) =
        before.reverse ++ afterSeps rest
  | [], _, _, before => by simp [afterSeps, replaceAfterAmpersand]
  | p :: rest, absent, unassigned, before => by
    have free := absent p (by simp)
    simp only [afterSeps, List.flatMap_cons, List.cons_append]
    rw [replaceAfterAmpersand.eq_2, ← afterSeps,
      afterAssignment_not_assigns keyFree (unassigned p (by simp)) free]
    dsimp only
    rw [replaceAfterAmpersand_append free,
      replaceAfterAmpersand_unassigned (fun q mem => absent q (by simp [mem]))
        (fun q mem => unassigned q (by simp [mem]))]
    simp [afterSeps]

end Replace

/-- Setting a key that some segment names replaces the first segment that assigns it by
`key=value`, every other segment kept in place. -/
theorem setParam_replaces {q key value : String} (keyFree : '&' ∉ key.toList)
    (valueFree : '&' ∉ value.toList) {front : List String} {segment : String}
    {back : List String} (named : hasParam q key = true)
    (split : segments q = front ++ segment :: back) (assigns : Assigns key segment)
    (earlier : ∀ p ∈ front, ¬ Assigns key p) :
    segments (setParam q key value) = front ++ (key ++ "=" ++ value) :: back := by
  have absent : ∀ p ∈ front ++ segment :: back, '&' ∉ p.toList := fun p mem =>
    amp_not_mem_of_mem_segments (split ▸ mem)
  have chars : q.toList =
      ['&'].intercalate (front.map String.toList ++ segment.toList :: back.map String.toList) := by
    rw [← intercalate_segments q, String.toList_intercalate, split]
    simp
  have listed : ∀ p ∈ front.map String.toList ++ segment.toList :: back.map String.toList,
      '&' ∉ p := by
    rw [← List.map_cons, ← List.map_append]
    exact List.forall_mem_map.2 absent
  have replaced : setParam q key value = "&".intercalate (front ++ (key ++ "=" ++ value) :: back) := by
    simp only [setParam, named, if_true, replaceParam, Bool.not_true, Bool.false_eq_true, if_false]
    apply String.toList_injective
    rw [chars]
    cases front with
    | nil =>
      rw [List.map_nil, List.nil_append, intercalate_cons,
        afterAssignment_assigns assigns (absent segment (by simp)) _]
      simp [String.toList_intercalate, intercalate_cons]
    | cons first front =>
      obtain ⟨unmatched, replacedChars⟩ := replaceAfterAmpersand_intercalate keyFree listed assigns
        (by
          rw [← List.map_cons]
          exact List.forall_mem_map.2 earlier)
      rw [List.map_cons, unmatched]
      dsimp only
      rw [replacedChars]
      simp [String.toList_intercalate]
  rw [replaced, segments_intercalate (by simp)]
  intro p mem
  simp only [List.mem_append, List.mem_cons] at mem
  rcases mem with inFront | rfl | inBack
  · exact absent p (by simp [inFront])
  · simp [keyFree, valueFree]
  · exact absent p (by simp [inBack])

/-- Setting a key that some segment names, but that no segment assigns, leaves the query as it
is. -/
theorem setParam_of_unassigned {q key value : String} (keyFree : '&' ∉ key.toList)
    (named : hasParam q key = true) (unassigned : ∀ p ∈ segments q, ¬ Assigns key p) :
    setParam q key value = q := by
  obtain ⟨first, more, split⟩ := List.exists_cons_of_ne_nil (segments_ne_nil q)
  have absent : ∀ p ∈ first :: more, '&' ∉ p.toList := fun p mem =>
    amp_not_mem_of_mem_segments (split ▸ mem)
  have chars : q.toList = first.toList ++ afterSeps (more.map String.toList) := by
    rw [← intercalate_segments q, String.toList_intercalate, split, List.map_cons]
    exact intercalate_cons _ _
  simp only [setParam, named, if_true, replaceParam, Bool.not_true, Bool.false_eq_true, if_false]
  apply String.toList_injective
  rw [chars, afterAssignment_not_assigns keyFree (unassigned first (by simp [split]))
    (absent first (by simp))]
  dsimp only
  rw [replaceAfterAmpersand_append (absent first (by simp)),
    replaceAfterAmpersand_unassigned keyFree
      (List.forall_mem_map.2 fun p mem => absent p (by simp [mem]))
      (List.forall_mem_map.2 fun p mem => unassigned p (by simp [split, mem]))]
  simp


/-- The names of a query's segments with blanks trimmed, as its table of parameters keys them. -/
def names (q : String) : List String :=
  (segments q).map fun s => trim (segmentName s)

theorem foldl_set_distinct {name : String → String} :
    ∀ (segs : List String) (acc : List (String × String)),
      (acc.map Prod.fst ++ segs.map name).Nodup →
        segs.foldl (fun acc s => Keyed.set acc (name s) s) acc =
          acc ++ segs.map fun s => (name s, s)
  | [], acc, _ => by simp
  | s :: rest, acc, distinct => by
    have fresh : name s ∉ acc.map Prod.fst := fun mem =>
      (List.nodup_append.1 distinct).2.2 _ mem _ List.mem_cons_self rfl
    have absent : Keyed.contains acc (name s) = false := by
      simp only [Keyed.contains, List.any_eq_false, beq_iff_eq]
      exact fun e mem same => fresh (List.mem_map.2 ⟨e, mem, same⟩)
    rw [List.foldl_cons, Keyed.set_of_not_contains absent,
      foldl_set_distinct rest _ (by simpa using distinct)]
    simp

/-- With distinct names, the table of parameters holds every segment under its name, in order. -/
theorem params_distinct {q : String} (distinct : (names q).Nodup) :
    params q = (segments q).map fun s => (trim (segmentName s), s) := by
  rw [params, foldl_set_distinct _ _ (by simpa [names] using distinct)]
  simp

/-- Trimming a character from both ends of a text that ends with a stretch free of it trims its
front only. -/
theorem trimChar_append_of_free {c : Char} (front : List Char) {rest : List Char}
    (nonempty : rest ≠ []) (free : c ∉ rest) :
    trimChar c (front ++ rest) = (front ++ rest).dropWhile (· == c) := by
  have kept : ∃ stripped, (front ++ rest).dropWhile (· == c) = stripped ++ rest := by
    obtain ⟨r, more, rfl⟩ := List.exists_cons_of_ne_nil nonempty
    have head : (r == c) = false := by simpa using fun same : r = c => free (by simp [same])
    rw [List.dropWhile_append]
    split
    · exact ⟨[], by simp [head]⟩
    · exact ⟨_, rfl⟩
  obtain ⟨stripped, dropped⟩ := kept
  rw [trimChar, dropped, List.reverse_append]
  cases reversed : rest.reverse with
  | nil => exact absurd (List.reverse_eq_nil_iff.1 reversed) nonempty
  | cons last more =>
    have lastFree : (last == c) = false := by
      have mem : last ∈ rest := List.mem_reverse.1 (by simp [reversed])
      simpa using fun same : last = c => free (same ▸ mem)
    rw [List.cons_append, List.dropWhile_cons, lastFree]
    simpa using (congrArg List.reverse reversed).symm

theorem foldl_set_names {name : String → String} (segs : List String) :
    (segs.foldl (fun acc s => Keyed.set acc (name s) s) []).map Prod.fst =
      (segs.map name).eraseDups := by
  -- the table grows at its end, so the induction adds segments at the end as well
  induction segs using List.reverseRecOn with
  | nil => rfl
  | append_singleton segs s ih =>
    rw [List.foldl_append, List.foldl_cons, List.foldl_nil, Keyed.names_set, ih, List.map_append,
      List.map_singleton, List.eraseDups_concat]
    simp only [List.mem_eraseDups]

/-- The table of parameters keys each name once, in the order names first occur. -/
theorem params_names (q : String) : (params q).map Prod.fst = (names q).eraseDups :=
  foldl_set_names (segments q)

/-- A key that names no segment has no entry in the table of parameters. -/
theorem params_not_contains {q key : String} (fresh : key ∉ names q) :
    Keyed.contains (params q) key = false := by
  simp only [Keyed.contains, List.any_eq_false, beq_iff_eq]
  intro e mem same
  exact fresh (List.mem_eraseDups.1 (params_names q ▸ List.mem_map.2 ⟨e, mem, same⟩))

/-- Setting a key that no segment names, in a query whose segment names are distinct and none
the key, appends `key=value` after the query's segments, leading `&` dropped. -/
theorem setParam_appends {q key value : String} (valueFree : '&' ∉ value.toList)
    (unnamed : hasParam q key = false) (distinct : (names q).Nodup) (fresh : key ∉ names q) :
    setParam q key value =
      String.ofList ((q.toList ++ '&' :: (key ++ "=" ++ value).toList).dropWhile (· == '&')) := by
  have joined : ("&".intercalate (((params q).map (·.2)) ++ [key ++ "=" ++ value])).toList =
      q.toList ++ '&' :: (key ++ "=" ++ value).toList := by
    rw [params_distinct distinct, List.map_map]
    conv => rhs; rw [← intercalate_segments q]
    obtain ⟨first, more, split⟩ := List.exists_cons_of_ne_nil (segments_ne_nil q)
    simp [split, String.toList_intercalate, intercalate_cons, afterSeps, Function.comp_def]
  have ends : q.toList ++ '&' :: (key ++ "=" ++ value).toList =
      (q.toList ++ '&' :: key.toList) ++ ('=' :: value.toList) := by
    simp
  have built : build (Keyed.set (params q) key (key ++ "=" ++ value)) =
      String.ofList ((q.toList ++ '&' :: (key ++ "=" ++ value).toList).dropWhile (· == '&')) := by
    rw [Keyed.set_of_not_contains (params_not_contains fresh), build, if_neg (by simp),
      stripAmpersands, Option.getD_some, List.map_append, List.map_singleton, joined, ends,
      trimChar_append_of_free _ (List.cons_ne_nil _ _) (by simpa using valueFree)]
  have nonempty : (String.ofList ((q.toList ++ '&' :: (key ++ "=" ++ value).toList).dropWhile
      (· == '&'))).isEmpty = false := by
    rw [ends, List.dropWhile_append]
    split <;> simp
  simp only [setParam, unnamed, Bool.false_eq_true, if_false, built, nonempty]

/-- The table of parameters holds, under each name, the last segment of that name. -/
theorem lastSegment_of_mem_params {q : String} {e : String × String} (mem : e ∈ params q) :
    lastSegment q e.1 = some e.2 := by
  rw [← get?_params]
  exact Keyed.get?_of_mem (by rw [params_names]; exact List.nodup_eraseDups _) mem

/-- Trimming a character keeps every other one, so a list holding another is not trimmed away. -/
theorem trimChar_ne_nil {c d : Char} {cs : List Char} (other : d ≠ c) (mem : d ∈ cs) :
    trimChar c cs ≠ [] := by
  rw [trimChar, Ne, List.reverse_eq_nil_iff, List.dropWhile_eq_nil_iff]
  intro trimmed
  have every : ∀ x ∈ cs, (x == c) = true := by
    intro x listed
    rw [← List.takeWhile_append_dropWhile (p := (· == c)) (l := cs), List.mem_append] at listed
    rcases listed with early | late
    · exact List.mem_takeWhile_imp (p := (· == c)) early
    · exact trimmed x (List.mem_reverse.2 late)
  exact other (by simpa using every d mem)

/-- Setting a key that no segment names, trimmed or not, rebuilds the query from its table of
parameters with `key=value` appended. Segments of one name are merged there: the table keys each
name once, in the order names first occur, with the last segment of that name. -/
theorem setParam_merges_repeated_names {q key value : String} (unnamed : hasParam q key = false)
    (fresh : key ∉ names q) :
    (params q).map Prod.fst = (names q).eraseDups ∧
      (∀ e ∈ params q, lastSegment q e.1 = some e.2) ∧
      setParam q key value = build (params q ++ [(key, key ++ "=" ++ value)]) := by
  have nonempty : (build (params q ++ [(key, key ++ "=" ++ value)])).isEmpty = false := by
    have joined : '=' ∈
        ("&".intercalate ((params q ++ [(key, key ++ "=" ++ value)]).map (·.2))).toList := by
      rw [String.toList_intercalate, show "&".toList = ['&'] from rfl]
      exact mem_intercalate (s := (key ++ "=" ++ value).toList) (by simp) (by simp)
    have kept := trimChar_ne_nil (c := '&') (by decide) joined
    simpa [build, stripAmpersands] using kept
  refine ⟨params_names q, fun e mem => lastSegment_of_mem_params mem, ?_⟩
  simp only [setParam, unnamed, Bool.false_eq_true, if_false,
    Keyed.set_of_not_contains (params_not_contains fresh), nonempty]

theorem not_assigns_of_unvalued {key segment : String} (unvalued : '=' ∉ segment.toList) :
    ¬ Assigns key segment := by
  rintro ⟨name, value, split, _⟩
  exact unvalued (by simp [split])

/-- A bare `limit` names the key without assigning it, so the query is kept and carries no page
size; a page size appended to a query with a repeated name keeps only the last segment of it. -/
theorem page_limit_kept_or_merged :
    Connector.Akeneo.withPageLimit (some "limit") 5 = "limit" ∧
      Connector.Akeneo.withPageLimit (some "a=1&a=2") 5 = "a=2&limit=5" := by
  have bare : Connector.Akeneo.normalizeQuery (some "limit") = "limit" := by decide +kernel
  have repeated : Connector.Akeneo.normalizeQuery (some "a=1&a=2") = "a=1&a=2" := by
    decide +kernel
  have size : toString (5 : Int) = "5" := by decide
  constructor
  · rw [Connector.Akeneo.withPageLimit, bare, size]
    refine setParam_of_unassigned (by decide) (by decide +kernel) fun p mem => ?_
    rw [show segments "limit" = ["limit"] by decide +kernel, List.mem_singleton] at mem
    exact not_assigns_of_unvalued (mem ▸ by decide)
  · rw [Connector.Akeneo.withPageLimit, repeated, size,
      (setParam_merges_repeated_names (by decide +kernel) (by decide +kernel)).2.2,
      show params "a=1&a=2" = [("a", "a=2")] by decide +kernel]
    decide +kernel


/-- What setting `key` to `value` does to a query `q`, read as `read q` before the edit. When some
segment is named `key`, the first segment that assigns it becomes `key=value` and the others
stay in place, or, when none assigns it, the query is left as it is. When no segment is named
`key`, the names are distinct and none is the key, `key=value` follows the query's segments. -/
structure SetsParam (edit read : String → String) (key value : String) : Prop where
  replaces : ∀ q front segment back, hasParam (read q) key = true →
    segments (read q) = front ++ segment :: back → Assigns key segment →
    (∀ p ∈ front, ¬ Assigns key p) →
    segments (edit q) = front ++ (key ++ "=" ++ value) :: back
  keeps : ∀ q, hasParam (read q) key = true → (∀ p ∈ segments (read q), ¬ Assigns key p) →
    edit q = read q
  appends : ∀ q, hasParam (read q) key = false → (names (read q)).Nodup → key ∉ names (read q) →
    edit q = String.ofList
      (((read q).toList ++ '&' :: (key ++ "=" ++ value).toList).dropWhile (· == '&'))

theorem setParam_setsParam {key value : String} (keyFree : '&' ∉ key.toList)
    (valueFree : '&' ∉ value.toList) : SetsParam (setParam · key value) id key value where
  replaces _ _ _ _ named split assigns earlier :=
    setParam_replaces keyFree valueFree named split assigns earlier
  keeps _ named unassigned := setParam_of_unassigned keyFree named unassigned
  appends _ unnamed distinct fresh := setParam_appends valueFree unnamed distinct fresh

/-- An edit made on the query as `read` gives it sets the parameter of what `read` gives. -/
theorem SetsParam.comp {edit : String → String} {key value : String}
    (sets : SetsParam edit id key value) (read : String → String) :
    SetsParam (fun q => edit (read q)) read key value :=
  ⟨fun q => sets.replaces (read q), fun q => sets.keeps (read q), fun q => sets.appends (read q)⟩

end Courier.Url.Query

namespace Courier.Connector

open Courier.Url.Query

/-- An integer is written in decimal digits, after a minus sign when it is negative. -/
theorem mem_toString_int {n : Int} {c : Char} (mem : c ∈ (toString n).toList) :
    c.isDigit = true ∨ c = '-' := by
  cases n with
  | ofNat m =>
    simp [toString, Int.repr, Nat.repr] at mem
    exact .inl (Nat.isDigit_of_mem_toDigits (by decide) (by decide) mem)
  | negSucc m =>
    simp [toString, Int.repr, Nat.repr] at mem
    rcases mem with minus | digit
    · exact .inr minus
    · exact .inl (Nat.isDigit_of_mem_toDigits (by decide) (by decide) digit)

/-- A page size is written in decimal digits, so it never holds a separator. -/
theorem amp_not_mem_toString (n : Int) : '&' ∉ (toString n).toList := by
  intro mem
  rcases mem_toString_int mem with digit | minus
  · exact absurd digit (by decide)
  · exact absurd minus (by decide)

/-- Setting a parameter edits a query segment by segment: the first assignment of the key is
replaced in place, or `key=value` is appended when no segment is named by the key. A catalogue
query has its page size set this way under `limit`, after normalising. -/
theorem setParam_spec (key value : String) (keyFree : '&' ∉ key.toList)
    (valueFree : '&' ∉ value.toList) (n : Int) :
    SetsParam (setParam · key value) id key value ∧
      SetsParam (fun q => Akeneo.withPageLimit (some q) n)
        (fun q => Akeneo.normalizeQuery (some q)) "limit" (toString n) := by
  refine ⟨setParam_setsParam keyFree valueFree, ?_⟩
  have general := @setParam_setsParam "limit" (toString n) (by decide) (amp_not_mem_toString n)
  exact general.comp _

/-- A `limit` segment is set in place, and a catalogue query without one gets it appended. -/
theorem limit_set_in_place_or_appended :
    '&' ∉ "limit".toList ∧ '&' ∉ "100".toList ∧
      segments (setParam "limit=10&search=x" "limit" "100") = ["limit=100", "search=x"] ∧
      Akeneo.withPageLimit (some " search=x ") 100 = "search=x&limit=100" := by
  have spec := setParam_spec "limit" "100" (by decide) (by decide) 100
  refine ⟨by decide, by decide, ?_, ?_⟩
  · rw [spec.1.replaces "limit=10&search=x" [] "limit=10" ["search=x"] (by decide +kernel)
      (by decide +kernel)
      ⟨"limit".toList, "10".toList, rfl, List.forall₂_same.2 fun c _ => caselessMatch_self c⟩
      (by simp)]
    decide +kernel
  · rw [spec.2.appends " search=x " (by decide +kernel) (by decide +kernel) (by decide +kernel)]
    decide +kernel

end Courier.Connector
