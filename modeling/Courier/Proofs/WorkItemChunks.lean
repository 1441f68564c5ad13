import Courier.Proofs.EntityCode
import Courier.Proofs.NextLink
import Courier.Proofs.WorkItems
import Courier.Proofs.QuerySegments
import Courier.Proofs.JsonRoundTrip

/-!
Work items fetched by id, in chunks. The ids, cut to a preview's size, are sent in slices of
`maxIdsPerRequest`: the `k`-th request names the ids from `200 * k` on, at most 200 of them,
so there are as many requests as 200 goes into the number of ids, rounded up, and the slices
joined give the ids back. Each request is a GET of the project's work item URL, its query the
slice's ids in decimal joined by commas, then `$expand=fields` and the API version. A run sends
the requests of the first slices, one after the other, and all of them when it succeeds.
-/

namespace Courier.Http

/-- A run that sends, one after the other, the first of `requests` and nothing else, all of them
when it succeeds, and pauses nowhere. -/
def Exchange.SendsPrefix {α : Type} (m : Exchange α) (requests : List Request) (σ : Session) : Prop :=
  ∃ sent, sent <+: requests ∧ (m.run' σ).2.script.received = σ.script.received ++ sent ∧
    (m.run' σ).2.pauses = σ.pauses ∧ ∀ out, (m.run' σ).1 = .ok out → sent = requests

/-- A run that first reads a value that is there sends what the rest sends. -/
theorem Exchange.SendsPrefix.ofExcept_bind {α β : Type} {x : Except Failure α} {a : α}
    {f : α → Exchange β} {requests : List Request} {σ : Session} (read : x = .ok a)
    (rest : Exchange.SendsPrefix (f a) requests σ) :
    Exchange.SendsPrefix (Exchange.ofExcept x >>= f) requests σ := by
  unfold Exchange.SendsPrefix
  rw [Exchange.run'_ofExcept_ok_bind read]
  exact rest

/-- A run followed by steps that leave the session alone sends what the run sends. -/
theorem Exchange.SendsPrefix.bind_local {α β : Type} {m : Exchange α} {f : α → Exchange β}
    {requests : List Request} {σ : Session} (first : Exchange.SendsPrefix m requests σ)
    (keeps : ∀ a σ₁, ((f a).run' σ₁).2 = σ₁) : Exchange.SendsPrefix (m >>= f) requests σ := by
  obtain ⟨sent, listed, received, pauses, complete⟩ := first
  refine ⟨sent, listed, ?_, ?_, fun out ok => ?_⟩
  · rw [Exchange.bind_session _ _ _ keeps, received]
  · rw [Exchange.bind_session _ _ _ keeps, pauses]
  · -- the whole run succeeds only if its first part does
    rw [Exchange.run'_bind] at ok
    rcases ran : m.run' σ with ⟨_ | a, σ₁⟩ <;> rw [ran] at ok complete
    · nomatch ok
    · exact complete a rfl

/-- A fold each of whose steps sends the one request its entry names, and pauses nowhere, sends
the requests of the first entries in order: up to the entry whose step failed, or all of them
when the fold succeeds. -/
theorem Exchange.foldlM_sends {α β : Type} {step : β → α → Exchange β} {request : α → Request}
    (sends : ∀ b a σ, ((step b a).run' σ).2.script.received = σ.script.received ++ [request a] ∧
      ((step b a).run' σ).2.pauses = σ.pauses) :
    ∀ (xs : List α) (b : β) (σ : Session), Exchange.SendsPrefix (xs.foldlM step b) (xs.map request) σ
  | [], b, σ => ⟨[], List.nil_prefix, by simp, rfl, fun _ _ => rfl⟩
  | a :: rest, b, σ => by
    obtain ⟨received, pauses⟩ := sends b a σ
    unfold Exchange.SendsPrefix
    rw [List.foldlM_cons, Exchange.run'_bind]
    rcases stepped : (step b a).run' σ with ⟨_ | b', σ₁⟩ <;> rw [stepped] at received pauses
    · -- the step failed: its request is the last one sent
      exact ⟨[request a], by simp, received, pauses, fun _ failed => nomatch failed⟩
    · obtain ⟨sent, first, received', pauses', complete⟩ := Exchange.foldlM_sends sends rest b' σ₁
      refine ⟨request a :: sent, by simpa using first, ?_, pauses'.trans pauses, fun out ok => ?_⟩
      · rw [received', received, List.append_assoc, List.singleton_append]
      · rw [complete out ok, List.map_cons]

end Courier.Http

namespace Courier.Json

theorem Value.asText_int (n : Int) : (Value.int n).asText = toString n := rfl

end Courier.Json

namespace Courier.Connector

open Courier.Json Courier.Http Courier.Url Courier.Text

theorem Except.exists_ok_of_check {ε α : Type} {e : Except ε α} {p : α → Bool}
    (check : (match e with
      | .ok a => p a
      | .error _ => false) = true) : ∃ a, e = .ok a ∧ p a = true := by
  cases e with
  | error f => nomatch check
  | ok a => exact ⟨a, rfl, check⟩

theorem Except.eq_ok_of_check {ε α : Type} [BEq α] [LawfulBEq α] {e : Except ε α} {v : α}
    (check : (match e with
      | .ok a => a == v
      | .error _ => false) = true) : e = .ok v := by
  obtain ⟨a, rfl, same⟩ := Except.exists_ok_of_check check
  rw [beq_iff_eq.1 same]

/-- A property of every member of a list, decided member by member whatever the members'
type. -/
theorem forall_mem_of_decide {α : Type} {p : α → Prop} [DecidablePred p] {l : List α}
    (checked : decide (∀ x ∈ l, p x) = true) : ∀ x ∈ l, p x :=
  of_decide_eq_true checked


/-- A list cut into slices of `size`: the `k`-th holds the entries from `size * k` on, at most
`size` of them, and there are as many as `size` goes into the length, rounded up. -/
def slices {α : Type} (size : Nat) (xs : List α) : List (List α) :=
  (List.range ((xs.length + size - 1) / size)).map fun k => (xs.drop (size * k)).take size

theorem ceilDiv_step {size n : Nat} (pos : 0 < size) (nonempty : 0 < n) :
    (n + size - 1) / size = (n - size + size - 1) / size + 1 := by
  by_cases small : n ≤ size
  · have none : (n - size + size - 1) / size = 0 := Nat.div_eq_of_lt (by omega)
    have one : (n + size - 1) / size = 1 := Nat.div_eq_of_lt_le (by omega) (by omega)
    omega
  · rw [show n + size - 1 = n - size + size - 1 + size by omega, Nat.add_div_right _ pos]

theorem slices_cons {α : Type} {size : Nat} (pos : 0 < size) (x : α) (more : List α) :
    slices size (x :: more) = (x :: more).take size :: slices size ((x :: more).drop size) := by
  rw [slices, slices, List.length_drop, ceilDiv_step pos (by simp), List.range_succ_eq_map,
    List.map_cons, List.map_map]
  congr 2
  funext k
  simp [Nat.mul_succ, Nat.add_comm]

/-- Cutting a list into chunks, each entry paying one unit of fuel, gives its slices. -/
theorem chunksOf_go {α : Type} {size : Nat} (pos : 0 < size) :
    ∀ (fuel : Nat) (rest : List α), rest.length ≤ size * fuel →
      chunksOf.go size rest fuel = slices size rest
  | 0, rest, bound => by
    have empty : rest = [] := List.eq_nil_of_length_eq_zero (by simpa using bound)
    subst empty
    simp [chunksOf.go, slices, Nat.div_eq_of_lt (show size - 1 < size by omega)]
  | fuel + 1, [], _ => by
    simp [chunksOf.go, slices, Nat.div_eq_of_lt (show size - 1 < size by omega)]
  | fuel + 1, x :: more, bound => by
    rw [chunksOf.go, if_neg (by simp), slices_cons pos,
      chunksOf_go pos fuel _ (by simp only [List.length_drop]; rw [Nat.mul_succ] at bound; omega)]

theorem chunksOf_eq_slices {α : Type} {size : Nat} (pos : 0 < size) (xs : List α) :
    chunksOf size xs = slices size xs :=
  chunksOf_go pos xs.length xs (Nat.le_mul_of_pos_left _ pos)

theorem slices_map {α β : Type} (size : Nat) (f : α → β) (xs : List α) :
    slices size (xs.map f) = (slices size xs).map (List.map f) := by
  simp [slices, List.map_drop, List.map_take]

theorem flatten_slices {α : Type} {size : Nat} (pos : 0 < size) :
    ∀ (xs : List α), (slices size xs).flatten = xs
  | [] => by simp [slices, Nat.div_eq_of_lt (show size - 1 < size by omega)]
  | x :: more => by
    rw [slices_cons pos, List.flatten_cons, flatten_slices pos, List.take_append_drop]
termination_by xs => xs.length
decreasing_by simp; omega

theorem length_slices {α : Type} (size : Nat) (xs : List α) :
    (slices size xs).length = (xs.length + size - 1) / size := by
  simp [slices]

theorem getElem?_slices {α : Type} {size : Nat} {xs : List α} {k : Nat}
    (below : k < (slices size xs).length) :
    (slices size xs)[k]? = some ((xs.drop (size * k)).take size) := by
  rw [length_slices] at below
  simp [slices, below]

theorem length_mem_slices {α : Type} {size : Nat} (pos : 0 < size) {xs chunk : List α}
    (mem : chunk ∈ slices size xs) :
    0 < chunk.length ∧ chunk.length ≤ size := by
  rw [slices] at mem
  obtain ⟨k, inRange, rfl⟩ := List.mem_map.1 mem
  have below : size * k < xs.length := by
    have fits := (Nat.le_div_iff_mul_le pos).1 (List.mem_range.1 inRange)
    rw [Nat.succ_mul] at fits
    rw [Nat.mul_comm]
    omega
  simp only [List.length_take, List.length_drop]
  omega


/-- Ids in decimal, joined by commas. -/
def idsText (ids : List Int) : String :=
  ",".intercalate (ids.map toString)

/-- The query asking for the work items of a slice of ids with all their fields. -/
def workItemsQuery (ids : List Int) : String :=
  "ids=" ++ idsText ids ++ "&$expand=fields&api-version=7.0"

/-- The characters that the encoding of a work item query keeps as they are. -/
def keptChar (c : Char) : Bool :=
  decide (c.toNat < 128) && (isUnreservedByte (UInt8.ofNat c.toNat) || [',', '$'].contains c)

theorem encodeByteKeeping_kept {c : Char} (kept : keptChar c = true) :
    encodeByteKeeping [',', '$'] true (UInt8.ofNat c.toNat) = [c] := by
  simp only [keptChar, Bool.and_eq_true, decide_eq_true_eq] at kept
  obtain ⟨ascii, unreserved⟩ := kept
  have byte : (UInt8.ofNat c.toNat).toNat = c.toNat := by
    simp [Nat.mod_eq_of_lt (show c.toNat < 256 by omega)]
  have kept : (isUnreservedByte (UInt8.ofNat c.toNat) ||
      (decide (UInt8.ofNat c.toNat < 128) && [',', '$'].contains c)) = true := by
    rcases Bool.or_eq_true_iff.1 unreserved with unreserved | safe
    · simp [unreserved]
    · simp only [safe, Bool.and_true, Bool.or_eq_true, decide_eq_true_eq, UInt8.lt_iff_toNat_lt, byte]
      exact .inr ascii
  rw [encodeByteKeeping, byte, Char.ofNat_toNat, if_pos kept]

theorem flatMap_encodeByteKeeping_kept :
    ∀ {cs : List Char}, (∀ c ∈ cs, keptChar c = true) →
      cs.flatMap (fun c => encodeByteKeeping [',', '$'] true (UInt8.ofNat c.toNat)) = cs
  | [], _ => rfl
  | c :: rest, kept => by
    rw [List.flatMap_cons, encodeByteKeeping_kept (kept c List.mem_cons_self),
      flatMap_encodeByteKeeping_kept (fun d mem => kept d (List.mem_cons_of_mem c mem)),
      List.singleton_append]

theorem keptChar_ascii {c : Char} (kept : keptChar c = true) : c.toNat < 128 := by
  simp only [keptChar, Bool.and_eq_true, decide_eq_true_eq] at kept
  exact kept.1

theorem encodeKeeping_kept {s : String} (kept : ∀ c ∈ s.toList, keptChar c = true) :
    (do return String.ofList ((← encodeUtf8 s).flatMap (encodeByteKeeping [',', '$'] true)) :
      Except EncodeFault String) = .ok s := by
  have ascii : ∀ c ∈ s.toList, c.toNat < 128 := fun c mem => keptChar_ascii (kept c mem)
  have spelled : spellChars s = s := by
    have ofList := spellChars_ascii ascii
    rwa [String.ofList_toList] at ofList
  have bytes : encodeUtf8 s = .ok (s.toList.map fun c => UInt8.ofNat c.toNat) := by
    conv => lhs; rw [← spelled]
    rw [encodeUtf8_spellChars, asciiBytes_eq_charBytes ascii]
  have chars : (s.toList.map fun c => UInt8.ofNat c.toNat).flatMap
      (encodeByteKeeping [',', '$'] true) = s.toList := by
    rw [List.flatMap_map, flatMap_encodeByteKeeping_kept kept]
  rw [bytes]
  simp only [bind, Except.bind, pure, Except.pure, chars, String.ofList_toList]

theorem keptChar_of_decimal {c : Char} (written : c.isDigit = true ∨ c = '-') :
    keptChar c = true := by
  have every : ∀ n, n < 128 → ((Char.ofNat n).isDigit = true ∨ Char.ofNat n = '-') →
      keptChar (Char.ofNat n) = true := by
    decide
  have ascii : c.toNat < 128 := by
    rcases written with digit | rfl
    · have bounds := Char.isDigit_iff_toNat.1 digit
      simp at bounds
      omega
    · decide
  have named := every c.toNat ascii
  rw [Char.ofNat_toNat] at named
  exact named written

theorem forall_mem_intercalate {P : Char → Prop} {sep : List Char} (onSep : ∀ c ∈ sep, P c) :
    ∀ {pieces : List (List Char)}, (∀ p ∈ pieces, ∀ c ∈ p, P c) → ∀ c ∈ sep.intercalate pieces, P c
  | [], _, c, mem => by simp [List.intercalate_nil] at mem
  | [p], onPieces, c, mem => onPieces p List.mem_cons_self c (by simpa using mem)
  | p :: q :: rest, onPieces, c, mem => by
    rw [List.intercalate_cons_cons] at mem
    rcases List.mem_append.1 mem with front | later
    · rcases List.mem_append.1 front with inP | inSep
      · exact onPieces p List.mem_cons_self c inP
      · exact onSep c inSep
    · exact forall_mem_intercalate onSep (fun r mem => onPieces r (List.mem_cons_of_mem p mem)) c later

theorem idsText_kept (ids : List Int) : ∀ c ∈ (idsText ids).toList, keptChar c = true := by
  rw [idsText, String.toList_intercalate]
  refine forall_mem_intercalate (forall_mem_of_decide (by decide)) ?_
  intro p mem c inP
  obtain ⟨t, listed, rfl⟩ := List.mem_map.1 mem
  obtain ⟨n, -, rfl⟩ := List.mem_map.1 listed
  exact keptChar_of_decimal (mem_toString_int inP)

theorem encodePair_kept {name value : String} (nameKept : ∀ c ∈ name.toList, keptChar c = true)
    (valueKept : ∀ c ∈ value.toList, keptChar c = true) :
    (do
      let name ← (do return String.ofList ((← encodeUtf8 name).flatMap
        (encodeByteKeeping [',', '$'] true)) : Except EncodeFault String)
      let value ← (do return String.ofList ((← encodeUtf8 value).flatMap
        (encodeByteKeeping [',', '$'] true)) : Except EncodeFault String)
      return name ++ "=" ++ value : Except EncodeFault String) = .ok (name ++ "=" ++ value) := by
  rw [encodeKeeping_kept nameKept, encodeKeeping_kept valueKept]
  rfl

/-- The query of a slice: its ids, all fields and the API version, each written as it is. -/
theorem formEncodePairsKeeping_slice (ids : List Int) :
    formEncodePairsKeeping [',', '$']
      (Keyed.set [("ids", idsText ids), ("$expand", "fields")] "api-version" devOpsApiVersion) =
      .ok (workItemsQuery ids) := by
  rw [Keyed.set_of_not_contains (by simp [Keyed.contains]), formEncodePairsKeeping, encodePairsWith,
    Except.mapM_eq_ok_map (g := fun kv => kv.1 ++ "=" ++ kv.2) fun kv mem => ?_]
  · change Except.ok ("&".intercalate _) = _
    simp [workItemsQuery, devOpsApiVersion, String.append_assoc]
    rw [← String.append_assoc]
    rfl
  · simp only [List.cons_append, List.nil_append, List.mem_cons, List.not_mem_nil, or_false] at mem
    rcases mem with rfl | rfl | rfl
    · exact encodePair_kept (forall_mem_of_decide (by decide)) (idsText_kept ids)
    · exact encodePair_kept (forall_mem_of_decide (by decide)) (forall_mem_of_decide (by decide))
    · exact encodePair_kept (forall_mem_of_decide (by decide)) (forall_mem_of_decide (by decide))

theorem trimChar_workItemsQuery (ids : List Int) :
    trimChar '&' (workItemsQuery ids).toList = (workItemsQuery ids).toList := by
  have spelled : (workItemsQuery ids).toList =
      'i' :: ("ds=" ++ idsText ids ++ "&$expand=fields&api-version=").toList ++ "7.0".toList := by
    simp [workItemsQuery]
  rw [spelled, Query.trimChar_append_of_free _ (by decide) (by decide), List.cons_append,
    List.dropWhile_cons_of_neg (by decide)]

theorem keptChar_plain {c : Char} (kept : keptChar c = true) : c ∉ ['&', '=', '+', '%'] := by
  intro mem
  simp only [List.mem_cons, List.not_mem_nil, or_false] at mem
  rcases mem with rfl | rfl | rfl | rfl <;> revert kept <;> decide

/-- Form decoding keeps a text with no plus sign and no percent sign as it is. -/
theorem formDecode_plain {s : String} (noPlus : '+' ∉ s.toList) (noPercent : '%' ∉ s.toList) :
    formDecode s = s := by
  have unchanged : s.toList.map plusAsSpace = s.toList :=
    (List.map_congr_left fun c mem => plusAsSpace_of_ne fun plus => noPlus (plus ▸ mem)).trans
      (List.map_id _)
  rw [formDecode_eq, unchanged, String.ofList_toList, percentDecode, if_pos (by simpa using noPercent)]

/-- A `name=value` piece with no plus or percent sign, and no `=` in its name, reads back as it
is. -/
theorem formDecodePair_plain {name value : String}
    (nameFree : ∀ c ∈ name.toList, c ∉ ['=', '+', '%'])
    (valueFree : ∀ c ∈ value.toList, c ∉ ['+', '%']) :
    formDecodePair (name ++ "=" ++ value) = (name, value) := by
  rw [formDecodePair, String.toList_append, String.toList_append, show "=".toList = ['='] from rfl,
    List.append_assoc, List.singleton_append,
    splitFirst_append_cons fun mem => nameFree _ mem (by simp)]
  simp only [Option.getD_some, String.ofList_toList]
  rw [formDecode_plain (fun mem => nameFree _ mem (by simp)) (fun mem => nameFree _ mem (by simp)),
    formDecode_plain (fun mem => valueFree _ mem (by simp)) (fun mem => valueFree _ mem (by simp))]

/-- The query of a slice reads back as its ids, joined by commas, then all fields and the API
version. -/
theorem formDecodePairs_workItemsQuery (ids : List Int) :
    formDecodePairs (workItemsQuery ids) =
      [("ids", idsText ids), ("$expand", "fields"), ("api-version", devOpsApiVersion)] := by
  have joined : workItemsQuery ids = "&".intercalate
      ["ids" ++ "=" ++ idsText ids, "$expand" ++ "=" ++ "fields", "api-version" ++ "=" ++ devOpsApiVersion] := by
    simp [workItemsQuery, devOpsApiVersion, String.append_assoc]
  have idsFree : ∀ c ∈ (idsText ids).toList, c ∉ ['&', '=', '+', '%'] :=
    fun c mem => keptChar_plain (idsText_kept ids c mem)
  have pieces : ∀ p ∈ ["ids" ++ "=" ++ idsText ids, "$expand" ++ "=" ++ "fields",
      "api-version" ++ "=" ++ devOpsApiVersion], '&' ∉ p.toList ∧ (!p.isEmpty) = true := by
    intro p mem
    simp only [List.mem_cons, List.not_mem_nil, or_false] at mem
    rcases mem with rfl | rfl | rfl
    · refine ⟨fun amp => ?_, by simp⟩
      rw [String.toList_append] at amp
      rcases List.mem_append.1 amp with inName | inIds
      · exact absurd inName (by decide)
      · exact idsFree _ inIds (by simp)
    · decide
    · decide
  rw [formDecodePairs, joined, splitText_intercalate rfl (by simp) fun p mem => (pieces p mem).1,
    List.filter_eq_self.2 fun p mem => (pieces p mem).2, List.map_cons, List.map_cons, List.map_cons,
    List.map_nil, formDecodePair_plain (forall_mem_of_decide (by decide))
      fun c mem listed => idsFree c mem (by simp_all),
    formDecodePair_plain (forall_mem_of_decide (by decide)) (forall_mem_of_decide (by decide)),
    formDecodePair_plain (forall_mem_of_decide (by decide)) (forall_mem_of_decide (by decide))]


/-- A path of slashes and segment characters, starting with a slash. -/
def SegmentPath (path : String) : Prop :=
  path.toList.head? = some '/' ∧ ∀ c ∈ path.toList, c = '/' ∨ segmentChar c = true

theorem AzureDevops.segment_chars {s t : String} (written : AzureDevops.segment s = .ok t) :
    ∀ c ∈ t.toList, segmentChar c = true := by
  unfold AzureDevops.segment percentEncode at written
  rcases encoded : encodeUtf8 s with f | bytes <;> rw [encoded] at written
  · nomatch written
  · cases written
    intro c mem
    rw [String.toList_ofList] at mem
    obtain ⟨b, -, inByte⟩ := List.mem_flatMap.1 mem
    exact encodeByteKeeping_segmentChar inByte

theorem SegmentPath.slash_segment {t : String} (written : ∀ c ∈ t.toList, segmentChar c = true) :
    SegmentPath ("/" ++ t) := by
  refine ⟨by simp, fun c mem => ?_⟩
  rw [String.toList_append] at mem
  rcases List.mem_append.1 mem with slash | inT
  · exact .inl (by simpa using slash)
  · exact .inr (written c inT)

theorem SegmentPath.append {path path' : String} (first : SegmentPath path)
    (second : SegmentPath path') : SegmentPath (path ++ path') := by
  obtain ⟨head, chars⟩ := first
  refine ⟨?_, fun c mem => ?_⟩
  · obtain ⟨rest, split⟩ := List.head?_eq_some_iff.1 head
    simp [split]
  · rw [String.toList_append] at mem
    rcases List.mem_append.1 mem with inFirst | inSecond
    · exact chars c inFirst
    · exact second.2 c inSecond

/-- The address of a project is the service's, followed by a path of segments. -/
theorem AzureDevops.projectUrl_path {organization base : String} {project : Option String}
    (located : AzureDevops.projectUrl organization project = .ok base) :
    ∃ path, base = devOpsBaseUrl ++ path ∧ SegmentPath path := by
  unfold AzureDevops.projectUrl AzureDevops.organizationUrl at located
  rcases orgSegment : AzureDevops.segment organization with f | org <;> rw [orgSegment] at located
  · nomatch located
  · have orgChars := AzureDevops.segment_chars orgSegment
    have orgPath : SegmentPath ("/" ++ org) := .slash_segment orgChars
    cases project with
    | none =>
      cases located
      exact ⟨"/" ++ org, by rw [String.append_assoc], orgPath⟩
    | some p =>
      dsimp only [bind, Except.bind, pure, Except.pure] at located
      split at located
      · cases located
        exact ⟨"/" ++ org, by rw [String.append_assoc], orgPath⟩
      · rcases projectSegment : AzureDevops.segment (Text.trim p) with f | named <;>
          rw [projectSegment] at located
        · nomatch located
        · cases located
          refine ⟨"/" ++ org ++ ("/" ++ named), by simp only [String.append_assoc], ?_⟩
          exact orgPath.append (.slash_segment (AzureDevops.segment_chars projectSegment))

def devOpsParts (path : String) : Parts := ⟨"https", "dev.azure.com", path, "", ""⟩

theorem SegmentPath.rooted {path : String} (segments : SegmentPath path) :
    path.startsWith "/" = true := by
  obtain ⟨rest, split⟩ := List.head?_eq_some_iff.1 segments.1
  simp [String.startsWith_string_iff, split]

theorem devOpsParts_plain {path : String} (segments : SegmentPath path) :
    (devOpsParts path).Plain where
  scheme_head := ⟨'h', "ttps".toList, by show "https".toList = _; decide +kernel, by decide⟩
  scheme_chars := by
    show ∀ c ∈ "https".toList, _
    exact forall_mem_of_decide (by decide +kernel)
  netloc_nonempty := by show "dev.azure.com" ≠ ""; decide +kernel
  netloc_chars := by
    show ∀ c ∈ "dev.azure.com".toList, _
    exact forall_mem_of_decide (by decide +kernel)
  brackets_paired := by
    show "dev.azure.com".toList.contains '[' = "dev.azure.com".toList.contains ']'
    decide +kernel
  brackets_checked := fun bracket => absurd bracket (by show ¬ "dev.azure.com".toList.contains '[' = true; decide +kernel)
  path_rooted := .inr segments.rooted
  path_chars := fun c mem => by
    rcases segments.2 c mem with rfl | written
    · decide
    · exact fun listed => segmentChar_not_delimiter written (List.subset_def.1 (by decide) listed)
  query_chars := by simp [devOpsParts]
  no_fragment := rfl

theorem devOpsParts_join {path : String} (segments : SegmentPath path) :
    (devOpsParts path).join = devOpsBaseUrl ++ path := by
  simp [Parts.join, devOpsParts, segments.rooted]
  rw [← String.append_assoc]
  rfl

theorem Parts.port_of_netloc {p q : Parts} (same : p.netloc = q.netloc) : p.port = q.port := by
  unfold Parts.port Parts.hostAndPort
  rw [same]

theorem devOpsParts_port (path : String) : (devOpsParts path).port = .ok none := by
  rw [Parts.port_of_netloc (p := devOpsParts path) (q := devOpsParts "") rfl]
  exact Except.eq_ok_of_check (by decide +kernel)

/-- A GET request with a query and no body, to an address on the service, is prepared as it is
given. -/
theorem prepare_devOps {path : String} (segments : SegmentPath path) {cred : Credentials}
    (noAuthQuery : cred.query = []) {q : String} (kept : trimChar '&' q.toList = q.toList)
    (nonempty : q ≠ "") :
    prepare cred (some (devOpsBaseUrl ++ path)) (some "GET") none (some q) [] =
      .ok ⟨.get, devOpsBaseUrl ++ path, some q, mergeHeaders cred.header [], none⟩ := by
  have split := Parts.split_join (devOpsParts_plain segments)
  rw [devOpsParts_join segments] at split
  have notPost : (upper "GET" == "POST") = false := by decide +kernel
  have https : ((devOpsParts path).scheme == "http" || (devOpsParts path).scheme == "https") = true := by
    show ("https" == "http" || "https" == "https") = true
    decide
  have located : (devOpsParts path).netloc.isEmpty = false := by
    show "dev.azure.com".isEmpty = false
    decide
  have given : q.isEmpty = false := by simpa [String.isEmpty_iff] using nonempty
  unfold prepare
  simp only [buildQuery, noAuthQuery, List.foldl_nil, Option.getD_some, Query.stripAmpersands, kept,
    String.ofList_toList, checkRequestUrl, appendQuery, split, devOpsParts_port, notPost,
    Bool.false_eq_true, if_false, given, Except.mapError, bind, Except.bind, pure, Except.pure, https,
    located, Bool.not_true, Bool.or_false]
  have rebuilt : (⟨(devOpsParts path).scheme, (devOpsParts path).netloc, (devOpsParts path).path,
      "", ""⟩ : Parts) = devOpsParts path := rfl
  have noQuery : (devOpsParts path).query.isEmpty = true := rfl
  rw [rebuilt, devOpsParts_join segments]
  simp [noQuery, given]

theorem Config.credentials_query {c : Config} {cred : Credentials}
    (credentialed : c.credentials = .ok cred) : cred.query = [] := by
  unfold Config.credentials at credentialed
  split at credentialed
  case h_5 =>
    simp only [bind, Except.bind] at credentialed
    split at credentialed
    · nomatch credentialed
    · cases credentialed
      rfl
  all_goals
    cases credentialed
    rfl

/-- The request for the work items of a slice of ids at `url`. -/
def workItemRequest (cred : Credentials) (url : String) (ids : List Int) : Request :=
  ⟨.get, url, some (workItemsQuery ids), mergeHeaders cred.header [], none⟩

theorem SegmentPath.workItems : SegmentPath "/_apis/wit/workitems" :=
  ⟨rfl, forall_mem_of_decide (by decide)⟩

/-- Asking for the work items of a slice at an address on the service sends their request and
nothing else. -/
theorem AzureDevops.call_workItems_session {c : Config} {cred : Credentials}
    (credentialed : c.credentials = .ok cred) {path : String} (segments : SegmentPath path)
    (depth : Nat) (ids : List Int) (σ : Session) :
    ((AzureDevops.call c depth (devOpsBaseUrl ++ path)
      [("ids", idsText ids), ("$expand", "fields")] none).run' σ).2 =
      σ.serve (depth + 2) (workItemRequest cred (devOpsBaseUrl ++ path) ids) := by
  have encoded : (formEncodePairsKeeping [',', '$'] (Keyed.set [("ids", idsText ids),
      ("$expand", "fields")] "api-version" devOpsApiVersion)).mapError Failure.ofEncodeFault =
      .ok (workItemsQuery ids) := by
    rw [formEncodePairsKeeping_slice]
    rfl
  have prepared := prepare_devOps segments (Config.credentials_query credentialed)
    (trimChar_workItemsQuery ids) (by simp [workItemsQuery])
  unfold AzureDevops.call
  rw [Exchange.run'_ofExcept_ok_bind encoded]
  dsimp only
  rw [Exchange.run'_ofExcept_ok_bind credentialed]
  simp only [Option.isSome_none, Bool.false_eq_true, if_false, Option.map_none]
  rw [Exchange.run'_ofExcept_ok_bind prepared, Exchange.bind_session _ _ _ (fun _ _ => rfl),
    fetchText_session]
  rfl

/-- The ids kept of a list: the first ones up to a preview's limit, or all of them. -/
def keptIds (ids : List Int) (limit : Option Int) : List Int :=
  limit.elim ids fun n => ids.take n.toNat

theorem AzureDevops.getByIds_limit (c : Config) (depth : Nat) (project : Option String)
    (ids fields : List Value) (asOf : Option Value) (limit : Option Int) :
    AzureDevops.getByIds c depth project ids fields asOf limit =
      AzureDevops.getByIds c depth project (limit.elim ids fun n => ids.take n.toNat) fields asOf none := by
  cases limit <;> rfl

/-- Fetching work items by id with all their fields sends, one after the other, the requests of
the first slices of the ids kept, all of them when it succeeds, and pauses nowhere. -/
theorem AzureDevops.getByIds_sends {c : Config} {organization base : String} {cred : Credentials}
    {project : Option String} (org : AzureDevops.organization c = .ok organization)
    (credentialed : c.credentials = .ok cred)
    (located : AzureDevops.projectUrl organization project = .ok base)
    (depth : Nat) (ids : List Int) (limit : Option Int) (σ : Session) :
    Exchange.SendsPrefix (AzureDevops.getByIds c depth project (ids.map .int) [] none limit)
      ((slices maxIdsPerRequest (keptIds ids limit)).map
        (workItemRequest cred (base ++ "/_apis/wit/workitems"))) σ := by
  have cut : (limit.elim (ids.map Value.int) fun n => (ids.map Value.int).take n.toNat) =
      (keptIds ids limit).map Value.int := by
    cases limit <;> simp [keptIds, List.map_take]
  rw [AzureDevops.getByIds_limit, cut]
  unfold AzureDevops.getByIds
  dsimp only
  by_cases empty : keptIds ids limit = []
  · -- nothing to fetch: nothing is sent
    rw [empty]
    exact ⟨[], by simp [slices], by simp, rfl, fun _ _ => rfl⟩
  have nonempty : ((keptIds ids limit).map Value.int).isEmpty = false := by simpa using empty
  obtain ⟨path, rfl, segments⟩ := AzureDevops.projectUrl_path located
  rw [if_neg (by simp [nonempty])]
  refine Exchange.SendsPrefix.ofExcept_bind org ?_
  refine Exchange.SendsPrefix.ofExcept_bind located ?_
  rw [chunksOf_eq_slices (by decide), slices_map, List.foldlM_map]
  refine Exchange.foldlM_sends (fun items chunk σ₁ => ?_) _ _ σ
  have named : ",".intercalate ((chunk.map Value.int).map (·.asText)) = idsText chunk := by
    simp only [idsText, List.map_map, Function.comp_def, Value.asText_int]
  simp only [List.isEmpty_nil, if_true, pure_bind, named]
  rw [Exchange.bind_session _ _ _ (fun _ _ => by rw [Exchange.bind_session _ _ _ (fun _ _ => rfl)]; rfl),
    String.append_assoc, AzureDevops.call_workItems_session credentialed (segments.append .workItems)]
  exact ⟨Session.serve_received _ _ _, Session.serve_pauses _ _ _⟩

/-- A query for work items by id whose ids read as `ids` sends, one after the other, the requests
of the first slices of the ids kept (all of them, or a preview's first ones), all of them when
it succeeds, and pauses nowhere. There are as many slices as `maxIdsPerRequest` goes into the
number of ids kept, rounded up, so none for no ids; the `k`-th holds the ids from
`maxIdsPerRequest * k` on, at most `maxIdsPerRequest` of them, and joined they give the ids kept
back. The request of a slice is a GET of the project's work item URL, whose query reads back as
its ids in decimal joined by commas, then all fields and the API version. -/
theorem AzureDevops.runQuery_sends_id_slices {c : Config} {depth : Nat} {q : QueryInfo}
    {limit : Option Int} {wq : WorkItemQuery} {resource : Option Resource} {ids : List Int}
    {organization base : String} {cred : Credentials}
    (parsed : WorkItemQuery.parse (depth + 1) (some q.query) = .ok wq)
    (selected : c.selectResource q.resourceId Vendor.azureDevops.defaultResources = .ok resource)
    (byIds : resource.bind (WorkItemSelection.ofLabel ·.name) = some .byIds)
    (read : parseWorkItemIds wq.query = .ok ids)
    (org : AzureDevops.organization c = .ok organization) (credentialed : c.credentials = .ok cred)
    (located : AzureDevops.projectUrl organization wq.project = .ok base) (σ : Session) :
    Exchange.SendsPrefix (AzureDevops.runQuery c depth q limit)
      ((slices maxIdsPerRequest (keptIds ids limit)).map
        (workItemRequest cred (base ++ "/_apis/wit/workitems"))) σ ∧
    (slices maxIdsPerRequest (keptIds ids limit)).length =
      ((keptIds ids limit).length + maxIdsPerRequest - 1) / maxIdsPerRequest ∧
    (∀ k < (slices maxIdsPerRequest (keptIds ids limit)).length,
      (slices maxIdsPerRequest (keptIds ids limit))[k]? =
        some (((keptIds ids limit).drop (maxIdsPerRequest * k)).take maxIdsPerRequest)) ∧
    (slices maxIdsPerRequest (keptIds ids limit)).flatten = keptIds ids limit ∧
    ∀ s ∈ slices maxIdsPerRequest (keptIds ids limit), 0 < s.length ∧ s.length ≤ maxIdsPerRequest ∧
      formDecodePairs (workItemsQuery s) =
        [("ids", idsText s), ("$expand", "fields"), ("api-version", devOpsApiVersion)] := by
  have pos : 0 < maxIdsPerRequest := by decide
  refine ⟨?_, length_slices _ _, fun k below => getElem?_slices below, flatten_slices pos _,
    fun s mem => ⟨(length_mem_slices pos mem).1, (length_mem_slices pos mem).2,
      formDecodePairs_workItemsQuery s⟩⟩
  unfold AzureDevops.runQuery
  refine Exchange.SendsPrefix.ofExcept_bind parsed ?_
  refine Exchange.SendsPrefix.ofExcept_bind selected ?_
  dsimp only
  rw [byIds]
  refine Exchange.SendsPrefix.ofExcept_bind read ?_
  refine Exchange.SendsPrefix.bind_local ?_ fun _ _ => by
    rw [Exchange.bind_session _ _ _ (fun _ _ => rfl)]
    rfl
  exact AzureDevops.getByIds_sends org credentialed located _ ids limit σ

theorem spelled_commas {parts : List String}
    (unmarked : ∀ p ∈ parts, ∀ c ∈ p.toList, c.toNat < 0x10F7FF) :
    Text.Spelled (",".intercalate parts) := by
  refine Text.spelled_of_unmarked fun c mem => ?_
  rw [String.toList_intercalate] at mem
  refine forall_mem_intercalate (P := (·.toNat < 0x10F7FF)) (forall_mem_of_decide (by decide)) ?_
    c mem
  intro p listed
  obtain ⟨part, named, rfl⟩ := List.mem_map.1 listed
  exact unmarked part named

theorem Except.mapM_replicate {ε α β : Type} {f : α → Except ε β} {a : α} {b : β}
    (image : f a = .ok b) : ∀ n, (List.replicate n a).mapM f = .ok (List.replicate n b)
  | 0 => rfl
  | n + 1 => by
    rw [List.replicate_succ, List.mapM_cons, image, Except.mapM_replicate image n]
    rfl

/-- One id entry named `n + 1` times, joined by commas, reads as its id `n + 1` times. -/
theorem parseWorkItemIds_replicate {entry : String} {id : Int} (single : ',' ∉ entry.toList)
    (reads : workItemId (Text.trim entry) = .ok id) (n : Nat) :
    parseWorkItemIds (",".intercalate (List.replicate (n + 1) entry)) =
      .ok (List.replicate (n + 1) id) := by
  rw [parseWorkItemIds, splitText_intercalate rfl (by simp) fun p listed => by
    rwa [(List.mem_replicate.1 listed).2]]
  exact Except.mapM_replicate (by simp only [reads]) (n + 1)

/-- A query document written from a project and an id text, both spelled, is read back as
them. -/
theorem WorkItemQuery.parse_written {project ids : String} (projectSpelled : Text.Spelled project)
    (idsSpelled : Text.Spelled ids) :
    WorkItemQuery.parse 1 (some (Value.obj [("project", .str project), ("query", .str ids)]).write) =
      .ok ⟨some project, ids⟩ := by
  have distinct : ([("project", Value.str project), ("query", .str ids)].map Prod.fst).Nodup :=
    (by decide +kernel : (["project", "query"] : List String).Nodup)
  have plain : (Value.obj [("project", .str project), ("query", .str ids)]).Plain := by
    refine .obj _ ?_ distinct ?_ <;> simp only [List.mem_cons, List.mem_nil_iff, or_false] <;>
      rintro kv (rfl | rfl)
    · exact (by decide +kernel : Text.Spelled "project")
    · exact (by decide +kernel : Text.Spelled "query")
    · exact .str _ projectSpelled
    · exact .str _ idsSpelled
  have document : Value.readText 2 (Value.obj [("project", .str project), ("query", .str ids)]).write =
      .ok (.ok (Value.obj [("project", .str project), ("query", .str ids)])) := by
    rw [Value.readText, Value.read, plain.readNested_write (by show 1 ≤ 994; decide)]
  have named : Fields.get? [("project", .str project), ("query", .str ids)] "project" =
      some (.str project) :=
    Keyed.get?_of_mem distinct List.mem_cons_self
  have listed : Fields.get? [("project", .str project), ("query", .str ids)] "query" =
      some (.str ids) :=
    Keyed.get?_of_mem distinct (List.mem_cons_of_mem _ List.mem_cons_self)
  have checked : WorkItemQuery.check [("project", .str project), ("query", .str ids)] =
      .ok ⟨some project, ids⟩ := by
    simp only [WorkItemQuery.check, Check.field, named, listed]
    rfl
  -- opened by its equation and rewritten step by step: `unfold` or `simp` on the parse leave a
  -- proof that takes the kernel a minute on a long id text
  rw [WorkItemQuery.parse.eq_1, Option.getD_some, show (1 + 1 : Nat) = 2 from rfl, document]
  dsimp only
  rw [checked]

/-- The id `1` named 203 times. -/
def repeatedIdsText : String := ",".intercalate (List.replicate 203 "1")

/-- The work items listed by `repeatedIdsText`, of project `P`, as a JSON query document. -/
def manyIdsQuery : QueryInfo :=
  ⟨(Value.obj [("project", .str "P"), ("query", .str repeatedIdsText)]).write, "q", [],
    [("resourceId", "by_id")]⟩

/-- A preview of 201 of those ids sends two requests: one for the first 200 ids, then one for
the 201st. -/
theorem preview_sends_two_slices :
    ∃ cred, workItemConfig.credentials = .ok cred ∧
      Exchange.SendsPrefix (AzureDevops.runQuery workItemConfig 0 manyIdsQuery (some 201))
        [workItemRequest cred ("https://dev.azure.com/contoso/P" ++ "/_apis/wit/workitems")
            (List.replicate 200 1),
          workItemRequest cred ("https://dev.azure.com/contoso/P" ++ "/_apis/wit/workitems") [1]]
        shuffledSession := by
  -- the id text is read through how it was joined: evaluating four hundred characters is
  -- beyond what the kernel does quickly
  have idsSpelled : Text.Spelled repeatedIdsText := spelled_commas fun p listed c mem => by
    rw [(List.mem_replicate.1 listed).2, show "1".toList = ['1'] from rfl,
      List.mem_singleton] at mem
    rw [mem]
    decide
  have parsed : WorkItemQuery.parse 1 (some manyIdsQuery.query) =
      .ok ⟨some "P", repeatedIdsText⟩ :=
    WorkItemQuery.parse_written (by decide +kernel) idsSpelled
  have read : parseWorkItemIds repeatedIdsText = .ok (List.replicate 203 1) :=
    parseWorkItemIds_replicate (by decide) (by decide +kernel) 202
  obtain ⟨resource, selected, chosen⟩ := Except.exists_ok_of_check
    (e := workItemConfig.selectResource manyIdsQuery.resourceId
      Vendor.azureDevops.defaultResources)
    (p := fun r => (r.bind (WorkItemSelection.ofLabel ·.name)).map WorkItemSelection.name ==
      some "BY_ID")
    (by decide +kernel)
  have byIds : resource.bind (WorkItemSelection.ofLabel ·.name) = some .byIds := by
    obtain ⟨selection, picked, named⟩ := Option.map_eq_some_iff.1 (beq_iff_eq.1 chosen)
    cases selection
    · exact picked
    · exact absurd named (by decide)
    · exact absurd named (by decide)
  obtain ⟨cred, credentialed, -⟩ := Except.exists_ok_of_check (e := workItemConfig.credentials)
    (p := fun _ => true) (by decide +kernel)
  have located : AzureDevops.projectUrl "contoso" (some "P") =
      .ok "https://dev.azure.com/contoso/P" :=
    Except.eq_ok_of_check (by decide +kernel)
  obtain ⟨sends, -⟩ := @AzureDevops.runQuery_sends_id_slices workItemConfig 0 manyIdsQuery
    (some 201) _ _ _ _ _ _ parsed selected byIds read rfl credentialed located shuffledSession
  have sliced : slices maxIdsPerRequest (keptIds (List.replicate 203 1) (some 201)) =
      [List.replicate 200 1, [1]] := by
    decide +kernel
  rw [sliced] at sends
  exact ⟨cred, credentialed, sends⟩

end Courier.Connector
