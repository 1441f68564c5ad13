import Courier.Proofs.Preview
import Courier.Proofs.Reading
import Courier.Proofs.FormQuery

namespace Courier.Url

open Courier.Text

/-- The segment written for a text: its UTF-8 bytes, each unreserved one kept and every other
one escaped. -/
def segmentEncoded (s : String) : String :=
  String.ofList ((cleanBytes s).flatMap (encodeByteKeeping [] false))

theorem percentEncode_charsOnly {s : String} (chars : CharsOnly s) :
    percentEncode [] s = .ok (segmentEncoded s) := by
  obtain ⟨t, rfl⟩ := chars
  simp only [percentEncode, segmentEncoded, encodeUtf8_spellChars, cleanBytes_spellChars]
  rfl

theorem percentBytes_unreserved {b : UInt8} (unreserved : isUnreservedByte b = true)
    (rest : List Char) : percentBytes (Char.ofNat b.toNat :: rest) = b :: percentBytes rest := by
  obtain ⟨ascii, -, notPercent, -, -⟩ := unreserved_plain unreserved
  have char : (Char.ofNat b.toNat).toNat = b.toNat := toNat_ofNat_ascii ascii
  have notEscape : Char.ofNat b.toNat ≠ '%' := fun percent =>
    notPercent (char.symm.trans (congrArg Char.toNat percent))
  rw [percentBytes_cons_of_ne notEscape, char, UInt8.ofNat_toNat]

theorem percentBytes_escaped (b : UInt8) (rest : List Char) :
    percentBytes ('%' :: upperHexDigit (b.toNat / 16) :: upperHexDigit (b.toNat % 16) :: rest) =
      b :: percentBytes rest := by
  have bound : b.toNat < 256 := UInt8.toNat_lt_size b
  have high := hexDigitValue_upperHexDigit (b.toNat / 16) (by omega)
  have low := hexDigitValue_upperHexDigit (b.toNat % 16) (by omega)
  have whole : b.toNat / 16 * 16 + b.toNat % 16 = b.toNat := by omega
  simp only [percentBytes, high, low, whole, UInt8.ofNat_toNat]

/-- Escaping for a path segment keeps unreserved bytes and escapes every other one, a space
included. -/
theorem encodeByteKeeping_segment (b : UInt8) :
    encodeByteKeeping [] false b =
      if isUnreservedByte b then [Char.ofNat b.toNat]
      else ['%', upperHexDigit (b.toNat / 16), upperHexDigit (b.toNat % 16)] := by
  simp [encodeByteKeeping]

theorem percentBytes_segment (bytes : List UInt8) :
    percentBytes (bytes.flatMap (encodeByteKeeping [] false)) = bytes := by
  induction bytes with
  | nil => simp [percentBytes]
  | cons b bytes ih =>
    rw [List.flatMap_cons, encodeByteKeeping_segment]
    split
    · next unreserved => rw [List.singleton_append, percentBytes_unreserved unreserved, ih]
    · rw [List.cons_append, List.cons_append, List.cons_append, List.nil_append,
        percentBytes_escaped, ih]

/-- The characters a path segment is written in: `%` and the unreserved ASCII characters. -/
def segmentChar (c : Char) : Bool :=
  c == '%' || (decide (c.toNat < 128) && isUnreservedByte (UInt8.ofNat c.toNat))

theorem segmentChar_ascii {c : Char} (written : segmentChar c = true) : c.toNat < 128 := by
  simp only [segmentChar, Bool.or_eq_true, beq_iff_eq, Bool.and_eq_true, decide_eq_true_eq]
    at written
  rcases written with rfl | ⟨ascii, -⟩
  · decide
  · exact ascii

/-- No segment character ends a path segment or is dropped by a URL reader. -/
theorem segmentChar_not_delimiter {c : Char} (written : segmentChar c = true) :
    c ∉ ['/', '?', '#', '\t', '\r', '\n'] := by
  have every : ∀ n, n < 128 → segmentChar (Char.ofNat n) = true →
      Char.ofNat n ∉ ['/', '?', '#', '\t', '\r', '\n'] := by
    decide
  have named := every c.toNat (segmentChar_ascii written)
  rw [Char.ofNat_toNat] at named
  exact named written

theorem upperHexDigit_segmentChar : ∀ n, n < 16 → segmentChar (upperHexDigit n) = true := by
  decide

theorem encodeByteKeeping_segmentChar {b : UInt8} {c : Char}
    (mem : c ∈ encodeByteKeeping [] false b) : segmentChar c = true := by
  rw [encodeByteKeeping_segment] at mem
  split at mem
  · next unreserved =>
    rw [List.mem_singleton] at mem
    subst mem
    have ascii := (unreserved_plain unreserved).1
    have char : (Char.ofNat b.toNat).toNat = b.toNat := toNat_ofNat_ascii ascii
    simp [segmentChar, char, ascii, unreserved]
  · have bound : b.toNat < 256 := UInt8.toNat_lt_size b
    simp only [List.mem_cons, List.not_mem_nil, or_false] at mem
    rcases mem with rfl | rfl | rfl
    · rfl
    · exact upperHexDigit_segmentChar _ (by omega)
    · exact upperHexDigit_segmentChar _ (by omega)

theorem segmentEncoded_segmentChar {s : String} {c : Char} (mem : c ∈ (segmentEncoded s).toList) :
    segmentChar c = true := by
  rw [segmentEncoded, String.toList_ofList] at mem
  obtain ⟨b, -, written⟩ := List.mem_flatMap.1 mem
  exact encodeByteKeeping_segmentChar written

theorem percentDecode_segmentEncoded {s : String} (chars : CharsOnly s) :
    percentDecode (segmentEncoded s) = s := by
  obtain ⟨t, rfl⟩ := chars
  have ascii : ∀ c ∈ (cleanBytes (spellChars t)).flatMap (encodeByteKeeping [] false),
      c.toNat < 128 := fun c mem =>
    segmentChar_ascii (segmentEncoded_segmentChar (by rw [segmentEncoded, String.toList_ofList]; exact mem))
  rw [segmentEncoded, percentDecode_ascii ascii, percentBytes_segment, cleanBytes_spellChars,
    textOfBytesLossy_charBytes]

theorem segmentEncoded_of_unescaped {s : String} (chars : CharsOnly s)
    (unescaped : '%' ∉ (segmentEncoded s).toList) : segmentEncoded s = s := by
  conv => rhs; rw [← percentDecode_segmentEncoded chars]
  unfold percentDecode
  rw [if_pos (by simpa using unescaped)]

/-- The segments that stand for the current directory, the parent directory, or nothing. -/
def dotSegments : List String := [".", "..", ""]

theorem segmentEncoded_mem_dotSegments {s : String} (chars : CharsOnly s) :
    segmentEncoded s ∈ dotSegments ↔ s ∈ dotSegments := by
  constructor
  · intro dot
    have unescaped : '%' ∉ (segmentEncoded s).toList := by
      simp only [dotSegments, List.mem_cons, List.not_mem_nil, or_false] at dot
      rcases dot with same | same | same <;> rw [same] <;> decide
    rwa [← segmentEncoded_of_unescaped chars unescaped]
  · intro dot
    simp only [dotSegments, List.mem_cons, List.not_mem_nil, or_false] at dot
    rcases dot with rfl | rfl | rfl <;> decide +kernel

/-- `segment` is one path segment standing for `code`: it holds no character that ends a path
segment, it decodes back to `code`, and it is a dot segment or empty exactly when `code` is. -/
structure PathSegment (code segment : String) : Prop where
  no_delimiter : ∀ c ∈ segment.toList, c ∉ ['/', '?', '#']
  decodes : percentDecode segment = code
  dot_iff : segment ∈ dotSegments ↔ code ∈ dotSegments

theorem segmentEncoded_pathSegment {s : String} (chars : CharsOnly s) :
    PathSegment s (segmentEncoded s) :=
  ⟨fun _ mem delimiter => segmentChar_not_delimiter (segmentEncoded_segmentChar mem)
    (List.subset_def.1 (by decide) delimiter), percentDecode_segmentEncoded chars,
    segmentEncoded_mem_dotSegments chars⟩

end Courier.Url

namespace Courier.Connector

open Courier.Http Courier.Text

/-- A run that reads one page sends the first request and nothing else, whatever the page. -/
theorem runPages_skip_session (s : Paging.Strategy) (depth : Nat) (first : Request)
    (maxItems : Option Int) (σ : Session) :
    ((runPages s depth first true maxItems).run' σ).2 = σ.serve (depth + 3) first := by
  unfold runPages
  rw [Exchange.run'_bind, Exchange.run'_get]
  dsimp only
  rw [Paging.run_one_page]
  have served := fetchPage_session s (depth + 1) first σ
  rcases fetched : (Paging.fetchPage s (depth + 1) first).run' σ with ⟨_ | page, σ₁⟩ <;>
    rw [fetched] at served <;> exact served

/-- A step that prepares one request and sends it and nothing else: when the request cannot be
prepared it fails with that failure and sends nothing; otherwise that request is the one more
received, and nothing pauses. -/
structure SendsOnly (m : Exchange α) (request : Except Failure Request) (σ : Session) : Prop where
  unprepared : ∀ f, request = .error f → m.run' σ = (.error f, σ)
  sent : ∀ r, request = .ok r →
    (m.run' σ).2.script.received = σ.script.received ++ [r] ∧ (m.run' σ).2.pauses = σ.pauses

/-- The entity code a query names: the query trimmed, slashes at its ends dropped. -/
def Akeneo.entityCode (q : QueryInfo) : String :=
  String.ofList (Url.trimChar '/' (Akeneo.normalizeQuery (some q.query)).toList)

/-- An entity resource with the segment written for the query's code in its `{code}` slot. -/
def Akeneo.entityEndpoint (e : Endpoint) (q : QueryInfo) : Endpoint :=
  { e with url := replaceText e.url Akeneo.codeSlot (Url.segmentEncoded (Akeneo.entityCode q)) }

/-- On an entity resource, a query that is not empty once trimmed is run as the request for
the resource with its code in the slot, reading that one page. -/
theorem Akeneo.runQuery_code {settings : Settings} {c : Config} {depth : Nat} {q : QueryInfo}
    {limit : Option Int} {e : Endpoint}
    (resolved : c.resolve q.resourceId false akeneoResources = .ok e)
    (entity : 1 < (splitText e.url Akeneo.codeSlot).length)
    (present : Akeneo.normalizeQuery (some q.query) ≠ "") (chars : CharsOnly (Akeneo.entityCode q))
    (σ : Session) :
    (Akeneo.runQuery settings c depth q limit).run' σ =
      (Exchange.ofExcept ((Akeneo.entityEndpoint e q).request c none) >>= fun r =>
        runPages Paging.Strategy.standardLink (depth + 1) r true none >>= fun env =>
          (pure ⟨Akeneo.normalizeQuery (some q.query), Akeneo.itemsData env.items, none⟩ :
            Exchange Outcome)).run' σ := by
  have spelled : CharsOnly (String.ofList (Url.trimChar '/' (Akeneo.normalizeQuery (some q.query)).toList)) :=
    chars
  have encoded : (Url.percentEncode [] (String.ofList
      (Url.trimChar '/' (Akeneo.normalizeQuery (some q.query)).toList))).mapError Failure.ofEncodeFault =
      .ok (Url.segmentEncoded (Akeneo.entityCode q)) := by
    rw [Url.percentEncode_charsOnly spelled]
    rfl
  unfold Akeneo.runQuery
  rw [Exchange.run'_ofExcept_ok_bind resolved]
  dsimp only
  rw [if_pos entity, if_neg (by simpa [String.isEmpty_iff] using present),
    Exchange.run'_ofExcept_ok_bind encoded]
  rfl

/-- On an entity resource, a query that is empty once trimmed fails before anything is sent. -/
theorem Akeneo.runQuery_empty_code {settings : Settings} {c : Config} {depth : Nat} {q : QueryInfo}
    {limit : Option Int} {e : Endpoint}
    (resolved : c.resolve q.resourceId false akeneoResources = .ok e)
    (entity : 1 < (splitText e.url Akeneo.codeSlot).length)
    (empty : Akeneo.normalizeQuery (some q.query) = "") (σ : Session) :
    (Akeneo.runQuery settings c depth q limit).run' σ =
      (.error (Failure.simple .malformedQuery ("[Akeneo] A code is required for " ++ e.url)), σ) := by
  unfold Akeneo.runQuery
  rw [Exchange.run'_ofExcept_ok_bind resolved]
  dsimp only
  rw [if_pos entity, if_pos (by simp [empty]), Exchange.run'_bind, Exchange.run'_throw]

/-- A query run on an entity resource fails for a query that is empty once trimmed, before
sending anything. Otherwise the code it names, slashes at its ends dropped, is written as one
path segment into the `{code}` slot, and the request for that URL is the only one sent; no
failure of it is a malformed query. -/
theorem Akeneo.runQuery_entity {settings : Settings} {c : Config} {depth : Nat} {q : QueryInfo}
    {limit : Option Int} {e : Endpoint}
    (resolved : c.resolve q.resourceId false akeneoResources = .ok e)
    (entity : 1 < (splitText e.url Akeneo.codeSlot).length) (σ : Session) :
    (Akeneo.normalizeQuery (some q.query) = "" →
      (Akeneo.runQuery settings c depth q limit).run' σ =
        (.error (Failure.simple .malformedQuery ("[Akeneo] A code is required for " ++ e.url)), σ)) ∧
    (Akeneo.normalizeQuery (some q.query) ≠ "" → CharsOnly (Akeneo.entityCode q) →
      Url.PathSegment (Akeneo.entityCode q) (Url.segmentEncoded (Akeneo.entityCode q)) ∧
      SendsOnly (Akeneo.runQuery settings c depth q limit)
        ((Akeneo.entityEndpoint e q).request c none) σ ∧
      (σ.Clean → ∀ f, ((Akeneo.runQuery settings c depth q limit).run' σ).1 = .error f →
        f.NotMalformed)) := by
  refine ⟨fun empty => Akeneo.runQuery_empty_code resolved entity empty σ, fun present chars => ?_⟩
  have run := @Akeneo.runQuery_code settings c depth q limit e resolved entity present chars σ
  refine ⟨Url.segmentEncoded_pathSegment chars, ⟨fun f unprepared => ?_, fun r prepared => ?_⟩,
    fun clean f failed => ?_⟩
  · rw [run, Exchange.run'_bind, Exchange.run'_ofExcept, unprepared]
  · -- the one page read is the only exchange with the transport
    have session : ((Akeneo.runQuery settings c depth q limit).run' σ).2 =
        σ.serve (depth + 1 + 3) r := by
      rw [run, Exchange.run'_ofExcept_ok_bind prepared, Exchange.bind_session _ _ _ (fun _ _ => rfl), runPages_skip_session]
    rw [session]
    exact ⟨Session.serve_received _ _ _, Session.serve_pauses _ _ _⟩
  · rw [run] at failed
    exact ((Exchange.Confined.bind (.of_ofExcept (Endpoint.request_noMalformed _ _ _)) fun _ =>
      .bind (runPages_noMalformed _ _ _ _ _) fun _ => .of_pure _) σ clean).2 f failed

/-- The product with code `abc` is asked for at its own path, and that request is the only one
sent. -/
theorem product_code_sent_alone :
    ∃ e, productConfig.resolve productQuery.resourceId false akeneoResources = .ok e ∧
      (Akeneo.entityEndpoint e productQuery).url = "https://pim.example.com/api/rest/v1/products/abc" ∧
      SendsOnly (Akeneo.runQuery Settings.standard productConfig 0 productQuery none)
        ((Akeneo.entityEndpoint e productQuery).request productConfig none) productSession := by
  have resolves : (match productConfig.resolve productQuery.resourceId false akeneoResources with
      | .ok e => decide (1 < (splitText e.url Akeneo.codeSlot).length) &&
          (Akeneo.entityEndpoint e productQuery).url == "https://pim.example.com/api/rest/v1/products/abc"
      | .error _ => false) = true := by
    decide +kernel
  cases resolved : productConfig.resolve productQuery.resourceId false akeneoResources with
  | error f => simp [resolved] at resolves
  | ok e =>
    simp only [resolved, Bool.and_eq_true, decide_eq_true_eq, beq_iff_eq] at resolves
    obtain ⟨entity, url⟩ := resolves
    have chars : CharsOnly (Akeneo.entityCode productQuery) := ⟨"abc", by decide +kernel⟩
    obtain ⟨-, sends, -⟩ :=
      (Akeneo.runQuery_entity resolved entity productSession).2 (by decide +kernel) chars
    exact ⟨e, rfl, url, sends⟩

/-- A query of slashes only, for the product resource. -/
def slashesQuery : QueryInfo := ⟨"//", "q", [], [("resourceId", "get_product_by_id")]⟩

/-- A query of slashes only is not empty once trimmed, so it is not refused: its code is empty,
and the products collection is requested with an empty last segment. -/
theorem slashes_request_empty_segment :
    (match (Akeneo.runQuery Settings.standard productConfig 0 slashesQuery none).run' productSession with
      | (.ok _, σ') =>
        σ'.script.received.map (·.url) == ["https://pim.example.com/api/rest/v1/products/"]
      | (.error _, _) => false) = true := by
  decide +kernel

end Courier.Connector
