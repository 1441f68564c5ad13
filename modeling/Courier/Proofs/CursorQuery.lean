import Mathlib.Data.List.Nodup
import Courier.Proofs.FormQuery
import Courier.Connector.Salsify

namespace Courier.Keyed

variable {α : Type} {entries : List (String × α)} {name other : String} {v : α}

theorem find?_of_not_contains (absent : ¬ contains entries name = true) :
    entries.find? (·.1 == name) = none := by
  simp only [contains, Bool.not_eq_true, List.any_eq_false] at absent
  exact List.find?_eq_none.2 fun e mem => by simp [absent e mem]

theorem find?_of_contains (present : contains entries name = true) :
    ∃ e, entries.find? (·.1 == name) = some e ∧ e.1 = name := by
  have found : (entries.find? (·.1 == name)).isSome := by
    rw [List.find?_isSome]
    exact List.any_eq_true.1 present
  obtain ⟨e, found⟩ := Option.isSome_iff_exists.1 found
  exact ⟨e, found, by simpa using List.find?_some found⟩

theorem find?_map_of_keeps_names {f : String × α → String × α} (keeps : ∀ e, (f e).1 = e.1)
    (l : List (String × α)) (m : String) :
    (l.map f).find? (·.1 == m) = (l.find? (·.1 == m)).map f := by
  rw [List.find?_map]
  congr 2
  funext e
  simp [keeps]

theorem set_keeps_names (e : String × α) :
    ((fun (k, old) => if k == name then (k, v) else (k, old)) e).1 = e.1 := by
  obtain ⟨k, old⟩ := e
  dsimp only
  split <;> rfl

theorem get?_set_same : get? (set entries name v) name = some v := by
  unfold set
  split
  · next present =>
    obtain ⟨e, found, named⟩ := find?_of_contains present
    rw [get?, find?_map_of_keeps_names set_keeps_names, found]
    obtain ⟨k, old⟩ := e
    simp_all
  · next absent =>
    simp [get?, List.find?_append, find?_of_not_contains absent]

theorem get?_set_other (different : name ≠ other) :
    get? (set entries name v) other = get? entries other := by
  unfold set
  split
  · rw [get?, find?_map_of_keeps_names set_keeps_names, get?]
    cases found : entries.find? (·.1 == other) with
    | none => rfl
    | some e =>
      have named : e.1 = other := by simpa using List.find?_some found
      obtain ⟨k, old⟩ := e
      simp_all [Ne.symm different]
  · simp [get?, List.find?_append, different]

theorem get?_set :
    get? (set entries name v) other = if name = other then some v else get? entries other := by
  by_cases same : name = other
  · subst same
    simp [get?_set_same]
  · simp [same, get?_set_other same]

theorem mem_set {e : String × α} (mem : e ∈ set entries name v) : e ∈ entries ∨ e = (name, v) := by
  unfold set at mem
  split at mem
  · obtain ⟨⟨k, old⟩, present, rfl⟩ := List.mem_map.1 mem
    by_cases same : k = name
    · subst same
      simp
    · simp [same, present]
  · simpa using mem

theorem set_of_not_contains (absent : contains entries name = false) :
    set entries name v = entries ++ [(name, v)] := by
  simp [set, absent]

theorem names_set : (set entries name v).map Prod.fst =
    if name ∈ entries.map Prod.fst then entries.map Prod.fst
    else entries.map Prod.fst ++ [name] := by
  by_cases named : name ∈ entries.map Prod.fst
  · have present : contains entries name = true := by
      obtain ⟨e, mem, rfl⟩ := List.mem_map.1 named
      exact List.any_eq_true.2 ⟨e, mem, beq_self_eq_true _⟩
    rw [if_pos named, set, if_pos present, List.map_map]
    exact List.map_congr_left fun e _ => set_keeps_names e
  · have absent : contains entries name = false := by
      simp only [contains, List.any_eq_false, beq_iff_eq]
      exact fun e mem same => named (List.mem_map.2 ⟨e, mem, same⟩)
    rw [if_neg named, set_of_not_contains absent]
    simp

/-- In a table whose names are distinct, each entry is what its name looks up. -/
theorem get?_of_mem (distinct : (entries.map Prod.fst).Nodup) {e : String × α} (mem : e ∈ entries) :
    get? entries e.1 = some e.2 := by
  obtain ⟨found, first, named⟩ :=
    find?_of_contains (List.any_eq_true.2 ⟨e, mem, beq_self_eq_true e.1⟩)
  have same : found = e :=
    List.inj_on_of_nodup_map distinct (List.mem_of_find?_eq_some first) mem named
  simp [get?, first, same]

theorem set_ne_nil (entries : List (String × α)) (name : String) (v : α) : set entries name v ≠ [] := by
  intro empty
  have found : get? (set entries name v) name = some v := get?_set_same
  rw [empty] at found
  cases found

end Courier.Keyed

namespace Courier.Url.Query

open Courier.Text

/-- The last segment of a query whose name, blanks trimmed, is `name`. -/
def lastSegment (query name : String) : Option String :=
  ((segments query).filter fun segment => trim (segmentName segment) == name).getLast?

theorem get?_foldl_set (name : String) (segs : List String) (acc : List (String × String)) :
    Keyed.get? (segs.foldl (fun acc seg => Keyed.set acc (trim (segmentName seg)) seg) acc) name =
      ((segs.filter fun seg => trim (segmentName seg) == name).getLast?).or (Keyed.get? acc name) := by
  induction segs generalizing acc with
  | nil => simp
  | cons seg segs ih =>
    rw [List.foldl_cons, ih, Keyed.get?_set, List.filter_cons]
    by_cases named : trim (segmentName seg) = name
    · have last : (seg :: segs.filter fun seg => trim (segmentName seg) == name).getLast? =
          (segs.filter fun seg => trim (segmentName seg) == name).getLast?.or (some seg) := by
        rw [← List.singleton_append, List.getLast?_append]
        rfl
      simp [named, last]
    · simp [named]

/-- Under each name the query's parameters hold its last segment so named. -/
theorem get?_params (query name : String) : Keyed.get? (params query) name = lastSegment query name := by
  rw [params, get?_foldl_set, lastSegment]
  simp [Keyed.get?]

end Courier.Url.Query

namespace Courier.Connector

open Courier.Url

/-- The parameters carried from a query: for each name in turn, the value of the query's last
segment so named, after its first `=` and form decoded; nothing when that segment has no `=`. -/
def carriedValues (query : String) (names : List String) : List (String × String) :=
  Keyed.ofPairs (names.filterMap fun name =>
    ((Query.lastSegment query name).bind afterEquals).map fun v => (name, formDecode v))

theorem queryParamValues_eq (query : String) (names : List String) :
    queryParamValues query names = carriedValues query names := by
  unfold queryParamValues carriedValues Keyed.ofPairs
  rw [List.foldl_filterMap]
  dsimp only
  congr 1
  funext acc name
  have value : (Keyed.get? (if query.isEmpty then [] else Query.params query) name).bind afterEquals =
      (Query.lastSegment query name).bind afterEquals := by
    split
    · next empty =>
      have segments : Query.segments "" = [""] := by decide
      have unvalued : afterEquals "" = none := by decide
      rw [String.isEmpty_iff.1 empty, Query.lastSegment, segments]
      by_cases named : Text.trim (Query.segmentName "") = name <;> simp [Keyed.get?, named, unvalued]
    · rw [Query.get?_params]
  rw [value]
  cases (Query.lastSegment query name).bind afterEquals <;> rfl

end Courier.Connector

namespace Courier.Paging

open Courier.Text Courier.Url Courier.Http

/-- A page with a cursor asks for the next one with the same request, its query replaced by the
carried parameters and the cursor, form encoded; reading that query back gives exactly them, the
cursor in place of a carried parameter of its name. -/
theorem next_cursor_query {itemsPath cursorPath : String} {totalPath : Option String}
    {cursorParam : String} {carried : List (String × String)} {previous : Request} {page : Page}
    {c : String} (more : page.hasMore = true) (advertised : page.continuation = some c)
    (chars : ∀ kv ∈ Keyed.set carried cursorParam c, CharsOnly kv.1 ∧ CharsOnly kv.2) :
    ∃ q, (Strategy.cursor itemsPath cursorPath totalPath cursorParam carried).next previous page =
        .ok (some { previous with query := some q }) ∧
      formDecodePairs q = Keyed.set carried cursorParam c := by
  obtain ⟨q, encoded, decoded⟩ := formDecodePairs_formEncodePairs chars
  have nonempty : (Keyed.set carried cursorParam c).isEmpty = false := by
    simpa using Keyed.set_ne_nil carried cursorParam c
  have replaced : previous.withQuery (Keyed.set carried cursorParam c) =
      .ok { previous with query := some q } := by
    rw [Request.withQuery, nonempty, if_neg Bool.false_ne_true, encoded]
    rfl
  refine ⟨q, ?_, decoded⟩
  simp only [Strategy.next, advertised, more, Bool.not_true, Bool.false_eq_true, ite_false,
    replaced]

theorem charsOnly_set {carried : List (String × String)} {name v : String}
    (each : ∀ kv ∈ carried, CharsOnly kv.1 ∧ CharsOnly kv.2) (named : CharsOnly name)
    (valued : CharsOnly v) : ∀ kv ∈ Keyed.set carried name v, CharsOnly kv.1 ∧ CharsOnly kv.2 := by
  intro kv mem
  rcases Keyed.mem_set mem with old | rfl
  · exact each kv old
  · exact ⟨named, valued⟩

end Courier.Paging

namespace Courier.Connector

open Courier.Text Courier.Url Courier.Http Courier.Paging

theorem filterParam_set_cursor (sq : SalsifyQuery) (c : String) :
    Keyed.set sq.filterParam "cursor" c = sq.filterParam ++ [("cursor", c)] := by
  apply Keyed.set_of_not_contains
  unfold SalsifyQuery.filterParam
  split
  · split <;> rfl
  · rfl

theorem filterParam_charsOnly {sq : SalsifyQuery} (filter : ∀ f, sq.filter = some f → CharsOnly f) :
    ∀ kv ∈ sq.filterParam, CharsOnly kv.1 ∧ CharsOnly kv.2 := by
  unfold SalsifyQuery.filterParam
  split
  · next f given =>
    split
    · simp
    · simp only [List.mem_singleton, forall_eq]
      exact ⟨⟨"filter", by decide⟩, filter f given⟩
  · simp

/-- The continuation requests of cursor pagination as Salsify and the REST connector build it.
Each keeps the method, URL, headers and body of the request before, and its query reads back as
exactly the carried parameters followed by the cursor, every other parameter of the first request
dropped. Salsify carries the filter when it is not empty; REST carries, for each name it is told
to, the decoded value of the first query's last segment of that name. -/
theorem cursor_query_reads_as_carried :
    (∀ (sq : SalsifyQuery) (previous : Request) (page : Page) (c : String),
      page.hasMore = true → page.continuation = some c → CharsOnly c →
      (∀ f, sq.filter = some f → CharsOnly f) →
      ∃ q, (Salsify.strategy sq.carriedParams).next previous page =
          .ok (some { previous with query := some q }) ∧
        formDecodePairs q = sq.filterParam ++ [("cursor", c)]) ∧
    (∀ (s : Paging.Settings) (query : String) (previous : Request) (page : Page) (c : String),
      s.kind = Paging.Kind.cursor → page.hasMore = true → page.continuation = some c → CharsOnly c →
      CharsOnly s.cursorParam →
      (∀ kv ∈ carriedValues query s.carryParams, CharsOnly kv.1 ∧ CharsOnly kv.2) →
      ∃ q, (Paging.Settings.strategy (some s) (queryParamValues query s.carryParams)).next previous page =
          .ok (some { previous with query := some q }) ∧
        formDecodePairs q = Keyed.set (carriedValues query s.carryParams) s.cursorParam c) := by
  constructor
  · intro sq previous page c more advertised cursor filter
    rw [← filterParam_set_cursor]
    exact next_cursor_query more advertised
      (charsOnly_set (filterParam_charsOnly filter) ⟨"cursor", by decide⟩ cursor)
  · intro s query previous page c kind more advertised cursor named carried
    obtain ⟨items, strategy⟩ : ∃ items, Paging.Settings.strategy (some s)
        (carriedValues query s.carryParams) = .cursor items s.cursorPath s.totalPath
          s.cursorParam (carriedValues query s.carryParams) :=
      ⟨_, by unfold Paging.Settings.strategy; dsimp only; rw [kind]⟩
    rw [queryParamValues_eq, strategy]
    exact next_cursor_query more advertised (charsOnly_set carried named cursor)

/-- A filter holding the characters form encoding escapes. -/
def brandFilter : String := "='brand':'A&B+C' 100% é"

/-- A Salsify query with that filter, from page 0 with 50 items a page. -/
def brandQuery : SalsifyQuery := ⟨some brandFilter, 0, 50⟩

/-- A first request, its query holding the filter, the page and the page size. -/
def firstProductsRequest : Request :=
  ⟨.get, "https://app.salsify.com/api/v1/orgs/o/products",
    some "filter=%3D%27brand%27%3A%27A%26B%2BC%27+100%25+%C3%A9&page=0&per_page=50",
    [("Authorization", "Bearer t")], none⟩

/-- A page returning the cursor `c2`. -/
def cursorPage : Page := ⟨"", [], some "c2", none⟩

/-- REST cursor pagination carrying `filter`. -/
def filterCarrying : Paging.Settings :=
  ⟨.cursor, none, "_links.next.href", "meta.cursor", none, "cursor", ["filter"], 0⟩

/-- A REST query naming `filter` twice; the last segment counts. -/
def twiceFiltered : String := "filter=a%2Bb&page=2&filter=x+y"

/-- Both connectors ask for the next page with only the carried filter and the cursor: Salsify's
filter comes back with every escaped character, REST's from the query's last `filter`. -/
theorem cursor_queries_carry_filter :
    (∃ q, (Salsify.strategy brandQuery.carriedParams).next firstProductsRequest cursorPage =
        .ok (some { firstProductsRequest with query := some q }) ∧
      formDecodePairs q = [("filter", brandFilter), ("cursor", "c2")]) ∧
    (∃ q, (Paging.Settings.strategy (some filterCarrying)
        (queryParamValues twiceFiltered filterCarrying.carryParams)).next firstProductsRequest
          cursorPage = .ok (some { firstProductsRequest with query := some q }) ∧
      formDecodePairs q = [("filter", "x y"), ("cursor", "c2")]) := by
  obtain ⟨salsify, rest⟩ := cursor_query_reads_as_carried
  have more : cursorPage.hasMore = true := by decide +kernel
  have cursor : CharsOnly "c2" := ⟨"c2", by decide +kernel⟩
  constructor
  · exact salsify brandQuery firstProductsRequest cursorPage "c2" more rfl cursor
      fun f given => by cases given; exact ⟨brandFilter, by decide +kernel⟩
  · -- the last `filter` segment holds `x+y`, whose decoding is read through its bytes
    have last : (Query.lastSegment twiceFiltered "filter").bind afterEquals = some "x+y" := by
      decide +kernel
    have value : formDecode "x+y" = "x y" := by
      rw [show "x+y" = String.ofList ([120, 32, 121].flatMap encodeByte) by decide +kernel,
        formDecode_encodeBytes]
      decide +kernel
    have carried : carriedValues twiceFiltered filterCarrying.carryParams = [("filter", "x y")] := by
      show carriedValues twiceFiltered ["filter"] = _
      simp only [carriedValues, List.filterMap_cons, List.filterMap_nil, last, Option.map_some,
        value]
      rfl
    obtain ⟨q, next, decoded⟩ := rest filterCarrying twiceFiltered firstProductsRequest cursorPage
      "c2" rfl more rfl cursor ⟨"cursor", by decide +kernel⟩ (by
        rw [carried]
        simp only [List.mem_singleton, forall_eq]
        exact ⟨⟨"filter", by decide +kernel⟩, ⟨"x y", by decide +kernel⟩⟩)
    refine ⟨q, next, ?_⟩
    rw [decoded, carried]
    rfl

end Courier.Connector
