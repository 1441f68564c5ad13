import Courier.Paging.Strategy

namespace Courier.Url

open Courier.Text

theorem not_le_space_of_isAlpha {c : Char} (alpha : c.isAlpha = true) : ¬ c.toNat ≤ 0x20 := by
  -- the classes are read as the bounds they are defined by, without unfolding them by name
  have alpha : (decide (c.val ≥ 'A'.val ∧ c.val ≤ 'Z'.val) ||
      (decide (c.val ≥ 'a'.val) && decide (c.val ≤ 'z'.val))) = true := alpha
  simp only [Bool.or_eq_true, Bool.and_eq_true, decide_eq_true_eq, UInt32.le_iff_toNat_le,
    ge_iff_le] at alpha
  have : c.toNat = c.val.toNat := rfl
  have : 'A'.val.toNat = 65 := rfl
  have : 'a'.val.toNat = 97 := rfl
  omega

theorem toLower_of_not_isUpper {c : Char} (lower : c.isUpper = false) : c.toLower = c := by
  unfold Char.toLower
  split
  · next upper =>
    have upper : c.isUpper = true := decide_eq_true upper
    exact absurd (lower ▸ upper) Bool.false_ne_true
  · rfl

theorem splitFirst_of_not_mem {sep : Char} {cs : List Char} (absent : sep ∉ cs) :
    splitFirst sep cs = (cs, none) := by
  simp [splitFirst, List.idxOf?_eq_none_iff.2 absent]

theorem idxOf?_append_cons {sep : Char} {before after : List Char} (absent : sep ∉ before) :
    (before ++ sep :: after).idxOf? sep = some before.length := by
  induction before with
  | nil => simp [List.idxOf?_cons]
  | cons c before ih =>
    simp only [List.mem_cons, not_or] at absent
    simp [List.idxOf?_cons, ih absent.2, Ne.symm absent.1]

theorem splitFirst_append_cons {sep : Char} {before after : List Char} (absent : sep ∉ before) :
    splitFirst sep (before ++ sep :: after) = (before, some after) := by
  simp [splitFirst, idxOf?_append_cons absent]

theorem kept_of_not_break {c : Char} (h : c ∉ ['\t', '\r', '\n']) :
    (c != '\t' && c != '\r' && c != '\n') = true := by
  simp only [List.mem_cons, List.not_mem_nil, or_false, not_or] at h
  simp [h.1, h.2.1, h.2.2]

theorem not_break_of_isSchemeChar {c : Char} (h : isSchemeChar c = true) :
    c ∉ ['\t', '\r', '\n'] := by
  intro mem
  simp only [List.mem_cons, List.not_mem_nil, or_false] at mem
  rcases mem with rfl | rfl | rfl <;> revert h <;> decide

/-- An absolute URL in the form splitting leaves as it is: a lowercase scheme, a network
location, a path that is empty or starts with `/`, a query and no fragment, with no tab or line
break, and a network location that passes the checks of splitting. -/
structure Parts.Plain (p : Parts) : Prop where
  scheme_head : ∃ c rest, p.scheme.toList = c :: rest ∧ c.isAlpha = true
  scheme_chars : ∀ c ∈ p.scheme.toList, isSchemeChar c = true ∧ c.isUpper = false
  netloc_nonempty : p.netloc ≠ ""
  netloc_chars : ∀ c ∈ p.netloc.toList,
    c ∉ ['/', '?', '#', '\t', '\r', '\n'] ∧ normalisesToDelimiter c = false
  brackets_paired : p.netloc.toList.contains '[' = p.netloc.toList.contains ']'
  brackets_checked :
    p.netloc.toList.contains '[' = true → checkBracketedNetloc p.netloc.toList = .ok ()
  path_rooted : p.path.isEmpty ∨ p.path.startsWith "/"
  path_chars : ∀ c ∈ p.path.toList, c ∉ ['?', '#', '\t', '\r', '\n']
  query_chars : ∀ c ∈ p.query.toList, c ∉ ['#', '\t', '\r', '\n']
  no_fragment : p.fragment = ""

/-- The characters after the network location: the path, then `?` and the query when there is
one. -/
def Parts.pathAndQuery (p : Parts) : List Char :=
  p.path.toList ++ if p.query.isEmpty then [] else '?' :: p.query.toList

theorem Parts.mem_pathAndQuery {p : Parts} {c : Char} (mem : c ∈ p.pathAndQuery) :
    c ∈ p.path.toList ∨ c = '?' ∨ c ∈ p.query.toList := by
  unfold Parts.pathAndQuery at mem
  split at mem <;> simp_all

theorem Parts.join_query (p : Parts) (nonempty : p.query.isEmpty = false) :
    { p with query := "", fragment := "" }.join ++ "?" ++ p.query =
      { p with fragment := "" }.join := by
  simp [Parts.join, nonempty]

section Plain

variable {p : Parts} (plain : p.Plain)
include plain

theorem Parts.toList_join :
    p.join.toList = p.scheme.toList ++ ':' :: '/' :: '/' :: (p.netloc.toList ++ p.pathAndQuery) := by
  obtain ⟨c, rest, scheme, -⟩ := plain.scheme_head
  have scheme_ne : p.scheme.isEmpty = false := by
    simp [← String.toList_eq_nil_iff, scheme]
  have netloc_ne : p.netloc.isEmpty = false := by simpa using plain.netloc_nonempty
  have rooted : (!p.path.isEmpty && !p.path.startsWith "/") = false := by
    rcases plain.path_rooted with rooted | rooted <;> simp [rooted]
  unfold Parts.join Parts.pathAndQuery
  cases query : p.query.isEmpty <;>
    simp [netloc_ne, rooted, scheme_ne, plain.no_fragment, String.toList_append]

theorem Parts.Plain.pathAndQuery_head {c : Char} {rest : List Char}
    (head : p.pathAndQuery = c :: rest) : c = '/' ∨ c = '?' := by
  unfold Parts.pathAndQuery at head
  rcases plain.path_rooted with empty | rooted
  · rw [String.isEmpty_iff.1 empty] at head
    split at head
    · simp at head
    · simp only [String.toList_empty, List.nil_append, List.cons.injEq] at head
      exact .inr head.1.symm
  · obtain ⟨after, slash⟩ := String.startsWith_string_iff.1 rooted
    rw [← slash] at head
    simp at head
    exact .inl head.1.symm

/-- Neither the leading blanks nor the tabs and line breaks that splitting removes occur. -/
theorem Parts.Plain.clean :
    (p.join.toList.dropWhile (fun c => c.toNat ≤ 0x20)).filter
      (fun c => c != '\t' && c != '\r' && c != '\n') = p.join.toList := by
  obtain ⟨c, rest, scheme, alpha⟩ := plain.scheme_head
  have kept : ¬ decide (c.toNat ≤ 0x20) = true := by simpa using not_le_space_of_isAlpha alpha
  rw [Parts.toList_join plain, scheme, List.cons_append,
    List.dropWhile_cons_of_neg (p := fun d : Char => decide (d.toNat ≤ 0x20)) kept,
    ← List.cons_append, ← scheme]
  apply List.filter_eq_self.2
  intro a mem
  apply kept_of_not_break
  simp only [List.mem_append, List.mem_cons] at mem
  rcases mem with inScheme | rfl | rfl | rfl | inNetloc | inRest
  · exact not_break_of_isSchemeChar (plain.scheme_chars a inScheme).1
  all_goals try decide
  · have := (plain.netloc_chars a inNetloc).1
    simp_all
  · rcases Parts.mem_pathAndQuery inRest with inPath | rfl | inQuery
    · have := plain.path_chars a inPath
      simp_all
    · decide
    · have := plain.query_chars a inQuery
      simp_all

theorem Parts.Plain.splitScheme_join :
    splitScheme p.join.toList =
      some (p.scheme, '/' :: '/' :: (p.netloc.toList ++ p.pathAndQuery)) := by
  obtain ⟨c, rest, scheme, alpha⟩ := plain.scheme_head
  have colon : ':' ∉ p.scheme.toList := fun mem =>
    absurd (plain.scheme_chars ':' mem).1 (by decide)
  have schemeChars : p.scheme.toList.all isSchemeChar = true :=
    List.all_eq_true.2 fun a mem => (plain.scheme_chars a mem).1
  have lowered : p.scheme.toList.map Char.toLower = p.scheme.toList := by
    rw [List.map_congr_left fun a mem => toLower_of_not_isUpper (plain.scheme_chars a mem).2]
    exact List.map_id _
  rw [Parts.toList_join plain, splitScheme, splitFirst_append_cons colon, scheme]
  simp only [alpha, Bool.true_and, ← scheme, schemeChars, lowered, if_true, String.ofList_toList]

theorem Parts.Plain.takeWhile_netloc :
    (p.netloc.toList ++ p.pathAndQuery).takeWhile (fun c => c != '/' && c != '?' && c != '#') =
      p.netloc.toList := by
  rw [List.takeWhile_append_of_pos fun a mem => by
    have := (plain.netloc_chars a mem).1
    simp_all]
  cases after : p.pathAndQuery with
  | nil => simp
  | cons c rest => rcases plain.pathAndQuery_head after with rfl | rfl <;> simp

theorem Parts.Plain.no_hash : '#' ∉ p.pathAndQuery := fun mem => by
  rcases Parts.mem_pathAndQuery mem with inPath | bad | inQuery
  · exact absurd (plain.path_chars '#' inPath) (by simp)
  · exact absurd bad (by decide)
  · exact absurd (plain.query_chars '#' inQuery) (by simp)

theorem Parts.Plain.splitFirst_query :
    splitFirst '?' p.pathAndQuery =
      (p.path.toList, if p.query.isEmpty then none else some p.query.toList) := by
  have noQuestion : '?' ∉ p.path.toList := fun mem =>
    absurd (plain.path_chars '?' mem) (by simp)
  unfold Parts.pathAndQuery
  split
  · simpa using splitFirst_of_not_mem noQuestion
  · exact splitFirst_append_cons noQuestion

theorem Parts.Plain.normalForm : checkNormalForm p.netloc = .ok () := by
  have plainChars : p.netloc.toList.any normalisesToDelimiter = false := by
    simp only [List.any_eq_false]
    intro c mem
    simp [(plain.netloc_chars c mem).2]
  simp [checkNormalForm, plainChars]

theorem Parts.split_join : Parts.split p.join = .ok p := by
  have paired : (p.netloc.toList.contains '[' != p.netloc.toList.contains ']') = false := by
    rw [plain.brackets_paired]
    exact bne_self_eq_false _
  have query : String.ofList ((if p.query.isEmpty then none else some p.query.toList).getD []) =
      p.query := by
    split
    · next empty => simpa using (String.isEmpty_iff.1 empty).symm
    · simp
  unfold Parts.split
  simp only [plain.clean, plain.splitScheme_join, Option.getD_some, plain.takeWhile_netloc, paired,
    Bool.false_eq_true, if_false, List.drop_left, pure_bind, splitFirst_of_not_mem plain.no_hash,
    plain.splitFirst_query, String.ofList_toList, plain.normalForm, query, Option.getD_none,
    String.ofList_nil]
  rw [← plain.no_fragment]
  split
  · next bracket => rw [plain.brackets_checked bracket]; rfl
  · rfl

end Plain

end Courier.Url

namespace Courier.Http

open Courier.Url

theorem Request.withUrl_error {r : Request} {href : String} {e : UrlError}
    (split : Parts.split href = .error e) : r.withUrl href = .error e := by
  simp only [Request.withUrl, split]
  rfl

/-- A request pointed at a URL that splits keeps its method, headers and body, and asks for the
URL joined again without its fragment. -/
theorem Request.withUrl_ok {r : Request} {href : String} {p : Parts}
    (split : Parts.split href = .ok p) :
    ∃ r', r.withUrl href = .ok r' ∧ r'.method = r.method ∧ r'.headers = r.headers ∧
      r'.body = r.body ∧ r'.fullUrl = { p with fragment := "" }.join := by
  refine ⟨{ r with url := { p with query := "", fragment := "" }.join
                   query := if p.query.isEmpty then none else some p.query },
    by simp only [Request.withUrl, split]; rfl, rfl, rfl, rfl, ?_⟩
  unfold Request.fullUrl
  cases queried : p.query.isEmpty
  · simp only [queried, Bool.false_eq_true, if_false, Parts.join_query p queried]
  · have empty : p.query = "" := String.isEmpty_iff.1 queried
    simp only [if_true]
    rw [empty]

end Courier.Http

namespace Courier.Paging

open Courier.Url Courier.Http

/-- The request after a page that links on either fails as a bad value, when the link does not
split, or keeps the method, headers and body and asks for the link joined again from its parts
without the fragment; a plain link is asked for verbatim. -/
theorem next_link_requests_normalised_href (itemsPath nextLinkPath : String) (delay : Float)
    (previous : Request) {page : Page} {href : String}
    (more : page.hasMore = true) (advertised : page.continuation = some href) :
    (∀ e, Parts.split href = .error e →
      (Strategy.link itemsPath nextLinkPath delay).next previous page =
        .error (Failure.simple .badValue e.message)) ∧
    (∀ p, Parts.split href = .ok p →
      ∃ r, (Strategy.link itemsPath nextLinkPath delay).next previous page = .ok (some r) ∧
        r.method = previous.method ∧ r.headers = previous.headers ∧ r.body = previous.body ∧
        r.fullUrl = { p with fragment := "" }.join ∧
        ∀ q : Parts, q.Plain → q.join = href → r.fullUrl = href) := by
  constructor
  · intro e split
    simp [Strategy.next, advertised, more, Request.withUrl_error split]
  · intro p split
    obtain ⟨r, pointed, method, headers, body, url⟩ := Request.withUrl_ok (r := previous) split
    refine ⟨r, by simp [Strategy.next, advertised, more, pointed], method, headers, body, url, ?_⟩
    intro q plain joined
    have same : p = q := by
      rw [← joined, Parts.split_join plain] at split
      exact (Except.ok.inj split).symm
    rw [url, same, ← plain.no_fragment, ← joined]

/-- A POST request for a product listing. -/
def productsRequest : Request :=
  ⟨.post, "https://pim.example.com/api/rest/v1/products", some "limit=1",
    [("Authorization", "Bearer t")], some "q"⟩

/-- A page of that listing linking to its second page. -/
def productsPage : Page :=
  ⟨"", [], some "https://pim.example.com/api/rest/v1/products?page=2", none⟩

/-- The parts of that link. -/
def productsLink : Parts :=
  ⟨"https", "pim.example.com", "/api/rest/v1/products", "page=2", ""⟩

-- The character checks are decided through the list (with Batteries in scope, a check over
-- every character would be picked instead).
theorem productsLink_plain : productsLink.Plain where
  scheme_head := ⟨'h', "ttps".toList, by decide +kernel, by decide⟩
  scheme_chars := @of_decide_eq_true _ (List.decidableBAll _ _) (by decide +kernel)
  netloc_nonempty := by decide +kernel
  netloc_chars := @of_decide_eq_true _ (List.decidableBAll _ _) (by decide +kernel)
  brackets_paired := by decide +kernel
  brackets_checked := fun bracket => absurd bracket (by decide +kernel)
  path_rooted := .inr (by decide +kernel)
  path_chars := @of_decide_eq_true _ (List.decidableBAll _ _) (by decide +kernel)
  query_chars := @of_decide_eq_true _ (List.decidableBAll _ _) (by decide +kernel)
  no_fragment := rfl

/-- The second page is asked for at the advertised URL, as a POST with the same headers and
body. -/
theorem products_link_taken_verbatim :
    ∃ r, Strategy.standardLink.next productsRequest productsPage = .ok (some r) ∧
      r.method = .post ∧ r.headers = [("Authorization", "Bearer t")] ∧ r.body = some "q" ∧
      r.fullUrl = "https://pim.example.com/api/rest/v1/products?page=2" := by
  have joined : productsLink.join = "https://pim.example.com/api/rest/v1/products?page=2" := by
    decide +kernel
  have split := Parts.split_join productsLink_plain
  rw [joined] at split
  have more : productsPage.hasMore = true := by decide +kernel
  have advertised : productsPage.continuation =
      some "https://pim.example.com/api/rest/v1/products?page=2" := rfl
  obtain ⟨r, next, method, headers, body, -, verbatim⟩ :=
    (next_link_requests_normalised_href "_embedded.items" "_links.next.href" 15
      productsRequest more advertised).2 productsLink split
  exact ⟨r, next, method, headers, body, verbatim productsLink productsLink_plain joined⟩

/-- A link whose scheme is written in capitals is asked for with its scheme lowercased, so not
verbatim. -/
theorem uppercase_scheme_link_lowercased :
    (match Strategy.standardLink.parse 0
        "\x7b\"_links\":\x7b\"next\":\x7b\"href\":\"HTTPS://pim.example.com/api/rest/v1/products?page=2\"\x7d\x7d\x7d" with
      | .ok page =>
        match Strategy.standardLink.next
            ⟨.get, "https://pim.example.com/api/rest/v1/products", none, [], none⟩ page with
        | .ok (some r) => r.fullUrl == "https://pim.example.com/api/rest/v1/products?page=2"
        | _ => false
      | .error _ => false) = true := by
  decide +kernel

end Courier.Paging
