import Courier.Proofs.HeaderMerge
import Courier.Proofs.Exchange

namespace Courier.Http

open Courier.Url Courier.Text

/-- A URL that no request may go to: wherever it splits, its port cannot be read or is out
of range, its scheme is neither `http` nor `https`, or it has no network location. -/
def RequestUrlRefused (url : String) : Prop :=
  ∀ p, Parts.split url = .ok p →
    (∃ e, p.port = .error e) ∨ (p.scheme ≠ "http" ∧ p.scheme ≠ "https") ∨ p.netloc = ""

/-- Query texts joined by `&`, the empty ones left out; none when all of them are empty. -/
def joinQueryParts (parts : List String) : Option String :=
  match parts.filter (!·.isEmpty) with
  | [] => none
  | kept => some ("&".intercalate kept)

theorem joinQueryParts_pair (a b : String) :
    joinQueryParts [a, b] =
      if a.isEmpty then (if b.isEmpty then none else some b)
      else some (if b.isEmpty then a else a ++ "&" ++ b) := by
  cases ha : a.isEmpty <;> cases hb : b.isEmpty <;> simp [joinQueryParts, ha, hb]

theorem splitFirst_cons_self (sep : Char) (cs : List Char) :
    splitFirst sep (sep :: cs) = ([], some cs) := by
  simp [splitFirst, List.idxOf?_cons]

theorem splitFirst_cons_of_ne {sep c : Char} (differs : c ≠ sep) (cs : List Char) :
    (splitFirst sep (c :: cs)).1 = c :: (splitFirst sep cs).1 := by
  have other : (c == sep) = false := beq_false_of_ne differs
  unfold splitFirst
  cases found : cs.idxOf? sep <;> simp [List.idxOf?_cons, other, found]

theorem drop_length_takeWhile (p : Char → Bool) (l : List Char) :
    l.drop (l.takeWhile p).length = l.dropWhile p := by
  induction l with
  | nil => rfl
  | cons c l ih =>
    cases kept : p c
    · simp [kept]
    · simp [kept, ih]

/-- After a network location comes `/`, `?`, `#` or nothing; the path read from there is
empty or starts with `/`. -/
theorem path_after_netloc {rest : List Char}
    (head : ∀ c ∈ rest.head?, c = '/' ∨ c = '?' ∨ c = '#') :
    (splitFirst '?' (splitFirst '#' rest).1).1 = [] ∨
      ∃ more, (splitFirst '?' (splitFirst '#' rest).1).1 = '/' :: more := by
  match rest, head with
  | [], _ => left; rfl
  | c :: cs, head =>
    rcases head c rfl with rfl | rfl | rfl
    · right
      rw [splitFirst_cons_of_ne (by decide), splitFirst_cons_of_ne (by decide)]
      exact ⟨_, rfl⟩
    · left
      rw [splitFirst_cons_of_ne (by decide), splitFirst_cons_self]
    · left
      rw [splitFirst_cons_self]
      rfl

/-- A URL with a network location has a path that is empty or starts with `/`. -/
theorem Parts.split_path_rooted {url : String} {p : Parts} (split : Parts.split url = .ok p)
    (located : p.netloc ≠ "") : p.path = "" ∨ p.path.startsWith "/" = true := by
  obtain ⟨after, path⟩ : ∃ after : List Char, p.path = String.ofList (splitFirst '?'
      (splitFirst '#' (after.drop (after.takeWhile
        (fun c => c != '/' && c != '?' && c != '#')).length)).1).1 := by
    unfold Parts.split at split
    simp only [bind, Except.bind] at split
    split at split
    · rename_i after _
      refine ⟨after, ?_⟩
      simp only [pure, Except.pure] at split
      repeat' split at split
      all_goals (cases split <;> rfl)
    · exfalso
      simp only [pure, Except.pure] at split
      repeat' split at split
      all_goals (cases split <;> exact located rfl)
  have head : ∀ c ∈ (after.drop (after.takeWhile
      (fun c => c != '/' && c != '?' && c != '#')).length).head?,
      c = '/' ∨ c = '?' ∨ c = '#' := by
    intro c mem
    rw [drop_length_takeWhile] at mem
    have stops := List.head?_dropWhile_not (fun c => c != '/' && c != '?' && c != '#') after
    rw [Option.mem_def.mp mem] at stops
    simp only [Bool.and_eq_false_iff, bne_eq_false_iff_eq] at stops
    rcases stops with (slash | question) | hash
    · exact .inl slash
    · exact .inr (.inl question)
    · exact .inr (.inr hash)
  rcases path_after_netloc head with empty | ⟨more, rooted⟩
  · left
    rw [path, empty]
  · right
    rw [path, rooted]
    simp

/-- Parts with a scheme, a network location and a path that is empty or rooted join, with no
query and no fragment, as the scheme, `://`, the network location and the path. -/
theorem Parts.join_located {p : Parts} (schemed : p.scheme ≠ "") (located : p.netloc ≠ "")
    (rooted : p.path = "" ∨ p.path.startsWith "/" = true) :
    { p with query := "", fragment := "" }.join = p.scheme ++ "://" ++ p.netloc ++ p.path := by
  have netloc_ne : p.netloc.isEmpty = false := by simpa using located
  have scheme_ne : p.scheme.isEmpty = false := by simpa using schemed
  have kept : (!p.path.isEmpty && !p.path.startsWith "/") = false := by
    rcases rooted with empty | rooted
    · simp [empty]
    · simp [rooted]
  have glue : (":" : String) ++ "//" = "://" := by decide
  simp [Parts.join, netloc_ne, scheme_ne, kept]
  simp only [String.append_assoc]
  rw [← glue, String.append_assoc]

theorem appendQuery_of_split {url : String} {p : Parts} (split : Parts.split url = .ok p)
    (q : String) : appendQuery url (some q) = .ok (joinQueryParts [p.query, q]) := by
  rw [joinQueryParts_pair]
  unfold appendQuery
  rw [split]
  by_cases hp : p.query = "" <;> by_cases hq : q = "" <;> simp [hp, hq]

theorem filter_joinQueryParts_pair (a b : String) :
    (joinQueryParts [a, b]).filter (!·.isEmpty) = joinQueryParts [a, b] := by
  rw [joinQueryParts_pair]
  cases ha : a.isEmpty <;> cases hb : b.isEmpty <;> simp [ha, hb]

/-- The caller's query followed by `&name=value` for each authentication parameter, outer
ampersands dropped. -/
theorem buildQuery_eq (query : Option String) (authQuery : List (String × String)) :
    buildQuery query authQuery = Query.stripAmpersands (some (query.getD "" ++
      String.join (authQuery.map fun kv => "&" ++ kv.1 ++ "=" ++ kv.2))) := by
  unfold buildQuery
  congr 2
  generalize query.getD "" = start
  induction authQuery generalizing start with
  | nil => simp
  | cons kv rest ih =>
    obtain ⟨k, v⟩ := kv
    rw [List.foldl_cons, ih]
    simp [String.append_assoc]

theorem requestUrlRefused_iff {url : String} {p : Parts} (split : Parts.split url = .ok p) :
    RequestUrlRefused url ↔
      (∃ e, p.port = .error e) ∨ (p.scheme ≠ "http" ∧ p.scheme ≠ "https") ∨ p.netloc = "" := by
  constructor
  · intro refused
    exact refused p split
  · intro bad p' split'
    rw [split] at split'
    cases split'
    exact bad

theorem unusableSchemeOrNetloc_iff (scheme netloc : String) :
    (!(scheme == "http" || scheme == "https") || netloc.isEmpty) = true ↔
      (scheme ≠ "http" ∧ scheme ≠ "https") ∨ netloc = "" := by
  by_cases http : scheme = "http" <;> by_cases https : scheme = "https" <;>
    by_cases empty : netloc = "" <;> simp [http, https, empty]

/-- Checking a request URL refuses exactly the refused URLs, and passes the others on split. -/
theorem checkRequestUrl_cases (url : Option String) :
    (RequestUrlRefused (url.getD "") ∧ ∃ m, checkRequestUrl url = .error m) ∨
    (¬ RequestUrlRefused (url.getD "") ∧
      ∃ p, Parts.split (url.getD "") = .ok p ∧ checkRequestUrl url = .ok p) := by
  cases split : Parts.split (url.getD "") with
  | error e =>
    refine .inl ⟨(fun p split' => by rw [split] at split'; cases split'), e.message, ?_⟩
    simp only [checkRequestUrl, split, Except.mapError, bind, Except.bind]
  | ok p =>
    rw [requestUrlRefused_iff split]
    cases port : p.port with
    | error e =>
      refine .inl ⟨.inl ⟨e, rfl⟩, e.message, ?_⟩
      simp only [checkRequestUrl, split, port, Except.mapError, bind, Except.bind]
    | ok n =>
      cases unusable : (!(p.scheme == "http" || p.scheme == "https") || p.netloc.isEmpty) with
      | true =>
        refine .inl ⟨.inr ((unusableSchemeOrNetloc_iff _ _).mp unusable),
          "not an absolute http(s) URL: " ++ quotedOption url, ?_⟩
        simp only [checkRequestUrl, split, port, Except.mapError, bind, Except.bind, unusable]
        rfl
      | false =>
        refine .inr ⟨?_, p, rfl, ?_⟩
        · rintro (⟨e, portError⟩ | bad)
          · cases portError
          · have := (unusableSchemeOrNetloc_iff _ _).mpr bad
            rw [unusable] at this
            cases this
        · simp only [checkRequestUrl, split, port, Except.mapError, bind, Except.bind, unusable]
          rfl

theorem prepare_of_checked_error (auth : Credentials) (method body query : Option String)
    (headers : List (String × String)) {url : Option String} {m : String}
    (failed : checkRequestUrl url = .error m) :
    prepare auth url method body query headers = .error (Failure.simple .malformedRequest
      ("Invalid request URL " ++ quotedOption url ++ ": " ++ m)) := by
  unfold prepare
  simp only [failed, bind, Except.bind]
  rfl

theorem prepare_of_checked_ok (auth : Credentials) (method body query : Option String)
    (headers : List (String × String)) {url : Option String} {p : Parts}
    (checked : checkRequestUrl url = .ok p) (split : Parts.split (url.getD "") = .ok p) :
    prepare auth url method body query headers = .ok
      { method := if upper (method.getD "") == "POST" then .post else .get
        url := Parts.join { p with query := "", fragment := "" }
        query := joinQueryParts [p.query, buildQuery query auth.query]
        headers := mergeHeaders auth.header headers
        body := if upper (method.getD "") == "POST" then body.filter (!isBlankText ·) else none } := by
  unfold prepare
  simp only [checked, appendQuery_of_split split, Except.mapError, bind, Except.bind, pure,
    Except.pure, filter_joinQueryParts_pair]

/-- Preparing a request fails, always as a malformed request, exactly when its URL is refused.
Otherwise the request goes to the URL's scheme, `://`, network location and path. Its query is
the URL's own query and the caller's query followed by `&name=value` for each authentication
parameter, outer ampersands dropped, joined by `&` with the empty ones left out. It is a POST
exactly when the method in uppercase is `POST`, carries the body only then and only when the
body is not blank, and carries the merged headers. -/
theorem prepare_refuses_exactly_unusable_urls (auth : Credentials)
    (url method body query : Option String) (headers : List (String × String)) :
    Except.FailsWithin (·.cause = .malformedRequest) (prepare auth url method body query headers) ∧
    ((∃ f, prepare auth url method body query headers = .error f) ↔
      RequestUrlRefused (url.getD "")) ∧
    ∀ p, Parts.split (url.getD "") = .ok p → ¬ RequestUrlRefused (url.getD "") →
      prepare auth url method body query headers = .ok
        { method := if upper (method.getD "") = "POST" then .post else .get
          url := p.scheme ++ "://" ++ p.netloc ++ p.path
          query := joinQueryParts [p.query, Query.stripAmpersands (some (query.getD "" ++
            String.join (auth.query.map fun kv => "&" ++ kv.1 ++ "=" ++ kv.2)))]
          headers := mergeHeaders auth.header headers
          body := if upper (method.getD "") = "POST" then body.filter (!isBlankText ·)
            else none } := by
  rcases checkRequestUrl_cases url with ⟨refused, m, failed⟩ | ⟨usable, p, split, checked⟩
  · -- a refused URL stops the preparation
    have prepared := prepare_of_checked_error auth method body query headers failed
    refine ⟨?_, ⟨fun _ => refused, fun _ => ⟨_, prepared⟩⟩, fun _ _ usable => absurd refused usable⟩
    intro f fails
    rw [prepared] at fails
    cases fails
    rfl
  · have prepared := prepare_of_checked_ok auth method body query headers checked split
    refine ⟨fun f fails => ?_, ⟨fun ⟨f, fails⟩ => ?_, fun refused => absurd refused usable⟩,
      fun p' split' _ => ?_⟩
    · rw [prepared] at fails
      cases fails
    · rw [prepared] at fails
      cases fails
    rw [split] at split'
    cases split'
    have accepted := (requestUrlRefused_iff split).not.mp usable
    simp only [not_or, not_and_or, not_not] at accepted
    obtain ⟨-, web, located⟩ := accepted
    have schemed : p.scheme ≠ "" := by
      rcases web with http | https
      · rw [http]
        decide
      · rw [https]
        decide
    rw [prepared, Parts.join_located schemed located (Parts.split_path_rooted split located),
      buildQuery_eq]
    simp only [beq_iff_eq]

-- The URL's own query comes first, then the caller's, then the authentication parameter.
example : (prepare ⟨[], [("key", "abc")]⟩ (some "https://h.com/items?x=1") (some "GET") none
      (some "a=1") []).toOption.map (fun r => (r.url, r.query)) =
    some ("https://h.com/items", some "x=1&a=1&key=abc") := by
  decide +kernel

end Courier.Http
