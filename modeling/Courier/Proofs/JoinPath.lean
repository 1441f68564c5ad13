import Courier.Proofs.QuerySegments

namespace Courier.Url

open Courier.Text

/-- `rest` follows the first occurrence of `needle` in `hay`: `hay` is `pre ++ needle ++ rest`,
and no occurrence starts before `pre` ends. -/
def AfterFirst (needle hay rest : List Char) : Prop :=
  ∃ pre, hay = pre ++ needle ++ rest ∧
    ∀ pre' post, hay = pre' ++ needle ++ post → pre.length ≤ pre'.length

theorem AfterFirst.unique {needle hay rest rest' : List Char} (first : AfterFirst needle hay rest)
    (first' : AfterFirst needle hay rest') : rest = rest' := by
  obtain ⟨pre, split, least⟩ := first
  obtain ⟨pre', split', least'⟩ := first'
  have same : pre.length = pre'.length := Nat.le_antisymm (least pre' rest' split') (least' pre rest split)
  rw [split, List.append_assoc, List.append_assoc] at split'
  exact List.append_cancel_left (List.append_inj split' same).2

theorem AfterFirst.infix {needle hay rest : List Char} (first : AfterFirst needle hay rest) :
    needle <:+: hay := by
  obtain ⟨pre, split, -⟩ := first
  exact ⟨pre, rest, split.symm⟩

theorem afterFirst_append (needle rest : List Char) : AfterFirst needle (needle ++ rest) rest :=
  ⟨[], by simp, fun _ _ _ => Nat.zero_le _⟩

theorem findSub_occurs {needle hay pre post : List Char} (split : hay = pre ++ needle ++ post) :
    ((hay.drop pre.length).take needle.length == needle) = true := by
  subst split
  simp

theorem findSub_some {needle hay : List Char} {i : Nat} (found : findSub needle hay = some i) :
    AfterFirst needle hay (hay.drop (i + needle.length)) := by
  rw [findSub, List.find?_range_eq_some] at found
  obtain ⟨here, inRange, before⟩ := found
  have prefixed : (hay.drop i).take needle.length = needle := by simpa using here
  refine ⟨hay.take i, ?_, ?_⟩
  · calc hay = hay.take i ++ ((hay.drop i).take needle.length ++ (hay.drop i).drop needle.length) := by
          simp only [List.take_append_drop]
      _ = hay.take i ++ needle ++ hay.drop (i + needle.length) := by
          rw [prefixed, List.drop_drop, List.append_assoc]
  · intro pre post split
    have length : (hay.take i).length = i := List.length_take_of_le (by simp at inRange; omega)
    rw [length]
    -- an occurrence at an earlier position would have been found first
    by_contra earlier
    have missed := before pre.length (by omega)
    simp [findSub_occurs split] at missed

theorem findSub_none {needle hay : List Char} (missing : findSub needle hay = none) :
    ¬ needle <:+: hay := by
  rintro ⟨pre, post, split⟩
  rw [findSub, List.find?_range_eq_none] at missing
  have bound : pre.length < hay.length + 1 := by
    rw [← split]
    simp only [List.length_append]
    omega
  have missed := missing pre.length bound
  simp [findSub_occurs split.symm] at missed

/-- What is appended of a resource path `path` for a base path `trimmedBase`, trailing slashes
dropped: what follows the first occurrence of a non-empty base path, or the whole resource path
when the base path is empty or does not occur in it. -/
def Remainder (trimmedBase path rest : List Char) : Prop :=
  (trimmedBase ≠ [] ∧ AfterFirst trimmedBase path rest) ∨
    ((trimmedBase = [] ∨ ¬ trimmedBase <:+: path) ∧ rest = path)

theorem remainder_spec (trimmedBase path : List Char) :
    Remainder trimmedBase path (remainder trimmedBase path) := by
  unfold remainder
  split
  · next empty => exact .inr ⟨.inl (List.isEmpty_iff.1 empty), rfl⟩
  · next present =>
    have nonempty : trimmedBase ≠ [] := fun empty => present (List.isEmpty_iff.2 empty)
    cases found : findSub trimmedBase path with
    | some i => exact .inl ⟨nonempty, findSub_some found⟩
    | none => exact .inr ⟨.inr (findSub_none found), rfl⟩

theorem Remainder.unique {trimmedBase path rest rest' : List Char}
    (appended : Remainder trimmedBase path rest) (appended' : Remainder trimmedBase path rest') :
    rest = rest' := by
  rcases appended with ⟨nonempty, first⟩ | ⟨absent, rfl⟩ <;>
    rcases appended' with ⟨nonempty', first'⟩ | ⟨absent', rfl⟩
  · exact first.unique first'
  · exact absurd first.infix (absent'.resolve_left nonempty)
  · exact absurd first'.infix (absent.resolve_left nonempty')
  · rfl

theorem remainder_of_prefix {trimmedBase : List Char} (nonempty : trimmedBase ≠ [])
    (rest : List Char) : remainder trimmedBase (trimmedBase ++ rest) = rest :=
  (remainder_spec _ _).unique (.inl ⟨nonempty, afterFirst_append trimmedBase rest⟩)

/-- A resource path that does not hold the base path is appended in full. -/
theorem remainder_of_not_infix {trimmedBase path : List Char} (absent : ¬ trimmedBase <:+: path) :
    remainder trimmedBase path = path :=
  (remainder_spec _ _).unique (.inr ⟨.inr absent, rfl⟩)

theorem mem_pathSegments {path : List Char} {s : String} (mem : s ∈ pathSegments path) :
    s ≠ "" ∧ '/' ∉ s.toList := by
  rw [pathSegments, show "/" = String.singleton '/' from rfl, splitText_eq_splitOn,
    List.mem_filter] at mem
  obtain ⟨listed, nonempty⟩ := mem
  obtain ⟨piece, split, rfl⟩ := List.mem_map.1 listed
  exact ⟨by simpa using nonempty, by simpa using not_mem_of_mem_splitOn split⟩

/-- The path a join builds has exactly the given segments, when none is empty or holds `/`. -/
theorem pathSegments_joined {segments : List String} (plain : ∀ s ∈ segments, s ≠ "" ∧ '/' ∉ s.toList) :
    pathSegments ("/" ++ "/".intercalate segments).toList = segments := by
  cases segments with
  | nil => rfl
  | cons s more =>
    have pieces : ("/" ++ "/".intercalate (s :: more)).toList =
        ['/'].intercalate ([] :: (s :: more).map String.toList) := by
      simp [String.toList_intercalate, List.intercalate_cons_cons]
    have free : ∀ p ∈ ([] :: (s :: more).map String.toList), '/' ∉ p := by
      intro p mem
      rcases List.mem_cons.1 mem with rfl | listed
      · simp
      · obtain ⟨t, mem', rfl⟩ := List.mem_map.1 listed
        exact (plain t mem').2
    rw [pathSegments, pieces, show "/" = String.singleton '/' from rfl, splitText_eq_splitOn,
      String.toList_ofList, List.splitOn_intercalate '/' free (by simp)]
    simp only [List.map_cons, List.map_map, Function.comp_def, String.ofList_toList, List.map_id']
    rw [List.filter_cons_of_neg (by simp)]
    exact List.filter_eq_self.2 fun t mem => by simpa using (plain t mem).1

theorem join_eq {base r : String} {b : Parts} (split : Parts.split base = .ok b)
    (scheme : b.scheme ≠ "") (netloc : b.netloc ≠ "") (nonempty : r ≠ "") {path : String}
    (named : resourcePath r = some path) (fallback : Option String) :
    join base (some r) fallback =
      if trimChar '/' path.toList = trimChar '/' b.path.toList then base
      else Parts.join
        { scheme := b.scheme, netloc := b.netloc,
          path := "/" ++ "/".intercalate (pathSegments b.path.toList ++
            pathSegments (remainder (trimEnd '/' b.path.toList) path.toList)),
          query := b.query, fragment := "" } := by
  have located : (b.scheme.isEmpty || b.netloc.isEmpty) = false := by
    simp [scheme, netloc]
  have given : r.isEmpty = false := by simpa [String.isEmpty_iff] using nonempty
  simp only [join, join.attempt, split, Except.toOption, located, given, named,
    Bool.false_eq_true, if_false, Option.bind_eq_bind, Option.bind_some, Option.pure_def]
  by_cases same : trimChar '/' path.toList = trimChar '/' b.path.toList
  · simp [same]
  · simp [same]

/-- Joining a resource onto a base URL with a scheme and a network location keeps the base when
both paths agree up to slashes at either end. Otherwise the result has the base's scheme,
network location and query, and as path the non-empty segments of the base path followed by
those of what follows the first occurrence of the base path, trailing slashes dropped, in the
resource path (of the whole resource path when that is empty or does not occur). -/
theorem join_appends_after_base_path {base r : String} {b : Parts}
    (split : Parts.split base = .ok b) (scheme : b.scheme ≠ "") (netloc : b.netloc ≠ "")
    (nonempty : r ≠ "") {path : String} (named : resourcePath r = some path)
    (fallback : Option String) :
    (trimChar '/' path.toList = trimChar '/' b.path.toList → join base (some r) fallback = base) ∧
    (trimChar '/' path.toList ≠ trimChar '/' b.path.toList →
      ∃ rest segments, Remainder (trimEnd '/' b.path.toList) path.toList rest ∧
        segments = pathSegments b.path.toList ++ pathSegments rest ∧
        pathSegments ("/" ++ "/".intercalate segments).toList = segments ∧
        join base (some r) fallback = Parts.join
          { scheme := b.scheme, netloc := b.netloc, path := "/" ++ "/".intercalate segments,
            query := b.query, fragment := "" }) := by
  have joined := join_eq split scheme netloc nonempty named fallback
  refine ⟨fun same => by rw [joined, if_pos same], fun different => ?_⟩
  refine ⟨_, _, remainder_spec _ _, rfl, pathSegments_joined ?_, by rw [joined, if_neg different]⟩
  intro s mem
  rcases List.mem_append.1 mem with fromBase | fromRest
  · exact mem_pathSegments fromBase
  · exact mem_pathSegments fromRest

/-- A resource path that repeats the base path at its start has it once in the result. -/
theorem api_products_joined_once :
    join "https://host.com/api/v1" (some "/api/v1/products") none =
      "https://host.com/api/v1/products" := by
  obtain ⟨rest, segments, appended, rfl, -, joined⟩ :=
    (@join_appends_after_base_path "https://host.com/api/v1" "/api/v1/products"
      ⟨"https", "host.com", "/api/v1", "", ""⟩ (by rfl) (by decide) (by decide) (by decide)
      "/api/v1/products" (by decide +kernel) none).2 (by decide +kernel)
  have repeated : "/api/v1/products".toList = trimEnd '/' "/api/v1".toList ++ "/products".toList := by
    decide +kernel
  have after : rest = "/products".toList := by
    rw [repeated] at appended
    exact appended.unique (.inl ⟨by decide +kernel, afterFirst_append _ _⟩)
  rw [joined, after]
  decide +kernel

/-- The base path found inside a resource path drops everything up to it, so a resource path
that does not start with the base path is not appended in full. -/
theorem join_drops_up_to_inner_base_path :
    join "https://host.com/v1" (some "/products/v1/x") none = "https://host.com/v1/x" := by
  decide +kernel

end Courier.Url
