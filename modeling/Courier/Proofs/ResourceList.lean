import Courier.Resource
import Courier.Proofs.HeaderMerge
import Courier.Proofs.Exchange
import Courier.Proofs.FormQuery

/-!
Checking a resource list. A resource is rejected when its name or its URL is empty, or when its
URL is absolute and cannot be split; otherwise it normalises to the resource with the URL's
path, a leading slash, an id and a method. Main statement: `Resource.validate_checks_names`,
checking a list fails, with a configuration failure, exactly when a resource is rejected or two
names lowercase alike; otherwise every resource is normalised in place and checking the result
again gives it back.
-/

namespace Courier

open Courier.Text Courier.Http

section MapInExcept

variable {α β ε : Type} {f : α → Except ε β}

theorem Except.mapM_forall₂ : ∀ {l : List α} {out : List β}, l.mapM f = .ok out →
    List.Forall₂ (fun a b => f a = .ok b) l out
  | [], out, mapped => by
    cases mapped
    exact List.Forall₂.nil
  | a :: l, out, mapped => by
    rw [List.mapM_cons] at mapped
    cases first : f a with
    | error e => simp [first] at mapped; cases mapped
    | ok b =>
      cases rest : l.mapM f with
      | error e => simp [first, rest] at mapped; cases mapped
      | ok bs =>
        simp [first, rest] at mapped
        cases mapped
        exact List.Forall₂.cons first (Except.mapM_forall₂ rest)

/-- Each element of the left list of `Forall₂ R` is related to one of the right list. -/
theorem List.Forall₂.exists_of_mem_left {R : α → β → Prop} {l : List α} {l' : List β}
    (related : List.Forall₂ R l l') {a : α} (mem : a ∈ l) : ∃ b ∈ l', R a b := by
  induction related with
  | nil => cases mem
  | cons head _ ih =>
    rcases List.mem_cons.mp mem with rfl | mem
    · exact ⟨_, List.mem_cons_self, head⟩
    · obtain ⟨b, mb, rel⟩ := ih mem
      exact ⟨b, List.mem_cons_of_mem _ mb, rel⟩

/-- Each element of the right list of `Forall₂ R` is related to one of the left list. -/
theorem List.Forall₂.exists_of_mem_right {R : α → β → Prop} {l : List α} {l' : List β}
    (related : List.Forall₂ R l l') {b : β} (mem : b ∈ l') : ∃ a ∈ l, R a b := by
  induction related with
  | nil => cases mem
  | cons head _ ih =>
    rcases List.mem_cons.mp mem with rfl | mem
    · exact ⟨_, List.mem_cons_self, head⟩
    · obtain ⟨a, ma, rel⟩ := ih mem
      exact ⟨a, List.mem_cons_of_mem _ ma, rel⟩

theorem Except.mapM_error : ∀ {l : List α} {e : ε}, l.mapM f = .error e → ∃ a ∈ l, f a = .error e
  | [], e, mapped => by cases mapped
  | a :: l, e, mapped => by
    rw [List.mapM_cons] at mapped
    cases first : f a with
    | error e' =>
      simp [first] at mapped
      cases mapped
      exact ⟨a, List.mem_cons_self, first⟩
    | ok b =>
      cases rest : l.mapM f with
      | error e' =>
        simp [first, rest] at mapped
        cases mapped
        obtain ⟨x, mem, failed⟩ := Except.mapM_error rest
        exact ⟨x, List.mem_cons_of_mem a mem, failed⟩
      | ok bs => simp [first, rest] at mapped; cases mapped

theorem Except.mapM_ne_ok {l : List α} {a : α} {e : ε} (mem : a ∈ l) (failed : f a = .error e) :
    ∀ out, l.mapM f ≠ .ok out := by
  intro out mapped
  obtain ⟨b, -, ok⟩ := List.Forall₂.exists_of_mem_left (Except.mapM_forall₂ mapped) mem
  rw [failed] at ok
  cases ok

theorem Except.mapM_ok_of_forall : ∀ {l : List α}, (∀ a ∈ l, ∃ b, f a = .ok b) →
    ∃ out, l.mapM f = .ok out
  | [], _ => ⟨[], rfl⟩
  | a :: l, each => by
    obtain ⟨b, first⟩ := each a List.mem_cons_self
    obtain ⟨bs, rest⟩ := Except.mapM_ok_of_forall fun x mem => each x (List.mem_cons_of_mem a mem)
    refine ⟨b :: bs, ?_⟩
    rw [List.mapM_cons, first, rest]
    rfl

end MapInExcept

/-- A resource that cannot be normalised: its name or URL is empty, or its URL is absolute and
cannot be split. -/
def Resource.Rejected (r : Resource) : Prop :=
  r.name = "" ∨ r.url = "" ∨ Url.resourcePath r.url = none

/-- What normalising `r` gives: the same name, body, headers, sample query and flags; the URL's
path (the URL itself when relative) with a leading slash; the resource's own id when it is not
empty and a generated one otherwise; and the method, GET when it has none. -/
structure Resource.NormalizesTo (r r' : Resource) : Prop where
  name : r'.name = r.name
  url : ∃ path, Url.resourcePath r.url = some path ∧
    r'.url = if path.startsWith "/" then path else "/" ++ path
  id_kept : ∀ s, r.id = some (.given s) → s ≠ "" → r'.id = some (.given s)
  id_generated : (∀ s, r.id = some (.given s) → s = "") → r'.id = some .generated
  method : r'.method = some (r.method.getD .get)
  body : r'.body = r.body
  headers : r'.headers = r.headers
  sampleQuery : r'.sampleQuery = r.sampleQuery
  isDefault : r'.isDefault = r.isDefault
  isEnabled : r'.isEnabled = r.isEnabled

theorem Url.resourcePath_eq (url : String) :
    Url.resourcePath url = if Url.isAbsolute url then (Url.pathOf url).toOption else some url :=
  rfl

/-- A path with a leading slash is not absolute: no word character starts it. -/
theorem Url.isAbsolute_of_slash {path : String} (slash : path.startsWith "/" = true) :
    Url.isAbsolute path = false := by
  obtain ⟨rest, spelled⟩ : ['/'] <+: path.toList := by simpa using slash
  have notWord : isWordChar '/' = false := by decide
  simp [Url.isAbsolute, ← spelled, notWord]

theorem Resource.normalizedId_spec (r : Resource) (i : ResourceId)
    (chosen : i = match r.id with
      | some (.given s) => if s.isEmpty then .generated else .given s
      | some .generated => .generated
      | none => .generated) :
    (∀ s, r.id = some (.given s) → s ≠ "" → some i = some (.given s)) ∧
    ((∀ s, r.id = some (.given s) → s = "") → some i = some .generated) := by
  subst chosen
  constructor
  · intro s given nonempty
    simp [given, nonempty]
  · intro empty
    cases id : r.id with
    | none => rfl
    | some i => cases i with
      | given s => simp [empty s id]
      | generated => rfl

section Normalize

variable {r : Resource}

theorem Resource.normalize_of_name_empty (noName : r.name.isEmpty = true) :
    r.normalize = .error (Failure.simple .config "resource name is empty or blank") := by
  unfold Resource.normalize
  simp only [noName, if_true]
  rfl

theorem Resource.normalize_of_url_empty (named : r.name.isEmpty = false)
    (noUrl : r.url.isEmpty = true) :
    r.normalize = .error (Failure.simple .config "resource url is empty or blank") := by
  unfold Resource.normalize
  simp only [named, noUrl, if_true, Bool.false_eq_true, if_false]
  rfl

theorem Resource.normalize_of_unsplit {e : Url.UrlError} (named : r.name.isEmpty = false)
    (located : r.url.isEmpty = false) (absolute : Url.isAbsolute r.url = true)
    (unsplit : Url.pathOf r.url = .error e) :
    r.normalize = .error (Failure.simple .config
      ("Unable to get relative path from url " ++ r.url ++ ": " ++ e.message)) := by
  unfold Resource.normalize
  simp only [named, located, absolute, unsplit, Bool.false_eq_true, if_false, if_true]
  rfl

theorem Resource.normalize_of_path {path : String} (named : r.name.isEmpty = false)
    (located : r.url.isEmpty = false) (found : Url.resourcePath r.url = some path) :
    ∃ r', r.normalize = .ok r' ∧ r.NormalizesTo r' := by
  obtain ⟨kept, generated⟩ := Resource.normalizedId_spec r _ rfl
  rw [Url.resourcePath_eq] at found
  cases absolute : Url.isAbsolute r.url with
  | false =>
    rw [absolute] at found
    cases found
    refine ⟨_, by
      unfold Resource.normalize
      simp only [named, located, absolute, Bool.false_eq_true, if_false]
      rfl, ?_⟩
    exact ⟨rfl, ⟨r.url, by simp [Url.resourcePath_eq, absolute], rfl⟩, kept, generated, rfl, rfl,
      rfl, rfl, rfl, rfl⟩
  | true =>
    rw [absolute] at found
    cases split : Url.pathOf r.url with
    | error e => simp [split, Except.toOption] at found
    | ok p =>
      simp only [split, Except.toOption, if_true, Option.some.injEq] at found
      subst found
      refine ⟨_, by
        unfold Resource.normalize
        simp only [named, located, absolute, split, Bool.false_eq_true, if_false, if_true]
        rfl, ?_⟩
      exact ⟨rfl, ⟨p, by simp [Url.resourcePath_eq, absolute, split, Except.toOption], rfl⟩, kept,
        generated, rfl, rfl, rfl, rfl, rfl, rfl⟩

/-- Normalising either rejects the resource with a configuration failure, or gives its
normal form. -/
theorem Resource.normalize_cases (r : Resource) :
    (r.Rejected ∧ ∃ f, r.normalize = .error f ∧ f.cause = .config) ∨
    (¬ r.Rejected ∧ ∃ r', r.normalize = .ok r' ∧ r.NormalizesTo r') := by
  cases named : r.name.isEmpty with
  | true =>
    exact .inl ⟨.inl (by simpa using named), _, Resource.normalize_of_name_empty named, rfl⟩
  | false =>
  cases located : r.url.isEmpty with
  | true =>
    exact .inl ⟨.inr (.inl (by simpa using located)), _,
      Resource.normalize_of_url_empty named located, rfl⟩
  | false =>
  have noName : r.name ≠ "" := by simpa using named
  have noUrl : r.url ≠ "" := by simpa using located
  cases found : Url.resourcePath r.url with
  | none =>
    left
    refine ⟨.inr (.inr found), ?_⟩
    rw [Url.resourcePath_eq] at found
    cases absolute : Url.isAbsolute r.url with
    | false => simp [absolute] at found
    | true =>
      cases split : Url.pathOf r.url with
      | error e => exact ⟨_, Resource.normalize_of_unsplit named located absolute split, rfl⟩
      | ok p => simp [absolute, split, Except.toOption] at found
  | some path =>
    right
    refine ⟨?_, Resource.normalize_of_path named located found⟩
    rintro (empty | empty | unsplit)
    · exact noName empty
    · exact noUrl empty
    · rw [found] at unsplit
      cases unsplit

end Normalize

theorem Resource.normalize_ok {r r' : Resource} (normalized : r.normalize = .ok r') :
    ¬ r.Rejected ∧ r.NormalizesTo r' := by
  rcases Resource.normalize_cases r with ⟨-, f, failed, -⟩ | ⟨accepted, r'', ok, normal⟩
  · rw [normalized] at failed
    cases failed
  · rw [normalized] at ok
    cases ok
    exact ⟨accepted, normal⟩

/-- A normalised resource has an id that normalising keeps: a generated one, or its own that
is not empty. -/
theorem Resource.NormalizesTo.id_normal {r r' : Resource} (normal : r.NormalizesTo r') :
    r'.id = some .generated ∨ ∃ s, s ≠ "" ∧ r'.id = some (.given s) := by
  by_cases own : ∃ s, r.id = some (.given s) ∧ s ≠ ""
  · obtain ⟨s, given, nonempty⟩ := own
    exact .inr ⟨s, nonempty, normal.id_kept s given nonempty⟩
  · refine .inl (normal.id_generated fun s given => ?_)
    by_contra nonempty
    exact own ⟨s, given, nonempty⟩

theorem Resource.NormalizesTo.id_eq {r r' : Resource} (normal : r.NormalizesTo r')
    (kept : r.id = some .generated ∨ ∃ s, s ≠ "" ∧ r.id = some (.given s)) : r'.id = r.id := by
  rcases kept with generated | ⟨s, nonempty, given⟩
  · rw [generated]
    exact normal.id_generated (by simp [generated])
  · rw [given]
    exact normal.id_kept s given nonempty

theorem Resource.NormalizesTo.normalize_eq {r r' : Resource} (normal : r.NormalizesTo r')
    (accepted : ¬ r.Rejected) : r'.normalize = .ok r' := by
  obtain ⟨path, _, url⟩ := normal.url
  have slash : r'.url.startsWith "/" = true := by
    rw [url]
    split
    · assumption
    · simp
  rcases Resource.normalize_cases r' with ⟨rejected, -⟩ | ⟨-, r'', again, normal'⟩
  · -- the name is kept, and a URL with a leading slash is a relative path
    exfalso
    rcases rejected with noName | noUrl | unsplit
    · exact accepted (.inl (normal.name ▸ noName))
    · simp [noUrl] at slash
    · simp [Url.resourcePath_eq, Url.isAbsolute_of_slash slash] at unsplit
  · rw [again]
    obtain ⟨path', relative, url'⟩ := normal'.url
    rw [Url.resourcePath_eq, Url.isAbsolute_of_slash slash] at relative
    cases relative
    have sameUrl : r''.url = r'.url := by
      rw [url']
      simp [slash]
    have sameId := normal'.id_eq normal.id_normal
    have sameMethod : r''.method = r'.method := by
      rw [normal'.method, normal.method]
      rfl
    congr 1
    obtain ⟨i, n, u, m, b, h, q, d, e⟩ := r'
    obtain ⟨i', n', u', m', b', h', q', d', e'⟩ := r''
    simp only [Resource.mk.injEq]
    exact ⟨sameId, normal'.name, sameUrl, sameMethod, normal'.body, normal'.headers,
      normal'.sampleQuery, normal'.isDefault, normal'.isEnabled⟩

def Resource.duplicateNames : Failure :=
  Failure.simple .config "Resource names are duplicated. Resource name should be unique"

theorem Resource.validate_of_mapM_ok {rs out : List Resource}
    (mapped : rs.mapM Resource.normalize = .ok out) :
    Resource.validate rs =
      if (out.map (lower ·.name)).Nodup then .ok out else .error Resource.duplicateNames := by
  unfold Resource.validate
  rw [mapped, show (Except.ok out : Except Failure (List Resource)) = pure out from rfl, pure_bind]
  have lengths : (out.map (lower ·.name)).length = out.length := List.length_map _
  by_cases distinct : (out.map (lower ·.name)).Nodup
  · have kept : ((out.map (lower ·.name)).eraseDups.length != out.length) = false := by
      rw [← lengths, (List.length_eraseDups_eq_iff _).mpr distinct]
      simp
    simp only [kept, Bool.false_eq_true, if_false, distinct, if_true]
  · have shorter : ((out.map (lower ·.name)).eraseDups.length != out.length) = true := by
      rw [← lengths, bne_iff_ne, ne_eq, List.length_eraseDups_eq_iff]
      exact distinct
    simp only [shorter, if_true, distinct, if_false]
    rfl

theorem Resource.validate_of_mapM_error {rs : List Resource} {f : Failure}
    (mapped : rs.mapM Resource.normalize = .error f) : Resource.validate rs = .error f := by
  unfold Resource.validate
  rw [mapped]
  rfl

theorem Resource.names_of_forall₂ {rs out : List Resource}
    (normal : List.Forall₂ Resource.NormalizesTo rs out) :
    out.map (lower ·.name) = rs.map (lower ·.name) := by
  induction normal with
  | nil => rfl
  | cons head _ ih => simp [head.name, ih]

/-- Checking a list either fails with a configuration failure, when a resource is rejected or
two names lowercase alike, or normalises every resource in place. -/
theorem Resource.validate_cases (rs : List Resource) :
    (((∃ r ∈ rs, r.Rejected) ∨ ¬ (rs.map (lower ·.name)).Nodup) ∧
      ∃ f, Resource.validate rs = .error f ∧ f.cause = .config) ∨
    ((∀ r ∈ rs, ¬ r.Rejected) ∧ (rs.map (lower ·.name)).Nodup ∧
      ∃ out, Resource.validate rs = .ok out ∧ List.Forall₂ Resource.NormalizesTo rs out) := by
  by_cases rejected : ∃ r ∈ rs, r.Rejected
  · -- the first rejected resource stops the normalisation
    left
    refine ⟨.inl rejected, ?_⟩
    obtain ⟨r, mem, reject⟩ := rejected
    have failing : ∃ f, r.normalize = .error f := by
      rcases Resource.normalize_cases r with ⟨-, f, failed, -⟩ | ⟨accepted, -⟩
      · exact ⟨f, failed⟩
      · exact absurd reject accepted
    obtain ⟨f, failed⟩ := failing
    cases mapped : rs.mapM Resource.normalize with
    | ok out => exact absurd mapped (Except.mapM_ne_ok mem failed out)
    | error e =>
      obtain ⟨r', -, failed'⟩ := Except.mapM_error mapped
      have cause : e.cause = .config := by
        rcases Resource.normalize_cases r' with ⟨-, f', failed'', config⟩ | ⟨-, r'', ok, -⟩
        · rw [failed'] at failed''
          cases failed''
          exact config
        · rw [failed'] at ok
          cases ok
      exact ⟨e, Resource.validate_of_mapM_error mapped, cause⟩
  · have accepted : ∀ r ∈ rs, ¬ r.Rejected := fun r mem reject => rejected ⟨r, mem, reject⟩
    obtain ⟨out, mapped⟩ := Except.mapM_ok_of_forall (f := Resource.normalize) fun r mem => by
      rcases Resource.normalize_cases r with ⟨reject, -⟩ | ⟨-, r', ok, -⟩
      · exact absurd reject (accepted r mem)
      · exact ⟨r', ok⟩
    have normal : List.Forall₂ Resource.NormalizesTo rs out :=
      (Except.mapM_forall₂ mapped).imp fun _ _ ok => (Resource.normalize_ok ok).2
    have checked := Resource.validate_of_mapM_ok mapped
    rw [Resource.names_of_forall₂ normal] at checked
    by_cases distinct : (rs.map (lower ·.name)).Nodup
    · right
      exact ⟨accepted, distinct, out, by rw [checked, if_pos distinct], normal⟩
    · left
      exact ⟨.inr distinct, _, by rw [checked, if_neg distinct], rfl⟩

/-- Checking a list fails, always with a configuration failure, exactly when a resource has an
empty name or URL or an absolute URL that cannot be split, or when two names are equal after
lowercasing. Otherwise each resource is normalised in place, and checking the normalised list
gives it back unchanged. -/
theorem Resource.validate_checks_names (rs : List Resource) :
    Except.FailsWithin (·.cause = .config) (Resource.validate rs) ∧
    ((∃ f, Resource.validate rs = .error f) ↔
      (∃ r ∈ rs, r.Rejected) ∨ ¬ (rs.map (lower ·.name)).Nodup) ∧
    ∀ out, Resource.validate rs = .ok out →
      List.Forall₂ Resource.NormalizesTo rs out ∧ Resource.validate out = .ok out := by
  rcases Resource.validate_cases rs with ⟨bad, f, failed, config⟩ | ⟨accepted, distinct, out, ok, normal⟩
  · refine ⟨fun f' failed' => ?_, ⟨fun _ => bad, fun _ => ⟨f, failed⟩⟩, fun out ok => ?_⟩
    · rw [failed] at failed'
      cases failed'
      exact config
    · rw [failed] at ok
      cases ok
  · refine ⟨fun f failed => ?_, ⟨fun ⟨f, failed⟩ => ?_, fun bad => ?_⟩, fun out' ok' => ?_⟩
    · rw [ok] at failed
      cases failed
    · rw [ok] at failed
      cases failed
    · rcases bad with ⟨r, mem, reject⟩ | duplicate
      · exact absurd reject (accepted r mem)
      · exact absurd distinct duplicate
    · rw [ok] at ok'
      cases ok'
      refine ⟨normal, ?_⟩
      have again : out.mapM Resource.normalize = .ok (out.map fun r' => r') :=
        Except.mapM_eq_ok_map fun r' mem => by
          obtain ⟨r, member, normalizes⟩ := List.Forall₂.exists_of_mem_right normal mem
          exact normalizes.normalize_eq (accepted r member)
      rw [List.map_id'] at again
      rw [Resource.validate_of_mapM_ok again, Resource.names_of_forall₂ normal, if_pos distinct]

-- An absolute resource URL is reduced to its path, and checking the result again keeps it.
example : ((Resource.validate [Resource.simple "Get_Products" "Products"
      "https://x.com/api/rest/v1/products"]).toOption.bind
      (fun out => (Resource.validate out).toOption)).map (·.map (·.url)) =
    some ["/api/rest/v1/products"] := by
  decide +kernel

/-- A name of blanks only is accepted, although the failure for an empty name speaks of blank
ones too. -/
theorem blank_resource_name_accepted :
    Text.isBlankText "   " = true ∧
      ∃ out, Resource.validate [Resource.simple "r" "   " "/p"] = .ok out := by
  have accepted :
      (Resource.validate [Resource.simple "r" "   " "/p"]).toOption.isSome = true := by
    decide +kernel
  refine ⟨by decide +kernel, ?_⟩
  cases checked : Resource.validate [Resource.simple "r" "   " "/p"] with
  | error f => simp [checked, Except.toOption] at accepted
  | ok out => exact ⟨out, rfl⟩

end Courier
