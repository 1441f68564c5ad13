import Courier.Http.Invoke
import Mathlib.Data.List.Nodup
import Mathlib.Data.List.Induction

/-!
Merging headers. Header names are compared after lowercasing, so the names that lowercase alike
form one class. Setting a header overwrites in place, under the new spelling, the header of its
class, or appends it when its class is new. Main statement: `mergeHeaders_one_per_class`, the
merged headers are `byClass` of the authentication headers followed by the caller's: one header
per class, the classes in the order they first occur, each with the name and value of the last
header of its class.

The section on first occurrences gives what `List.eraseDups` keeps, which resource lists use
as well.
-/

namespace Courier

section FirstOccurrences

variable {α : Type} [BEq α] [LawfulBEq α]

theorem List.eraseDups_concat (l : List α) (a : α) :
    (l ++ [a]).eraseDups = if a ∈ l then l.eraseDups else l.eraseDups ++ [a] := by
  rw [List.eraseDups_append]
  by_cases known : a ∈ l
  · simp [known, List.removeAll]
  · simp [known, List.removeAll, List.eraseDups_cons]

theorem List.nodup_eraseDups (l : List α) : l.eraseDups.Nodup := by
  induction l using List.reverseRecOn with
  | nil => exact List.nodup_nil
  | append_singleton l a ih =>
    rw [List.eraseDups_concat]
    by_cases known : a ∈ l
    · simpa [known] using ih
    · have apart : ∀ b ∈ l, ¬ b = a := fun b mem same => known (same ▸ mem)
      simpa [known, List.nodup_append, List.mem_eraseDups] using And.intro ih apart

theorem List.eraseDups_sublist (l : List α) : List.Sublist l.eraseDups l := by
  induction l using List.reverseRecOn with
  | nil => exact List.Sublist.slnil
  | append_singleton l a ih =>
    rw [List.eraseDups_concat]
    by_cases known : a ∈ l
    · simpa [known] using ih.trans (List.sublist_append_left l [a])
    · simpa [known] using ih.append_right [a]

theorem List.eraseDups_of_nodup {l : List α} (distinct : l.Nodup) : l.eraseDups = l := by
  induction l using List.reverseRecOn with
  | nil => rfl
  | append_singleton l a ih =>
    obtain ⟨front, single, apart⟩ := List.nodup_append.mp distinct
    have fresh : a ∉ l := fun mem => apart a mem a (List.mem_singleton_self a) rfl
    rw [List.eraseDups_concat, if_neg fresh, ih front]

theorem List.length_eraseDups_eq_iff (l : List α) : l.eraseDups.length = l.length ↔ l.Nodup := by
  constructor
  · intro same
    have kept := (List.eraseDups_sublist l).eq_of_length same
    rw [← kept]
    exact List.nodup_eraseDups l
  · intro distinct
    rw [List.eraseDups_of_nodup distinct]

end FirstOccurrences

namespace Http

open Courier.Text

def headerClass (h : String × String) : String :=
  lower h.1

def lastOfClass (hs : List (String × String)) (c : String) : Option (String × String) :=
  hs.reverse.find? (headerClass · == c)

/-- One header per class, the classes in the order of their first occurrence in `hs`, each the
last header of its class there. -/
def byClass (hs : List (String × String)) : List (String × String) :=
  (hs.map headerClass).eraseDups.filterMap (lastOfClass hs)

theorem lastOfClass_concat (hs : List (String × String)) (h : String × String) (c : String) :
    lastOfClass (hs ++ [h]) c = if headerClass h = c then some h else lastOfClass hs c := by
  by_cases same : headerClass h = c
  · simp [lastOfClass, same]
  · simp [lastOfClass, same]

theorem headerClass_of_lastOfClass {hs : List (String × String)} {c : String}
    {h : String × String} (last : lastOfClass hs c = some h) : headerClass h = c := by
  simpa using List.find?_some last

theorem lastOfClass_of_mem {hs : List (String × String)} {c : String}
    (occurs : c ∈ hs.map headerClass) : ∃ h, lastOfClass hs c = some h := by
  obtain ⟨h, mem, rfl⟩ := List.mem_map.mp occurs
  apply Option.isSome_iff_exists.mp
  rw [lastOfClass, List.find?_isSome]
  exact ⟨h, List.mem_reverse.mpr mem, by simp⟩

/-- The classes of `byClass hs` are those of `hs`, each once, in the order they first occur. -/
theorem map_headerClass_byClass (hs : List (String × String)) :
    (byClass hs).map headerClass = (hs.map headerClass).eraseDups := by
  rw [byClass, List.map_filterMap]
  refine (List.filterMap_congr ?_).trans List.filterMap_some
  intro c mem
  obtain ⟨h, last⟩ := lastOfClass_of_mem (List.mem_eraseDups.mp mem)
  simp [last, headerClass_of_lastOfClass last]

theorem nodup_classes_byClass (hs : List (String × String)) :
    ((byClass hs).map headerClass).Nodup := by
  rw [map_headerClass_byClass]
  exact List.nodup_eraseDups _

theorem eq_of_mem_byClass {hs : List (String × String)} {a b : String × String}
    (ma : a ∈ byClass hs) (mb : b ∈ byClass hs) (same : headerClass a = headerClass b) : a = b :=
  List.inj_on_of_nodup_map (nodup_classes_byClass hs) ma mb same

theorem lastOfClass_mem_byClass {hs : List (String × String)} {c : String} {h : String × String}
    (mem : c ∈ (hs.map headerClass).eraseDups) (last : lastOfClass hs c = some h) :
    h ∈ byClass hs :=
  List.mem_filterMap.mpr ⟨c, mem, last⟩

theorem byClass_concat_known {hs : List (String × String)} {h : String × String}
    (known : headerClass h ∈ hs.map headerClass) :
    byClass (hs ++ [h]) = (hs.map headerClass).eraseDups.filterMap (lastOfClass (hs ++ [h])) := by
  rw [byClass, List.map_append, List.map_singleton, List.eraseDups_concat, if_pos known]

theorem byClass_concat_fresh {hs : List (String × String)} {h : String × String}
    (fresh : headerClass h ∉ hs.map headerClass) : byClass (hs ++ [h]) = byClass hs ++ [h] := by
  rw [byClass, List.map_append, List.map_singleton, List.eraseDups_concat, if_neg fresh,
    List.filterMap_append, byClass]
  congr 1
  · apply List.filterMap_congr
    intro c occurs
    have differs : headerClass h ≠ c := by
      rintro rfl
      exact fresh (List.mem_eraseDups.mp occurs)
    rw [lastOfClass_concat, if_neg differs]
  · simp [lastOfClass_concat]

/-- One step of the merge: setting a header on `byClass hs` gives `byClass` of `hs` with the
header appended. -/
theorem setHeader_byClass (hs : List (String × String)) (name value : String) :
    setHeader (byClass hs) name value = byClass (hs ++ [(name, value)]) := by
  unfold setHeader
  split
  · -- the class of `name` is present: its one header is renamed and takes the value
    rename_i existing old found
    have mem := List.mem_of_find?_eq_some found
    have sameClass : lower existing = lower name := by simpa using List.find?_some found
    have known : headerClass (name, value) ∈ hs.map headerClass := by
      rw [headerClass, ← sameClass, ← List.mem_eraseDups, ← map_headerClass_byClass]
      exact List.mem_map.mpr ⟨_, mem, rfl⟩
    rw [byClass_concat_known known, byClass, List.map_filterMap]
    apply List.filterMap_congr
    intro c occurs
    obtain ⟨⟨k, v⟩, last⟩ := lastOfClass_of_mem (List.mem_eraseDups.mp occurs)
    -- elaborated on its own: matching `lower k` against `headerClass ?h` would unfold lowercasing
    have cls : lower k = c := (headerClass_of_lastOfClass last :)
    rw [lastOfClass_concat, last]
    by_cases hc : lower name = c
    · have here : (k, v) = (existing, old) :=
        eq_of_mem_byClass (lastOfClass_mem_byClass occurs last) mem
          (by simp only [headerClass]; rw [cls, ← hc, sameClass])
      simp [headerClass, hc, (Prod.mk.inj here).1]
    · have other : k ≠ existing := by
        rintro rfl
        exact hc (sameClass ▸ cls)
      simp [headerClass, hc, other]
  · -- the class of `name` is new: the header is appended
    rename_i missing
    have fresh : headerClass (name, value) ∉ hs.map headerClass := by
      intro occurs
      rw [← List.mem_eraseDups, ← map_headerClass_byClass] at occurs
      obtain ⟨h, mem, cls⟩ := List.mem_map.mp occurs
      have := List.find?_eq_none.mp missing h mem
      simp_all [headerClass]
    rw [byClass_concat_fresh fresh]

theorem foldl_setHeader_byClass (pre hs : List (String × String)) :
    hs.foldl (fun acc h => setHeader acc h.1 h.2) (byClass pre) = byClass (pre ++ hs) := by
  induction hs generalizing pre with
  | nil => simp
  | cons h hs ih =>
    rw [List.foldl_cons, setHeader_byClass, ih]
    simp

theorem mergeHeaders_eq_byClass (authHeaders headers : List (String × String)) :
    mergeHeaders authHeaders headers = byClass (authHeaders ++ headers) := by
  have start : byClass ([] : List (String × String)) = [] := rfl
  simp only [mergeHeaders]
  rw [← start, foldl_setHeader_byClass, List.nil_append]

/-- The merged headers hold one header per class of names equal after lowercasing, in the
order the classes first occur among the authentication headers and then the caller's, each
with the name and value of the last header of its class; requests carry them. -/
theorem mergeHeaders_one_per_class (auth : Credentials) (headers : List (String × String)) :
    mergeHeaders auth.header headers = byClass (auth.header ++ headers) ∧
    ((mergeHeaders auth.header headers).map headerClass).Nodup ∧
    ∀ url method body query r, prepare auth url method body query headers = .ok r →
      r.headers = byClass (auth.header ++ headers) := by
  have merged := mergeHeaders_eq_byClass auth.header headers
  refine ⟨merged, merged ▸ nodup_classes_byClass _, ?_⟩
  intro url method body query r prepared
  unfold prepare at prepared
  dsimp only at prepared
  split at prepared
  · cases prepared
  · cases prepared
    exact merged

-- A custom `authorization` header replaces the bearer token in place, under its own spelling,
-- and the other authentication header stays before the custom ones.
example : (prepare ⟨[("Authorization", "Bearer t"), ("X-Auth", "1")], []⟩ (some "https://h.com")
      none none none [("authorization", "Basic x"), ("Accept", "application/json")]).toOption.map
      (·.headers) =
    some [("authorization", "Basic x"), ("X-Auth", "1"), ("Accept", "application/json")] := by
  decide +kernel

end Http

end Courier
