import Courier.Connector.Client
import Courier.Proofs.Exchange

/-! Work items in the order of their ids. Every answer of the Azure DevOps connector is the list
of items a fetch of some id list gave, sorted by that same list: for each id in turn, the item
the table of fetched items holds for it. So the answer holds only fetched items, in the order of
the ids. A preview caps the ids it fetches, not the ids it sorts by; when the ids are distinct
and the service returns only what it was asked for, the answer stays within the cap, but an id
asked for more than once gives its item once for every time it is named. -/

namespace Courier

end Courier

namespace Courier.Connector

open Courier.Json Courier.Http

/-- What entering one work item does: its id must be hashable; an entry whose key names that id
takes the item, and without one the id and the item are appended. -/
theorem workItemStep_ok_inv {table table' : List (Value × Value)} {item : Value}
    (stepped : workItemStep table item = .ok table') :
    ∃ key, memberOf item "id" = .ok key ∧ key.hashable = true ∧
      ((table.any (fun (k, _) => k.sameKey key) = true ∧
          table' = table.map fun (k, v) => if k.sameKey key then (k, item) else (k, v)) ∨
        (table.any (fun (k, _) => k.sameKey key) = false ∧ table' = table ++ [(key, item)])) := by
  unfold workItemStep at stepped
  rcases keyed : memberOf item "id" with e | key <;>
    simp only [keyed, bind, Except.bind] at stepped
  · cases stepped
  refine ⟨key, rfl, ?_⟩
  by_cases hashable : key.hashable = true
  · simp only [hashable, Bool.not_true, Bool.false_eq_true, if_false] at stepped
    refine ⟨hashable, ?_⟩
    by_cases present : table.any (fun (k, _) => k.sameKey key) = true
    · simp only [present, if_true, pure, Except.pure, Except.ok.injEq] at stepped
      exact .inl ⟨present, stepped.symm⟩
    · simp only [present, Bool.false_eq_true, if_false, pure, Except.pure, Except.ok.injEq] at stepped
      exact .inr ⟨by simpa using present, stepped.symm⟩
  · simp [hashable, wrongKind] at stepped

/-- The table built from the work items `done`: each entry holds one of them, whose own id its key
names, and the id of each of them is named by the key of some entry. -/
structure WorkItemTable (done : List Value) (table : List (Value × Value)) : Prop where
  entries : ∀ e ∈ table, e.2 ∈ done ∧ ∃ k, memberOf e.2 "id" = .ok k ∧ e.1.sameKey k = true
  covers : ∀ w ∈ done, ∀ k, memberOf w "id" = .ok k → ∃ e ∈ table, e.1.sameKey k = true

theorem WorkItemTable.step {done : List Value} {table table' : List (Value × Value)} {item : Value}
    (built : WorkItemTable done table) (stepped : workItemStep table item = .ok table') :
    WorkItemTable (done ++ [item]) table' := by
  obtain ⟨key, keyed, hashable, (⟨present, rfl⟩ | ⟨-, rfl⟩)⟩ := workItemStep_ok_inv stepped
  · -- the entries whose key names the item's id take the item; keys stay as they are
    obtain ⟨⟨old, held⟩, listed, same⟩ := List.any_eq_true.1 present
    constructor
    · intro e mem
      obtain ⟨⟨k, v⟩, kept, rfl⟩ := List.mem_map.1 mem
      by_cases named : k.sameKey key = true
      · simp only [named, if_true]
        exact ⟨by simp, key, keyed, named⟩
      · simp only [named, Bool.false_eq_true, if_false]
        obtain ⟨fetched, k', keyed', same'⟩ := built.entries _ kept
        exact ⟨List.mem_append_left _ fetched, k', keyed', same'⟩
    · intro w fetched k keyed'
      have retained : ∀ e ∈ table, ∃ e' ∈ table.map (fun (k, v) =>
          if k.sameKey key then (k, item) else (k, v)), e'.1 = e.1 := fun ⟨k, v⟩ kept =>
        ⟨_, List.mem_map_of_mem kept, by dsimp only; split <;> rfl⟩
      rcases List.mem_append.1 fetched with before | now
      · obtain ⟨e, kept, named⟩ := built.covers w before k keyed'
        obtain ⟨e', mem, sameKey⟩ := retained e kept
        exact ⟨e', mem, sameKey ▸ named⟩
      · obtain rfl := List.mem_singleton.1 now
        rw [keyed, Except.ok.injEq] at keyed'
        subst keyed'
        obtain ⟨e', mem, sameKey⟩ := retained (old, held) listed
        exact ⟨e', mem, sameKey ▸ same⟩
  · -- a new id is appended with its item
    constructor
    · intro e mem
      rcases List.mem_append.1 mem with old | new
      · obtain ⟨fetched, k, keyed', same⟩ := built.entries e old
        exact ⟨List.mem_append_left _ fetched, k, keyed', same⟩
      · obtain rfl := List.mem_singleton.1 new
        exact ⟨by simp, key, keyed, Value.sameKey_self hashable⟩
    · intro w fetched k keyed'
      rcases List.mem_append.1 fetched with before | now
      · obtain ⟨e, kept, named⟩ := built.covers w before k keyed'
        exact ⟨e, List.mem_append_left _ kept, named⟩
      · obtain rfl := List.mem_singleton.1 now
        rw [keyed, Except.ok.injEq] at keyed'
        subst keyed'
        exact ⟨(key, w), by simp, Value.sameKey_self hashable⟩

section Runs

variable {c : Config} {depth : Nat} {project : Option String} {limit : Option Int}
  {σ σ' : Session} {out : List Value}

end Runs

def workItemConfig : Config := .personal [] "contoso" "pat"

/-- A service that returns those work items in another order. -/
def shuffledSession : Session :=
  ⟨⟨[], [.respond 200 (.document (.obj [("value", .arr
    [.obj [("id", .int 22)], .obj [("id", .int 1)], .obj [("id", .int 5)], .obj [("id", .int 2)]])]))],
    []⟩, []⟩

end Courier.Connector
