namespace Courier.Keyed

def get? {α : Type} (entries : List (String × α)) (name : String) : Option α :=
  (entries.find? (·.1 == name)).map (·.2)

def contains {α : Type} (entries : List (String × α)) (name : String) : Bool :=
  entries.any (·.1 == name)

/-- Sets `name` to `v`: a present entry keeps its position, an absent one is appended. -/
def set {α : Type} (entries : List (String × α)) (name : String) (v : α) : List (String × α) :=
  if contains entries name then
    entries.map fun (k, old) => if k == name then (k, v) else (k, old)
  else entries ++ [(name, v)]

/-- The keyed list of pairs, a later pair for a name overriding an earlier one. -/
def ofPairs {α : Type} (pairs : List (String × α)) : List (String × α) :=
  pairs.foldl (fun acc (k, v) => set acc k v) []

def erase {α : Type} (entries : List (String × α)) (name : String) : List (String × α) :=
  entries.filter (·.1 != name)

end Courier.Keyed
