import Mathlib.Data.Finmap

/-!
A Python dictionary with string keys: a finite map, compared by its lookups and
not by the order its keys were inserted in.
-/

namespace ClusterApiForSlinky

universe u v

abbrev Dictionary (Value : Type u) := Finmap (fun _ : String => Value)

namespace Dictionary

variable {Value : Type u} {Other : Type v}

/-- `dict.setdefault`, without the value it returns. -/
def setDefault (entries : Dictionary Value) (key : String) (value : Value) : Dictionary Value :=
  match entries.lookup key with
  | some _ => entries
  | none => entries.insert key value

def mapValues (change : Value → Other) (entries : Dictionary Value) : Dictionary Other :=
  ⟨entries.entries.map (Sigma.map id (fun _ => change)), by
    obtain ⟨items, distinct⟩ := entries
    revert distinct
    refine Quotient.inductionOn items ?_
    intro list distinct
    exact List.NodupKeys.map₂ (fun _ => change) list distinct⟩

theorem lookup_insert_eq (entries : Dictionary Value) (key probe : String) (value : Value) :
    (entries.insert key value).lookup probe =
      if probe = key then some value else entries.lookup probe := by
  by_cases same : probe = key
  · subst same
    simp
  · simp [same]

theorem lookup_setDefault (entries : Dictionary Value) (key probe : String) (value : Value) :
    (entries.setDefault key value).lookup probe =
      if probe = key then some ((entries.lookup key).getD value) else entries.lookup probe := by
  unfold setDefault
  cases present : entries.lookup key with
  | none => simp [lookup_insert_eq]
  | some held =>
      by_cases same : probe = key
      · subst same
        simp [present]
      · simp [same]

theorem mem_setDefault (entries : Dictionary Value) (key probe : String) (value : Value) :
    probe ∈ entries.setDefault key value ↔ probe = key ∨ probe ∈ entries := by
  rw [← Finmap.lookup_isSome, lookup_setDefault, ← Finmap.lookup_isSome]
  by_cases same : probe = key <;> simp [same]

theorem lookup_mapValues (change : Value → Other) (entries : Dictionary Value) (key : String) :
    (entries.mapValues change).lookup key = (entries.lookup key).map change := by
  refine Finmap.induction_on entries ?_
  intro items
  exact List.dlookup_map₂ key

end Dictionary
end ClusterApiForSlinky
