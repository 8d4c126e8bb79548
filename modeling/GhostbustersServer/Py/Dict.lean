import Mathlib.Data.List.Nodup
import Mathlib.Data.List.Perm.Lattice

/-!
# Insertion-ordered dictionaries

A Python `dict`: entries in insertion order, keys distinct.  Assigning to a
present key keeps its place, to a new key appends; deleting keeps the order of
the others; mutating the object stored under a key changes no key.

    d.set k v       d[k] = v            (get?_set, entries_set_of_fresh)
    d.erase k       d.pop(k, None)      (get?_erase)
    d.modify k f    f applied to d[k]   (get?_modify)
    d.mapVals f     f applied to every  (get?_mapVals)
-/

namespace Py

structure Dict (κ α : Type) where
  entries : List (κ × α)
  nodup : (entries.map Prod.fst).Nodup

namespace Dict

variable {κ α : Type}

@[ext] theorem ext {d e : Dict κ α} (h : d.entries = e.entries) : d = e := by
  cases d; cases e; cases h; rfl

def empty : Dict κ α := ⟨[], List.nodup_nil⟩

instance : Inhabited (Dict κ α) := ⟨empty⟩

def keys (d : Dict κ α) : List κ := d.entries.map Prod.fst

/-- `d.values()`, in insertion order. -/
def values (d : Dict κ α) : List α := d.entries.map Prod.snd

@[simp] theorem values_empty : (empty : Dict κ α).values = [] := rfl

/-- `f` applied in place to every stored object. -/
def mapVals (d : Dict κ α) (f : α → α) : Dict κ α :=
  ⟨d.entries.map fun e => (e.1, f e.2), by rw [List.map_map]; exact d.nodup⟩

@[simp] theorem keys_mapVals (d : Dict κ α) (f : α → α) : (d.mapVals f).keys = d.keys := by
  simp [keys, mapVals]

theorem mapVals_eq_self {d : Dict κ α} {f : α → α} (h : ∀ v ∈ d.values, f v = v) :
    d.mapVals f = d := by
  apply ext
  show d.entries.map (fun e => (e.1, f e.2)) = d.entries
  conv => rhs; rw [← List.map_id d.entries]
  apply List.map_congr_left
  intro e he
  show (e.1, f e.2) = (e.1, e.2)
  rw [h e.2 (List.mem_map_of_mem he)]

section
variable [DecidableEq κ]

def find (k : κ) : List (κ × α) → Option α
  | [] => none
  | e :: l => if e.1 = k then some e.2 else find k l

/-- `d.get(k)`. -/
def get? (d : Dict κ α) (k : κ) : Option α := find k d.entries

theorem find_eq_some_iff (k : κ) (v : α) (l : List (κ × α)) (h : (l.map Prod.fst).Nodup) :
    find k l = some v ↔ (k, v) ∈ l := by
  induction l with
  | nil => simp [find]
  | cons e l ih =>
    obtain ⟨k', v'⟩ := e
    simp only [List.map_cons, List.nodup_cons] at h
    unfold find
    by_cases hk : k' = k
    · subst hk
      have hnot : (k', v) ∉ l := fun hm => h.1 (List.mem_map.mpr ⟨_, hm, rfl⟩)
      simp [hnot, eq_comm]
    · rw [if_neg hk, ih h.2]
      simp [Ne.symm hk]

theorem find_eq_none_iff (k : κ) (l : List (κ × α)) :
    find k l = none ↔ k ∉ l.map Prod.fst := by
  induction l with
  | nil => simp [find]
  | cons e l ih =>
    unfold find
    by_cases hk : e.1 = k
    · simp [hk]
    · rw [if_neg hk, ih]
      simp [Ne.symm hk]

theorem get?_eq_some_iff (d : Dict κ α) (k : κ) (v : α) :
    d.get? k = some v ↔ (k, v) ∈ d.entries :=
  find_eq_some_iff k v d.entries d.nodup

theorem get?_eq_none_iff (d : Dict κ α) (k : κ) : d.get? k = none ↔ k ∉ d.keys :=
  find_eq_none_iff k d.entries

theorem mem_values_iff (d : Dict κ α) (v : α) : v ∈ d.values ↔ ∃ k, d.get? k = some v := by
  simp only [values, List.mem_map, get?_eq_some_iff]
  constructor
  · rintro ⟨e, he, rfl⟩
    exact ⟨e.1, he⟩
  · rintro ⟨k, hk⟩
    exact ⟨_, hk, rfl⟩

@[simp] theorem get?_empty (k : κ) : (empty : Dict κ α).get? k = none := rfl

/-! ## Assignment -/

/-- `f` applied to the value of every entry with key `k`. -/
def mapAt (k : κ) (f : α → α) (l : List (κ × α)) : List (κ × α) :=
  l.map fun e => if e.1 = k then (e.1, f e.2) else e

theorem mapAt_keys (k : κ) (f : α → α) (l : List (κ × α)) :
    (mapAt k f l).map Prod.fst = l.map Prod.fst := by
  unfold mapAt
  rw [List.map_map]
  apply List.map_congr_left
  intro e _
  simp only [Function.comp_apply]
  split <;> rfl

theorem find_mapAt (k k' : κ) (f : α → α) (l : List (κ × α)) :
    find k' (mapAt k f l) = if k' = k then (find k l).map f else find k' l := by
  induction l with
  | nil => simp [mapAt, find]
  | cons e l ih =>
    have ih' : find k' (l.map fun e => if e.1 = k then (e.1, f e.2) else e) =
        if k' = k then (find k l).map f else find k' l := ih
    simp only [mapAt, List.map_cons, find, ih']
    by_cases h1 : e.1 = k <;> by_cases h2 : k' = k
    · simp [h1, h2]
    · have : ¬ e.1 = k' := fun h => h2 (h.symm.trans h1)
      simp [h1, h2, Ne.symm h2]
    · have : ¬ e.1 = k' := fun h => h1 (h.trans h2)
      simp [h1, h2]
    · simp [h1, h2]

/-- The object stored under `k`, mutated in place. -/
def modify (d : Dict κ α) (k : κ) (f : α → α) : Dict κ α :=
  ⟨mapAt k f d.entries, by rw [mapAt_keys]; exact d.nodup⟩

theorem get?_modify (d : Dict κ α) (k k' : κ) (f : α → α) :
    (d.modify k f).get? k' = if k' = k then (d.get? k).map f else d.get? k' :=
  find_mapAt k k' f d.entries

@[simp] theorem keys_modify (d : Dict κ α) (k : κ) (f : α → α) : (d.modify k f).keys = d.keys :=
  mapAt_keys k f d.entries

theorem find_append (k : κ) (l m : List (κ × α)) :
    find k (l ++ m) = (find k l).or (find k m) := by
  induction l with
  | nil => rfl
  | cons e l ih =>
    simp only [List.cons_append, find]
    split
    · rfl
    · exact ih

/-- `d[k] = v`. -/
def set (d : Dict κ α) (k : κ) (v : α) : Dict κ α :=
  if h : k ∈ d.keys then d.modify k fun _ => v
  else ⟨d.entries ++ [(k, v)], by
    rw [List.map_append, List.nodup_append]
    refine ⟨d.nodup, by simp, ?_⟩
    intro a ha b hb
    simp only [List.map_cons, List.map_nil, List.mem_singleton] at hb
    subst hb
    exact fun e => h (e ▸ ha)⟩

/-- `{k: v for (k, v) in l}`. -/
def ofEntries (l : List (κ × α)) : Dict κ α := l.foldl (fun d e => d.set e.1 e.2) empty

theorem entries_set_of_fresh (d : Dict κ α) (k : κ) (v : α) (h : k ∉ d.keys) :
    (d.set k v).entries = d.entries ++ [(k, v)] := by
  unfold set
  rw [dif_neg h]

theorem keys_set_of_fresh (d : Dict κ α) (k : κ) (v : α) (h : k ∉ d.keys) :
    (d.set k v).keys = d.keys ++ [k] := by
  simp [keys, entries_set_of_fresh d k v h]

theorem get?_set (d : Dict κ α) (k k' : κ) (v : α) :
    (d.set k v).get? k' = if k' = k then some v else d.get? k' := by
  by_cases h : k ∈ d.keys
  · have he : d.set k v = d.modify k fun _ => v := by unfold set; rw [dif_pos h]
    rw [he, get?_modify]
    cases hk : d.get? k with
    | none => exact absurd h ((get?_eq_none_iff d k).mp hk)
    | some w => rfl
  · unfold get?
    rw [entries_set_of_fresh d k v h, find_append]
    by_cases hk : k' = k
    · subst hk
      rw [(find_eq_none_iff k' d.entries).mpr h]
      simp [find]
    · simp [find, hk, Ne.symm hk]

@[simp] theorem get?_set_self (d : Dict κ α) (k : κ) (v : α) : (d.set k v).get? k = some v := by
  rw [get?_set, if_pos rfl]

/-! ## Deletion -/

/-- `d.pop(k, None)`. -/
def erase (d : Dict κ α) (k : κ) : Dict κ α :=
  ⟨d.entries.filter fun e => decide (e.1 ≠ k),
    d.nodup.sublist (List.filter_sublist.map Prod.fst)⟩

theorem mem_erase (d : Dict κ α) (k : κ) (e : κ × α) :
    e ∈ (d.erase k).entries ↔ e ∈ d.entries ∧ e.1 ≠ k := by
  simp [erase]

theorem get?_erase (d : Dict κ α) (k k' : κ) :
    (d.erase k).get? k' = if k' = k then none else d.get? k' := by
  by_cases h : k' = k
  · subst h
    rw [if_pos rfl, get?_eq_none_iff]
    intro hm
    obtain ⟨e, he, rfl⟩ := List.mem_map.mp hm
    exact ((mem_erase d _ e).mp he).2 rfl
  · rw [if_neg h]
    apply Option.ext
    intro v
    rw [get?_eq_some_iff, get?_eq_some_iff, mem_erase]
    simp [h]

@[simp] theorem get?_erase_self (d : Dict κ α) (k : κ) : (d.erase k).get? k = none := by
  rw [get?_erase, if_pos rfl]

theorem entries_erase_sublist (d : Dict κ α) (k : κ) :
    (d.erase k).entries.Sublist d.entries := List.filter_sublist

/-! ## Every value -/

theorem find_mapVals (k : κ) (f : α → α) (l : List (κ × α)) :
    find k (l.map fun e => (e.1, f e.2)) = (find k l).map f := by
  induction l with
  | nil => rfl
  | cons e l ih =>
    simp only [List.map_cons, find]
    split
    · rfl
    · exact ih

theorem get?_mapVals (d : Dict κ α) (f : α → α) (k : κ) :
    (d.mapVals f).get? k = (d.get? k).map f :=
  find_mapVals k f d.entries

end
end Dict
end Py
