import Mathlib.Data.List.AList

/-!
# Go maps

Both components keep their state in Go maps `map[K]V`: the EventHub cache in its two maps of
`*Namespace`, the dispatcher's reconciler in the failure map that `UpdateSubscriptions`
returns. A Go map has distinct keys, and `m[k]` yields the zero value of `V` for an absent
key. A `range` loop over it visits the entries in an order the runtime chooses anew each
time.

## Main definitions

* `GoMap` — `map[κ]ν`, as a Mathlib `AList` (an association list with distinct keys).
* `AList.values` — the values of the entries, in entry order and with repetitions.

## Main results

* `AList.mem_values` — a value is in the map iff some key looks it up.
* `AList.values_insert` — `m[k] = v` puts `v` in front of the values of `m` without `k`.
* `AList.values_perm_of_lookup`, `AList.count_values_erase` — `delete(m, k)` removes exactly
  the value `m[k]`: every other value stays (`AList.mem_values_erase`), and in a map with
  distinct values `m[k]` goes altogether (`AList.not_mem_values_erase`).

## Implementation notes

A `range` loop is modelled by a list `order` with `order ~ m.entries`; every result below that
a loop depends on is stated for all such orders.
-/

set_option autoImplicit false

/-- A Go map `map[κ]ν`: an association list with distinct keys. -/
abbrev GoMap (κ ν : Type) := AList (fun _ : κ => ν)

namespace AList

variable {κ ν : Type}

/-- The values of a map, in the order of its entries and with repetitions. -/
def values (m : GoMap κ ν) : List ν := m.entries.map Sigma.snd

@[simp] theorem values_empty : (∅ : GoMap κ ν).values = [] := rfl

variable [DecidableEq κ]

theorem mem_values {m : GoMap κ ν} {v : ν} : v ∈ m.values ↔ ∃ k, m.lookup k = some v := by
  constructor
  · intro h
    obtain ⟨⟨k, w⟩, hm, rfl⟩ := List.mem_map.1 h
    exact ⟨k, AList.mem_lookup_iff.2 hm⟩
  · rintro ⟨k, h⟩
    exact List.mem_map.2 ⟨⟨k, v⟩, AList.mem_lookup_iff.1 h, rfl⟩

theorem mem_values_of_lookup {m : GoMap κ ν} {k : κ} {v : ν} (h : m.lookup k = some v) :
    v ∈ m.values :=
  mem_values.2 ⟨k, h⟩

/-- `m[k] = v` replaces the entry of `k`, if any, and puts the new one first. -/
theorem values_insert (m : GoMap κ ν) (k : κ) (v : ν) :
    (m.insert k v).values = v :: (m.erase k).values := rfl

theorem erase_of_not_mem {m : GoMap κ ν} {k : κ} (h : k ∉ m) : m.erase k = m :=
  AList.ext (List.kerase_of_not_mem_keys h)

theorem erase_insert_of_not_mem {m : GoMap κ ν} {k : κ} (h : k ∉ m) (v : ν) :
    (m.insert k v).erase k = m :=
  AList.ext <| show ((m.insert k v).entries.kerase k) = m.entries by
    rw [AList.insert_entries_of_neg h]
    exact List.kerase_cons_eq rfl

theorem values_insert_of_not_mem {m : GoMap κ ν} {k : κ} (h : k ∉ m) (v : ν) :
    (m.insert k v).values = v :: m.values := by
  rw [values_insert, erase_of_not_mem h]

theorem values_erase_subset (m : GoMap κ ν) (k : κ) : (m.erase k).values ⊆ m.values := by
  show (m.entries.kerase k).map Sigma.snd ⊆ m.entries.map Sigma.snd
  exact ((List.kerase_sublist k m.entries).map _).subset

/-- `delete(m, k)` removes exactly one value, the one `m[k]` yields. -/
theorem values_perm_of_lookup {m : GoMap κ ν} {k : κ} {v : ν} (h : m.lookup k = some v) :
    m.values.Perm (v :: (m.erase k).values) := by
  have hk : k ∈ m.entries.keys := AList.mem_keys.1 (AList.lookup_isSome.1 (by simp [h]))
  obtain ⟨w, l₁, l₂, hl₁, he, hk'⟩ := List.exists_of_kerase hk
  have hw : w = v := by
    have : m.lookup k = some w := by
      simp only [AList.lookup, he, List.dlookup_append, List.dlookup_eq_none.2 hl₁,
        List.dlookup_cons_eq, Option.none_or]
    exact Option.some_injective _ (this.symm.trans h)
  subst hw
  show (m.entries.map Sigma.snd).Perm (w :: (m.entries.kerase k).map Sigma.snd)
  rw [hk', he, List.map_append, List.map_append, List.map_cons]
  exact List.perm_middle

/-- `delete(m, k)` takes one occurrence of `m[k]` from the values, and nothing else. -/
theorem count_values_erase [DecidableEq ν] [BEq ν] [LawfulBEq ν] (m : GoMap κ ν) (k : κ)
    (v : ν) :
    (m.erase k).values.count v + (if m.lookup k = some v then 1 else 0) = m.values.count v := by
  cases h : m.lookup k with
  | none => simp [erase_of_not_mem (AList.lookup_eq_none.1 h)]
  | some w =>
    rw [List.count_eq_countP, List.count_eq_countP, (values_perm_of_lookup h).countP_eq,
      List.countP_cons]
    by_cases hwv : w = v <;> simp [hwv]

theorem nodup_values_erase {m : GoMap κ ν} (hnd : m.values.Nodup) (k : κ) :
    (m.erase k).values.Nodup := by
  show ((m.entries.kerase k).map Sigma.snd).Nodup
  exact ((List.kerase_sublist k m.entries).map _).nodup hnd

variable [DecidableEq ν] {m : GoMap κ ν} {k : κ} {v : ν}

/-- A value that `m[k]` does not yield survives `delete(m, k)`. -/
theorem mem_values_erase (hv : v ∈ m.values) (hk : m.lookup k ≠ some v) :
    v ∈ (m.erase k).values := by
  have := count_values_erase m k v
  rw [if_neg hk, Nat.add_zero] at this
  exact List.count_pos_iff.1 (this ▸ List.count_pos_iff.2 hv)

/-- In a map whose values are distinct, `delete(m, k)` removes the value `m[k]` altogether. -/
theorem not_mem_values_erase (hnd : m.values.Nodup) (hk : m.lookup k = some v) :
    v ∉ (m.erase k).values := by
  have := count_values_erase m k v
  rw [if_pos hk, List.count_eq_one_of_mem hnd (mem_values_of_lookup hk)] at this
  exact List.count_eq_zero.1 (by omega)

end AList
