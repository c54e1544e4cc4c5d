import Mathlib.Order.MinMax
import Mathlib.Data.List.MinMax
import Mathlib.Algebra.Order.Ring.Int
import KnativeKafka.EventHubCache.Basic

/-!
# `GetNamespaceWithMaxCapacity` and the balance of allocations

`GetNamespaceWithMaxCapacity` ranges over `namespaceMap`, skips `nil` entries, keeps the first
Namespace below capacity as its candidate, replaces the candidate by any later Namespace with
a smaller Count, and stops as soon as the candidate's Count is zero. Go randomises the order
of the `range`, so the loop is modelled over any permutation of the map's entries.

## Main definitions

* `EventHubCache.Cache.maxCapacityLoop` — the loop, with the candidate found so far.
* `EventHubCache.Cache.getNamespaceWithMaxCapacity` — `GetNamespaceWithMaxCapacity`.
* `EventHubCache.Cache.belowCapacity` — the Namespaces it may select, in iteration order.
* `EventHubCache.Cache.AllocationStep` — one allocation of the provisioning path: select a
  Namespace, then `AddEventHub` there.
* `EventHubCache.Cache.spread` — the largest minus the smallest Count of the Namespaces.
* `EventHubCache.Cache.getNamespaceNames`, `EventHubCache.Cache.getEventHubNames` — the listings
  of the two maps that `Update` logs.

## Main results

* `EventHubCache.Cache.getNamespaceWithMaxCapacity_spec` — under every iteration order, the
  result is `nil` exactly when every Namespace is full, and is otherwise a Namespace below
  capacity with the least Count among those below capacity.
* `EventHubCache.Cache.getNamespaceWithMaxCapacity_eq_argmin` — with no negative Count, it is
  the first of those in iteration order: the early break only saves work.
* `EventHubCache.Cache.spread_le_of_allocationSteps` — along any run of allocations the
  spread never exceeds the initial spread or one, whichever is larger.
* `EventHubCache.Cache.getNamespaceNames_getEventHubNames_eq` — the two listings that `Update`
  logs open with as many empty strings as the map has entries.
-/

set_option autoImplicit false

namespace EventHubCache

namespace Cache

variable (maxEventHubsPerNamespace : ℤ)

/-- The loop of `GetNamespaceWithMaxCapacity` over the values of `namespaceMap` in iteration
order; `maxCapacityNamespace` is the candidate found so far. -/
def maxCapacityLoop (heap : ℕ → Namespace) (maxCapacityNamespace : Option ℕ) :
    List (Option ℕ) → Option ℕ
  | [] => maxCapacityNamespace
  | none :: rest => maxCapacityLoop heap maxCapacityNamespace rest
  | some p :: rest =>
    match maxCapacityNamespace with
    | none =>
      if (heap p).count < maxEventHubsPerNamespace then maxCapacityLoop heap (some p) rest
      else maxCapacityLoop heap none rest
    | some m =>
      if (heap m).count = 0 then some m
      else if (heap p).count < (heap m).count then maxCapacityLoop heap (some p) rest
      else maxCapacityLoop heap (some m) rest

/-- `GetNamespaceWithMaxCapacity`, with `namespaceMap` visited in the order `order` (a
permutation of its entries). -/
def getNamespaceWithMaxCapacity (c : Cache) (order : List (Sigma fun _ : String => Option ℕ)) :
    Option ℕ :=
  maxCapacityLoop maxEventHubsPerNamespace c.heap none (order.map Sigma.snd)

/-! ### The loop -/

/-- What the loop promises: `nil` when every Namespace is full, and otherwise a Namespace
below capacity whose Count is least among those below capacity. -/
def MaxCapacitySpec (heap : ℕ → Namespace) (vals : List (Option ℕ)) : Option ℕ → Prop
  | none => ∀ q, some q ∈ vals → maxEventHubsPerNamespace ≤ (heap q).count
  | some p => some p ∈ vals ∧ (heap p).count < maxEventHubsPerNamespace ∧
      ∀ q, some q ∈ vals → (heap q).count < maxEventHubsPerNamespace →
        (heap p).count ≤ (heap q).count

section Loop

variable {maxEventHubsPerNamespace} {heap : ℕ → Namespace}

/-- Once a candidate `m` below capacity is set, the loop returns `m` or a later Namespace, below
capacity, with a Count at most that of `m` and of every later Namespace below capacity.

**Proof sketch.** Induction on the rest of the map. The early break happens on a candidate
with Count zero, which no nonnegative Count undercuts. -/
lemma maxCapacityLoop_some (m : ℕ) (vals : List (Option ℕ))
    (hm : (heap m).count < maxEventHubsPerNamespace) (hm0 : 0 ≤ (heap m).count)
    (hnn : ∀ q, some q ∈ vals → 0 ≤ (heap q).count) :
    ∃ p, maxCapacityLoop maxEventHubsPerNamespace heap (some m) vals = some p ∧
      (p = m ∨ some p ∈ vals) ∧ (heap p).count < maxEventHubsPerNamespace ∧
      (heap p).count ≤ (heap m).count ∧
      ∀ q, some q ∈ vals → (heap q).count < maxEventHubsPerNamespace →
        (heap p).count ≤ (heap q).count := by
  induction vals generalizing m with
  | nil => exact ⟨m, rfl, .inl rfl, hm, le_rfl, by simp⟩
  | cons v vals ih =>
    simp only [List.mem_cons] at hnn ⊢
    cases v with
    | none =>
      obtain ⟨p, hp, hpm, hpc, hpm', hmin⟩ := ih m hm hm0 (by simpa using hnn)
      exact ⟨p, hp, hpm.imp_right Or.inr, hpc, hpm', by simpa using hmin⟩
    | some q =>
      simp only [Option.some.injEq, forall_eq_or_imp] at hnn ⊢
      simp only [maxCapacityLoop]
      split_ifs with h0 hlt
      · -- a candidate with Count zero stops the loop
        exact ⟨m, rfl, .inl rfl, hm, le_rfl, by omega, fun q' hq' _ => h0 ▸ hnn.2 q' hq'⟩
      · -- `q` undercuts the candidate
        obtain ⟨p, hp, hpm, hpc, hpm', hmin⟩ := ih q (by omega) hnn.1 hnn.2
        exact ⟨p, hp, .inr hpm, hpc, by omega, fun _ => hpm', hmin⟩
      · -- the candidate stays
        obtain ⟨p, hp, hpm, hpc, hpm', hmin⟩ := ih m hm hm0 hnn.2
        exact ⟨p, hp, hpm.imp_right Or.inr, hpc, hpm', fun _ => by omega, hmin⟩

/-- Before a candidate is set, the loop meets `MaxCapacitySpec`. -/
lemma maxCapacityLoop_none (vals : List (Option ℕ))
    (hnn : ∀ q, some q ∈ vals → 0 ≤ (heap q).count) :
    MaxCapacitySpec maxEventHubsPerNamespace heap vals
      (maxCapacityLoop maxEventHubsPerNamespace heap none vals) := by
  induction vals with
  | nil => simp [maxCapacityLoop, MaxCapacitySpec]
  | cons v vals ih =>
    simp only [List.mem_cons] at hnn
    cases v with
    | none =>
      have := ih (by simpa using hnn)
      cases h : maxCapacityLoop maxEventHubsPerNamespace heap none vals <;>
        simp_all [maxCapacityLoop, MaxCapacitySpec]
    | some q =>
      simp only [Option.some.injEq, forall_eq_or_imp] at hnn
      have := ih hnn.2
      simp only [maxCapacityLoop]
      split_ifs with hq
      · -- `q` becomes the candidate
        obtain ⟨p, hp, hpm, hpc, hpq, hmin⟩ := maxCapacityLoop_some q vals hq hnn.1 hnn.2
        simp only [hp, MaxCapacitySpec, List.mem_cons, Option.some.injEq, forall_eq_or_imp]
        exact ⟨hpm, hpc, fun _ => hpq, hmin⟩
      · -- `q` is full and skipped
        cases h : maxCapacityLoop maxEventHubsPerNamespace heap none vals <;>
          simp only [h, MaxCapacitySpec, List.mem_cons, Option.some.injEq, forall_eq_or_imp]
            at this ⊢
        · exact ⟨by omega, this⟩
        · exact ⟨.inr this.1, this.2.1, fun h => absurd h hq, this.2.2⟩

/-- `MaxCapacitySpec` reads its list only through membership. -/
lemma MaxCapacitySpec.congr {vals vals' : List (Option ℕ)}
    (hmem : ∀ v, v ∈ vals ↔ v ∈ vals') {r : Option ℕ}
    (h : MaxCapacitySpec maxEventHubsPerNamespace heap vals r) :
    MaxCapacitySpec maxEventHubsPerNamespace heap vals' r := by
  cases r <;> simpa only [MaxCapacitySpec, hmem] using h

end Loop

/-! ### `GetNamespaceWithMaxCapacity` -/

/-- Under every iteration order, `GetNamespaceWithMaxCapacity` meets `MaxCapacitySpec` over the
values of `namespaceMap`. -/
lemma getNamespaceWithMaxCapacity_maxCapacitySpec (c : Cache)
    (order : List (Sigma fun _ : String => Option ℕ)) (hord : order.Perm c.namespaceMap.entries)
    (hnn : ∀ p, some p ∈ c.namespaceMap.values → 0 ≤ (c.heap p).count) :
    MaxCapacitySpec maxEventHubsPerNamespace c.heap c.namespaceMap.values
      (c.getNamespaceWithMaxCapacity maxEventHubsPerNamespace order) :=
  have hmem : ∀ v, v ∈ order.map Sigma.snd ↔ v ∈ c.namespaceMap.values :=
    fun _ => (hord.map Sigma.snd).mem_iff
  (maxCapacityLoop_none _ fun q hq => hnn q ((hmem _).1 hq)).congr hmem

/-- **Selection is correct under every iteration order.** If every non-nil Namespace has a
nonnegative Count, then for every order in which `range` may visit `namespaceMap`,
`GetNamespaceWithMaxCapacity` returns `nil` exactly when no Namespace is below capacity, and
otherwise a Namespace of the map below capacity whose Count is least among those below
capacity. The early break and the skipping of `nil` and full Namespaces do not change this. -/
theorem getNamespaceWithMaxCapacity_spec (c : Cache)
    (order : List (Sigma fun _ : String => Option ℕ)) (hord : order.Perm c.namespaceMap.entries)
    (hnn : ∀ p, some p ∈ c.namespaceMap.values → 0 ≤ (c.heap p).count) :
    (c.getNamespaceWithMaxCapacity maxEventHubsPerNamespace order = none ↔
      ∀ p, some p ∈ c.namespaceMap.values → maxEventHubsPerNamespace ≤ (c.heap p).count) ∧
    ∀ p, c.getNamespaceWithMaxCapacity maxEventHubsPerNamespace order = some p →
      some p ∈ c.namespaceMap.values ∧ (c.heap p).count < maxEventHubsPerNamespace ∧
      ∀ q, some q ∈ c.namespaceMap.values → (c.heap q).count < maxEventHubsPerNamespace →
        (c.heap p).count ≤ (c.heap q).count := by
  have hspec :=
    getNamespaceWithMaxCapacity_maxCapacitySpec maxEventHubsPerNamespace c order hord hnn
  cases h : c.getNamespaceWithMaxCapacity maxEventHubsPerNamespace order with
  | none =>
    rw [h] at hspec
    exact ⟨iff_of_true rfl hspec, by simp⟩
  | some p =>
    rw [h] at hspec
    obtain ⟨hp, hpc, hmin⟩ := hspec
    exact ⟨iff_of_false (by simp) fun hall => absurd (hall p hp) (not_le.2 hpc),
      by rintro p' ⟨⟩; exact ⟨hp, hpc, hmin⟩⟩

/-- Three Namespaces `A`, `B`, `C` at addresses `0`, `1`, `2`, with Counts `3`, `1` and `10`. -/
def threeNamespaces : Cache where
  heap p := if p = 0 then ⟨"A", 3⟩ else if p = 1 then ⟨"B", 1⟩ else ⟨"C", 10⟩
  next := 3
  namespaceMap := ((∅ : GoMap String (Option ℕ)).insert "A" (some 0)).insert "B" (some 1)
    |>.insert "C" (some 2)
  eventhubMap := ∅

/-- The example of the spec: with capacity `10`, `B` is selected. -/
example : threeNamespaces.getNamespaceWithMaxCapacity 10 threeNamespaces.namespaceMap.entries =
    some 1 := by
  decide

lemma threeNamespaces_count_nonneg :
    ∀ p, some p ∈ threeNamespaces.namespaceMap.values →
      0 ≤ (threeNamespaces.heap p).count := by
  intro p hp
  have : p = 2 ∨ p = 1 ∨ p = 0 := by simpa [threeNamespaces, AList.values] using hp
  rcases this with rfl | rfl | rfl <;> decide

theorem getNamespaceWithMaxCapacity_spec_threeNamespaces :
    threeNamespaces.namespaceMap.entries.Perm threeNamespaces.namespaceMap.entries ∧
    (∀ p, some p ∈ threeNamespaces.namespaceMap.values →
      0 ≤ (threeNamespaces.heap p).count) ∧
    (threeNamespaces.getNamespaceWithMaxCapacity 10 threeNamespaces.namespaceMap.entries = none ↔
      ∀ p, some p ∈ threeNamespaces.namespaceMap.values →
        10 ≤ (threeNamespaces.heap p).count) ∧
    ∀ p, threeNamespaces.getNamespaceWithMaxCapacity 10 threeNamespaces.namespaceMap.entries =
        some p →
      some p ∈ threeNamespaces.namespaceMap.values ∧ (threeNamespaces.heap p).count < 10 ∧
      ∀ q, some q ∈ threeNamespaces.namespaceMap.values →
        (threeNamespaces.heap q).count < 10 →
        (threeNamespaces.heap p).count ≤ (threeNamespaces.heap q).count :=
  ⟨List.Perm.refl _, threeNamespaces_count_nonneg,
    getNamespaceWithMaxCapacity_spec 10 _ _ (List.Perm.refl _) threeNamespaces_count_nonneg⟩

/-! ### The early break -/

section Break

/-- The Namespaces the loop may select, in iteration order: the non-nil values of the map that
are below capacity. -/
def belowCapacity (heap : ℕ → Namespace) (vals : List (Option ℕ)) : List ℕ :=
  (vals.filterMap id).filter fun p => (heap p).count < maxEventHubsPerNamespace

variable {maxEventHubsPerNamespace} {heap : ℕ → Namespace}

@[simp] lemma belowCapacity_nil : belowCapacity maxEventHubsPerNamespace heap [] = [] := rfl

@[simp] lemma belowCapacity_cons_none (vals : List (Option ℕ)) :
    belowCapacity maxEventHubsPerNamespace heap (none :: vals) =
      belowCapacity maxEventHubsPerNamespace heap vals := rfl

lemma belowCapacity_cons_some (p : ℕ) (vals : List (Option ℕ)) :
    belowCapacity maxEventHubsPerNamespace heap (some p :: vals) =
      if (heap p).count < maxEventHubsPerNamespace
      then p :: belowCapacity maxEventHubsPerNamespace heap vals
      else belowCapacity maxEventHubsPerNamespace heap vals := by
  by_cases hp : (heap p).count < maxEventHubsPerNamespace <;> simp [belowCapacity, hp]

lemma mem_belowCapacity {p : ℕ} {vals : List (Option ℕ)} :
    p ∈ belowCapacity maxEventHubsPerNamespace heap vals ↔
      some p ∈ vals ∧ (heap p).count < maxEventHubsPerNamespace := by
  simp [belowCapacity]

/-- The plain scan: the candidate is replaced by any later Namespace of smaller Count. -/
abbrev scanStep (heap : ℕ → Namespace) : Option ℕ → ℕ → Option ℕ :=
  List.argAux fun b c => (heap b).count < (heap c).count

/-- A candidate whose Count no later Namespace undercuts stays the choice of the plain scan. -/
lemma foldl_scanStep_of_le (m : ℕ) (l : List ℕ) (hm : ∀ q ∈ l, (heap m).count ≤ (heap q).count) :
    l.foldl (scanStep heap) (some m) = some m := by
  induction l with
  | nil => rfl
  | cons q l ih =>
    simp only [List.forall_mem_cons] at hm
    simp only [List.foldl_cons, List.argAux, if_neg (not_lt.2 hm.1)]
    exact ih hm.2

/-- With no negative Count, the loop from any candidate below capacity is the plain scan, which
keeps the first Namespace of least Count, over the Namespaces below capacity.

**Proof sketch.** Induction on the map. The break fires on a candidate of Count zero, which the
plain scan keeps since no Count is negative; a full Namespace never undercuts a candidate
below capacity. -/
lemma maxCapacityLoop_eq_foldl (cand : Option ℕ) (vals : List (Option ℕ))
    (hcand : ∀ m, cand = some m → 0 ≤ (heap m).count ∧ (heap m).count < maxEventHubsPerNamespace)
    (hnn : ∀ q, some q ∈ vals → 0 ≤ (heap q).count) :
    maxCapacityLoop maxEventHubsPerNamespace heap cand vals =
      (belowCapacity maxEventHubsPerNamespace heap vals).foldl (scanStep heap) cand := by
  induction vals generalizing cand with
  | nil => rfl
  | cons v vals ih =>
    have hrest := fun q hq => hnn q (List.mem_cons_of_mem v hq)
    cases v with
    | none => exact ih cand hcand hrest
    | some p =>
      have hp := hnn p (List.mem_cons_self _ _)
      cases cand with
      | none =>
        rw [maxCapacityLoop, belowCapacity_cons_some]
        by_cases hpc : (heap p).count < maxEventHubsPerNamespace
        · rw [if_pos hpc, if_pos hpc, List.foldl_cons]
          exact ih _ (fun m hm => Option.some.inj hm ▸ ⟨hp, hpc⟩) hrest
        · rw [if_neg hpc, if_neg hpc]
          exact ih none (by simp) hrest
      | some m =>
        obtain ⟨hm0, hm⟩ := hcand m rfl
        by_cases h0 : (heap m).count = 0
        · -- the break: no Namespace undercuts a Count of zero
          rw [maxCapacityLoop, if_pos h0, eq_comm]
          exact foldl_scanStep_of_le m _ fun q hq => h0 ▸ hnn q (mem_belowCapacity.1 hq).1
        rw [maxCapacityLoop, if_neg h0, belowCapacity_cons_some]
        by_cases hlt : (heap p).count < (heap m).count
        · -- `p` undercuts the candidate, so it is below capacity too
          rw [if_pos hlt, if_pos (hlt.trans hm), List.foldl_cons]
          simp only [scanStep, List.argAux, if_pos hlt]
          exact ih _ (fun m' hm' => Option.some.inj hm' ▸ ⟨hp, hlt.trans hm⟩) hrest
        · -- the candidate stays, whether or not `p` is below capacity
          have hstay : scanStep heap (some m) p = some m := by simp [List.argAux, hlt]
          have hih := ih _ (fun _ h => Option.some.inj h ▸ ⟨hm0, hm⟩) hrest
          rw [if_neg hlt]
          split_ifs
          · rwa [List.foldl_cons, hstay]
          · exact hih

/-- **The early break is only an optimisation.** If no Namespace of the map has a negative Count,
then under every iteration order `GetNamespaceWithMaxCapacity` returns what a scan without the
break returns: the first Namespace, in iteration order, whose Count is least among the
Namespaces below capacity. -/
lemma getNamespaceWithMaxCapacity_eq_argmin (c : Cache)
    (order : List (Sigma fun _ : String => Option ℕ))
    (hnn : ∀ p, some p ∈ order.map Sigma.snd → 0 ≤ (c.heap p).count) :
    c.getNamespaceWithMaxCapacity maxEventHubsPerNamespace order =
      (belowCapacity maxEventHubsPerNamespace c.heap (order.map Sigma.snd)).argmin
        fun p => (c.heap p).count :=
  maxCapacityLoop_eq_foldl none _ (by simp) hnn

end Break

/-! ### Balance of allocations -/

section Balance

/-- One allocation on the provisioning path: `GetNamespaceWithMaxCapacity`, visiting
`namespaceMap` in the order `order`, then `AddEventHub` in the Namespace it returned, if any. -/
def allocate (c : Cache) (order : List (Sigma fun _ : String => Option ℕ)) (eventhub : String) :
    Cache :=
  match c.getNamespaceWithMaxCapacity maxEventHubsPerNamespace order with
  | some p => c.addEventHub maxEventHubsPerNamespace eventhub (some p)
  | none => c

/-- An allocation under some iteration order of `namespaceMap`. -/
inductive AllocationStep : Cache → Cache → Prop
  | mk (c : Cache) (order : List (Sigma fun _ : String => Option ℕ))
      (hord : order.Perm c.namespaceMap.entries) (eventhub : String) :
      AllocationStep c (c.allocate maxEventHubsPerNamespace order eventhub)

/-- The Counts of the non-nil Namespaces of `namespaceMap`, in entry order. -/
def counts (c : Cache) : List ℤ :=
  c.namespaceMap.values.filterMap (Option.map fun p => (c.heap p).count)

/-- The largest minus the smallest Count of the non-nil Namespaces of `namespaceMap` (zero for a
cache without any). -/
def spread (c : Cache) : ℤ := c.counts.max?.getD 0 - c.counts.min?.getD 0

/-- Every non-nil Namespace of `namespaceMap` has a nonnegative Count. -/
def CountsNonneg (c : Cache) : Prop :=
  ∀ p, some p ∈ c.namespaceMap.values → 0 ≤ (c.heap p).count

/-- Any two non-nil Namespaces of `namespaceMap` differ in Count by at most `d`. -/
def SpreadLe (c : Cache) (d : ℤ) : Prop :=
  ∀ p q, some p ∈ c.namespaceMap.values → some q ∈ c.namespaceMap.values →
    (c.heap p).count - (c.heap q).count ≤ d

variable {maxEventHubsPerNamespace}

lemma mem_counts {c : Cache} {x : ℤ} :
    x ∈ c.counts ↔ ∃ p, some p ∈ c.namespaceMap.values ∧ (c.heap p).count = x := by
  simp only [counts, List.mem_filterMap, Option.map_eq_some']
  constructor
  · rintro ⟨_, hv, p, rfl, hp⟩; exact ⟨p, hv, hp⟩
  · rintro ⟨p, hv, hp⟩; exact ⟨_, hv, p, rfl, hp⟩

/-- The spread bounds the difference of any two Counts. -/
lemma spreadLe_spread (c : Cache) : c.SpreadLe c.spread := by
  intro p q hp hq
  have hp' : (c.heap p).count ∈ c.counts := mem_counts.2 ⟨p, hp, rfl⟩
  have hq' : (c.heap q).count ∈ c.counts := mem_counts.2 ⟨q, hq, rfl⟩
  obtain ⟨a, ha⟩ := Option.isSome_iff_exists.1 (List.isSome_max?_of_mem hp')
  obtain ⟨b, hb⟩ := Option.isSome_iff_exists.1 (List.isSome_min?_of_mem hq')
  have hpa := (List.max?_le_iff (fun _ _ _ => max_le_iff) ha).1 le_rfl _ hp'
  have hbq := (List.le_min?_iff (fun _ _ _ => le_min_iff) hb).1 le_rfl _ hq'
  simp only [spread, ha, hb, Option.getD_some]
  omega

/-- A nonnegative bound on every difference of Counts bounds the spread. -/
lemma spread_le_of_spreadLe {c : Cache} {d : ℤ} (h : c.SpreadLe d) (hd : 0 ≤ d) :
    c.spread ≤ d := by
  cases ha : c.counts.max? with
  | none => simp [spread, ha, List.max?_eq_none_iff.1 ha, hd]
  | some a =>
    obtain ⟨b, hb⟩ := Option.isSome_iff_exists.1
      (List.isSome_min?_of_mem (List.max?_mem (fun x y => max_choice x y) ha))
    obtain ⟨p, hp, rfl⟩ := mem_counts.1 (List.max?_mem (fun x y => max_choice x y) ha)
    obtain ⟨q, hq, rfl⟩ := mem_counts.1 (List.min?_mem (fun x y => min_choice x y) hb)
    simpa [spread, ha, hb] using h p q hp hq

/-- What an allocation can do: nothing, or record the EventHub in a Namespace of the map that is
below capacity and has the least Count among those below capacity. -/
lemma AllocationStep.eq_or_mapEventHub {c c' : Cache}
    (h : AllocationStep maxEventHubsPerNamespace c c')
    (hnn : c.CountsNonneg) :
    c' = c ∨ ∃ p e, some p ∈ c.namespaceMap.values ∧
      (c.heap p).count < maxEventHubsPerNamespace ∧
      (∀ q, some q ∈ c.namespaceMap.values → (c.heap q).count < maxEventHubsPerNamespace →
        (c.heap p).count ≤ (c.heap q).count) ∧
      c' = c.mapEventHub e p := by
  cases h with | mk order hord e => ?_
  have hsel := (getNamespaceWithMaxCapacity_spec maxEventHubsPerNamespace c order hord hnn).2
  unfold allocate
  cases hs : c.getNamespaceWithMaxCapacity maxEventHubsPerNamespace order with
  | none => exact .inl rfl
  | some p =>
    obtain ⟨hp, hpc, hmin⟩ := hsel p hs
    exact .inr ⟨p, e, hp, hpc, hmin, by simp [addEventHub, hpc]⟩

/-- **One allocation.** It keeps the Counts nonnegative, and turns a bound `d` on the spread
into `max d 1`: the chosen Namespace had the least Count among those below capacity, so after
the increment it exceeds no other Namespace by more than one. -/
lemma AllocationStep.preserves {c c' : Cache} {d : ℤ}
    (h : AllocationStep maxEventHubsPerNamespace c c') (hnn : c.CountsNonneg)
    (hd : c.SpreadLe d) : c'.CountsNonneg ∧ c'.SpreadLe (max d 1) := by
  rcases h.eq_or_mapEventHub hnn with rfl | ⟨p, e, hp, hpc, hmin, rfl⟩
  · exact ⟨hnn, fun x y hx hy => le_max_of_le_left (hd x y hx hy)⟩
  refine ⟨fun q hq => ?_, fun x y hx hy => ?_⟩
  · have := hnn q hq
    rw [mapEventHub_count]
    split_ifs <;> omega
  · simp only [mapEventHub_namespaceMap] at hx hy
    rw [mapEventHub_count, mapEventHub_count, le_max_iff]
    by_cases hxp : x = p <;> by_cases hyp : y = p
    · subst hxp hyp; simp
    · -- the chosen Namespace had the least Count among those below capacity
      subst hxp
      have := hmin y hy
      by_cases hyc : (c.heap y).count < maxEventHubsPerNamespace <;> simp [hyp] <;> omega
    · subst hyp
      have := hd x y hx hy
      simp [hxp]; omega
    · have := hd x y hx hy
      simp [hxp, hyp]; omega

/-- **Allocations stay balanced.** Along any run of allocations, each under its own iteration
order, from a cache whose Namespaces have nonnegative Counts, the spread of the Counts never
exceeds the larger of the initial spread and one. -/
theorem spread_le_of_allocationSteps {c₀ c : Cache}
    (h : Relation.ReflTransGen (AllocationStep maxEventHubsPerNamespace) c₀ c)
    (hnn : ∀ p, some p ∈ c₀.namespaceMap.values → 0 ≤ (c₀.heap p).count) :
    c.spread ≤ max c₀.spread 1 := by
  have hrun : c.CountsNonneg ∧ c.SpreadLe (max c₀.spread 1) := by
    induction h with
    | refl => exact ⟨hnn, fun x y hx hy => le_max_of_le_left (spreadLe_spread c₀ x y hx hy)⟩
    | tail _ hstep ih =>
      simpa [max_assoc] using hstep.preserves ih.1 ih.2
  exact spread_le_of_spreadLe hrun.2 (le_max_of_le_right (by decide))

theorem spread_le_of_allocationSteps_threeNamespaces :
    Relation.ReflTransGen (AllocationStep 10) threeNamespaces
      (threeNamespaces.allocate 10 threeNamespaces.namespaceMap.entries "t") ∧
    (∀ p, some p ∈ threeNamespaces.namespaceMap.values →
      0 ≤ (threeNamespaces.heap p).count) ∧
    (threeNamespaces.allocate 10 threeNamespaces.namespaceMap.entries "t").spread ≤
      max threeNamespaces.spread 1 :=
  ⟨.single (.mk _ _ (List.Perm.refl _) "t"), threeNamespaces_count_nonneg,
    spread_le_of_allocationSteps (.single (.mk _ _ (List.Perm.refl _) "t"))
      threeNamespaces_count_nonneg⟩

/-- From a cache whose Namespaces all have the same Count, allocations never leave two
Namespaces more than one EventHub apart. -/
lemma count_sub_le_one_of_allocationSteps {c₀ c : Cache}
    (h : Relation.ReflTransGen (AllocationStep maxEventHubsPerNamespace) c₀ c)
    (hnn : c₀.CountsNonneg) (h₀ : c₀.spread = 0) (p q : ℕ)
    (hp : some p ∈ c.namespaceMap.values) (hq : some q ∈ c.namespaceMap.values) :
    (c.heap p).count - (c.heap q).count ≤ 1 := by
  have := spread_le_of_allocationSteps h hnn
  rw [h₀] at this
  exact (spreadLe_spread c p q hp hq).trans (this.trans (by decide))

end Balance

/-! ### Listing the maps for the log -/

section Listing

/-- The loop shared by `getNamespaceNames` and `getEventHubNames`: append one formatted entry per
map entry in iteration order; `none` where Go would dereference a nil Namespace. -/
def appendNames (format : String → ℕ → String) (names : List String) :
    List (Sigma fun _ : String => Option ℕ) → Option (List String)
  | [] => some names
  | ⟨key, some p⟩ :: rest => appendNames format (names ++ [format key p]) rest
  | ⟨_, none⟩ :: _ => none

/-- `getNamespaceNames`: a slice made with length `len(namespaceMap)`, then `"name (count)"`
appended for every entry, in the iteration order `order`. -/
def getNamespaceNames (c : Cache) (order : List (Sigma fun _ : String => Option ℕ)) :
    Option (List String) :=
  appendNames (fun namespaceName p => namespaceName ++ " (" ++ toString (c.heap p).count ++ ")")
    (List.replicate c.namespaceMap.entries.length "") order

/-- `getEventHubNames`: a slice made with length `len(eventhubMap)`, then `"eventhub -> name"`
appended for every entry, in the iteration order `order`. -/
def getEventHubNames (c : Cache) (order : List (Sigma fun _ : String => Option ℕ)) :
    Option (List String) :=
  appendNames (fun eventHubName p => eventHubName ++ " -> " ++ (c.heap p).name)
    (List.replicate c.eventhubMap.entries.length "") order

/-- Over entries with no nil value, the loop appends exactly the formatted entries. -/
lemma appendNames_eq (format : String → ℕ → String) (names : List String)
    (order : List (Sigma fun _ : String => Option ℕ)) (h : ∀ x ∈ order, x.2 ≠ none) :
    appendNames format names order =
      some (names ++ order.filterMap fun x => x.2.map (format x.1)) := by
  induction order generalizing names with
  | nil => simp [appendNames]
  | cons x rest ih =>
    obtain ⟨key, _ | p⟩ := x
    · exact absurd rfl (h _ (List.mem_cons_self _ _))
    · simp [appendNames, ih _ fun y hy => h y (List.mem_cons_of_mem _ hy)]

/-- **The log listings start with blanks.** Under every iteration order of maps with no nil
value, `getNamespaceNames` and `getEventHubNames` return as many empty strings as the map has
entries, followed by one formatted entry per map entry in iteration order: the slices are made
with length, not capacity, `len(map)`. -/
theorem getNamespaceNames_getEventHubNames_eq (c : Cache)
    (nsOrder ehOrder : List (Sigma fun _ : String => Option ℕ))
    (hns : nsOrder.Perm c.namespaceMap.entries) (heh : ehOrder.Perm c.eventhubMap.entries)
    (hns_some : ∀ x ∈ nsOrder, x.2 ≠ none) (heh_some : ∀ x ∈ ehOrder, x.2 ≠ none) :
    c.getNamespaceNames nsOrder = some (List.replicate nsOrder.length "" ++
      nsOrder.filterMap fun x => x.2.map fun p =>
        x.1 ++ " (" ++ toString (c.heap p).count ++ ")") ∧
    c.getEventHubNames ehOrder = some (List.replicate ehOrder.length "" ++
      ehOrder.filterMap fun x => x.2.map fun p => x.1 ++ " -> " ++ (c.heap p).name) := by
  rw [getNamespaceNames, getEventHubNames, appendNames_eq _ _ _ hns_some,
    appendNames_eq _ _ _ heh_some, hns.length_eq, heh.length_eq]
  exact ⟨rfl, rfl⟩

theorem getNamespaceNames_getEventHubNames_eq_threeNamespaces :
    threeNamespaces.namespaceMap.entries.Perm threeNamespaces.namespaceMap.entries ∧
    threeNamespaces.eventhubMap.entries.Perm threeNamespaces.eventhubMap.entries ∧
    (∀ x ∈ threeNamespaces.namespaceMap.entries, x.2 ≠ none) ∧
    (∀ x ∈ threeNamespaces.eventhubMap.entries, x.2 ≠ none) ∧
    threeNamespaces.getNamespaceNames threeNamespaces.namespaceMap.entries =
      some (List.replicate threeNamespaces.namespaceMap.entries.length "" ++
        threeNamespaces.namespaceMap.entries.filterMap fun x => x.2.map fun p =>
          x.1 ++ " (" ++ toString (threeNamespaces.heap p).count ++ ")") ∧
    threeNamespaces.getEventHubNames threeNamespaces.eventhubMap.entries =
      some (List.replicate threeNamespaces.eventhubMap.entries.length "" ++
        threeNamespaces.eventhubMap.entries.filterMap fun x => x.2.map fun p =>
          x.1 ++ " -> " ++ (threeNamespaces.heap p).name) :=
  have hns : ∀ x ∈ threeNamespaces.namespaceMap.entries, x.2 ≠ none := by decide
  have heh : ∀ x ∈ threeNamespaces.eventhubMap.entries, x.2 ≠ none := by decide
  ⟨.refl _, .refl _, hns, heh,
    getNamespaceNames_getEventHubNames_eq threeNamespaces _ _ (.refl _) (.refl _) hns heh⟩

/-- With the three Namespaces, the listing opens with three empty strings. -/
example : threeNamespaces.getNamespaceNames threeNamespaces.namespaceMap.entries =
    some ["", "", "", "C (10)", "B (1)", "A (3)"] := by
  decide

end Listing

end Cache

end EventHubCache
