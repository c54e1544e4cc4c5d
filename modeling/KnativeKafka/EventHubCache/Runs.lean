import KnativeKafka.EventHubCache.Consistency
import KnativeKafka.EventHubCache.Selection

/-!
# Every run of the cache's calls

The consistency of `EventHubCache.Consistency` needs guarded calls. This module takes the calls
as the controller may make them: `Update` with any snapshot (a name repeated, an EventHub
listed twice or by two Namespaces, a secret rejected, a listing that fails), `AddEventHub` of
any name, cached or not, with nil or with one of the cache's own Namespaces, and
`RemoveEventHub` of any name. Along every such run from `NewCache` neither map ever holds nil,
and no Count falls below the number of EventHubs mapped to its Namespace: Counts over-count
after an EventHub is listed twice or moved to another Namespace, but never under-count. When
no listing of a snapshot exceeds the capacity, no Count ever does.

## Main definitions

* `EventHubCache.Cache.mapped` — the number of EventHubs `eventhubMap` maps to a Namespace.
* `EventHubCache.Cache.CacheStep` — one call that changes the cache.
* `EventHubCache.Cache.CacheSafe` — what every such call keeps.
* `EventHubCache.Cache.CappedStep` — a call whose `Update` snapshot fits in the capacity.

## Main results

* `EventHubCache.Cache.cacheSafe_of_cacheSteps` — every state reached from `newCache` is safe.
* `EventHubCache.Cache.mapped_le_count_of_cacheSteps` — there, every Count is at least the
  number of EventHubs mapped to its Namespace, hence never negative.
* `EventHubCache.Cache.listings_isSome_of_cacheSteps` — there, neither map holds nil, so the
  listings `Update` logs never dereference nil.
* `EventHubCache.Cache.getNamespaceWithMaxCapacity_of_cacheSteps` — and selection is correct
  there under every iteration order.
* `EventHubCache.Cache.getNamespaceWithMaxCapacity_eq_argmin_of_cacheSteps` — it returns the
  first Namespace of least Count below capacity in iteration order, as a scan without the early
  break would.
* `EventHubCache.Cache.count_le_capacity_of_cappedSteps` — when no listing exceeds the capacity,
  no Count ever does.

## Implementation notes

A `*Namespace` handed to `AddEventHub` is nil or one of the cache's own: the model says so by
an address below `next`. Go allocates no other `Namespace` that the cache could be given.
-/

set_option autoImplicit false

namespace EventHubCache

namespace Cache

/-- The number of EventHubs `eventhubMap` maps to the Namespace at `p`. -/
def mapped (c : Cache) (p : ℕ) : ℕ := c.eventhubMap.values.count (some p)

/-! ### How the calls change `mapped` -/

section Mapped

variable (c : Cache) (p q : ℕ) (e : String)

@[simp] lemma setCount_mapped (n : ℤ) : (c.setCount p n).mapped q = c.mapped q := rfl

@[simp] lemma addNamespace_mapped (s : KafkaSecret) : (c.addNamespace s).mapped q = c.mapped q :=
  rfl

/-- Recording `e` in the Namespace at `p` adds at most one EventHub to `p`, and none to any
other Namespace: the entry `e` had is replaced. -/
lemma mapped_mapEventHub_le : (c.mapEventHub e p).mapped q ≤ c.mapped q + if q = p then 1 else 0 := by
  have := AList.count_values_erase c.eventhubMap e (some q)
  simp only [mapped, mapEventHub_eventhubMap, AList.values_insert, List.count_cons,
    beq_iff_eq, Option.some.injEq]
  split_ifs <;> omega

/-- `RemoveEventHub e` takes `e` from the count of its Namespace and from no other. -/
lemma mapped_removeEventHub :
    (c.removeEventHub e).mapped q + (if c.getNamespace e = some q then 1 else 0) = c.mapped q := by
  simp only [mapped, removeEventHub_eventhubMap, getNamespace_eq_some]
  exact AList.count_values_erase c.eventhubMap e (some q)

end Mapped

/-! ### The calls and their invariant -/

section Safe

variable (maxEventHubsPerNamespace : ℤ)

/-- One call of `CacheInterface` that changes the cache, with any arguments but one: the
Namespace given to `AddEventHub` is nil or one the cache allocated. -/
inductive CacheStep : Cache → Cache → Prop
  | update (c : Cache) (env : UpdateEnv) : CacheStep c (c.update env).2
  | addEventHub (c : Cache) (eventhub : String) (ns : Option ℕ)
      (hns : ∀ p, ns = some p → p < c.next) :
      CacheStep c (c.addEventHub maxEventHubsPerNamespace eventhub ns)
  | removeEventHub (c : Cache) (eventhub : String) : CacheStep c (c.removeEventHub eventhub)

variable {maxEventHubsPerNamespace}

/-- What every call keeps: both maps hold only Namespaces the cache allocated, never nil, and
the Count of every Namespace is at least the number of EventHubs mapped to it. -/
structure CacheSafe (c : Cache) : Prop where
  namespaceMap_allocated : ∀ v ∈ c.namespaceMap.values, ∃ p, v = some p ∧ p < c.next
  eventhubMap_allocated : ∀ v ∈ c.eventhubMap.values, ∃ p, v = some p ∧ p < c.next
  mapped_le_count : ∀ p, (c.mapped p : ℤ) ≤ (c.heap p).count

lemma newCache_cacheSafe : newCache.CacheSafe :=
  ⟨by simp, by simp, fun p => by simp [mapped, newCache]⟩

namespace CacheSafe

variable {c : Cache}

/-- No EventHub is mapped to an address the cache has not allocated. -/
lemma mapped_eq_zero (h : c.CacheSafe) {p : ℕ} (hp : c.next ≤ p) : c.mapped p = 0 :=
  List.count_eq_zero.2 fun hm => by
    obtain ⟨q, hq, hlt⟩ := h.eventhubMap_allocated _ hm
    cases hq
    omega

/-- No Count is negative. -/
lemma count_nonneg (h : c.CacheSafe) (p : ℕ) : 0 ≤ (c.heap p).count :=
  le_trans (Int.ofNat_nonneg _) (h.mapped_le_count p)

lemma mapEventHub (h : c.CacheSafe) (e : String) {p : ℕ} (hp : p < c.next) :
    (c.mapEventHub e p).CacheSafe := by
  refine ⟨h.namespaceMap_allocated, fun v hv => ?_, fun q => ?_⟩
  · rw [mapEventHub_eventhubMap, AList.values_insert] at hv
    rcases List.mem_cons.1 hv with rfl | hv
    · exact ⟨p, rfl, hp⟩
    · exact h.eventhubMap_allocated v (AList.values_erase_subset _ _ hv)
  · have hle := mapped_mapEventHub_le c p q e
    have := h.mapped_le_count q
    rw [mapEventHub_count]
    split_ifs at hle ⊢ <;> omega

lemma addNamespace (h : c.CacheSafe) (s : KafkaSecret) : (c.addNamespace s).CacheSafe := by
  refine ⟨fun v hv => ?_, fun v hv => ?_, fun q => ?_⟩
  · rw [addNamespace_namespaceMap, AList.values_insert] at hv
    rcases List.mem_cons.1 hv with rfl | hv
    · exact ⟨c.next, rfl, by simp⟩
    · obtain ⟨p, rfl, hp⟩ := h.namespaceMap_allocated v (AList.values_erase_subset _ _ hv)
      exact ⟨p, rfl, by simp; omega⟩
  · obtain ⟨p, rfl, hp⟩ := h.eventhubMap_allocated v hv
    exact ⟨p, rfl, by simp; omega⟩
  · -- the fresh Namespace has Count zero, and no EventHub is mapped to it yet
    rw [addNamespace_mapped, addNamespace_heap]
    split_ifs with hq
    · subst hq; simp [h.mapped_eq_zero le_rfl, newNamespaceFromKafkaSecret]
    · exact h.mapped_le_count q

lemma addEventHubs (h : c.CacheSafe) {p : ℕ} (hp : p < c.next) (hubs : List String) :
    (c.addEventHubs p hubs).CacheSafe := by
  induction hubs generalizing c with
  | nil => exact h
  | cons e hubs ih => exact ih (h.mapEventHub e hp) hp

variable {hubManagerList : ℕ → Except String (List String)}

lemma updateLoop (h : c.CacheSafe) (ss : List KafkaSecret) :
    (c.updateLoop hubManagerList ss).2.CacheSafe := by
  induction ss generalizing c hubManagerList with
  | nil => exact h
  | cons s ss ih =>
    rcases updateLoop_cons hubManagerList c s ss with
      ⟨-, he⟩ | ⟨err, -, -, he⟩ | ⟨hubs, -, -, he⟩ <;> rw [he]
    · exact h
    · exact h.addNamespace s
    · exact ih ((h.addNamespace s).addEventHubs (by simp) hubs)

lemma update (h : c.CacheSafe) (env : UpdateEnv) : (c.update env).2.CacheSafe := by
  unfold Cache.update
  split
  · exact h
  · exact h.updateLoop _

lemma addEventHub (h : c.CacheSafe) (e : String) {ns : Option ℕ}
    (hns : ∀ p, ns = some p → p < c.next) :
    (c.addEventHub maxEventHubsPerNamespace e ns).CacheSafe := by
  cases ns with
  | none => exact h
  | some p =>
    dsimp only [Cache.addEventHub]
    split_ifs
    exacts [h.mapEventHub e (hns p rfl), h]

/-- `RemoveEventHub` keeps the invariant: the Namespace of a mapped EventHub counts it, so its
Count is positive and is decremented as the entry goes. -/
lemma removeEventHub (h : c.CacheSafe) (e : String) : (c.removeEventHub e).CacheSafe := by
  refine ⟨by simpa using h.namespaceMap_allocated, fun v hv => ?_, fun q => ?_⟩
  · rw [removeEventHub_eventhubMap] at hv
    simpa using h.eventhubMap_allocated v (AList.values_erase_subset _ _ hv)
  · have hm := mapped_removeEventHub c q e
    have hq := h.mapped_le_count q
    rw [removeEventHub_count]
    by_cases hg : c.getNamespace e = some q
    · rw [if_pos hg] at hm
      rw [if_pos ⟨hg, by omega⟩]
      omega
    · rw [if_neg hg] at hm
      rw [if_neg fun h' => hg h'.1]
      omega

end CacheSafe

/-! ### Runs -/

/-- Every state reached from `newCache` by calls is safe. -/
lemma cacheSafe_of_cacheSteps {c : Cache}
    (h : Relation.ReflTransGen (CacheStep maxEventHubsPerNamespace) newCache c) : c.CacheSafe := by
  induction h with
  | refl => exact newCache_cacheSafe
  | tail _ hstep ih =>
    cases hstep with
    | update env => exact ih.update env
    | addEventHub e ns hns => exact ih.addEventHub e hns
    | removeEventHub e => exact ih.removeEventHub e

/-- `Update` of a snapshot in which `n1` and `n2` both list `t`, then `AddEventHub t` into the
Namespace `n1` (where `t` is no longer mapped), then `RemoveEventHub t`. -/
def sharedRun : Cache :=
  (((newCache.update sharedEventHubEnv).2.addEventHub 10 "t" (some 0)).removeEventHub "t")

lemma sharedRun_reachable : Relation.ReflTransGen (CacheStep 10) newCache sharedRun :=
  .tail (.tail (.single (.update _ _)) (.addEventHub _ _ _ fun p hp => by cases hp; decide))
    (.removeEventHub _ _)

/-- **Counts never under-count.** In every state that any sequence of calls reaches from
`newCache`, every Namespace's Count is at least the number of EventHubs `eventhubMap` maps to
it, and so never negative. `AddEventHub` therefore maps an EventHub to a Namespace only while
fewer than `maxEventHubsPerNamespace` EventHubs are mapped to it. -/
theorem mapped_le_count_of_cacheSteps {c : Cache}
    (h : Relation.ReflTransGen (CacheStep maxEventHubsPerNamespace) newCache c) (p : ℕ) :
    0 ≤ (c.heap p).count ∧ (c.mapped p : ℤ) ≤ (c.heap p).count :=
  ⟨(cacheSafe_of_cacheSteps h).count_nonneg p, (cacheSafe_of_cacheSteps h).mapped_le_count p⟩

theorem mapped_le_count_of_cacheSteps_sharedRun :
    Relation.ReflTransGen (CacheStep 10) newCache sharedRun ∧
      0 ≤ (sharedRun.heap 0).count ∧ (sharedRun.mapped 0 : ℤ) ≤ (sharedRun.heap 0).count :=
  ⟨sharedRun_reachable, mapped_le_count_of_cacheSteps sharedRun_reachable 0⟩

/-- **Neither map ever holds nil.** In every state that any sequence of calls reaches from
`newCache`, no value of `namespaceMap` or `eventhubMap` is nil. So the skip of nil entries in
`GetNamespaceWithMaxCapacity` ("Precautionary - Shouldn't Happen") never fires, and under every
iteration order the listings `Update` logs are built without dereferencing nil. -/
theorem listings_isSome_of_cacheSteps {c : Cache}
    (h : Relation.ReflTransGen (CacheStep maxEventHubsPerNamespace) newCache c)
    (nsOrder ehOrder : List (Sigma fun _ : String => Option ℕ))
    (hns : nsOrder.Perm c.namespaceMap.entries) (heh : ehOrder.Perm c.eventhubMap.entries) :
    none ∉ c.namespaceMap.values ∧ none ∉ c.eventhubMap.values ∧
      (c.getNamespaceNames nsOrder).isSome ∧ (c.getEventHubNames ehOrder).isSome := by
  have hsafe := cacheSafe_of_cacheSteps h
  have hns_none : none ∉ c.namespaceMap.values := fun hm => by
    obtain ⟨p, hp, -⟩ := hsafe.namespaceMap_allocated none hm; cases hp
  have heh_none : none ∉ c.eventhubMap.values := fun hm => by
    obtain ⟨p, hp, -⟩ := hsafe.eventhubMap_allocated none hm; cases hp
  refine ⟨hns_none, heh_none, ?_, ?_⟩
  · rw [getNamespaceNames, appendNames_eq _ _ _ fun x hx hn =>
      hns_none (hn ▸ List.mem_map_of_mem _ (hns.subset hx))]
    rfl
  · rw [getEventHubNames, appendNames_eq _ _ _ fun x hx hn =>
      heh_none (hn ▸ List.mem_map_of_mem _ (heh.subset hx))]
    rfl

theorem listings_isSome_of_cacheSteps_sharedRun :
    Relation.ReflTransGen (CacheStep 10) newCache sharedRun ∧
      sharedRun.namespaceMap.entries.Perm sharedRun.namespaceMap.entries ∧
      sharedRun.eventhubMap.entries.Perm sharedRun.eventhubMap.entries ∧
      none ∉ sharedRun.namespaceMap.values ∧ none ∉ sharedRun.eventhubMap.values ∧
      (sharedRun.getNamespaceNames sharedRun.namespaceMap.entries).isSome ∧
      (sharedRun.getEventHubNames sharedRun.eventhubMap.entries).isSome :=
  ⟨sharedRun_reachable, .refl _, .refl _,
    listings_isSome_of_cacheSteps sharedRun_reachable _ _ (.refl _) (.refl _)⟩

/-- **Selection is correct in every reachable state.** In every state that any sequence of calls
reaches from `newCache`, under every iteration order, `GetNamespaceWithMaxCapacity` returns
`nil` only when every Namespace is full, and otherwise a Namespace of `namespaceMap` below
capacity whose Count is least among those below capacity. -/
theorem getNamespaceWithMaxCapacity_of_cacheSteps {c : Cache}
    (h : Relation.ReflTransGen (CacheStep maxEventHubsPerNamespace) newCache c)
    (order : List (Sigma fun _ : String => Option ℕ)) (hord : order.Perm c.namespaceMap.entries) :
    MaxCapacitySpec maxEventHubsPerNamespace c.heap c.namespaceMap.values
      (c.getNamespaceWithMaxCapacity maxEventHubsPerNamespace order) :=
  getNamespaceWithMaxCapacity_maxCapacitySpec maxEventHubsPerNamespace c order hord
    fun p _ => (cacheSafe_of_cacheSteps h).count_nonneg p

theorem getNamespaceWithMaxCapacity_of_cacheSteps_sharedRun :
    Relation.ReflTransGen (CacheStep 10) newCache sharedRun ∧
      sharedRun.namespaceMap.entries.Perm sharedRun.namespaceMap.entries ∧
      MaxCapacitySpec 10 sharedRun.heap sharedRun.namespaceMap.values
        (sharedRun.getNamespaceWithMaxCapacity 10 sharedRun.namespaceMap.entries) :=
  ⟨sharedRun_reachable, .refl _,
    getNamespaceWithMaxCapacity_of_cacheSteps sharedRun_reachable _ (.refl _)⟩

/-- **Which Namespace selection returns.** In every state that any sequence of calls reaches from
`newCache`, and for every order in which `range` visits `namespaceMap`,
`GetNamespaceWithMaxCapacity` returns the first Namespace of that order whose Count is least
among the Namespaces below capacity, and nil if there is none: the early break on an empty
Namespace never changes the answer. -/
theorem getNamespaceWithMaxCapacity_eq_argmin_of_cacheSteps {c : Cache}
    (h : Relation.ReflTransGen (CacheStep maxEventHubsPerNamespace) newCache c)
    (order : List (Sigma fun _ : String => Option ℕ)) :
    c.getNamespaceWithMaxCapacity maxEventHubsPerNamespace order =
      (belowCapacity maxEventHubsPerNamespace c.heap (order.map Sigma.snd)).argmin
        fun p => (c.heap p).count :=
  getNamespaceWithMaxCapacity_eq_argmin c order fun p _ => (cacheSafe_of_cacheSteps h).count_nonneg p

theorem getNamespaceWithMaxCapacity_eq_argmin_of_cacheSteps_sharedRun :
    Relation.ReflTransGen (CacheStep 10) newCache sharedRun ∧
      sharedRun.getNamespaceWithMaxCapacity 10 sharedRun.namespaceMap.entries =
        (belowCapacity 10 sharedRun.heap (sharedRun.namespaceMap.entries.map Sigma.snd)).argmin
          fun p => (sharedRun.heap p).count :=
  ⟨sharedRun_reachable, getNamespaceWithMaxCapacity_eq_argmin_of_cacheSteps sharedRun_reachable _⟩

end Safe

/-! ### Capacity along every run -/

section Capacity

variable (maxEventHubsPerNamespace : ℤ)

/-- A call of `CacheStep` in which `Update` gets a snapshot whose listings all fit in one
Namespace. -/
inductive CappedStep : Cache → Cache → Prop
  | update (c : Cache) (env : UpdateEnv)
      (henv : ∀ i hubs, env.hubManagerList i = .ok hubs →
        (hubs.length : ℤ) ≤ maxEventHubsPerNamespace) :
      CappedStep c (c.update env).2
  | addEventHub (c : Cache) (eventhub : String) (ns : Option ℕ)
      (hns : ∀ p, ns = some p → p < c.next) :
      CappedStep c (c.addEventHub maxEventHubsPerNamespace eventhub ns)
  | removeEventHub (c : Cache) (eventhub : String) : CappedStep c (c.removeEventHub eventhub)

/-- Every Count, allocated or not, lies in `[0, maxEventHubsPerNamespace]`. -/
def CountsWithin (c : Cache) : Prop :=
  ∀ p, 0 ≤ (c.heap p).count ∧ (c.heap p).count ≤ maxEventHubsPerNamespace

variable {maxEventHubsPerNamespace}

lemma CappedStep.cacheStep {c c' : Cache} (h : CappedStep maxEventHubsPerNamespace c c') :
    CacheStep maxEventHubsPerNamespace c c' := by
  cases h with
  | update env _ => exact .update _ env
  | addEventHub e ns hns => exact .addEventHub _ e ns hns
  | removeEventHub e => exact .removeEventHub _ e

namespace CountsWithin

variable {c : Cache} (hM : 0 ≤ maxEventHubsPerNamespace)
  {hubManagerList : ℕ → Except String (List String)}

include hM in
lemma addNamespace (h : c.CountsWithin maxEventHubsPerNamespace) (s : KafkaSecret) :
    (c.addNamespace s).CountsWithin maxEventHubsPerNamespace := fun q => by
  rw [addNamespace_heap]
  split_ifs
  exacts [⟨le_rfl, hM⟩, h q]

include hM in
/-- The loop of `Update` keeps the bound: each fresh Namespace counts one listing. -/
lemma updateLoop (h : c.CountsWithin maxEventHubsPerNamespace)
    (henv : ∀ i hubs, hubManagerList i = .ok hubs → (hubs.length : ℤ) ≤ maxEventHubsPerNamespace)
    (ss : List KafkaSecret) :
    (c.updateLoop hubManagerList ss).2.CountsWithin maxEventHubsPerNamespace := by
  induction ss generalizing c hubManagerList with
  | nil => exact h
  | cons s ss ih =>
    rcases updateLoop_cons hubManagerList c s ss with
      ⟨-, he⟩ | ⟨err, -, -, he⟩ | ⟨hubs, -, hl, he⟩ <;> rw [he]
    · exact h
    · exact h.addNamespace hM s
    · refine ih (fun q => ?_) fun i => henv (i + 1)
      have hq := h.addNamespace hM s q
      have hlen := henv 0 hubs hl
      rw [addEventHubs_heap_count]
      split_ifs with hqn
      · subst hqn
        simp only [addNamespace_heap, if_pos, newNamespaceFromKafkaSecret] at hq ⊢
        omega
      · simpa using hq

end CountsWithin

/-- Along every capped run from `newCache`, every Count stays within the capacity. -/
lemma countsWithin_of_cappedSteps (hM : 0 ≤ maxEventHubsPerNamespace) {c : Cache}
    (h : Relation.ReflTransGen (CappedStep maxEventHubsPerNamespace) newCache c) :
    c.CountsWithin maxEventHubsPerNamespace := by
  induction h with
  | refl => exact fun _ => ⟨le_rfl, hM⟩
  | tail _ hstep ih =>
    cases hstep with
    | update env henv =>
      unfold Cache.update
      split
      · exact ih
      · exact ih.updateLoop hM henv _
    | addEventHub e ns _ => exact fun p => call_count_mem_Icc _ (.addEventHub e ns) (ih p)
    | removeEventHub e => exact fun p => call_count_mem_Icc _ (.removeEventHub e) (ih p)

/-- **No Namespace is ever over capacity.** With a non-negative capacity, along every run from
`newCache` of `Update`, `AddEventHub` (with nil or one of the cache's own Namespaces) and
`RemoveEventHub`, in which no listing of an `Update` snapshot exceeds the capacity, no Count
ever exceeds the capacity, and neither does the number of EventHubs `eventhubMap` maps to any
Namespace. -/
theorem count_le_capacity_of_cappedSteps (hM : 0 ≤ maxEventHubsPerNamespace) {c : Cache}
    (h : Relation.ReflTransGen (CappedStep maxEventHubsPerNamespace) newCache c) (p : ℕ) :
    (c.mapped p : ℤ) ≤ (c.heap p).count ∧ (c.heap p).count ≤ maxEventHubsPerNamespace :=
  ⟨(cacheSafe_of_cacheSteps (h.mono fun _ _ => CappedStep.cacheStep)).mapped_le_count p,
    (countsWithin_of_cappedSteps hM h p).2⟩

theorem count_le_capacity_of_cappedSteps_sharedRun :
    (0 : ℤ) ≤ 10 ∧ Relation.ReflTransGen (CappedStep 10) newCache sharedRun ∧
      (sharedRun.mapped 0 : ℤ) ≤ (sharedRun.heap 0).count ∧ (sharedRun.heap 0).count ≤ 10 :=
  have hrun : Relation.ReflTransGen (CappedStep 10) newCache sharedRun :=
    .tail (.tail (.single (.update _ _ fun i hubs h => by cases h; decide))
      (.addEventHub _ _ _ fun p hp => by cases hp; decide)) (.removeEventHub _ _)
  ⟨by decide, hrun, count_le_capacity_of_cappedSteps (by decide) hrun 0⟩

end Capacity

end Cache

end EventHubCache
