import KnativeKafka.EventHubCache.Update

/-!
# Capacity bounds and consistency of the cache

The spec states two invariants of the cache. A Namespace's Count stays within
`[0, MaxEventHubsPerNamespace]` under `AddEventHub` and `RemoveEventHub`: their guards see to
it. And every `eventhubMap` value is a `namespaceMap` value, whose Count is the number of
EventHubs mapped to it. The second does not survive every call: `Update` neither clears the maps
nor notices an EventHub listed twice, and `AddEventHub` counts an EventHub it records again.
It holds along every run whose calls fit the cache they find. An `Update` fits when the listing
of each secret names no EventHub twice, moves none from another Namespace, and names again the
EventHubs of the Namespace it replaces, as the snapshot the cache was built from does. An
`AddEventHub` fits when what it records is new.

## Main definitions

* `EventHubCache.Cache.CacheCall`, `EventHubCache.Cache.run` — runs of `AddEventHub` and
  `RemoveEventHub`.
* `EventHubCache.Cache.Consistent` — the consistency the spec states for the two maps.
* `EventHubCache.Cache.SecretFits`, `LoopFits`, `UpdateFits`, `AddFits` — when a call fits.
* `EventHubCache.Cache.GuardedStep` — the calls that fit.
* `EventHubCache.Cache.Refilling` — a cache in the middle of an iteration of `Update`.

## Main results

* `EventHubCache.Cache.count_mem_Icc_run` — any run of `AddEventHub` and `RemoveEventHub` keeps
  every Count that starts in `[0, MaxEventHubsPerNamespace]` there.
* `EventHubCache.Cache.removeEventHub_addEventHub` — `RemoveEventHub` undoes `AddEventHub` of a
  name the cache does not hold.
* `EventHubCache.Cache.consistent_of_guardedSteps` — every state reached from `newCache` by
  guarded calls is consistent.
* `EventHubCache.Cache.update_shared_eventhub_not_consistent`,
  `update_duplicate_eventhub_not_consistent`, `update_dropped_eventhub_not_consistent`,
  `addEventHub_twice_not_consistent` — each call the guard excludes can break it, the first
  already on `newCache`.
* `EventHubCache.Cache.addEventHub_consistent_iff` — for `AddEventHub` the guard is exact.

## Implementation notes

The guard of `Update` is checked along its loop, against the cache each iteration finds:
a Namespace name listed twice in one snapshot fits when its second listing names again the
EventHubs of the first.
-/

set_option autoImplicit false

namespace EventHubCache

namespace Cache

/-! ### Counts stay within capacity -/

section Capacity

variable (maxEventHubsPerNamespace : ℤ)

/-- A call of `CacheInterface` that changes the cache without `Update`. -/
inductive CacheCall
  | addEventHub (eventhub : String) (ns : Option ℕ)
  | removeEventHub (eventhub : String)

/-- Perform one call. -/
def call (c : Cache) : CacheCall → Cache
  | .addEventHub eventhub ns => c.addEventHub maxEventHubsPerNamespace eventhub ns
  | .removeEventHub eventhub => c.removeEventHub eventhub

/-- Perform a sequence of calls. -/
def run (c : Cache) (calls : List CacheCall) : Cache :=
  calls.foldl (call maxEventHubsPerNamespace) c

variable {maxEventHubsPerNamespace}

/-- One call keeps a Count within `[0, maxEventHubsPerNamespace]`: `AddEventHub` increments only
below capacity, `RemoveEventHub` decrements only above zero. -/
lemma call_count_mem_Icc (c : Cache) (k : CacheCall) {p : ℕ}
    (h : 0 ≤ (c.heap p).count ∧ (c.heap p).count ≤ maxEventHubsPerNamespace) :
    0 ≤ ((c.call maxEventHubsPerNamespace k).heap p).count ∧
      ((c.call maxEventHubsPerNamespace k).heap p).count ≤ maxEventHubsPerNamespace := by
  cases k with
  | addEventHub e ns => rw [call, addEventHub_count]; split_ifs <;> omega
  | removeEventHub e => rw [call, removeEventHub_count]; split_ifs <;> omega

/-- **Counts stay within capacity.** Along any run of `AddEventHub` and `RemoveEventHub`, with
any EventHub names and any Namespace arguments, the Count of every Namespace that starts in
`[0, maxEventHubsPerNamespace]` stays there. -/
theorem count_mem_Icc_run (c : Cache) (calls : List CacheCall) (p : ℕ)
    (h : 0 ≤ (c.heap p).count ∧ (c.heap p).count ≤ maxEventHubsPerNamespace) :
    0 ≤ ((c.run maxEventHubsPerNamespace calls).heap p).count ∧
      ((c.run maxEventHubsPerNamespace calls).heap p).count ≤ maxEventHubsPerNamespace := by
  induction calls generalizing c with
  | nil => exact h
  | cons k calls ih => exact ih _ (call_count_mem_Icc c k h)

/-- With the Namespace `B` at address `0`: `AddEventHub t B` twice, `RemoveEventHub t`, and
`RemoveEventHub u` for an EventHub never added. -/
def boundaryCalls : List CacheCall :=
  [.addEventHub "t" (some 0), .addEventHub "t" (some 0), .removeEventHub "t", .removeEventHub "u"]

theorem count_mem_Icc_run_boundaryCalls :
    (0 ≤ ((newCache.addNamespace ⟨"b", "u", "p", "B"⟩).heap 0).count ∧
      ((newCache.addNamespace ⟨"b", "u", "p", "B"⟩).heap 0).count ≤ 1) ∧
    0 ≤ (((newCache.addNamespace ⟨"b", "u", "p", "B"⟩).run 1 boundaryCalls).heap 0).count ∧
      (((newCache.addNamespace ⟨"b", "u", "p", "B"⟩).run 1 boundaryCalls).heap 0).count ≤ 1 :=
  ⟨by decide, count_mem_Icc_run _ _ 0 (by decide)⟩

/-- `RemoveEventHub` of an EventHub the cache does not hold changes nothing. -/
lemma removeEventHub_of_not_mem (c : Cache) {eventhub : String} (he : eventhub ∉ c.eventhubMap) :
    c.removeEventHub eventhub = c := by
  simp [removeEventHub, getNamespace, AList.lookup_eq_none.2 he, AList.erase_of_not_mem he]

/-- **`RemoveEventHub` undoes `AddEventHub` of a new name.** Adding an EventHub the cache does
not hold and removing it again gives back the cache, whether the Namespace took it, was full, or
was nil, provided a Namespace below capacity has a Count that is not negative. -/
theorem removeEventHub_addEventHub (c : Cache) (eventhub : String) (ns : Option ℕ)
    (he : eventhub ∉ c.eventhubMap)
    (h0 : ∀ p, ns = some p → (c.heap p).count < maxEventHubsPerNamespace → 0 ≤ (c.heap p).count) :
    (c.addEventHub maxEventHubsPerNamespace eventhub ns).removeEventHub eventhub = c := by
  rcases ns with _ | p
  · exact removeEventHub_of_not_mem c he
  · by_cases hlt : (c.heap p).count < maxEventHubsPerNamespace
    · have hpos : 0 < (c.heap p).count + 1 := by have := h0 p rfl hlt; omega
      simp [addEventHub, hlt, removeEventHub, mapEventHub, setCount, getNamespace, hpos,
        AList.erase_insert_of_not_mem he]
    · simp only [addEventHub, hlt, if_false]
      exact removeEventHub_of_not_mem c he

theorem removeEventHub_addEventHub_namespaceB :
    "t" ∉ (newCache.addNamespace ⟨"b", "u", "p", "B"⟩).eventhubMap ∧
      (∀ p, some 0 = some p → ((newCache.addNamespace ⟨"b", "u", "p", "B"⟩).heap p).count < 1 →
        0 ≤ ((newCache.addNamespace ⟨"b", "u", "p", "B"⟩).heap p).count) ∧
      ((newCache.addNamespace ⟨"b", "u", "p", "B"⟩).addEventHub 1 "t" (some 0)).removeEventHub
        "t" =
        newCache.addNamespace ⟨"b", "u", "p", "B"⟩ :=
  have he : "t" ∉ (newCache.addNamespace ⟨"b", "u", "p", "B"⟩).eventhubMap := by decide
  have h0 : ∀ p, some 0 = some p →
      ((newCache.addNamespace ⟨"b", "u", "p", "B"⟩).heap p).count < 1 →
      0 ≤ ((newCache.addNamespace ⟨"b", "u", "p", "B"⟩).heap p).count := by
    rintro p ⟨⟩ -; decide
  ⟨he, h0, removeEventHub_addEventHub _ _ _ he h0⟩

end Capacity

/-! ### Consistency of the two maps -/

section Consistency

variable (maxEventHubsPerNamespace : ℤ)

/-- The consistency the spec states for the cache: every value of `eventhubMap` is a value of
`namespaceMap`, and every Namespace of `namespaceMap` has as Count the number of `eventhubMap`
keys mapped to it. -/
def Consistent (c : Cache) : Prop :=
  (∀ v ∈ c.eventhubMap.values, v ∈ c.namespaceMap.values) ∧
    ∀ p, some p ∈ c.namespaceMap.values →
      (c.heap p).count = c.eventhubMap.values.count (some p)

/-- The Namespace that the name of `s` holds in `namespaceMap` (nil for a name not there): the one
the iteration of `Update` for `s` replaces. -/
def replaced (c : Cache) (s : KafkaSecret) : Option ℕ :=
  (c.namespaceMap.lookup s.namespaceName).getD none

/-- The listing `hubs` fits the iteration of `Update` for `s` on `c`: it names no EventHub twice,
an EventHub it names that `eventhubMap` holds is mapped to the Namespace the iteration replaces,
and it names again every EventHub mapped to that Namespace. -/
def SecretFits (c : Cache) (s : KafkaSecret) (hubs : List String) : Prop :=
  hubs.Nodup ∧ (∀ t ∈ hubs, t ∈ c.eventhubMap → c.eventhubMap.lookup t = some (c.replaced s)) ∧
    ∀ t ∈ c.eventhubMap.keys, c.eventhubMap.lookup t = some (c.replaced s) → t ∈ hubs

instance (c : Cache) (s : KafkaSecret) (hubs : List String) : Decidable (c.SecretFits s hubs) :=
  inferInstanceAs (Decidable (_ ∧ _ ∧ _))

/-- The loop of `Update` keeps the consistency: every valid secret it reaches gets a listing that
fits the cache the loop has built so far, the empty one when `HubManager.List` fails (the loop
then stops with the secret's Namespace entered). -/
def LoopFits : (ℕ → Except String (List String)) → Cache → List KafkaSecret → Prop
  | _, _, [] => True
  | hubManagerList, c, kafkaSecret :: rest =>
    validateKafkaSecret (some kafkaSecret) = true →
      match hubManagerList 0 with
      | .error _ => c.SecretFits kafkaSecret []
      | .ok hubs => c.SecretFits kafkaSecret hubs ∧
          LoopFits (fun i => hubManagerList (i + 1))
            ((c.addNamespace kafkaSecret).addEventHubs c.next hubs) rest

/-- `LoopFits` is decided along the loop. -/
def decLoopFits : (hubManagerList : ℕ → Except String (List String)) → (c : Cache) →
    (ss : List KafkaSecret) → Decidable (LoopFits hubManagerList c ss)
  | _, _, [] => isTrue trivial
  | hubManagerList, c, kafkaSecret :: rest =>
    match h : hubManagerList 0 with
    | .error _ =>
      decidable_of_iff (validateKafkaSecret (some kafkaSecret) = true → c.SecretFits kafkaSecret [])
        (by rw [LoopFits, h])
    | .ok hubs =>
      haveI := decLoopFits (fun i => hubManagerList (i + 1))
        ((c.addNamespace kafkaSecret).addEventHubs c.next hubs) rest
      decidable_of_iff (validateKafkaSecret (some kafkaSecret) = true →
          c.SecretFits kafkaSecret hubs ∧ LoopFits (fun i => hubManagerList (i + 1))
            ((c.addNamespace kafkaSecret).addEventHubs c.next hubs) rest)
        (by rw [LoopFits, h])

instance (hubManagerList : ℕ → Except String (List String)) (c : Cache) (ss : List KafkaSecret) :
    Decidable (LoopFits hubManagerList c ss) :=
  decLoopFits hubManagerList c ss

/-- An `Update` keeps the consistency: its loop does, and a failed `GetKafkaSecrets` changes
nothing. -/
def UpdateFits (c : Cache) (env : UpdateEnv) : Prop :=
  match env.getKafkaSecrets with
  | .error _ => True
  | .ok kafkaSecrets => LoopFits env.hubManagerList c kafkaSecrets

instance (c : Cache) (env : UpdateEnv) : Decidable (c.UpdateFits env) :=
  match h : env.getKafkaSecrets with
  | .error _ => isTrue (by rw [UpdateFits, h]; trivial)
  | .ok kafkaSecrets => decidable_of_iff (LoopFits env.hubManagerList c kafkaSecrets)
      (by rw [UpdateFits, h])

/-- An `AddEventHub` keeps the consistency: when it records the EventHub (a non-nil Namespace
below capacity), that Namespace is one of `namespaceMap` and the EventHub is not yet in
`eventhubMap`. -/
def AddFits (c : Cache) (eventhub : String) : Option ℕ → Prop
  | some p => (c.heap p).count < maxEventHubsPerNamespace →
      some p ∈ c.namespaceMap.values ∧ eventhub ∉ c.eventhubMap
  | none => True

instance (c : Cache) (eventhub : String) (ns : Option ℕ) :
    Decidable (c.AddFits maxEventHubsPerNamespace eventhub ns) := by
  cases ns <;> unfold AddFits <;> infer_instance

/-- The calls under which the cache stays consistent: an `Update` whose listings fit, an
`AddEventHub` that fits, and any `RemoveEventHub`. -/
inductive GuardedStep : Cache → Cache → Prop
  | update (c : Cache) (env : UpdateEnv) (h : c.UpdateFits env) :
      GuardedStep c (c.update env).2
  | addEventHub (c : Cache) (eventhub : String) (ns : Option ℕ)
      (h : c.AddFits maxEventHubsPerNamespace eventhub ns) :
      GuardedStep c (c.addEventHub maxEventHubsPerNamespace eventhub ns)
  | removeEventHub (c : Cache) (eventhub : String) : GuardedStep c (c.removeEventHub eventhub)

variable {maxEventHubsPerNamespace}

/-- The invariant behind `Consistent`: it holds, and `namespaceMap` holds distinct allocated
Namespaces, so the Namespace `Update` allocates is in neither map and the one it replaces leaves
`namespaceMap`. -/
structure CacheInv (c : Cache) : Prop where
  consistent : c.Consistent
  allocated : ∀ v ∈ c.namespaceMap.values, ∃ p, v = some p ∧ p < c.next
  nodup : c.namespaceMap.values.Nodup

lemma newCache_cacheInv : newCache.CacheInv :=
  ⟨⟨by simp, by simp⟩, by simp, by simp⟩

/-- A cache in the middle of an iteration of `Update`: the Namespace `o` has left `namespaceMap`,
and the EventHubs still mapped to it are exactly those of `rest`, the part of the listing not
yet recorded. Every Namespace of `namespaceMap` already counts its EventHubs. -/
structure Refilling (d : Cache) (o : Option ℕ) (rest : List String) : Prop where
  allocated : ∀ v ∈ d.namespaceMap.values, ∃ p, v = some p ∧ p < d.next
  nodup : d.namespaceMap.values.Nodup
  count_eq : ∀ p, some p ∈ d.namespaceMap.values →
    (d.heap p).count = d.eventhubMap.values.count (some p)
  mem_values : ∀ v ∈ d.eventhubMap.values, v ∈ d.namespaceMap.values ∨ v = o
  dead : o ∉ d.namespaceMap.values
  rest_nodup : rest.Nodup
  rest_mapped : ∀ t ∈ rest, t ∈ d.eventhubMap → d.eventhubMap.lookup t = some o
  covered : ∀ t, d.eventhubMap.lookup t = some o → t ∈ rest

/-- `mapEventHub e p` adds the value `some p` and drops the value `e` had, if any. -/
lemma count_values_mapEventHub (c : Cache) (e : String) (p q : ℕ) :
    ((c.mapEventHub e p).eventhubMap.values.count (some q) : ℤ) +
        (if c.eventhubMap.lookup e = some (some q) then 1 else 0) =
      c.eventhubMap.values.count (some q) + if q = p then 1 else 0 := by
  have hc := AList.count_values_erase c.eventhubMap e (some q)
  rw [mapEventHub_eventhubMap, AList.values_insert, List.count_cons]
  split_ifs at hc ⊢ <;> simp_all
  omega

namespace Refilling

variable {d : Cache} {o : Option ℕ}

/-- Recording the next EventHub of the listing in a Namespace of `namespaceMap`. -/
lemma mapEventHub {t : String} {rest : List String} (h : Refilling d o (t :: rest)) {p : ℕ}
    (hp : some p ∈ d.namespaceMap.values) : Refilling (d.mapEventHub t p) o rest := by
  have hvals : (d.mapEventHub t p).eventhubMap.values = some p :: (d.eventhubMap.erase t).values :=
    AList.values_insert _ _ _
  obtain ⟨ht, hnd⟩ := List.nodup_cons.1 h.rest_nodup
  -- `t` is new or mapped to `o`, so no Namespace of `namespaceMap` loses it
  have hne : ∀ q, some q ∈ d.namespaceMap.values → d.eventhubMap.lookup t ≠ some (some q) := by
    intro q hq hl
    have ho := h.rest_mapped t (List.mem_cons_self _ _) (AList.lookup_isSome.1 (by simp [hl]))
    rw [hl, Option.some_inj] at ho
    exact h.dead (ho ▸ hq)
  refine ⟨h.allocated, h.nodup, fun q hq => ?_, fun v hv => ?_, h.dead, hnd,
    fun t' ht' hm => ?_, fun t' hl => ?_⟩
  · have hm := count_values_mapEventHub d t p q
    rw [if_neg (hne q hq)] at hm
    rw [mapEventHub_count, h.count_eq q hq]
    omega
  · rw [hvals] at hv
    rcases List.mem_cons.1 hv with rfl | hv
    exacts [.inl hp, h.mem_values v (AList.values_erase_subset _ _ hv)]
  · have htt : t' ≠ t := fun h' => ht (h' ▸ ht')
    rw [mapEventHub_eventhubMap, AList.lookup_insert_ne htt]
    rw [mapEventHub_eventhubMap, AList.mem_insert] at hm
    exact h.rest_mapped t' (List.mem_cons_of_mem _ ht') (hm.resolve_left htt)
  · by_cases htt : t' = t
    · subst htt
      rw [mapEventHub_eventhubMap, AList.lookup_insert, Option.some_inj] at hl
      exact absurd (hl ▸ hp) h.dead
    · rw [mapEventHub_eventhubMap, AList.lookup_insert_ne htt] at hl
      exact (List.mem_cons.1 (h.covered t' hl)).resolve_left htt

/-- Recording the rest of the listing. -/
lemma addEventHubs {hubs : List String} (h : Refilling d o hubs) {p : ℕ}
    (hp : some p ∈ d.namespaceMap.values) : Refilling (d.addEventHubs p hubs) o [] := by
  induction hubs generalizing d with
  | nil => exact h
  | cons t hubs ih => exact ih (h.mapEventHub hp) hp

/-- Once the listing is recorded, no EventHub is mapped to `o` any more. -/
lemma cacheInv (h : Refilling d o []) : d.CacheInv := by
  refine ⟨⟨fun v hv => (h.mem_values v hv).resolve_right ?_, h.count_eq⟩, h.allocated, h.nodup⟩
  rintro rfl
  obtain ⟨t, ht⟩ := AList.mem_values.1 hv
  exact List.not_mem_nil t (h.covered t ht)

end Refilling

/-- `addNamespace` enters the fresh Namespace first, in place of the one the name held. -/
lemma addNamespace_values (c : Cache) (s : KafkaSecret) :
    (c.addNamespace s).namespaceMap.values =
      some c.next :: (c.namespaceMap.erase s.namespaceName).values := by
  rw [addNamespace_namespaceMap, AList.values_insert]

namespace CacheInv

variable {c : Cache}

lemma none_not_mem (h : c.CacheInv) : none ∉ c.namespaceMap.values := fun hn => by
  obtain ⟨p, hp, -⟩ := h.allocated none hn
  cases hp

lemma next_not_mem (h : c.CacheInv) : some c.next ∉ c.namespaceMap.values := fun hn => by
  obtain ⟨p, hp, hlt⟩ := h.allocated _ hn
  cases hp
  exact lt_irrefl _ hlt

/-- A consistent cache, about to record EventHubs it does not hold, is refilling nothing. -/
lemma refilling_of_not_mem (h : c.CacheInv) {hubs : List String} (hnd : hubs.Nodup)
    (hnew : ∀ t ∈ hubs, t ∉ c.eventhubMap) : Refilling c none hubs :=
  ⟨h.allocated, h.nodup, h.consistent.2, fun v hv => .inl (h.consistent.1 v hv), h.none_not_mem,
    hnd, fun t ht hm => absurd hm (hnew t ht),
    fun _ ht => absurd (h.consistent.1 _ (AList.mem_values_of_lookup ht)) h.none_not_mem⟩

/-- The start of the iteration of `Update` for `s`: `addNamespace` takes the Namespace the name
held out of `namespaceMap`, and a listing that fits names again every EventHub mapped to it. -/
lemma refilling (h : c.CacheInv) {s : KafkaSecret} {hubs : List String}
    (hf : c.SecretFits s hubs) : Refilling (c.addNamespace s) (c.replaced s) hubs := by
  have hsub := AList.values_erase_subset c.namespaceMap s.namespaceName
  refine ⟨fun v hv => ?_, ?_, fun p hp => ?_, fun v hv => ?_, ?_, hf.1, hf.2.1, fun t ht => ?_⟩
  · rw [addNamespace_values] at hv
    rcases List.mem_cons.1 hv with rfl | hv
    · exact ⟨c.next, rfl, Nat.lt_succ_self _⟩
    · obtain ⟨p, rfl, hp⟩ := h.allocated _ (hsub hv)
      exact ⟨p, rfl, Nat.lt_succ_of_lt hp⟩
  · rw [addNamespace_values]
    exact List.nodup_cons.2 ⟨fun hn => h.next_not_mem (hsub hn), AList.nodup_values_erase h.nodup _⟩
  · rw [addNamespace_values] at hp
    rw [addNamespace_heap, addNamespace_eventhubMap]
    split_ifs with hpn
    · -- the fresh Namespace counts nothing, and nothing maps to it
      subst hpn
      rw [List.count_eq_zero.2 fun hn => h.next_not_mem (h.consistent.1 _ hn)]
      rfl
    · exact h.consistent.2 p (hsub ((List.mem_cons.1 hp).resolve_left (by simpa using hpn)))
  · by_cases hl : c.namespaceMap.lookup s.namespaceName = some v
    · exact .inr (by rw [replaced, hl]; rfl)
    · rw [addNamespace_values]
      exact .inl (List.mem_cons_of_mem _ (AList.mem_values_erase (h.consistent.1 v hv) hl))
  · -- the replaced Namespace leaves `namespaceMap`
    rw [addNamespace_values, List.mem_cons, not_or]
    cases hl : c.namespaceMap.lookup s.namespaceName with
    | none =>
      simp only [replaced, hl, Option.getD_none]
      exact ⟨Option.noConfusion, fun hn => h.none_not_mem (hsub hn)⟩
    | some v =>
      simp only [replaced, hl, Option.getD_some]
      exact ⟨fun he => h.next_not_mem (he ▸ AList.mem_values_of_lookup hl),
        AList.not_mem_values_erase h.nodup hl⟩
  · rw [addNamespace_eventhubMap] at ht
    have hm : t ∈ c.eventhubMap := AList.lookup_isSome.1 (by rw [ht]; rfl)
    exact hf.2.2 t (AList.mem_keys.1 hm) ht

/-- One iteration of `Update` whose listing fits. -/
lemma addNamespace_addEventHubs (h : c.CacheInv) {s : KafkaSecret} {hubs : List String}
    (hf : c.SecretFits s hubs) : ((c.addNamespace s).addEventHubs c.next hubs).CacheInv :=
  ((h.refilling hf).addEventHubs (addNamespace_values c s ▸ List.mem_cons_self _ _)).cacheInv

variable {hubManagerList : ℕ → Except String (List String)}

/-- The loop of `Update` keeps the invariant when its listings fit. -/
lemma updateLoop (h : c.CacheInv) (ss : List KafkaSecret)
    (hfit : LoopFits hubManagerList c ss) : (c.updateLoop hubManagerList ss).2.CacheInv := by
  induction ss generalizing c hubManagerList with
  | nil => exact h
  | cons s ss ih =>
    rcases updateLoop_cons hubManagerList c s ss with
      ⟨-, he⟩ | ⟨err, hv, hl, he⟩ | ⟨hubs, hv, hl, he⟩ <;> rw [he]
    · exact h
    · rw [LoopFits, hl] at hfit
      exact (h.refilling (hfit hv)).cacheInv
    · rw [LoopFits, hl] at hfit
      obtain ⟨hf, hrest⟩ := hfit hv
      exact ih (h.addNamespace_addEventHubs hf) hrest

lemma update (h : c.CacheInv) {env : UpdateEnv} (hf : c.UpdateFits env) :
    (c.update env).2.CacheInv := by
  unfold UpdateFits at hf
  unfold Cache.update
  split
  · exact h
  · next ss hss =>
    rw [hss] at hf
    exact h.updateLoop ss hf

lemma addEventHub (h : c.CacheInv) {e : String} {ns : Option ℕ}
    (hf : c.AddFits maxEventHubsPerNamespace e ns) :
    (c.addEventHub maxEventHubsPerNamespace e ns).CacheInv := by
  cases ns with
  | none => exact h
  | some p =>
    dsimp only [Cache.addEventHub]
    split_ifs with hlt
    · obtain ⟨hp, he⟩ := hf hlt
      exact ((h.refilling_of_not_mem (List.nodup_singleton e) (by simpa using he)).mapEventHub
        hp).cacheInv
    · exact h

/-- `RemoveEventHub` keeps the invariant for any name: a mapped EventHub's Namespace counts it, so
its Count is positive and is decremented as the entry goes. -/
lemma removeEventHub (h : c.CacheInv) (e : String) : (c.removeEventHub e).CacheInv := by
  refine ⟨⟨fun v hv => ?_, fun q hq => ?_⟩, by simpa using h.allocated, by simpa using h.nodup⟩
  · rw [removeEventHub_eventhubMap] at hv
    rw [removeEventHub_namespaceMap]
    exact h.consistent.1 v (AList.values_erase_subset _ _ hv)
  · rw [removeEventHub_namespaceMap] at hq
    have hc := AList.count_values_erase c.eventhubMap e (some q)
    have hq' := h.consistent.2 q hq
    rw [removeEventHub_count, removeEventHub_eventhubMap]
    simp only [getNamespace_eq_some]
    by_cases hg : c.eventhubMap.lookup e = some (some q)
    · have hpos : 0 < (c.heap q).count := by
        rw [hq']; exact_mod_cast List.count_pos_iff.2 (AList.mem_values_of_lookup hg)
      rw [if_pos hg] at hc
      rw [if_pos ⟨hg, hpos⟩]
      omega
    · rw [if_neg hg] at hc
      rw [if_neg fun h' => hg h'.1]
      omega

end CacheInv

/-- Every state reached from `newCache` by guarded calls satisfies `CacheInv`. -/
lemma cacheInv_of_guardedSteps {c : Cache}
    (h : Relation.ReflTransGen (GuardedStep maxEventHubsPerNamespace) newCache c) : c.CacheInv := by
  induction h with
  | refl => exact newCache_cacheInv
  | tail _ hstep ih =>
    cases hstep with
    | update env hf => exact ih.update hf
    | addEventHub e ns hf => exact ih.addEventHub hf
    | removeEventHub e => exact ih.removeEventHub e

/-- A snapshot whose one listing names `t` twice. -/
def duplicateEventHubEnv : UpdateEnv where
  getKafkaSecrets := .ok [⟨"b", "u", "p", "n1"⟩]
  hubManagerList _ := .ok ["t", "t"]

/-- An EventHub listed twice is counted twice. -/
theorem update_duplicate_eventhub_not_consistent :
    ¬ newCache.UpdateFits duplicateEventHubEnv ∧
      ¬ (newCache.update duplicateEventHubEnv).2.Consistent := by
  refine ⟨by decide, ?_⟩
  rintro ⟨-, hcount⟩
  have := hcount 0 (by decide)
  revert this
  decide

/-- Two Namespaces that both hold an EventHub `t`: EventHub names are unique only within a
Namespace. -/
def sharedEventHubEnv : UpdateEnv where
  getKafkaSecrets := .ok [⟨"b", "u", "p", "n1"⟩, ⟨"b", "u", "p", "n2"⟩]
  hubManagerList _ := .ok ["t"]

/-- The snapshot of `oldEnv` again, in which `old` no longer lists `t0`. -/
def droppedEventHubEnv : UpdateEnv where
  getKafkaSecrets := .ok [⟨"b", "u", "p", "old"⟩]
  hubManagerList _ := .ok ["t1"]

/-- A name listed again replaces its Namespace, and an EventHub its new listing leaves out stays
mapped to the replaced one, which `namespaceMap` no longer holds. -/
theorem update_dropped_eventhub_not_consistent :
    Relation.ReflTransGen (GuardedStep 10) newCache (newCache.update oldEnv).2 ∧
      ¬ (newCache.update oldEnv).2.UpdateFits droppedEventHubEnv ∧
      ¬ ((newCache.update oldEnv).2.update droppedEventHubEnv).2.Consistent := by
  refine ⟨.single (.update _ _ (by decide)), by decide, ?_⟩
  rintro ⟨hmem, -⟩
  have := hmem (some 0) (by decide)
  revert this
  decide

/-- `t1` recorded in the Namespace `old`, which holds `t0`. -/
def addedCache : Cache := (newCache.update oldEnv).2.addEventHub 10 "t1" (some 0)

/-- Recording an EventHub that `eventhubMap` already holds counts it twice. -/
theorem addEventHub_twice_not_consistent :
    Relation.ReflTransGen (GuardedStep 10) newCache addedCache ∧
      ¬ addedCache.AddFits 10 "t1" (some 0) ∧
      ¬ (addedCache.addEventHub 10 "t1" (some 0)).Consistent := by
  refine ⟨.tail (.single (.update _ _ (by decide))) (.addEventHub _ _ _ (by decide)), by decide, ?_⟩
  rintro ⟨-, hcount⟩
  have := hcount 0 (by decide)
  revert this
  decide

/-- **The guard of `AddEventHub` is exact.** From every state guarded calls reach, `AddEventHub`
leaves the cache consistent exactly when it fits: when it records the EventHub, the Namespace
must be one of `namespaceMap` and the EventHub must not be in `eventhubMap` yet. -/
theorem addEventHub_consistent_iff {c : Cache}
    (h : Relation.ReflTransGen (GuardedStep maxEventHubsPerNamespace) newCache c) (e : String)
    (ns : Option ℕ) :
    (c.addEventHub maxEventHubsPerNamespace e ns).Consistent ↔
      c.AddFits maxEventHubsPerNamespace e ns := by
  have hi := cacheInv_of_guardedSteps h
  refine ⟨fun hc => ?_, fun hf => (hi.addEventHub hf).consistent⟩
  cases ns with
  | none => trivial
  | some p =>
    intro hlt
    rw [Cache.addEventHub, if_pos hlt] at hc
    obtain ⟨hmem, hcount⟩ := hc
    refine ⟨hmem _ (AList.values_insert c.eventhubMap e (some p) ▸ List.mem_cons_self _ _),
      fun he => ?_⟩
    -- `e` is mapped to a Namespace `q` of `namespaceMap`, whose Count then counts it twice
    obtain ⟨v, hv⟩ := Option.isSome_iff_exists.1 (AList.lookup_isSome.2 he)
    have hq := hi.consistent.1 v (AList.mem_values_of_lookup hv)
    obtain ⟨q, rfl, -⟩ := hi.allocated v hq
    have hm := count_values_mapEventHub c e p q
    have hcq := hcount q hq
    rw [if_pos hv] at hm
    rw [mapEventHub_count, hi.consistent.2 q hq] at hcq
    omega

theorem addEventHub_consistent_iff_addedCache :
    Relation.ReflTransGen (GuardedStep 10) newCache addedCache ∧
      ((addedCache.addEventHub 10 "t1" (some 0)).Consistent ↔ addedCache.AddFits 10 "t1" (some 0)) :=
  have hrun : Relation.ReflTransGen (GuardedStep 10) newCache addedCache :=
    .tail (.single (.update _ _ (by decide))) (.addEventHub _ _ _ (by decide))
  ⟨hrun, addEventHub_consistent_iff hrun "t1" (some 0)⟩

end Consistency

end Cache

end EventHubCache
