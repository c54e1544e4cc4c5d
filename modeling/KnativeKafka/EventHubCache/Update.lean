import KnativeKafka.EventHubCache.Basic

/-!
# `Update`: what it writes and what it keeps

`Cache.Update` walks the Kafka secrets, and for each valid one allocates a fresh `Namespace`,
enters it in `namespaceMap`, lists its EventHubs and enters each in `eventhubMap`, counting
them. It writes both maps in place and never clears them.

## Main definitions

* `EventHubCache.Cache.Overlay c₀ d c` — `c` is the prior cache `c₀` with the entries of `d`
  written over it, where `d` is a cache grown from `newCache` whose `Namespace`s sit at
  `c₀.next` and above in `c`.

## Main results

* `EventHubCache.Cache.update_overlay` — whatever its outcome, `Update` on any cache `c` is
  `Update` on `newCache` overlaid on `c`: prior entries it does not overwrite stay, and prior
  `Namespace`s keep their `Count`.
* `EventHubCache.Cache.update_ok_spec` — after a successful `Update`, the keys of each map are
  the prior keys plus those of the snapshot, and an EventHub is in the `Namespace` of the last
  secret that lists it.
* `EventHubCache.Cache.update_error_spec` — a failed `Update` leaves the cache as the secrets
  before the failing one left it (plus the failing secret's `Namespace` when its listing
  failed); prior `Namespace`s keep their `Count`.
* `EventHubCache.Cache.update_fst_eq_none_iff` — `Update` succeeds exactly when the snapshot
  holds only valid secrets whose listings all succeed, whatever the cache holds.
* `EventHubCache.Cache.update_ok_fresh` — a successful `Update` allocates one `Namespace` per
  secret, whose `Count` is the length of the secret's listing.
-/

set_option autoImplicit false

namespace EventHubCache

namespace Cache

variable {hubManagerList : ℕ → Except String (List String)}

/-! ### Lookups after the loop -/

section Lookups

variable (c : Cache) (p : ℕ) (t k : String)

lemma addEventHubs_lookup (hubs : List String) :
    (c.addEventHubs p hubs).eventhubMap.lookup t =
      if t ∈ hubs then some (some p) else c.eventhubMap.lookup t := by
  induction hubs generalizing c with
  | nil => simp [addEventHubs]
  | cons e hubs ih =>
    rw [addEventHubs, ih]
    by_cases hte : t = e
    · subst hte; simp [AList.lookup_insert]
    · simp [hte, AList.lookup_insert_ne hte]

lemma mem_addEventHubs (hubs : List String) :
    t ∈ (c.addEventHubs p hubs).eventhubMap ↔ t ∈ hubs ∨ t ∈ c.eventhubMap := by
  rw [← AList.lookup_isSome, ← AList.lookup_isSome, addEventHubs_lookup]
  split_ifs with h <;> simp [h]

/-- A successful prefix of the secrets can be run first; the rest of the loop gets the answers
from the prefix's length on. -/
lemma updateLoop_append (pre rest : List KafkaSecret)
    (h : (c.updateLoop hubManagerList pre).1 = none) :
    c.updateLoop hubManagerList (pre ++ rest) =
      (c.updateLoop hubManagerList pre).2.updateLoop
        (fun i => hubManagerList (i + pre.length)) rest := by
  induction pre generalizing c hubManagerList with
  | nil => rfl
  | cons s pre ih =>
    rcases updateLoop_cons hubManagerList c s pre with
      ⟨-, he⟩ | ⟨err, -, -, he⟩ | ⟨hubs, hv, hl, he⟩
    · simp [he] at h
    · simp [he] at h
    · rw [he] at h ⊢
      rw [List.cons_append, updateLoop_cons_of_ok _ _ _ _ hv hl]
      exact ih _ h

/-- A name no secret of the loop carries keeps its `namespaceMap` entry. -/
lemma updateLoop_namespaceMap_lookup (ss : List KafkaSecret)
    (hk : ∀ s ∈ ss, s.namespaceName ≠ k) :
    (c.updateLoop hubManagerList ss).2.namespaceMap.lookup k = c.namespaceMap.lookup k := by
  induction ss generalizing c hubManagerList with
  | nil => rfl
  | cons s ss ih =>
    have hne : k ≠ s.namespaceName := (hk s (List.mem_cons_self _ _)).symm
    rcases updateLoop_cons hubManagerList c s ss with
      ⟨-, he⟩ | ⟨err, -, -, he⟩ | ⟨hubs, -, -, he⟩
    · rw [he]
    · simp [he, AList.lookup_insert_ne hne]
    · rw [he, ih _ fun s' hs' => hk s' (List.mem_cons_of_mem _ hs')]
      simp [AList.lookup_insert_ne hne]

/-- An EventHub no listing of the loop names keeps its `eventhubMap` entry. -/
lemma updateLoop_eventhubMap_lookup (ss : List KafkaSecret)
    (ht : ∀ i < ss.length, ∀ hubs, hubManagerList i = .ok hubs → t ∉ hubs) :
    (c.updateLoop hubManagerList ss).2.eventhubMap.lookup t = c.eventhubMap.lookup t := by
  induction ss generalizing c hubManagerList with
  | nil => rfl
  | cons s ss ih =>
    rcases updateLoop_cons hubManagerList c s ss with
      ⟨-, he⟩ | ⟨err, -, -, he⟩ | ⟨hubs, -, hl, he⟩
    · rw [he]
    · rw [he]; rfl
    · rw [he, ih _ fun i hi => ht (i + 1) (Nat.succ_lt_succ hi), addEventHubs_lookup,
        if_neg (ht 0 (Nat.succ_pos _) hubs hl), addNamespace_eventhubMap]

/-- The keys of `namespaceMap` after a successful loop: the prior ones and the secrets' names. -/
lemma mem_updateLoop_namespaceMap (ss : List KafkaSecret)
    (h : (c.updateLoop hubManagerList ss).1 = none) :
    k ∈ (c.updateLoop hubManagerList ss).2.namespaceMap ↔
      k ∈ c.namespaceMap ∨ ∃ s ∈ ss, s.namespaceName = k := by
  induction ss generalizing c hubManagerList with
  | nil => simp [updateLoop]
  | cons s ss ih =>
    rcases updateLoop_cons hubManagerList c s ss with
      ⟨-, he⟩ | ⟨err, -, -, he⟩ | ⟨hubs, -, -, he⟩
    · simp [he] at h
    · simp [he] at h
    · rw [he] at h ⊢
      rw [ih _ h, addEventHubs_namespaceMap, addNamespace_namespaceMap, AList.mem_insert]
      simp only [List.mem_cons, exists_eq_or_imp, @eq_comm _ k, or_assoc, or_left_comm]

/-- The keys of `eventhubMap` after a successful loop: the prior ones and the listed ones. -/
lemma mem_updateLoop_eventhubMap (ss : List KafkaSecret)
    (h : (c.updateLoop hubManagerList ss).1 = none) :
    t ∈ (c.updateLoop hubManagerList ss).2.eventhubMap ↔
      t ∈ c.eventhubMap ∨
        ∃ i < ss.length, ∃ hubs, hubManagerList i = .ok hubs ∧ t ∈ hubs := by
  induction ss generalizing c hubManagerList with
  | nil => simp [updateLoop]
  | cons s ss ih =>
    rcases updateLoop_cons hubManagerList c s ss with
      ⟨-, he⟩ | ⟨err, -, -, he⟩ | ⟨hubs, -, hl, he⟩
    · simp [he] at h
    · simp [he] at h
    · rw [he] at h ⊢
      rw [ih _ h, mem_addEventHubs, addNamespace_eventhubMap, List.length_cons,
        Nat.exists_lt_succ_left]
      simp only [hl, Except.ok.injEq, exists_eq_left', or_assoc, or_left_comm]

/-- A prefix of a successful loop succeeds. -/
lemma updateLoop_fst_of_append (pre rest : List KafkaSecret)
    (h : (c.updateLoop hubManagerList (pre ++ rest)).1 = none) :
    (c.updateLoop hubManagerList pre).1 = none := by
  induction pre generalizing c hubManagerList with
  | nil => rfl
  | cons s pre ih =>
    rcases updateLoop_cons hubManagerList c s (pre ++ rest) with
      ⟨-, he⟩ | ⟨err, -, -, he⟩ | ⟨hubs, hv, hl, he⟩
    · simp [he] at h
    · simp [he] at h
    · rw [List.cons_append, he] at h
      rw [updateLoop_cons_of_ok _ _ _ _ hv hl]
      exact ih _ h

/-- **The last writer wins.** After a successful loop, an EventHub that the listing of the secret
`s` names, and that no later listing names, is in the `Namespace` `namespaceMap` holds for the
name of `s`, provided no later secret carries that name. -/
lemma getNamespace_updateLoop_of_last (pre post : List KafkaSecret) (s : KafkaSecret)
    (hubs : List String) (h : (c.updateLoop hubManagerList (pre ++ s :: post)).1 = none)
    (hl : hubManagerList pre.length = .ok hubs) (ht : t ∈ hubs)
    (hname : ∀ s' ∈ post, s'.namespaceName ≠ s.namespaceName)
    (hlater : ∀ j < post.length, ∀ hubs', hubManagerList (j + 1 + pre.length) = .ok hubs' →
      t ∉ hubs') :
    (c.updateLoop hubManagerList (pre ++ s :: post)).2.getNamespace t =
      ((c.updateLoop hubManagerList (pre ++ s :: post)).2.namespaceMap.lookup
        s.namespaceName).getD none := by
  have hpre := updateLoop_fst_of_append c pre _ h
  rw [updateLoop_append c pre _ hpre] at h ⊢
  set c₁ := (c.updateLoop hubManagerList pre).2
  rcases updateLoop_cons (fun i => hubManagerList (i + pre.length)) c₁ s post with
    ⟨-, he⟩ | ⟨err, -, -, he⟩ | ⟨hubs', -, hl', he⟩
  · simp [he] at h
  · simp [he] at h
  · obtain rfl : hubs' = hubs := by simpa [hl] using hl'.symm
    rw [he, getNamespace, updateLoop_eventhubMap_lookup _ _ _ hlater,
      updateLoop_namespaceMap_lookup _ _ _ hname]
    simp [addEventHubs_lookup, ht, AList.lookup_insert]

end Lookups

/-! ### The overlay simulation -/

/-- A lookup in an overlay: the rebased entry of the fresh map if it has the key, else the
prior entry. -/
def rebase (base : ℕ) (fresh prior : Option (Option ℕ)) : Option (Option ℕ) :=
  match fresh with
  | some v => some (v.map (base + ·))
  | none => prior

@[simp] lemma rebase_some (base : ℕ) (v : Option ℕ) (prior : Option (Option ℕ)) :
    rebase base (some v) prior = some (v.map (base + ·)) := rfl

@[simp] lemma rebase_none (base : ℕ) (prior : Option (Option ℕ)) :
    rebase base none prior = prior := rfl

/-- `c` is the prior cache `c₀` with the entries of `d` written over it, where `d` is a cache
grown from `newCache` whose `Namespace` at `i` sits at `c₀.next + i` in `c`. -/
structure Overlay (c₀ d c : Cache) : Prop where
  next_eq : c.next = c₀.next + d.next
  heap_fresh : ∀ i < d.next, c.heap (c₀.next + i) = d.heap i
  heap_prior : ∀ p < c₀.next, c.heap p = c₀.heap p
  namespaceMap_lookup : ∀ k, c.namespaceMap.lookup k =
    rebase c₀.next (d.namespaceMap.lookup k) (c₀.namespaceMap.lookup k)
  eventhubMap_lookup : ∀ k, c.eventhubMap.lookup k =
    rebase c₀.next (d.eventhubMap.lookup k) (c₀.eventhubMap.lookup k)

namespace Overlay

variable {c₀ d c : Cache}

lemma refl (c₀ : Cache) : Overlay c₀ newCache c₀ where
  next_eq := rfl
  heap_fresh i hi := absurd hi (Nat.not_lt_zero i)
  heap_prior _ _ := rfl
  namespaceMap_lookup k := by simp
  eventhubMap_lookup k := by simp

lemma addNamespace (h : Overlay c₀ d c) (s : KafkaSecret) :
    Overlay c₀ (d.addNamespace s) (c.addNamespace s) where
  next_eq := by simp [h.next_eq, Nat.add_assoc]
  heap_fresh i hi := by
    rw [addNamespace_heap, addNamespace_heap, h.next_eq]
    by_cases hid : i = d.next
    · simp [hid]
    · simp [hid, h.heap_fresh i (by simp at hi; omega)]
  heap_prior p hp := by
    rw [addNamespace_heap, if_neg (by rw [h.next_eq]; omega), h.heap_prior p hp]
  namespaceMap_lookup k := by
    simp only [addNamespace_namespaceMap]
    by_cases hk : k = s.namespaceName
    · subst hk; simp [AList.lookup_insert, h.next_eq]
    · simp [AList.lookup_insert_ne hk, h.namespaceMap_lookup k]
  eventhubMap_lookup := h.eventhubMap_lookup

lemma mapEventHub (h : Overlay c₀ d c) {p : ℕ} (hp : p < d.next) (e : String) :
    Overlay c₀ (d.mapEventHub e p) (c.mapEventHub e (c₀.next + p)) where
  next_eq := h.next_eq
  heap_fresh i hi := by
    rw [mapEventHub_heap, mapEventHub_heap, h.heap_fresh p hp]
    by_cases hip : i = p
    · simp [hip]
    · simp [hip, h.heap_fresh i hi]
  heap_prior q hq := by rw [mapEventHub_heap, if_neg (by omega), h.heap_prior q hq]
  namespaceMap_lookup := h.namespaceMap_lookup
  eventhubMap_lookup k := by
    simp only [mapEventHub_eventhubMap]
    by_cases hk : k = e
    · subst hk; simp [AList.lookup_insert]
    · simp [AList.lookup_insert_ne hk, h.eventhubMap_lookup k]

lemma addEventHubs (h : Overlay c₀ d c) {p : ℕ} (hp : p < d.next) (hubs : List String) :
    Overlay c₀ (d.addEventHubs p hubs) (c.addEventHubs (c₀.next + p) hubs) := by
  induction hubs generalizing c d with
  | nil => exact h
  | cons e hubs ih => exact ih (h.mapEventHub hp e) hp

/-- The loop of `Update` keeps an overlay, and both sides stop with the same error. -/
lemma updateLoop (h : Overlay c₀ d c) (ss : List KafkaSecret) :
    (c.updateLoop hubManagerList ss).1 = (d.updateLoop hubManagerList ss).1 ∧
      Overlay c₀ (d.updateLoop hubManagerList ss).2 (c.updateLoop hubManagerList ss).2 := by
  induction ss generalizing c d hubManagerList with
  | nil => exact ⟨rfl, h⟩
  | cons s ss ih =>
    rcases updateLoop_cons hubManagerList d s ss with
      ⟨hv, he⟩ | ⟨err, hv, hl, he⟩ | ⟨hubs, hv, hl, he⟩
    · rw [he, updateLoop_cons_of_invalid _ _ _ _ hv]
      exact ⟨rfl, h⟩
    · rw [he, updateLoop_cons_of_error _ _ _ _ hv hl]
      exact ⟨rfl, h.addNamespace s⟩
    · rw [he, updateLoop_cons_of_ok _ _ _ _ hv hl, h.next_eq]
      exact ih ((h.addNamespace s).addEventHubs (by simp) hubs)

end Overlay

/-- **`Update` on any cache is `Update` on `newCache`, laid over it.** Whatever its outcome,
`Update` on `c` returns the error `Update` on `newCache` returns, and leaves `c` with the
entries `Update` on `newCache` writes laid over it, its fresh `Namespace`s moved up by
`c.next`: entries it does not overwrite stay, and the `Namespace`s of `c` keep their `Count`. -/
theorem update_overlay (env : UpdateEnv) (c : Cache) :
    (c.update env).1 = (newCache.update env).1 ∧
      Overlay c (newCache.update env).2 (c.update env).2 := by
  unfold update
  split
  · exact ⟨rfl, Overlay.refl c⟩
  · exact (Overlay.refl c).updateLoop _

/-- `Update` never writes to a `Namespace` that existed before it. -/
lemma update_heap_of_lt (env : UpdateEnv) (c : Cache) {p : ℕ} (hp : p < c.next) :
    (c.update env).2.heap p = c.heap p :=
  (update_overlay env c).2.heap_prior p hp

/-! ### A successful `Update` -/

/-- **A successful `Update`.** The cache is the prior one with the fresh build laid over it
(`update_overlay`); so the keys of `namespaceMap` are the prior keys and the names of the
secrets, the keys of `eventhubMap` the prior keys and the listed EventHubs, and an EventHub
listed by a secret that is the last to list it and the last with its name is in the
`Namespace` `namespaceMap` holds for that name. Entries missing from the snapshot stay. -/
theorem update_ok_spec (env : UpdateEnv) (c : Cache) (ss : List KafkaSecret)
    (hss : env.getKafkaSecrets = .ok ss) (h : (c.update env).1 = none) :
    Overlay c (newCache.update env).2 (c.update env).2 ∧
    (∀ k, k ∈ (c.update env).2.namespaceMap ↔
      k ∈ c.namespaceMap ∨ ∃ s ∈ ss, s.namespaceName = k) ∧
    (∀ t, t ∈ (c.update env).2.eventhubMap ↔
      t ∈ c.eventhubMap ∨
        ∃ i < ss.length, ∃ hubs, env.hubManagerList i = .ok hubs ∧ t ∈ hubs) ∧
    ∀ pre s post hubs t, ss = pre ++ s :: post → env.hubManagerList pre.length = .ok hubs →
      t ∈ hubs → (∀ s' ∈ post, s'.namespaceName ≠ s.namespaceName) →
      (∀ j < post.length, ∀ hubs', env.hubManagerList (pre.length + 1 + j) = .ok hubs' →
        t ∉ hubs') →
      (c.update env).2.getNamespace t =
        ((c.update env).2.namespaceMap.lookup s.namespaceName).getD none := by
  have hu : c.update env = c.updateLoop env.hubManagerList ss := by simp [update, hss]
  refine ⟨(update_overlay env c).2, ?_, ?_, ?_⟩
  · rw [hu] at h ⊢; exact fun k => mem_updateLoop_namespaceMap c k ss h
  · rw [hu] at h ⊢; exact fun t => mem_updateLoop_eventhubMap c t ss h
  · rintro pre s post hubs t rfl hl ht hname hlater
    rw [hu] at h ⊢
    refine getNamespace_updateLoop_of_last c t pre post s hubs h hl ht hname
      fun j hj hubs' hl' => hlater j hj hubs' ?_
    rwa [show j + 1 + pre.length = pre.length + 1 + j by omega] at hl'

/-- A snapshot with one Namespace `old` and its EventHub `t0`. -/
def oldEnv : UpdateEnv where
  getKafkaSecrets := .ok [⟨"b", "u", "p", "old"⟩]
  hubManagerList _ := .ok ["t0"]

/-- A later snapshot with one Namespace `new` and its EventHub `t1`. -/
def newEnv : UpdateEnv where
  getKafkaSecrets := .ok [⟨"b", "u", "p", "new"⟩]
  hubManagerList _ := .ok ["t1"]

theorem update_ok_spec_after_oldEnv :
    let c := (newCache.update oldEnv).2
    let ss : List KafkaSecret := [⟨"b", "u", "p", "new"⟩]
    newEnv.getKafkaSecrets = .ok ss ∧ (c.update newEnv).1 = none ∧
    Overlay c (newCache.update newEnv).2 (c.update newEnv).2 ∧
    (∀ k, k ∈ (c.update newEnv).2.namespaceMap ↔
      k ∈ c.namespaceMap ∨ ∃ s ∈ ss, s.namespaceName = k) ∧
    (∀ t, t ∈ (c.update newEnv).2.eventhubMap ↔
      t ∈ c.eventhubMap ∨
        ∃ i < ss.length, ∃ hubs, newEnv.hubManagerList i = .ok hubs ∧ t ∈ hubs) ∧
    ∀ pre s post hubs t, ss = pre ++ s :: post → newEnv.hubManagerList pre.length = .ok hubs →
      t ∈ hubs → (∀ s' ∈ post, s'.namespaceName ≠ s.namespaceName) →
      (∀ j < post.length, ∀ hubs', newEnv.hubManagerList (pre.length + 1 + j) = .ok hubs' →
        t ∉ hubs') →
      (c.update newEnv).2.getNamespace t =
        ((c.update newEnv).2.namespaceMap.lookup s.namespaceName).getD none :=
  ⟨rfl, by decide, update_ok_spec newEnv _ _ rfl (by decide)⟩

/-- `Update` does not replace the cache: the entries of an earlier snapshot stay. -/
theorem update_keeps_entries_missing_from_snapshot :
    ((newCache.update oldEnv).2.update newEnv).1 = none ∧
      "old" ∈ ((newCache.update oldEnv).2.update newEnv).2.namespaceMap ∧
      "t0" ∈ ((newCache.update oldEnv).2.update newEnv).2.eventhubMap := by
  decide

/-! ### A failed `Update` -/

/-- Where a failed loop stopped: at a secret `s`, after the secrets `pre` before it succeeded.
Either `s` is invalid and the cache is as `pre` left it, or its listing failed and the cache is
as `pre` left it with the `Namespace` of `s` entered. -/
lemma updateLoop_eq_some {c c' : Cache} {ss : List KafkaSecret} {err : String}
    (h : c.updateLoop hubManagerList ss = (some err, c')) :
    ∃ pre s post, ss = pre ++ s :: post ∧ (c.updateLoop hubManagerList pre).1 = none ∧
      (validateKafkaSecret (some s) = false ∧ err = invalidKafkaSecretError ∧
          c' = (c.updateLoop hubManagerList pre).2 ∨
        validateKafkaSecret (some s) = true ∧ hubManagerList pre.length = .error err ∧
          c' = (c.updateLoop hubManagerList pre).2.addNamespace s) := by
  induction ss generalizing c hubManagerList with
  | nil => simp [updateLoop] at h
  | cons s ss ih =>
    rcases updateLoop_cons hubManagerList c s ss with
      ⟨hv, he⟩ | ⟨err', hv, hl, he⟩ | ⟨hubs, hv, hl, he⟩ <;>
      rw [he] at h
    · obtain ⟨rfl, rfl⟩ : invalidKafkaSecretError = err ∧ c = c' := by simpa using h
      exact ⟨[], s, ss, rfl, rfl, .inl ⟨hv, rfl, rfl⟩⟩
    · obtain ⟨rfl, rfl⟩ : err' = err ∧ c.addNamespace s = c' := by simpa using h
      exact ⟨[], s, ss, rfl, rfl, .inr ⟨hv, hl, rfl⟩⟩
    · obtain ⟨pre, s', post, rfl, hpre, hcase⟩ := ih h
      refine ⟨s :: pre, s', post, rfl, ?_, ?_⟩ <;> rw [updateLoop_cons_of_ok _ _ _ _ hv hl]
      exacts [hpre, hcase]

/-- **A failed `Update` is not undone.** It leaves every `Namespace` that existed before it as
it was, `Count` included; but if it failed after `GetKafkaSecrets`, both maps keep what the
secrets before the failing one wrote, and a failed listing also leaves the failing secret's
`Namespace` in `namespaceMap`. -/
theorem update_error_spec (env : UpdateEnv) (c : Cache) (err : String)
    (h : (c.update env).1 = some err) :
    (∀ p < c.next, (c.update env).2.heap p = c.heap p) ∧
    ((env.getKafkaSecrets = .error err ∧ (c.update env).2 = c) ∨
      ∃ pre s post, env.getKafkaSecrets = .ok (pre ++ s :: post) ∧
        (c.updateLoop env.hubManagerList pre).1 = none ∧
        (validateKafkaSecret (some s) = false ∧ err = invalidKafkaSecretError ∧
            (c.update env).2 = (c.updateLoop env.hubManagerList pre).2 ∨
          validateKafkaSecret (some s) = true ∧ env.hubManagerList pre.length = .error err ∧
            (c.update env).2 = (c.updateLoop env.hubManagerList pre).2.addNamespace s)) := by
  refine ⟨fun p hp => update_heap_of_lt env c hp, ?_⟩
  cases hs : env.getKafkaSecrets with
  | error e =>
    simp only [update, hs, Option.some.injEq] at h ⊢
    exact .inl ⟨by rw [h], trivial⟩
  | ok ss =>
    simp only [update, hs] at h ⊢
    obtain ⟨pre, s, post, rfl, hpre, hcase⟩ := updateLoop_eq_some (Prod.ext h rfl)
    exact .inr ⟨pre, s, post, rfl, hpre, hcase⟩

/-- Two secrets, the second without brokers, in a snapshot whose listings all succeed. -/
def partialEnv : UpdateEnv where
  getKafkaSecrets := .ok [⟨"b", "u", "p", "n1"⟩, ⟨"", "u", "p", "n2"⟩]
  hubManagerList _ := .ok ["t"]

theorem update_error_spec_partialEnv :
    (newCache.update partialEnv).1 = some invalidKafkaSecretError ∧
    (∀ p < newCache.next, (newCache.update partialEnv).2.heap p = newCache.heap p) ∧
    ((partialEnv.getKafkaSecrets = .error invalidKafkaSecretError ∧
        (newCache.update partialEnv).2 = newCache) ∨
      ∃ pre s post, partialEnv.getKafkaSecrets = .ok (pre ++ s :: post) ∧
        (newCache.updateLoop partialEnv.hubManagerList pre).1 = none ∧
        (validateKafkaSecret (some s) = false ∧
            invalidKafkaSecretError = invalidKafkaSecretError ∧
            (newCache.update partialEnv).2 =
              (newCache.updateLoop partialEnv.hubManagerList pre).2 ∨
          validateKafkaSecret (some s) = true ∧
            partialEnv.hubManagerList pre.length = .error invalidKafkaSecretError ∧
            (newCache.update partialEnv).2 =
              (newCache.updateLoop partialEnv.hubManagerList pre).2.addNamespace s)) :=
  ⟨by decide, update_error_spec partialEnv newCache _ (by decide)⟩

/-- A failed `Update` keeps the writes made for the secrets before the failing one: from
`newCache`, the Namespace `n1` and its EventHub `t` stay entered. -/
theorem update_error_keeps_writes :
    (newCache.update partialEnv).1 = some invalidKafkaSecretError ∧
      "n1" ∉ newCache.namespaceMap ∧ "n1" ∈ (newCache.update partialEnv).2.namespaceMap ∧
      "t" ∉ newCache.eventhubMap ∧ "t" ∈ (newCache.update partialEnv).2.eventhubMap := by
  decide

/-! ### The fresh Namespaces and the outcome -/

section Fresh

variable (c : Cache) (p q : ℕ)

@[simp] lemma addEventHubs_heap_name (hubs : List String) :
    ((c.addEventHubs p hubs).heap q).name = (c.heap q).name := by
  induction hubs generalizing c with
  | nil => rfl
  | cons e hubs ih => rw [addEventHubs, ih, mapEventHub_heap]; split_ifs with h <;> simp [h]

/-- Recording a listing in the Namespace at `p` adds its length to the Count of `p`, EventHubs
listed twice included. -/
lemma addEventHubs_heap_count (hubs : List String) :
    ((c.addEventHubs p hubs).heap q).count =
      (c.heap q).count + if q = p then (hubs.length : ℤ) else 0 := by
  induction hubs generalizing c with
  | nil => simp [addEventHubs]
  | cons e hubs ih =>
    rw [addEventHubs, ih, mapEventHub_count, List.length_cons]
    split_ifs <;> omega

/-- The loop writes no Namespace allocated before it. -/
lemma updateLoop_heap_of_lt (ss : List KafkaSecret) (hp : p < c.next) :
    (c.updateLoop hubManagerList ss).2.heap p = c.heap p :=
  ((Overlay.refl c).updateLoop ss).2.heap_prior p hp

/-- A successful loop allocates one Namespace per secret, in order, named after the secret,
whose Count is the length of the listing of its iteration. -/
lemma updateLoop_fresh (ss : List KafkaSecret) (h : (c.updateLoop hubManagerList ss).1 = none) :
    (c.updateLoop hubManagerList ss).2.next = c.next + ss.length ∧
    ∀ i (hi : i < ss.length), ∃ hubs, hubManagerList i = .ok hubs ∧
      ((c.updateLoop hubManagerList ss).2.heap (c.next + i)).name = ss[i].namespaceName ∧
      ((c.updateLoop hubManagerList ss).2.heap (c.next + i)).count = hubs.length := by
  induction ss generalizing c hubManagerList with
  | nil => exact ⟨rfl, fun i hi => absurd hi (Nat.not_lt_zero i)⟩
  | cons s ss ih =>
    rcases updateLoop_cons hubManagerList c s ss with
      ⟨-, he⟩ | ⟨err, -, -, he⟩ | ⟨hubs, -, hl, he⟩
    · simp [he] at h
    · simp [he] at h
    rw [he] at h ⊢
    obtain ⟨hnext, hfresh⟩ := ih _ h
    simp only [addEventHubs_next, addNamespace_next] at hnext hfresh
    refine ⟨by rw [hnext, List.length_cons]; omega, fun i hi => ?_⟩
    cases i with
    | zero =>
      -- the Namespace of `s`, which the rest of the loop does not write
      rw [Nat.add_zero, updateLoop_heap_of_lt _ _ _ (by simp)]
      simp [hl, addEventHubs_heap_count, addNamespace_heap, newNamespaceFromKafkaSecret]
    | succ j =>
      rw [← Nat.add_assoc, Nat.add_right_comm]
      simpa using hfresh j (by simpa using hi)

/-- The loop succeeds exactly when every secret is valid and every listing succeeds. -/
lemma updateLoop_fst_eq_none_iff (ss : List KafkaSecret) :
    (c.updateLoop hubManagerList ss).1 = none ↔
      (∀ s ∈ ss, validateKafkaSecret (some s) = true) ∧
        ∀ i < ss.length, ∃ hubs, hubManagerList i = .ok hubs := by
  induction ss generalizing c hubManagerList with
  | nil => simp [updateLoop]
  | cons s ss ih =>
    rcases updateLoop_cons hubManagerList c s ss with
      ⟨hv, he⟩ | ⟨err, hv, hl, he⟩ | ⟨hubs, hv, hl, he⟩ <;> rw [he]
    · simp [hv]
    · simp [hl, Nat.forall_lt_succ_left]
    · simp [ih, hv, hl, Nat.forall_lt_succ_left]

end Fresh

/-- **When `Update` succeeds.** `Update` returns nil exactly when `GetKafkaSecrets` succeeds,
every secret it returns is valid, and `HubManager.List` succeeds for every one of them; so
whether it fails depends only on the snapshot, never on what the cache holds. -/
theorem update_fst_eq_none_iff (env : UpdateEnv) (c : Cache) :
    (c.update env).1 = none ↔ ∃ ss, env.getKafkaSecrets = .ok ss ∧
      (∀ s ∈ ss, validateKafkaSecret (some s) = true) ∧
        ∀ i < ss.length, ∃ hubs, env.hubManagerList i = .ok hubs := by
  cases hs : env.getKafkaSecrets with
  | error err => simp [update, hs]
  | ok ss => simp [update, hs, updateLoop_fst_eq_none_iff]

/-- **What a successful `Update` allocates.** It leaves every prior Namespace as it was, and
allocates one fresh Namespace per secret of the snapshot, in order: the one for the `i`-th secret
is named after the secret's namespace, and its Count is the number of EventHubs its listing
returned, counting an EventHub listed twice twice and one a later secret also lists. -/
theorem update_ok_fresh (env : UpdateEnv) (c : Cache) (ss : List KafkaSecret)
    (hss : env.getKafkaSecrets = .ok ss) (h : (c.update env).1 = none) :
    (c.update env).2.next = c.next + ss.length ∧
    (∀ p < c.next, (c.update env).2.heap p = c.heap p) ∧
    ∀ i (hi : i < ss.length), ∃ hubs, env.hubManagerList i = .ok hubs ∧
      ((c.update env).2.heap (c.next + i)).name = ss[i].namespaceName ∧
      ((c.update env).2.heap (c.next + i)).count = hubs.length := by
  have hu : c.update env = c.updateLoop env.hubManagerList ss := by simp [update, hss]
  rw [hu] at h ⊢
  exact ⟨(updateLoop_fresh c ss h).1, fun p hp => updateLoop_heap_of_lt c p ss hp,
    (updateLoop_fresh c ss h).2⟩

theorem update_ok_fresh_oldEnv :
    let ss : List KafkaSecret := [⟨"b", "u", "p", "old"⟩]
    oldEnv.getKafkaSecrets = .ok ss ∧ (newCache.update oldEnv).1 = none ∧
    (newCache.update oldEnv).2.next = newCache.next + ss.length ∧
    (∀ p < newCache.next, (newCache.update oldEnv).2.heap p = newCache.heap p) ∧
    ∀ i (hi : i < ss.length), ∃ hubs, oldEnv.hubManagerList i = .ok hubs ∧
      ((newCache.update oldEnv).2.heap (newCache.next + i)).name = ss[i].namespaceName ∧
      ((newCache.update oldEnv).2.heap (newCache.next + i)).count = hubs.length :=
  ⟨rfl, by decide, update_ok_fresh oldEnv newCache _ rfl (by decide)⟩

end Cache

end EventHubCache
