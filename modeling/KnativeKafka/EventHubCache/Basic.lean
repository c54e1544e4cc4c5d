import KnativeKafka.GoMap

/-!
# The EventHub cache: state and operations

`eventhubcache/cache.go` caches, for the controller, the Azure EventHub Namespaces it may
create topics (EventHubs) in. Each Namespace has its own credentials and room for at most
`constants.MaxEventHubsPerNamespace` EventHubs. The cache keeps two Go maps of `*Namespace`,
from Namespace name and from EventHub name, which share the `Namespace` objects.

## Main definitions

* `EventHubCache.Namespace`, `EventHubCache.KafkaSecret`, `EventHubCache.Cache` — the data.
* `EventHubCache.newCache` — `NewCache`.
* `EventHubCache.validateKafkaSecret` — `Cache.validateKafkaSecret`.
* `EventHubCache.Cache.update` — `Cache.Update`, with its loop `Cache.updateLoop`.
* `EventHubCache.Cache.addEventHub`, `removeEventHub`, `getNamespace` — the other methods
  of `CacheInterface` but `GetNamespaceWithMaxCapacity`, which has its own module.

## Implementation notes

Because the two maps share `Namespace` objects, a `Count` written through one map is seen
through the other. The cache therefore carries a heap: `heap p` is the `Namespace` at address
`p`, and `next` is the first address never allocated, so the `Namespace`s `Update` creates are
fresh. Addresses are natural numbers and a `*Namespace` is an `Option ℕ`, with `none` for
`nil`. `Count` is a Go `int`, here
an unbounded `ℤ`: `AddEventHub` only increments below the capacity, `RemoveEventHub` only
decrements above zero, and `Update` counts at most the length of a listing.

The capacity `constants.MaxEventHubsPerNamespace` lives in a package that is not part of
this development; it is the parameter `maxEventHubsPerNamespace`. So are the answers of the
cache's collaborators during one `Update` (`UpdateEnv`). The logger, the Kubernetes client
and the Kubernetes namespace of the struct only feed those collaborators and the logs.
-/

set_option autoImplicit false

namespace EventHubCache

/-- An Azure EventHub Namespace: the fields of `Namespace` the cache reads and writes. -/
structure Namespace where
  name : String
  count : ℤ
deriving DecidableEq, Repr

/-- A Kafka `Secret`: the values at the four data keys the cache reads (an absent key reads as
the empty string). `namespaceName` is the value at `constants.KafkaSecretKeyNamespace`. -/
structure KafkaSecret where
  brokers : String
  username : String
  password : String
  namespaceName : String
deriving DecidableEq, Repr

/-- The `Cache` struct: `namespaceMap` and `eventhubMap` over a heap of `Namespace`s. -/
structure Cache where
  heap : ℕ → Namespace
  next : ℕ
  namespaceMap : GoMap String (Option ℕ)
  eventhubMap : GoMap String (Option ℕ)

/-- `NewCache`: two empty maps, nothing allocated. -/
def newCache : Cache where
  heap := fun _ => ⟨"", 0⟩
  next := 0
  namespaceMap := ∅
  eventhubMap := ∅

@[simp] lemma newCache_next : newCache.next = 0 := rfl
@[simp] lemma newCache_namespaceMap : newCache.namespaceMap = ∅ := rfl
@[simp] lemma newCache_eventhubMap : newCache.eventhubMap = ∅ := rfl

/-- `validateKafkaSecret`: a non-nil secret whose brokers, username, password and namespace
are all non-empty. -/
def validateKafkaSecret : Option KafkaSecret → Bool
  | some s => 0 < s.brokers.length && 0 < s.username.length && 0 < s.password.length &&
      0 < s.namespaceName.length
  | none => false

/-- The error `Update` returns for a secret `validateKafkaSecret` rejects. -/
def invalidKafkaSecretError : String := "invalid Kafka Secret found"

/-- Modelled from the spec: `NewNamespaceFromKafkaSecret` is not part of this development. The
spec has `Update` construct "a fresh Namespace per valid record", named by the record's
namespace name, with its count "seeded from the live topic list", that is, from zero. -/
def newNamespaceFromKafkaSecret (s : KafkaSecret) : Namespace :=
  ⟨s.namespaceName, 0⟩

/-- What `Update` learns from outside the cache: the Kafka secrets of its Kubernetes namespace
(`util.GetKafkaSecrets`), and what `HubManager.List` answers in each iteration of the loop over
them, for the `Namespace` built from that iteration's secret: `hubManagerList i` is the answer
in the iteration with index `i` of the `range`. Each call has its own answer, so two secrets
with the same data may get different listings. -/
structure UpdateEnv where
  getKafkaSecrets : Except String (List KafkaSecret)
  hubManagerList : ℕ → Except String (List String)

namespace Cache

variable (maxEventHubsPerNamespace : ℤ)

/-- Overwrite the `Count` of the `Namespace` at `p`. -/
def setCount (c : Cache) (p : ℕ) (n : ℤ) : Cache :=
  { c with heap := Function.update c.heap p { c.heap p with count := n } }

/-- `c.eventhubMap[eventhub] = namespace` and `namespace.Count++`, the two writes with which
both `AddEventHub` and `Update` record an EventHub. -/
def mapEventHub (c : Cache) (eventhub : String) (p : ℕ) : Cache :=
  { c.setCount p ((c.heap p).count + 1) with
    eventhubMap := c.eventhubMap.insert eventhub (some p) }

/-- `GetNamespace`: `c.eventhubMap[eventhub]`, `nil` for an absent key. -/
def getNamespace (c : Cache) (eventhub : String) : Option ℕ :=
  (c.eventhubMap.lookup eventhub).getD none

lemma getNamespace_eq_some {c : Cache} {eventhub : String} {p : ℕ} :
    c.getNamespace eventhub = some p ↔ c.eventhubMap.lookup eventhub = some (some p) := by
  unfold getNamespace
  cases c.eventhubMap.lookup eventhub <;> simp

/-- `AddEventHub`: record the EventHub if the Namespace is non-nil and below capacity. -/
def addEventHub (c : Cache) (eventhub : String) : Option ℕ → Cache
  | some p => if (c.heap p).count < maxEventHubsPerNamespace then c.mapEventHub eventhub p else c
  | none => c

/-- `RemoveEventHub`: decrement the Count of the EventHub's Namespace if it is positive, then
delete the EventHub's entry whether or not it had one. -/
def removeEventHub (c : Cache) (eventhub : String) : Cache :=
  let c' := match c.getNamespace eventhub with
    | some p => if 0 < (c.heap p).count then c.setCount p ((c.heap p).count - 1) else c
    | none => c
  { c' with eventhubMap := c'.eventhubMap.erase eventhub }

/-- Lines 83–86 of `Update`: allocate the `Namespace` built from a secret and enter it in
`namespaceMap` under its name. -/
def addNamespace (c : Cache) (s : KafkaSecret) : Cache :=
  { c with
    heap := Function.update c.heap c.next (newNamespaceFromKafkaSecret s)
    next := c.next + 1
    namespaceMap := c.namespaceMap.insert (newNamespaceFromKafkaSecret s).name (some c.next) }

/-- Lines 96–101 of `Update`: record each listed EventHub in the `Namespace` at `p`. -/
def addEventHubs (c : Cache) (p : ℕ) : List String → Cache
  | [] => c
  | eventHub :: rest => (c.mapEventHub eventHub p).addEventHubs p rest

/-- The loop of `Update` over the secrets. `hubManagerList i` answers the `i`-th iteration, so
the rest of the loop sees the answers from the next index on. It returns the error that ends the
loop, if any, with the cache as the loop left it: the maps are written in place, so a failure
keeps the writes made for the secrets before it. -/
def updateLoop : (ℕ → Except String (List String)) → Cache → List KafkaSecret →
    Option String × Cache
  | _, c, [] => (none, c)
  | hubManagerList, c, kafkaSecret :: rest =>
    if validateKafkaSecret (some kafkaSecret) then
      match hubManagerList 0 with
      | .error err => (some err, c.addNamespace kafkaSecret)
      | .ok eventHubs =>
        updateLoop (fun i => hubManagerList (i + 1))
          ((c.addNamespace kafkaSecret).addEventHubs c.next eventHubs) rest
    else (some invalidKafkaSecretError, c)

/-- `Update`: the error it returns (`none` for `nil`) and the cache it leaves. -/
def update (env : UpdateEnv) (c : Cache) : Option String × Cache :=
  match env.getKafkaSecrets with
  | .error err => (some err, c)
  | .ok kafkaSecrets => updateLoop env.hubManagerList c kafkaSecrets

section LoopStep

variable (hubManagerList : ℕ → Except String (List String)) (c : Cache)
  (s : KafkaSecret) (rest : List KafkaSecret)

lemma updateLoop_cons_of_invalid (hv : validateKafkaSecret (some s) = false) :
    c.updateLoop hubManagerList (s :: rest) = (some invalidKafkaSecretError, c) := by
  simp [updateLoop, hv]

lemma updateLoop_cons_of_error {err : String} (hv : validateKafkaSecret (some s) = true)
    (hl : hubManagerList 0 = .error err) :
    c.updateLoop hubManagerList (s :: rest) = (some err, c.addNamespace s) := by
  simp [updateLoop, hv, hl]

lemma updateLoop_cons_of_ok {hubs : List String} (hv : validateKafkaSecret (some s) = true)
    (hl : hubManagerList 0 = .ok hubs) :
    c.updateLoop hubManagerList (s :: rest) =
      ((c.addNamespace s).addEventHubs c.next hubs).updateLoop
        (fun i => hubManagerList (i + 1)) rest := by
  simp [updateLoop, hv, hl]

/-- What one iteration of the loop of `Update` can do: stop on an invalid secret with the cache
as it was, stop on a failed listing with the secret's `Namespace` entered, or enter the
`Namespace` and its EventHubs and go on. -/
lemma updateLoop_cons :
    (validateKafkaSecret (some s) = false ∧
        c.updateLoop hubManagerList (s :: rest) = (some invalidKafkaSecretError, c)) ∨
      (∃ err, validateKafkaSecret (some s) = true ∧ hubManagerList 0 = .error err ∧
        c.updateLoop hubManagerList (s :: rest) = (some err, c.addNamespace s)) ∨
      (∃ hubs, validateKafkaSecret (some s) = true ∧ hubManagerList 0 = .ok hubs ∧
        c.updateLoop hubManagerList (s :: rest) =
          ((c.addNamespace s).addEventHubs c.next hubs).updateLoop
            (fun i => hubManagerList (i + 1)) rest) := by
  cases hv : validateKafkaSecret (some s)
  · exact .inl ⟨rfl, updateLoop_cons_of_invalid _ _ _ _ hv⟩
  · cases hl : hubManagerList 0 with
    | error err => exact .inr (.inl ⟨err, rfl, rfl, updateLoop_cons_of_error _ _ _ _ hv hl⟩)
    | ok hubs => exact .inr (.inr ⟨hubs, rfl, rfl, updateLoop_cons_of_ok _ _ _ _ hv hl⟩)

end LoopStep

/-! ### Field lemmas -/

section Fields

variable (c : Cache) (p q : ℕ) (n : ℤ) (eventhub : String)

@[simp] lemma setCount_next : (c.setCount p n).next = c.next := rfl
@[simp] lemma setCount_namespaceMap : (c.setCount p n).namespaceMap = c.namespaceMap := rfl
@[simp] lemma setCount_eventhubMap : (c.setCount p n).eventhubMap = c.eventhubMap := rfl

lemma setCount_heap : (c.setCount p n).heap q = if q = p then { c.heap p with count := n }
    else c.heap q := Function.update_apply _ _ _ _

@[simp] lemma mapEventHub_next : (c.mapEventHub eventhub p).next = c.next := rfl
@[simp] lemma mapEventHub_namespaceMap :
    (c.mapEventHub eventhub p).namespaceMap = c.namespaceMap := rfl
@[simp] lemma mapEventHub_eventhubMap :
    (c.mapEventHub eventhub p).eventhubMap = c.eventhubMap.insert eventhub (some p) := rfl

lemma mapEventHub_heap : (c.mapEventHub eventhub p).heap q =
    if q = p then { c.heap p with count := (c.heap p).count + 1 } else c.heap q :=
  setCount_heap _ _ _ _

@[simp] lemma addNamespace_next (s : KafkaSecret) : (c.addNamespace s).next = c.next + 1 := rfl
@[simp] lemma addNamespace_eventhubMap (s : KafkaSecret) :
    (c.addNamespace s).eventhubMap = c.eventhubMap := rfl
@[simp] lemma addNamespace_namespaceMap (s : KafkaSecret) :
    (c.addNamespace s).namespaceMap = c.namespaceMap.insert s.namespaceName (some c.next) := rfl

lemma addNamespace_heap (s : KafkaSecret) : (c.addNamespace s).heap q =
    if q = c.next then newNamespaceFromKafkaSecret s else c.heap q :=
  Function.update_apply _ _ _ _

@[simp] lemma addEventHubs_next (hubs : List String) : (c.addEventHubs p hubs).next = c.next := by
  induction hubs generalizing c with
  | nil => rfl
  | cons h hubs ih => exact ih _

@[simp] lemma addEventHubs_namespaceMap (hubs : List String) :
    (c.addEventHubs p hubs).namespaceMap = c.namespaceMap := by
  induction hubs generalizing c with
  | nil => rfl
  | cons h hubs ih => exact ih _

lemma mapEventHub_count (e : String) : ((c.mapEventHub e p).heap q).count =
    (c.heap q).count + if q = p then 1 else 0 := by
  rw [mapEventHub_heap]
  split_ifs <;> simp_all

variable (maxEventHubsPerNamespace : ℤ) (ns : Option ℕ)

@[simp] lemma addEventHub_next :
    (c.addEventHub maxEventHubsPerNamespace eventhub ns).next = c.next := by
  unfold addEventHub; split <;> (try split) <;> rfl

@[simp] lemma addEventHub_namespaceMap :
    (c.addEventHub maxEventHubsPerNamespace eventhub ns).namespaceMap = c.namespaceMap := by
  unfold addEventHub; split <;> (try split) <;> rfl

/-- `AddEventHub` adds one to the Count of its Namespace if that is below capacity. -/
lemma addEventHub_count : ((c.addEventHub maxEventHubsPerNamespace eventhub ns).heap q).count =
    (c.heap q).count +
      if ns = some q ∧ (c.heap q).count < maxEventHubsPerNamespace then 1 else 0 := by
  cases ns with
  | none => simp [addEventHub]
  | some p =>
    by_cases hp : (c.heap p).count < maxEventHubsPerNamespace
    · by_cases hq : q = p
      · subst hq; simp [addEventHub, hp, mapEventHub_count]
      · simp [addEventHub, hp, mapEventHub_count, hq, Ne.symm hq]
    · by_cases hq : q = p
      · subst hq; simp [addEventHub, hp]
      · simp [addEventHub, hp, Ne.symm hq]

@[simp] lemma removeEventHub_next : (c.removeEventHub eventhub).next = c.next := by
  unfold removeEventHub; split <;> (try split) <;> rfl

@[simp] lemma removeEventHub_namespaceMap :
    (c.removeEventHub eventhub).namespaceMap = c.namespaceMap := by
  unfold removeEventHub; split <;> (try split) <;> rfl

@[simp] lemma removeEventHub_eventhubMap :
    (c.removeEventHub eventhub).eventhubMap = c.eventhubMap.erase eventhub := by
  unfold removeEventHub; split <;> (try split) <;> rfl

/-- `RemoveEventHub` takes one from the Count of the EventHub's Namespace if that is positive. -/
lemma removeEventHub_count : ((c.removeEventHub eventhub).heap q).count =
    (c.heap q).count -
      if c.getNamespace eventhub = some q ∧ 0 < (c.heap q).count then 1 else 0 := by
  unfold removeEventHub
  cases hg : c.getNamespace eventhub with
  | none => simp
  | some p =>
    by_cases hq : q = p
    · subst hq
      by_cases h0 : 0 < (c.heap q).count <;> simp [h0, setCount_heap]
    · by_cases h0 : 0 < (c.heap p).count <;> simp [h0, setCount_heap, hq, Ne.symm hq]

end Fields

end Cache

end EventHubCache
