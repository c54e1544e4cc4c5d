import KnativeKafka.GoMap

/-!
# The dispatcher's KafkaChannel reconciler

`dispatcher/internal/controller/kafkachannel.go`: the work queue hands `Reconcile` the key of
a KafkaChannel. If the key is the dispatcher's own channel and the channel is ready,
`reconcile` builds one `Subscription` per declared subscriber, hands the list to the
dispatcher's `UpdateSubscriptions`, and computes the subscribers' status from the failure map
it gets back. `updateStatus` then writes the status if it changed.

## Main definitions

* `Controller.SubscriberSpec`, `Subscription`, `SubscriberStatus`, `KafkaChannel` — the data.
* `Controller.Reconciler` — the collaborators a reconciler calls.
* `Controller.KafkaChannel.deepCopy` — the copy `Reconcile` works on, with new URL objects.
* `Controller.Reconciler.reconcile`, `createSubscribableStatus`, `updateStatus`, `Reconcile`;
  `ReconcileResult` holds what a call returns, hands on and records.
* `Controller.splitMetaNamespaceKey`, `Controller.metaNamespaceKey` — the work queue's keys.

## Main results

* `Controller.splitMetaNamespaceKey_metaNamespaceKey`,
  `Controller.splitMetaNamespaceKey_eq_some` — keys round-trip, and every key the parser
  accepts is well formed.
* `Controller.Reconciler.reconcile_subscribableStatus` — for every declared list and every
  failure map, the status `reconcile` computes has one entry per subscriber, in order, and
  an entry is not ready exactly when the Subscription built for it failed.
* `Controller.Reconciler.reconcile_groupIds_nodup` — the Subscriptions have distinct consumer
  groups exactly when the subscribers have distinct UIDs.
* `Controller.Reconciler.Reconcile_eq` — once the checks pass, `Reconcile` reconciles a copy of
  the channel and returns the error of `updateStatus`, whatever `reconcile` returned.
* `Controller.Reconciler.Reconcile_drops_subscription_failure` — so a failed Subscription does
  not requeue the key.
* `Controller.Reconciler.Reconcile_statusWrite_eq` — a status write replaces the subscribable
  status of the stored channel and nothing else, only when it changed, and never for a channel
  whose subscriber list is nil.
* `Controller.Reconciler.Reconcile_other_channel` — distinct channels have distinct keys, so the
  keys other channels enqueue never reach the dispatcher, the clientset or the recorder.

## Implementation notes

Go's `Reconcile` and `reconcile` keep their names. The collaborators (the lister, the
dispatcher and the clientset) are fields of `Reconciler` that answer calls; the logger only
reports. `Status.IsReady` reads conditions that the reconciler never writes, and is the field
`KafkaChannelStatus.ready`. An `error` is its message, `nil` being `none`.

A `*apis.URL` is the address of its URL object: `Subscription`s are map keys, and Go compares
their URLs by address. The URL's text is read only by a log line, so the model leaves it out.
`Reconcile` works on a `DeepCopy` of the channel, whose URLs are new objects; `updateStatus`
sends a `DeepCopy` of the lister's object, which the clientset serializes, so the addresses in
that object are never compared, and the model sends the lister's object itself.
-/

set_option autoImplicit false

namespace Controller

/-- A subscriber of the channel's spec (`SubscriberSpec`), with the fields the reconciler reads.
`SubscriberURI` is a `*apis.URL`: the address of the URL object, `none` when nil. -/
structure SubscriberSpec where
  uid : String
  generation : ℤ
  subscriberURI : Option ℕ
deriving DecidableEq, Repr

/-- `dispatcher.Subscription`: where to deliver (a `*apis.URL`, as an address), and the consumer
group. Go compares two `Subscription`s, as map keys, by the address of their URLs. -/
structure Subscription where
  uri : Option ℕ
  groupId : String
deriving DecidableEq, Repr

/-- `corev1.ConditionStatus`, with the two values the reconciler sets. -/
inductive ConditionStatus
  | conditionTrue
  | conditionFalse
deriving DecidableEq, Repr

/-- `SubscriberStatus`. -/
structure SubscriberStatus where
  uid : String
  observedGeneration : ℤ
  ready : ConditionStatus
  message : String
deriving DecidableEq, Repr

/-- `SubscribableStatus`; its subscriber list is `none` when it is nil. -/
structure SubscribableStatus where
  subscribers : Option (List SubscriberStatus)
deriving DecidableEq, Repr

/-- The status of a KafkaChannel: what `IsReady` reports, and the subscribable status. -/
structure KafkaChannelStatus where
  ready : Bool
  subscribableStatus : SubscribableStatus
deriving DecidableEq, Repr

/-- A KafkaChannel: its namespace and name, its declared subscribers (`none` when the list is
nil), and its status. -/
structure KafkaChannel where
  metaNamespace : String
  name : String
  subscribers : Option (List SubscriberSpec)
  status : KafkaChannelStatus
deriving DecidableEq, Repr

/-- The map `UpdateSubscriptions` returns: the Subscriptions that failed, with their errors. -/
abbrev FailureMap := GoMap Subscription String

/-- An error of the lister: whether `apierrs.IsNotFound` holds of it, and its message. -/
structure ListerError where
  isNotFound : Bool
  message : String
deriving DecidableEq, Repr

/-- `corev1.EventTypeNormal` and `corev1.EventTypeWarning`. -/
inductive EventType
  | normal
  | warning
deriving DecidableEq, Repr

/-- An event the `Recorder` records on the reconciled channel: its type, reason and message. -/
structure Event where
  eventType : EventType
  reason : String
  message : String
deriving DecidableEq, Repr

/-- The reasons of the events `Reconcile` records. -/
def channelReconciled : String := "ChannelReconciled"
def channelReconcileFailed : String := "ChannelReconcileFailed"
def channelUpdateStatusFailed : String := "ChannelUpdateStatusFailed"

/-- The collaborators of a `Reconciler`, as the calls it makes answer: the dispatcher's channel
key and `UpdateSubscriptions`, the lister's `KafkaChannels(namespace).Get(name)`, and the
clientset's `UpdateStatus` (its error); and `heapNext`, the first address the heap has not
handed out, from which `DeepCopy` allocates. -/
structure Reconciler where
  channelKey : String
  kafkaChannelsGet : String → String → Except ListerError KafkaChannel
  updateSubscriptions : List Subscription → FailureMap
  kafkaChannelsUpdateStatus : KafkaChannel → Option String
  heapNext : ℕ

/-- `DeepCopy` of a subscriber list, for the URLs it holds: the copy of the subscriber at
position `i` gets a new `apis.URL` at address `heapNext + i`, or keeps nil. Modelled from the
generated deep-copy functions, which are not part of the sources this development models. -/
def copySubscribers : ℕ → List SubscriberSpec → List SubscriberSpec
  | _, [] => []
  | heapNext, s :: rest =>
    { s with subscriberURI := s.subscriberURI.map fun _ => heapNext } ::
      copySubscribers (heapNext + 1) rest

/-- `KafkaChannel.DeepCopy`: the channel with its subscribers copied. -/
def KafkaChannel.deepCopy (heapNext : ℕ) (channel : KafkaChannel) : KafkaChannel :=
  { channel with subscribers := channel.subscribers.map (copySubscribers heapNext) }

/-- `cache.SplitMetaNamespaceKey`: `name` or `namespace/name`; any other key is invalid.
Modelled from client-go: `SplitMetaNamespaceKey` is not part of the sources this development
models. -/
def splitMetaNamespaceKey (key : String) : Option (String × String) :=
  match (key.toList.splitOn '/').map String.mk with
  | [name] => some ("", name)
  | [ns, name] => some (ns, name)
  | _ => none

/-- `cache.MetaNamespaceKeyFunc`, with which `Enqueue` keys a KafkaChannel on the work queue:
`namespace/name`, or `name` for an object with no namespace. Modelled from client-go:
`MetaNamespaceKeyFunc` is not part of the sources this development models. -/
def metaNamespaceKey (ns name : String) : String :=
  if ns = "" then name else ns ++ "/" ++ name

/-- The error of `Reconcile` for a channel that is not ready. -/
def channelNotReadyError : String :=
  "Channel is not ready. Cannot configure and update subscriber status"

/-- The error of `reconcile` when some Subscription failed. -/
def subscriptionsFailedError : String := "Some kafka subscriptions failed to subscribe"

namespace Reconciler

/-- The loop of `reconcile`: append one Subscription per subscriber, with group `kafka.<UID>`. -/
def appendSubscriptions (subscriptions : List Subscription) :
    List SubscriberSpec → List Subscription
  | [] => subscriptions
  | subscriber :: rest =>
    appendSubscriptions
      (subscriptions ++
        [{ uri := subscriber.subscriberURI, groupId := "kafka." ++ subscriber.uid }])
      rest

/-- The loop of `createSubscribableStatus`: append one status per subscriber, not ready with the
error's message if the Subscription it builds for the subscriber failed. -/
def appendSubscriberStatus (failedSubscriptions : FailureMap)
    (subscriberStatus : List SubscriberStatus) :
    List SubscriberSpec → List SubscriberStatus
  | [] => subscriberStatus
  | sub :: rest =>
    let subscription : Subscription := { uri := sub.subscriberURI, groupId := "kafka." ++ sub.uid }
    let status : SubscriberStatus := match failedSubscriptions.lookup subscription with
      | some err => ⟨sub.uid, sub.generation, .conditionFalse, err⟩
      | none => ⟨sub.uid, sub.generation, .conditionTrue, ""⟩
    appendSubscriberStatus failedSubscriptions (subscriberStatus ++ [status]) rest

/-- `createSubscribableStatus`. -/
def createSubscribableStatus (subscribable : Option (List SubscriberSpec))
    (failedSubscriptions : FailureMap) : SubscribableStatus :=
  ⟨some (appendSubscriberStatus failedSubscriptions [] (subscribable.getD []))⟩

/-- `reconcile`: its error, the list it handed to `UpdateSubscriptions` (`none` if it did not
call it), and the channel with the status it computed. -/
def reconcile (r : Reconciler) (channel : KafkaChannel) :
    Option String × Option (List Subscription) × KafkaChannel :=
  match channel.subscribers with
  | none => (none, none, channel)
  | some subscribers =>
    let subscriptions := appendSubscriptions [] subscribers
    let failedSubscriptions := r.updateSubscriptions subscriptions
    let channel := { channel with
      status := { channel.status with
        subscribableStatus := createSubscribableStatus channel.subscribers failedSubscriptions } }
    (if 0 < failedSubscriptions.entries.length then some subscriptionsFailedError else none,
      some subscriptions, channel)

/-- `updateStatus`: its error, and the object it sent to `UpdateStatus`, if it sent one. -/
def updateStatus (r : Reconciler) (desired : KafkaChannel) : Option String × Option KafkaChannel :=
  match r.kafkaChannelsGet desired.metaNamespace desired.name with
  | .error err => (some err.message, none)
  | .ok kc =>
    if kc.status = desired.status then (none, none)
    else
      let existing := { kc with status := desired.status }
      (r.kafkaChannelsUpdateStatus existing, some existing)

/-- The event `Reconcile` records for the outcome of `reconcile`. -/
def reconcileEvent : Option String → Event
  | some reconcileError =>
    ⟨.warning, channelReconcileFailed, "KafkaChannel Reconciliation Failed: " ++ reconcileError⟩
  | none => ⟨.normal, channelReconciled, "KafkaChannel Reconciled"⟩

/-- The event `Reconcile` records when `updateStatus` fails. -/
def updateStatusFailedEvent (updateStatusErr : String) : Event :=
  ⟨.warning, channelUpdateStatusFailed,
    "Failed to update KafkaChannel\x27s status: " ++ updateStatusErr⟩

/-- What one `Reconcile` returns and does: the error it returns, the list it handed to
`UpdateSubscriptions`, the object it sent to `UpdateStatus`, and the events it recorded through
its `Recorder`, in order. -/
structure ReconcileResult where
  err : Option String
  subscriptions : Option (List Subscription)
  statusWrite : Option KafkaChannel
  events : List Event
deriving DecidableEq, Repr

/-- Lines 116–134 of `Reconcile`, once the checks pass: `reconcile` a deep copy of the channel,
record the outcome, and `updateStatus` the copy. The error of `reconcile` is only recorded. -/
def reconcileCopy (r : Reconciler) (original : KafkaChannel) : ReconcileResult :=
  let (reconcileError, subscriptions, channel) := r.reconcile (original.deepCopy r.heapNext)
  let (updateStatusErr, statusWrite) := r.updateStatus channel
  ⟨updateStatusErr, subscriptions, statusWrite,
    reconcileEvent reconcileError :: (updateStatusErr.map updateStatusFailedEvent).toList⟩

/-- `Reconcile`. -/
def Reconcile (r : Reconciler) (key : String) : ReconcileResult :=
  match splitMetaNamespaceKey key with
  | none => ⟨none, none, none, []⟩
  | some (ns, name) =>
    match r.kafkaChannelsGet ns name with
    | .error err => ⟨if err.isNotFound then none else some err.message, none, none, []⟩
    | .ok original =>
      if r.channelKey ≠ key then ⟨none, none, none, []⟩
      else if !original.status.ready then ⟨some channelNotReadyError, none, none, []⟩
      else r.reconcileCopy original

/-! ### Keys -/

private lemma not_mem_of_mem_splitOn {α : Type} [DecidableEq α] (x : α) (xs : List α) :
    ∀ l ∈ xs.splitOn x, x ∉ l := by
  induction xs with
  | nil => simp
  | cons a t ih =>
    simp only [List.splitOn, List.splitOnP_cons] at ih ⊢
    split_ifs with h
    · simpa using ih
    · obtain ⟨hd, tl, ht⟩ := List.exists_cons_of_ne_nil (List.splitOnP_ne_nil (· == x) t)
      rw [ht] at ih ⊢
      simp only [List.modifyHead_cons, List.mem_cons, forall_eq_or_imp, not_or] at ih ⊢
      exact ⟨⟨fun hx => h (by simp [hx]), ih.1⟩, ih.2⟩

/-- **Keys round-trip.** The key of a channel whose namespace and name have no `/` (as no
Kubernetes name has) splits back into that namespace and name. -/
theorem splitMetaNamespaceKey_metaNamespaceKey (ns name : String) (hns : '/' ∉ ns.toList)
    (hname : '/' ∉ name.toList) :
    splitMetaNamespaceKey (metaNamespaceKey ns name) = some (ns, name) := by
  unfold metaNamespaceKey splitMetaNamespaceKey
  split_ifs
  · have := List.splitOn_intercalate [name.toList] '/' (by simpa using hname) (by simp)
    simp_all [List.intercalate]
  · have := List.splitOn_intercalate [ns.toList, name.toList] '/' (by simp_all) (by simp)
    simp_all [List.intercalate]

theorem splitMetaNamespaceKey_metaNamespaceKey_default :
    '/' ∉ "default".toList ∧ '/' ∉ "kc".toList ∧
      splitMetaNamespaceKey (metaNamespaceKey "default" "kc") = some ("default", "kc") :=
  ⟨by decide, by decide,
    splitMetaNamespaceKey_metaNamespaceKey "default" "kc" (by decide) (by decide)⟩

/-- **What the key parser accepts is well formed.** A key that splits into `(ns, name)` is `name`
with `ns` empty, or `ns/name`, and neither part contains `/`. -/
theorem splitMetaNamespaceKey_eq_some {key ns name : String}
    (h : splitMetaNamespaceKey key = some (ns, name)) :
    '/' ∉ ns.toList ∧ '/' ∉ name.toList ∧
      (ns = "" ∧ key = name ∨ key = ns ++ "/" ++ name) := by
  unfold splitMetaNamespaceKey at h
  have hk := List.intercalate_splitOn key.toList '/'
  have hparts := not_mem_of_mem_splitOn '/' key.toList
  generalize key.toList.splitOn '/' = parts at h hk hparts
  rcases parts with _ | ⟨a, _ | ⟨b, _ | ⟨c, rest⟩⟩⟩ <;> simp at h <;>
    obtain ⟨rfl, rfl⟩ := h
  · -- `name`: the whole key is the one part
    simp only [List.intercalate, List.intersperse_singleton, List.flatten_cons, List.flatten_nil,
      List.append_nil] at hk
    subst hk
    simpa using hparts
  · -- `ns/name`: the key is the two parts around one `/`
    simp only [List.mem_cons, List.not_mem_nil, or_false, forall_eq_or_imp, forall_eq] at hparts
    refine ⟨by simpa using hparts.1, by simpa using hparts.2, Or.inr (String.ext ?_)⟩
    simpa [List.intercalate] using hk.symm

theorem splitMetaNamespaceKey_eq_some_default :
    splitMetaNamespaceKey "default/kc" = some ("default", "kc") ∧
      '/' ∉ "default".toList ∧ '/' ∉ "kc".toList ∧
      ("default" = "" ∧ "default/kc" = "kc" ∨ "default/kc" = "default" ++ "/" ++ "kc") :=
  have h : splitMetaNamespaceKey "default/kc" = some ("default", "kc") := by decide
  ⟨h, splitMetaNamespaceKey_eq_some h⟩

/-! ### What `reconcile` computes -/

/-- The Subscription of a subscriber, `{URI: SubscriberURI, GroupId: "kafka." + UID}`. -/
def subscriptionOf (s : SubscriberSpec) : Subscription := ⟨s.subscriberURI, "kafka." ++ s.uid⟩

/-- The status of subscriber `s` whose Subscription is `sub`, under the failure map `F`. -/
def subscriberStatusOf (F : FailureMap) (s : SubscriberSpec) (sub : Subscription) :
    SubscriberStatus :=
  match F.lookup sub with
  | some err => ⟨s.uid, s.generation, .conditionFalse, err⟩
  | none => ⟨s.uid, s.generation, .conditionTrue, ""⟩

@[simp] lemma subscriberStatusOf_uid (F : FailureMap) (s : SubscriberSpec) (sub : Subscription) :
    (subscriberStatusOf F s sub).uid = s.uid := by
  unfold subscriberStatusOf; split <;> rfl

lemma appendSubscriptions_eq (acc : List Subscription) (L : List SubscriberSpec) :
    appendSubscriptions acc L = acc ++ L.map subscriptionOf := by
  induction L generalizing acc with
  | nil => simp [appendSubscriptions]
  | cons s L ih => simp [appendSubscriptions, ih, subscriptionOf]

lemma appendSubscriberStatus_eq (F : FailureMap) (acc : List SubscriberStatus)
    (L : List SubscriberSpec) :
    appendSubscriberStatus F acc L =
      acc ++ L.map fun s => subscriberStatusOf F s (subscriptionOf s) := by
  induction L generalizing acc with
  | nil => simp [appendSubscriberStatus]
  | cons s L ih => simp [appendSubscriberStatus, ih, subscriberStatusOf, subscriptionOf]

/-- The status `reconcile` computes for the declared list `L` under the failure map `F`. -/
def subscriberStatuses (F : FailureMap) (L : List SubscriberSpec) : List SubscriberStatus :=
  L.map fun s => subscriberStatusOf F s (subscriptionOf s)

/-- What the failure map says of each subscriber of `L`: the error of its Subscription, if that
failed. -/
def outcomes (F : FailureMap) (L : List SubscriberSpec) : List (Option String) :=
  L.map fun s => F.lookup (subscriptionOf s)

/-- The status of a subscriber records its UID, its generation and the outcome of its
Subscription, and nothing else. -/
lemma subscriberStatusOf_eq_iff (F F' : FailureMap) {s s' : SubscriberSpec}
    (huid : s.uid = s'.uid) (hgen : s.generation = s'.generation) :
    subscriberStatusOf F s (subscriptionOf s) = subscriberStatusOf F' s' (subscriptionOf s') ↔
      F.lookup (subscriptionOf s) = F'.lookup (subscriptionOf s') := by
  unfold subscriberStatusOf
  split <;> split <;> simp_all

/-- For two lists of the same subscribers (UIDs and generations, in order), the statuses agree
exactly when the outcomes do. -/
lemma subscriberStatuses_eq_iff (F F' : FailureMap) {L L' : List SubscriberSpec}
    (hL : L.map (fun s => (s.uid, s.generation)) = L'.map fun s => (s.uid, s.generation)) :
    subscriberStatuses F L = subscriberStatuses F' L' ↔ outcomes F L = outcomes F' L' := by
  induction L generalizing L' with
  | nil => cases L' <;> simp_all [subscriberStatuses, outcomes]
  | cons s L ih =>
    cases L' with
    | nil => simp at hL
    | cons s' L' =>
      simp only [List.map_cons, List.cons.injEq, Prod.mk.injEq] at hL
      have ih' := ih hL.2
      simp only [subscriberStatuses, outcomes, List.map_cons, List.cons.injEq] at ih' ⊢
      rw [subscriberStatusOf_eq_iff F F' hL.1.1 hL.1.2, ih']

/-! ### Copies -/

/-- A copy keeps every UID and generation, in order. -/
@[simp] lemma map_copySubscribers {β : Type} (f : SubscriberSpec → β)
    (hf : ∀ s u, f { s with subscriberURI := u } = f s) (heapNext : ℕ) (L : List SubscriberSpec) :
    (copySubscribers heapNext L).map f = L.map f := by
  induction L generalizing heapNext <;> simp_all [copySubscribers]

section DeepCopy

variable (heapNext : ℕ) (channel : KafkaChannel)

/-- The copy of a channel has the copies of its subscribers, and its namespace, name and status. -/
@[simp] lemma deepCopy_subscribers :
    (channel.deepCopy heapNext).subscribers = channel.subscribers.map (copySubscribers heapNext) :=
  rfl

@[simp] lemma deepCopy_metaNamespace :
    (channel.deepCopy heapNext).metaNamespace = channel.metaNamespace := rfl

@[simp] lemma deepCopy_name : (channel.deepCopy heapNext).name = channel.name := rfl

@[simp] lemma deepCopy_status : (channel.deepCopy heapNext).status = channel.status := rfl

end DeepCopy

/-- **What `reconcile` does with a non-nil declared list.** It hands `UpdateSubscriptions` the
Subscriptions of `L`, fails exactly when the failure map is not empty, and changes only the
subscribable status of the channel. -/
lemma reconcile_of_some (r : Reconciler) (channel : KafkaChannel) (L : List SubscriberSpec)
    (hL : channel.subscribers = some L) :
    r.reconcile channel =
      (if 0 < (r.updateSubscriptions (L.map subscriptionOf)).entries.length
        then some subscriptionsFailedError else none,
      some (L.map subscriptionOf),
      { channel with status := { channel.status with subscribableStatus :=
        ⟨some (subscriberStatuses (r.updateSubscriptions (L.map subscriptionOf)) L)⟩ } }) := by
  simp [reconcile, hL, appendSubscriptions_eq, createSubscribableStatus, appendSubscriberStatus_eq,
    subscriberStatuses]

/-- `reconcile` changes only the status of the channel. -/
@[simp] lemma reconcile_metaNamespace (r : Reconciler) (channel : KafkaChannel) :
    (r.reconcile channel).2.2.metaNamespace = channel.metaNamespace := by
  unfold reconcile; split <;> rfl

@[simp] lemma reconcile_name (r : Reconciler) (channel : KafkaChannel) :
    (r.reconcile channel).2.2.name = channel.name := by
  unfold reconcile; split <;> rfl

/-- A nil declared list: `reconcile` neither calls `UpdateSubscriptions` nor changes the channel. -/
lemma reconcile_of_none (r : Reconciler) (channel : KafkaChannel)
    (hL : channel.subscribers = none) : r.reconcile channel = (none, none, channel) := by
  simp [reconcile, hL]

private lemma map_zip_map_self {α β γ : Type} (L : List α) (f : α → β)
    (g : α × β → γ) :
    (L.zip (L.map f)).map g = L.map fun a => g (a, f a) := by
  induction L <;> simp_all

/-- **The status of every declared list and failure map.** For a non-nil declared list `L`,
`reconcile` hands `UpdateSubscriptions` the list `subs` of the Subscriptions of `L`, and the
status it computes pairs each subscriber of `L`, in order, with the element of `subs` at the
same position: not ready with the error's message if that Subscription is a key of the failure
map, ready with an empty message otherwise. -/
theorem reconcile_subscribableStatus (r : Reconciler) (channel : KafkaChannel)
    (L : List SubscriberSpec) (hL : channel.subscribers = some L) :
    (r.reconcile channel).2.1 = some (L.map subscriptionOf) ∧
    (r.reconcile channel).2.2.status.subscribableStatus.subscribers =
      some ((L.zip (L.map subscriptionOf)).map fun p =>
        match (r.updateSubscriptions (L.map subscriptionOf)).lookup p.2 with
        | some err => ⟨p.1.uid, p.1.generation, .conditionFalse, err⟩
        | none => ⟨p.1.uid, p.1.generation, .conditionTrue, ""⟩) := by
  rw [reconcile_of_some r channel L hL, map_zip_map_self]
  exact ⟨rfl, rfl⟩

/-- The subscribers `u1` and `u2`, each with its own URL object, at addresses `0` and `1`. -/
def u1 : SubscriberSpec := ⟨"u1", 1, some 0⟩
def u2 : SubscriberSpec := ⟨"u2", 1, some 1⟩

/-- A ready channel `default/kc` whose only subscriber is `u1`, with no subscribable status yet. -/
def oneSubscriberChannel : KafkaChannel := ⟨"default", "kc", some [u1], ⟨true, ⟨none⟩⟩⟩

/-- The ready channel `default/kc` with the subscribers `u1` and `u2`. -/
def twoSubscriberChannel : KafkaChannel := ⟨"default", "kc", some [u1, u2], ⟨true, ⟨none⟩⟩⟩

/-- A dispatcher that fails to start the consumer group `kafka.u1`: its failure map holds the
Subscriptions with that group among those it is handed. -/
def failU1 (subscriptions : List Subscription) : FailureMap :=
  (subscriptions.filter fun sub => sub.groupId = "kafka.u1").foldr
    (fun sub F => F.insert sub "start failed") ∅

/-- The dispatcher of `default/kc`, for which starting the consumer group of `u1` fails, and
whose status writes succeed. -/
def failingReconciler : Reconciler where
  channelKey := "default/kc"
  kafkaChannelsGet _ _ := .ok oneSubscriberChannel
  updateSubscriptions := failU1
  kafkaChannelsUpdateStatus _ := none
  heapNext := 2

theorem reconcile_subscribableStatus_twoSubscriberChannel :
    twoSubscriberChannel.subscribers = some [u1, u2] ∧
    (failingReconciler.reconcile twoSubscriberChannel).2.1 = some ([u1, u2].map subscriptionOf) ∧
    (failingReconciler.reconcile twoSubscriberChannel).2.2.status.subscribableStatus.subscribers =
      some (([u1, u2].zip ([u1, u2].map subscriptionOf)).map fun p =>
        match (failingReconciler.updateSubscriptions ([u1, u2].map subscriptionOf)).lookup p.2 with
        | some err => ⟨p.1.uid, p.1.generation, .conditionFalse, err⟩
        | none => ⟨p.1.uid, p.1.generation, .conditionTrue, ""⟩) :=
  ⟨rfl, reconcile_subscribableStatus failingReconciler twoSubscriberChannel [u1, u2] rfl⟩

/-- `u1` failed and is not ready; `u2` is ready. -/
example : (failingReconciler.reconcile twoSubscriberChannel).2.2.status.subscribableStatus =
    ⟨some [⟨"u1", 1, .conditionFalse, "start failed"⟩, ⟨"u2", 1, .conditionTrue, ""⟩]⟩ := by
  decide

/-- A failure keyed by a Subscription with another URL object, though of the same text and
group, marks no subscriber: `u2` is ready. -/
example : (createSubscribableStatus (some [u2])
    ((∅ : FailureMap).insert ⟨some 7, "kafka.u2"⟩ "start failed")) =
    ⟨some [⟨"u2", 1, .conditionTrue, ""⟩]⟩ := by
  decide

/-- **Each subscriber its own consumer group.** For every channel with a non-nil subscriber
list `L`, the Subscriptions `reconcile` hands `UpdateSubscriptions` have pairwise distinct
consumer groups exactly when the subscribers of `L` have pairwise distinct UIDs. -/
theorem reconcile_groupIds_nodup (r : Reconciler) (channel : KafkaChannel)
    (L : List SubscriberSpec) (hL : channel.subscribers = some L) :
    ∃ subscriptions, (r.reconcile channel).2.1 = some subscriptions ∧
      ((subscriptions.map Subscription.groupId).Nodup ↔ (L.map SubscriberSpec.uid).Nodup) := by
  refine ⟨_, by rw [reconcile_of_some r channel L hL], ?_⟩
  -- the consumer group `kafka.<UID>` determines the UID
  have hinj : Function.Injective fun uid : String => "kafka." ++ uid := fun a b h =>
    String.ext (List.append_cancel_left (congrArg String.data h :
      "kafka.".data ++ a.data = "kafka.".data ++ b.data))
  have hgroups : (L.map subscriptionOf).map Subscription.groupId =
      (L.map SubscriberSpec.uid).map fun uid => "kafka." ++ uid := by
    simp [subscriptionOf]
  rw [hgroups]
  exact List.nodup_map_iff hinj

theorem reconcile_groupIds_nodup_oneSubscriberChannel :
    oneSubscriberChannel.subscribers = some [u1] ∧ ∃ subscriptions,
      (failingReconciler.reconcile oneSubscriberChannel).2.1 = some subscriptions ∧
      ((subscriptions.map Subscription.groupId).Nodup ↔ ([u1].map SubscriberSpec.uid).Nodup) :=
  ⟨rfl, reconcile_groupIds_nodup failingReconciler oneSubscriberChannel [u1] rfl⟩

/-! ### `updateStatus` and `Reconcile` -/

/-- `updateStatus` writes nothing when the stored status already equals the computed one. -/
lemma updateStatus_of_status_eq (r : Reconciler) (desired kc : KafkaChannel)
    (hget : r.kafkaChannelsGet desired.metaNamespace desired.name = .ok kc)
    (heq : kc.status = desired.status) : r.updateStatus desired = (none, none) := by
  simp [updateStatus, hget, heq]

/-- `updateStatus` otherwise sends the stored channel with the computed status. -/
lemma updateStatus_of_status_ne (r : Reconciler) (desired kc : KafkaChannel)
    (hget : r.kafkaChannelsGet desired.metaNamespace desired.name = .ok kc)
    (hne : kc.status ≠ desired.status) :
    r.updateStatus desired = (r.kafkaChannelsUpdateStatus { kc with status := desired.status },
      some { kc with status := desired.status }) := by
  simp [updateStatus, hget, hne]

section ReconcileCopy

variable (r : Reconciler) (original : KafkaChannel)

@[simp] lemma reconcileCopy_err : (r.reconcileCopy original).err =
    (r.updateStatus (r.reconcile (original.deepCopy r.heapNext)).2.2).1 := rfl

@[simp] lemma reconcileCopy_subscriptions : (r.reconcileCopy original).subscriptions =
    (r.reconcile (original.deepCopy r.heapNext)).2.1 := rfl

@[simp] lemma reconcileCopy_statusWrite : (r.reconcileCopy original).statusWrite =
    (r.updateStatus (r.reconcile (original.deepCopy r.heapNext)).2.2).2 := rfl

end ReconcileCopy

/-- **`Reconcile` returns only the error of `updateStatus`.** Once the key is the dispatcher's
own and its channel is ready, `Reconcile` runs `reconcile` on a copy of the channel and
`updateStatus`, and returns the error of `updateStatus`: the error of `reconcile`, for failed
Subscriptions, is only recorded as an event. -/
theorem Reconcile_eq (r : Reconciler) (key ns name : String) (original : KafkaChannel)
    (hkey : splitMetaNamespaceKey key = some (ns, name))
    (hget : r.kafkaChannelsGet ns name = .ok original) (hown : r.channelKey = key)
    (hready : original.status.ready = true) :
    r.Reconcile key = r.reconcileCopy original := by
  simp [Reconcile, hkey, hget, hown, hready]

/-- What one `Reconcile` can do: stop at a check, calling neither the dispatcher nor the
clientset and recording no event, or pass the checks on the dispatcher's own ready channel. -/
lemma Reconcile_cases (r : Reconciler) (key : String) :
    ((r.Reconcile key).subscriptions = none ∧ (r.Reconcile key).statusWrite = none ∧
        (r.Reconcile key).events = []) ∨
      ∃ ns name original, splitMetaNamespaceKey key = some (ns, name) ∧
        r.kafkaChannelsGet ns name = .ok original ∧ r.channelKey = key ∧
        original.status.ready = true := by
  cases hkey : splitMetaNamespaceKey key with
  | none => simp [Reconcile, hkey]
  | some p =>
    obtain ⟨ns, name⟩ := p
    cases hget : r.kafkaChannelsGet ns name with
    | error err => simp [Reconcile, hkey, hget]
    | ok original =>
      by_cases hown : r.channelKey = key
      · cases hready : original.status.ready
        · simp [Reconcile, hkey, hget, hown, hready]
        · exact .inr ⟨ns, name, original, rfl, hget, hown, hready⟩
      · simp [Reconcile, hkey, hget, hown]

/-- What `updateStatus` sends: the channel the lister returns with the computed status, and only
when that status differs from the stored one. -/
lemma updateStatus_snd_eq_some {r : Reconciler} {desired w : KafkaChannel}
    (h : (r.updateStatus desired).2 = some w) :
    ∃ kc, r.kafkaChannelsGet desired.metaNamespace desired.name = .ok kc ∧
      kc.status ≠ desired.status ∧ w = { kc with status := desired.status } := by
  cases hget : r.kafkaChannelsGet desired.metaNamespace desired.name with
  | error err => simp [updateStatus, hget] at h
  | ok kc =>
    by_cases heq : kc.status = desired.status
    · simp [updateStatus_of_status_eq r desired kc hget heq] at h
    · rw [updateStatus_of_status_ne r desired kc hget heq, Option.some.injEq] at h
      exact ⟨kc, rfl, heq, h.symm⟩

/-- **A status write replaces the subscribable status and nothing else.** If the lister files
each channel under its own namespace and name, every object `Reconcile` sends to `UpdateStatus`
is the channel the lister returned with its subscribable status replaced by the one `reconcile`
computes for the channel's non-nil subscriber list `L` from the dispatcher's failure map, and is
sent only when that status differs from the stored one. A channel whose subscriber list is nil
is never written. -/
theorem Reconcile_statusWrite_eq (r : Reconciler) (key : String) {w : KafkaChannel}
    (hself : ∀ ns name channel, r.kafkaChannelsGet ns name = .ok channel →
      channel.metaNamespace = ns ∧ channel.name = name)
    (hw : (r.Reconcile key).statusWrite = some w) :
    ∃ ns name original L, splitMetaNamespaceKey key = some (ns, name) ∧
      r.kafkaChannelsGet ns name = .ok original ∧ original.subscribers = some L ∧
      w = { original with status := { original.status with subscribableStatus :=
        ⟨some (subscriberStatuses
          (r.updateSubscriptions ((copySubscribers r.heapNext L).map subscriptionOf))
          (copySubscribers r.heapNext L))⟩ } } ∧
      w.status ≠ original.status := by
  rcases Reconcile_cases r key with h | ⟨ns, name, original, hkey, hget, hown, hready⟩
  · simp [h.2.1] at hw
  rw [Reconcile_eq r key ns name original hkey hget hown hready] at hw
  -- the lister returns `original` again when `updateStatus` reads it back
  obtain ⟨hns, hname⟩ := hself ns name original hget
  have hback : r.kafkaChannelsGet original.metaNamespace original.name = .ok original := by
    rw [hns, hname, hget]
  cases hL : original.subscribers with
  | none =>
    have hc : (original.deepCopy r.heapNext).subscribers = none := by simp [hL]
    rw [reconcileCopy_statusWrite, reconcile_of_none r _ hc,
      updateStatus_of_status_eq r (original.deepCopy r.heapNext) original hback rfl] at hw
    cases hw
  | some L =>
    have hc : (original.deepCopy r.heapNext).subscribers =
        some (copySubscribers r.heapNext L) := by simp [hL]
    rw [reconcileCopy_statusWrite, reconcile_of_some r _ _ hc] at hw
    obtain ⟨kc, hkc, hne, rfl⟩ := updateStatus_snd_eq_some hw
    obtain rfl : kc = original := by simpa [hback] using hkc.symm
    exact ⟨ns, name, kc, L, hkey, hget, hL, rfl, Ne.symm hne⟩

/-- `failingReconciler` with a lister that files `oneSubscriberChannel` under its own namespace
and name, and answers NotFound for any other. -/
def filingReconciler : Reconciler :=
  { failingReconciler with
    kafkaChannelsGet := fun ns name =>
      if ns = "default" ∧ name = "kc" then .ok oneSubscriberChannel else .error ⟨true, "not found"⟩ }

theorem Reconcile_statusWrite_eq_filingReconciler :
    (∀ ns name channel, filingReconciler.kafkaChannelsGet ns name = .ok channel →
      channel.metaNamespace = ns ∧ channel.name = name) ∧
    (filingReconciler.Reconcile "default/kc").statusWrite =
      some { oneSubscriberChannel with
        status := ⟨true, ⟨some [⟨"u1", 1, .conditionFalse, "start failed"⟩]⟩⟩ } ∧
    ∃ ns name original L, splitMetaNamespaceKey "default/kc" = some (ns, name) ∧
      filingReconciler.kafkaChannelsGet ns name = .ok original ∧ original.subscribers = some L ∧
      { oneSubscriberChannel with
          status := ⟨true, ⟨some [⟨"u1", 1, .conditionFalse, "start failed"⟩]⟩⟩ } =
        { original with status := { original.status with subscribableStatus :=
          ⟨some (subscriberStatuses
            (filingReconciler.updateSubscriptions
              ((copySubscribers filingReconciler.heapNext L).map subscriptionOf))
            (copySubscribers filingReconciler.heapNext L))⟩ } } ∧
      (⟨true, ⟨some [⟨"u1", 1, .conditionFalse, "start failed"⟩]⟩⟩ : KafkaChannelStatus) ≠
        original.status :=
  have hself : ∀ ns name channel, filingReconciler.kafkaChannelsGet ns name = .ok channel →
      channel.metaNamespace = ns ∧ channel.name = name := by
    intro ns name channel h
    by_cases hn : ns = "default" ∧ name = "kc"
    · obtain ⟨rfl, rfl⟩ := hn
      cases h
      exact ⟨rfl, rfl⟩
    · simp [filingReconciler, hn] at h
  have hw : (filingReconciler.Reconcile "default/kc").statusWrite =
      some { oneSubscriberChannel with
        status := ⟨true, ⟨some [⟨"u1", 1, .conditionFalse, "start failed"⟩]⟩⟩ } := by
    decide
  ⟨hself, hw, Reconcile_statusWrite_eq filingReconciler "default/kc" hself hw⟩

/-- The Subscription of `u1` failed and `reconcile` says so, yet `Reconcile` returns `nil`, so
the key is not requeued. -/
theorem Reconcile_drops_subscription_failure :
    (failingReconciler.reconcile oneSubscriberChannel).1 = some subscriptionsFailedError ∧
      (failingReconciler.Reconcile "default/kc").err = none := by
  decide

/-- The failure `Reconcile` drops is still reported, as a warning event. -/
example : (failingReconciler.Reconcile "default/kc").events =
    [⟨.warning, channelReconcileFailed,
      "KafkaChannel Reconciliation Failed: Some kafka subscriptions failed to subscribe"⟩] := by
  decide

/-! ### Other channels -/

/-- The key of a channel with a namespace: the namespace, `/`, and the name. -/
lemma toList_metaNamespaceKey {ns : String} (name : String) (hn : ns ≠ "") :
    (metaNamespaceKey ns name).toList = ns.toList ++ '/' :: name.toList := by
  simp [metaNamespaceKey, hn]

/-- Distinct channels, with no `/` in their namespaces and names, have distinct keys: a key
with a namespace has a `/`, and splits at its first one. -/
lemma metaNamespaceKey_inj {ns name ns' name' : String} (hns : '/' ∉ ns.toList)
    (hname : '/' ∉ name.toList) (hname' : '/' ∉ name'.toList)
    (h : metaNamespaceKey ns name = metaNamespaceKey ns' name') : ns = ns' ∧ name = name' := by
  have slash {ns : String} (name : String) (hn : ns ≠ "") :
      '/' ∈ (metaNamespaceKey ns name).toList := by
    rw [toList_metaNamespaceKey name hn]; simp
  by_cases h0 : ns = "" <;> by_cases h0' : ns' = ""
  · simp_all [metaNamespaceKey]
  · rw [show metaNamespaceKey ns name = name from if_pos h0] at h
    exact absurd (h ▸ slash name' h0') hname
  · rw [show metaNamespaceKey ns' name' = name' from if_pos h0'] at h
    exact absurd (h ▸ slash name h0) hname'
  · have hl : ns.toList ++ '/' :: name.toList = ns'.toList ++ '/' :: name'.toList := by
      rw [← toList_metaNamespaceKey name h0, ← toList_metaNamespaceKey name' h0', h]
    obtain ⟨h1, -, h2⟩ := (List.append_cons_inj_of_not_mem hns hname).1 hl
    exact ⟨String.ext h1, String.ext h2⟩

/-- A key other than the dispatcher's own makes `Reconcile` hand nothing to the dispatcher,
write no status and record no event. -/
lemma Reconcile_of_channelKey_ne (r : Reconciler) {key : String} (hkey : r.channelKey ≠ key) :
    (r.Reconcile key).subscriptions = none ∧ (r.Reconcile key).statusWrite = none ∧
      (r.Reconcile key).events = [] := by
  rcases Reconcile_cases r key with h | ⟨-, -, -, -, -, hown, -⟩
  · exact h
  · exact absurd hown hkey

/-- **Other channels do not disturb the dispatcher.** Every add, update or delete of a
KafkaChannel other than the dispatcher's own (namespaces and names without `/`, as Kubernetes
names are) enqueues a key on which `Reconcile` hands nothing to `UpdateSubscriptions`, sends no
status to `UpdateStatus` and records no event, whatever the lister holds. -/
theorem Reconcile_other_channel (r : Reconciler) {ns name ns₀ name₀ : String}
    (hname : '/' ∉ name.toList) (hns₀ : '/' ∉ ns₀.toList)
    (hname₀ : '/' ∉ name₀.toList) (hown : r.channelKey = metaNamespaceKey ns₀ name₀)
    (hother : (ns, name) ≠ (ns₀, name₀)) :
    (r.Reconcile (metaNamespaceKey ns name)).subscriptions = none ∧
      (r.Reconcile (metaNamespaceKey ns name)).statusWrite = none ∧
      (r.Reconcile (metaNamespaceKey ns name)).events = [] :=
  Reconcile_of_channelKey_ne r fun h => hother <| by
    obtain ⟨rfl, rfl⟩ := metaNamespaceKey_inj hns₀ hname₀ hname (hown ▸ h)
    rfl

theorem Reconcile_other_channel_failingReconciler :
    '/' ∉ "other".toList ∧ '/' ∉ "default".toList ∧ '/' ∉ "kc".toList ∧
    failingReconciler.channelKey = metaNamespaceKey "default" "kc" ∧
    ("default", "other") ≠ ("default", "kc") ∧
    (failingReconciler.Reconcile (metaNamespaceKey "default" "other")).subscriptions = none ∧
      (failingReconciler.Reconcile (metaNamespaceKey "default" "other")).statusWrite = none ∧
      (failingReconciler.Reconcile (metaNamespaceKey "default" "other")).events = [] :=
  have hd : '/' ∉ "default".toList := by decide
  have ho : '/' ∉ "other".toList := by decide
  have hk : '/' ∉ "kc".toList := by decide
  have hown : failingReconciler.channelKey = metaNamespaceKey "default" "kc" := by decide
  have hne : ("default", "other") ≠ ("default", "kc") := by decide
  ⟨ho, hd, hk, hown, hne, Reconcile_other_channel failingReconciler ho hd hk hown hne⟩

end Reconciler

end Controller
