import KnativeKafka.Controller.Reconciler

/-!
# Runs of `Reconcile` on the dispatcher's own channel

The informer enqueues the dispatcher's channel key each time the KafkaChannel changes, and the
work queue calls `Reconcile` with it. This module follows the channel through any sequence of
such calls: before each call the subscriber list is declared anew (nil included), the
dispatcher answers each call as it may, the lister returns what was stored last, and every
status write is stored.

## Main definitions

* `Controller.ChannelWorld` — the stored channel, the list last handed to the dispatcher, and
  the heap's next address.
* `Controller.Call` — one call: the list declared before it and the dispatcher's answer.
* `Controller.ChannelWorld.step`, `Controller.ChannelWorld.run` — declare a list, then call
  `Reconcile`; a sequence of such calls.
* `Controller.ChannelWorld.Tracks` — the key names the stored channel, and the channel is ready.
* `Controller.lastDeclared` — the last call of a sequence that declared a non-nil list.

## Main results

* `Controller.ChannelWorld.step_of_some`, `Controller.ChannelWorld.step_of_none` — one call: a
  copy of a non-nil list is handed to the dispatcher and its status stored; after a nil list
  nothing changes but the declaration.
* `Controller.ChannelWorld.run_reflects_lastDeclared` — after any sequence of calls the
  dispatcher was last handed the Subscriptions of the copy of the last non-nil declared list,
  and the stored status is the one `reconcile` computes for it from the answer of that call; if
  no list was non-nil, both are as they were at the start.
* `Controller.ChannelWorld.run_keeps_removed_subscriber` — declaring `u1` and then a nil list
  leaves `kafka.u1` subscribed and `u1` in the status.
* `Controller.ChannelWorld.Reconcile_after_run` — a further call with nothing declared anew
  writes the status exactly when the dispatcher's answer changes a subscriber's outcome.

## Implementation notes

The lister holds one channel and answers `NotFound` for every other name, and status writes
succeed. Each call copies the channel, so the dispatcher is handed new URL objects every time;
a call moves `heapNext` past every address its copy may take.
-/

set_option autoImplicit false

namespace Controller

/-- The state that runs of `Reconcile` read and write: the channel the lister returns, the list
last handed to `UpdateSubscriptions` (`none` before the first call), and the first address the
heap has not handed out. -/
structure ChannelWorld where
  channel : KafkaChannel
  subscriptions : Option (List Subscription)
  heapNext : ℕ
deriving DecidableEq, Repr

/-- One call of the work queue: the subscriber list declared before it (`none` when nil), and
how the dispatcher's `UpdateSubscriptions` answers during it. -/
structure Call where
  declared : Option (List SubscriberSpec)
  updateSubscriptions : List Subscription → FailureMap

/-- The error of the lister for a channel it does not hold. -/
def notFoundError : ListerError := ⟨true, "kafkachannel not found"⟩

/-- The last call of a sequence that declared a non-nil list: that list, and the dispatcher's
answer during that call. -/
def lastDeclared (calls : List Call) :
    Option (List SubscriberSpec × (List Subscription → FailureMap)) :=
  (calls.filterMap fun call => call.declared.map fun L => (L, call.updateSubscriptions)).getLast?

@[simp] lemma lastDeclared_nil : lastDeclared [] = none := rfl

@[simp] lemma lastDeclared_append_singleton (calls : List Call) (call : Call) :
    lastDeclared (calls ++ [call]) =
      (call.declared.map fun L => (L, call.updateSubscriptions)).or (lastDeclared calls) := by
  cases h : call.declared <;> simp [lastDeclared, h]

/-- What a dispatcher answering `ans` says of each subscriber of `L` when it is handed the
Subscriptions of the copy of `L` made from `heapNext`. -/
def answerOutcomes (ans : List Subscription → FailureMap) (heapNext : ℕ)
    (L : List SubscriberSpec) : List (Option String) :=
  Reconciler.outcomes (ans ((copySubscribers heapNext L).map Reconciler.subscriptionOf))
    (copySubscribers heapNext L)

namespace ChannelWorld

open Reconciler

variable (key : String)

/-- The reconciler of the dispatcher with key `key` over the world `w`, during a call in which
`UpdateSubscriptions` answers `updateSubscriptions`: the lister holds only `w.channel`, and
status writes succeed. -/
def reconciler (w : ChannelWorld) (updateSubscriptions : List Subscription → FailureMap) :
    Reconciler where
  channelKey := key
  kafkaChannelsGet ns name :=
    if ns = w.channel.metaNamespace ∧ name = w.channel.name then .ok w.channel
    else .error notFoundError
  updateSubscriptions := updateSubscriptions
  kafkaChannelsUpdateStatus _ := none
  heapNext := w.heapNext

/-- The subscriber list `declared` is written into the channel's spec. -/
def declare (w : ChannelWorld) (declared : Option (List SubscriberSpec)) : ChannelWorld :=
  { w with channel := { w.channel with subscribers := declared } }

/-- One call: declare the call's list, call `Reconcile key`, and store what it wrote. -/
def step (w : ChannelWorld) (call : Call) : ChannelWorld :=
  let w := w.declare call.declared
  let result := (reconciler key w call.updateSubscriptions).Reconcile key
  ⟨result.statusWrite.getD w.channel, result.subscriptions.or w.subscriptions,
    w.heapNext + (call.declared.getD []).length⟩

/-- A sequence of calls. -/
def run (w : ChannelWorld) (calls : List Call) : ChannelWorld :=
  calls.foldl (step key) w

/-- What every call keeps: `key` names the stored channel, and the channel is ready. -/
structure Tracks (w : ChannelWorld) : Prop where
  key_eq : splitMetaNamespaceKey key = some (w.channel.metaNamespace, w.channel.name)
  ready : w.channel.status.ready = true

/-- `w` shows the last non-nil declaration over the initial world `w₀`. For a list `L` answered
by `ans`, the dispatcher was last handed the Subscriptions of the copy of `L` made then, whose
addresses are the last `L.length` the heap handed out, and the status is the one `reconcile`
computes for that copy from `ans`. For none, both are those of `w₀`. -/
def Reflects (w₀ : ChannelWorld) :
    Option (List SubscriberSpec × (List Subscription → FailureMap)) → ChannelWorld → Prop
  | some (L, ans), w =>
    w.subscriptions = some ((copySubscribers (w.heapNext - L.length) L).map subscriptionOf) ∧
      w.channel.status.subscribableStatus =
        ⟨some (subscriberStatuses
          (ans ((copySubscribers (w.heapNext - L.length) L).map subscriptionOf))
          (copySubscribers (w.heapNext - L.length) L))⟩
  | none, w => w.subscriptions = w₀.subscriptions ∧
      w.channel.status.subscribableStatus = w₀.channel.status.subscribableStatus

/-! ### One call -/

variable {key}

lemma Tracks.declare {w : ChannelWorld} (h : Tracks key w)
    (declared : Option (List SubscriberSpec)) :
    Tracks key (w.declare declared) :=
  ⟨h.key_eq, h.ready⟩

/-- `Reconcile` of a tracked world reconciles a copy of the stored channel. -/
lemma Reconcile_of_tracks {w : ChannelWorld} (h : Tracks key w)
    (ans : List Subscription → FailureMap) :
    (reconciler key w ans).Reconcile key = (reconciler key w ans).reconcileCopy w.channel :=
  Reconcile_eq _ key _ _ w.channel h.key_eq (by simp [reconciler]) rfl h.ready

@[simp] lemma reconciler_heapNext (w : ChannelWorld) (ans : List Subscription → FailureMap) :
    (reconciler key w ans).heapNext = w.heapNext := rfl

/-- **One call on a tracked world.** `Reconcile` returns nil, hands the dispatcher what
`reconcile` hands it for a copy of the stored channel, and leaves the stored channel with the
status `reconcile` computes, writing it exactly when it differs from the stored one. -/
lemma Reconcile_spec {w : ChannelWorld} (h : Tracks key w) (ans : List Subscription → FailureMap) :
    ((reconciler key w ans).Reconcile key).err = none ∧
    ((reconciler key w ans).Reconcile key).subscriptions =
      ((reconciler key w ans).reconcile (w.channel.deepCopy w.heapNext)).2.1 ∧
    ((reconciler key w ans).Reconcile key).statusWrite.getD w.channel =
      { w.channel with status :=
        ((reconciler key w ans).reconcile (w.channel.deepCopy w.heapNext)).2.2.status } ∧
    (((reconciler key w ans).Reconcile key).statusWrite = none ↔
      w.channel.status =
        ((reconciler key w ans).reconcile (w.channel.deepCopy w.heapNext)).2.2.status) := by
  have hget : (reconciler key w ans).kafkaChannelsGet
      ((reconciler key w ans).reconcile (w.channel.deepCopy w.heapNext)).2.2.metaNamespace
      ((reconciler key w ans).reconcile (w.channel.deepCopy w.heapNext)).2.2.name =
        .ok w.channel := by
    simp [reconciler]
  rw [Reconcile_of_tracks h, reconcileCopy_err, reconcileCopy_subscriptions,
    reconcileCopy_statusWrite, reconciler_heapNext]
  by_cases hs : w.channel.status =
      ((reconciler key w ans).reconcile (w.channel.deepCopy w.heapNext)).2.2.status
  · rw [updateStatus_of_status_eq _ _ _ hget hs, ← hs]
    exact ⟨rfl, rfl, rfl, iff_of_true rfl rfl⟩
  · rw [updateStatus_of_status_ne _ _ _ hget hs]
    exact ⟨rfl, rfl, rfl, iff_of_false (Option.some_ne_none _) hs⟩

/-- One call on a tracked world stores the declaration and the status `reconcile` computes for a
copy of the channel, and records what it handed the dispatcher. -/
lemma step_eq {w : ChannelWorld} (h : Tracks key w) (call : Call) :
    step key w call =
      ⟨{ w.channel with subscribers := call.declared, status :=
          ((reconciler key (w.declare call.declared) call.updateSubscriptions).reconcile
            ((w.declare call.declared).channel.deepCopy w.heapNext)).2.2.status },
        ((reconciler key (w.declare call.declared) call.updateSubscriptions).reconcile
          ((w.declare call.declared).channel.deepCopy w.heapNext)).2.1.or w.subscriptions,
        w.heapNext + (call.declared.getD []).length⟩ := by
  obtain ⟨-, hsubs, hstore, -⟩ := Reconcile_spec (h.declare call.declared) call.updateSubscriptions
  simp only [step, hsubs, hstore]
  rfl

/-- **A call with a non-nil list `L`** hands the dispatcher the Subscriptions of a copy of `L`
with new URLs from `heapNext` on, and stores the status `reconcile` computes for the copy from
the dispatcher's answer. -/
theorem step_of_some {w : ChannelWorld} (h : Tracks key w) (L : List SubscriberSpec)
    (ans : List Subscription → FailureMap) :
    step key w ⟨some L, ans⟩ =
      ⟨{ w.channel with subscribers := some L, status := { w.channel.status with
          subscribableStatus := ⟨some (subscriberStatuses
            (ans ((copySubscribers w.heapNext L).map subscriptionOf))
            (copySubscribers w.heapNext L))⟩ } },
        some ((copySubscribers w.heapNext L).map subscriptionOf), w.heapNext + L.length⟩ := by
  rw [step_eq h, reconcile_of_some _ _ (copySubscribers w.heapNext L) rfl]
  rfl

/-- **A call with a nil list** changes nothing but the declaration: the dispatcher is not called
and the status is not written. -/
theorem step_of_none {w : ChannelWorld} (h : Tracks key w) (ans : List Subscription → FailureMap) :
    step key w ⟨none, ans⟩ = w.declare none := by
  rw [step_eq h, reconcile_of_none _ _ rfl]
  rfl

lemma Tracks.step {w : ChannelWorld} (h : Tracks key w) (call : Call) :
    Tracks key (step key w call) := by
  obtain ⟨_ | L, ans⟩ := call
  · rw [step_of_none h]; exact h.declare none
  · rw [step_of_some h]; exact ⟨h.key_eq, h.ready⟩

lemma Reflects.step {w₀ w : ChannelWorld}
    {last : Option (List SubscriberSpec × (List Subscription → FailureMap))}
    (hw : Reflects w₀ last w) (h : Tracks key w) (call : Call) :
    Reflects w₀ ((call.declared.map fun L => (L, call.updateSubscriptions)).or last)
      (step key w call) := by
  obtain ⟨_ | L, ans⟩ := call
  · rw [step_of_none h]
    cases last <;> exact hw
  · rw [step_of_some h]
    simp only [Reflects, Nat.add_sub_cancel, Option.map_some', Option.or_some, and_self]

/-! ### Runs -/

lemma run_append_singleton (w : ChannelWorld) (calls : List Call) (call : Call) :
    run key w (calls ++ [call]) = step key (run key w calls) call :=
  List.foldl_append _ _ _ _

lemma Tracks.run {w : ChannelWorld} (h : Tracks key w) (calls : List Call) :
    Tracks key (run key w calls) := by
  induction calls using List.reverseRecOn with
  | nil => exact h
  | append_singleton calls call ih =>
    rw [run_append_singleton]
    exact ih.step call

/-- The ready channel `default/kc`, with no subscribers declared and no status yet, before any
call; the URLs of `u1` and `u2` are the heap's first two objects. -/
def initialWorld : ChannelWorld := ⟨⟨"default", "kc", none, ⟨true, ⟨none⟩⟩⟩, none, 2⟩

/-- Declare `u1`, then nothing, with a dispatcher that starts every Subscription. -/
def declareThenRemove : List Call := [⟨some [u1], fun _ => ∅⟩, ⟨none, fun _ => ∅⟩]

/-- **Runs follow the last non-nil declaration.** From a world whose key names its ready channel,
after any sequence of calls, however the dispatcher answers each, the channel is still named by
the key and ready. If some call declared a non-nil list, then for the last such call, with list
`L` and answer `ans`: the dispatcher was last handed the Subscriptions of the copy of `L` made
during that call, in order, and the stored status is the one `reconcile` computes for that copy
from `ans` (one entry per subscriber of `L`, in order). Otherwise both are as they were at the
start. A nil declaration changes neither. -/
theorem run_reflects_lastDeclared (key : String) (w : ChannelWorld) (calls : List Call)
    (h : Tracks key w) :
    Tracks key (run key w calls) ∧ Reflects w (lastDeclared calls) (run key w calls) := by
  refine ⟨h.run calls, ?_⟩
  induction calls using List.reverseRecOn with
  | nil => exact ⟨rfl, rfl⟩
  | append_singleton calls call ih =>
    rw [run_append_singleton, lastDeclared_append_singleton]
    exact ih.step (h.run calls) call

theorem run_reflects_lastDeclared_initialWorld :
    Tracks "default/kc" initialWorld ∧
      Tracks "default/kc" (run "default/kc" initialWorld declareThenRemove) ∧
      Reflects initialWorld (lastDeclared declareThenRemove)
        (run "default/kc" initialWorld declareThenRemove) :=
  have h : Tracks "default/kc" initialWorld := ⟨by decide, rfl⟩
  ⟨h, run_reflects_lastDeclared "default/kc" initialWorld declareThenRemove h⟩

/-- Declaring `u1` and then a nil list, with every Subscription and status write succeeding,
leaves the dispatcher subscribed to `kafka.u1` (with the copy of `u1`'s URL) and `u1` listed as
ready, though nothing is declared. -/
theorem run_keeps_removed_subscriber :
    (run "default/kc" initialWorld declareThenRemove).channel.subscribers = none ∧
    (run "default/kc" initialWorld declareThenRemove).subscriptions =
      some [⟨some 2, "kafka.u1"⟩] ∧
    (run "default/kc" initialWorld declareThenRemove).channel.status.subscribableStatus =
      ⟨some [⟨"u1", 1, .conditionTrue, ""⟩]⟩ := by
  decide

/-- **A further call rewrites the status exactly when an outcome changed.** After any run whose
last call declared a non-nil list `L` and was answered `ans`, one more `Reconcile` with nothing
declared anew, answered `ans'`, returns nil and hands the dispatcher the Subscriptions of a new
copy of `L`. It writes no status exactly when every subscriber of `L` has the same outcome (the
error of its Subscription, or none) under `ans'` as it had under `ans`: a retry that succeeds
where the last call failed, or fails with another error, rewrites the status. -/
theorem Reconcile_after_run {w : ChannelWorld} (h : Tracks key w) (calls : List Call)
    (L : List SubscriberSpec) (ans ans' : List Subscription → FailureMap) :
    ((reconciler key (run key w (calls ++ [⟨some L, ans⟩])) ans').Reconcile key).err = none ∧
    ((reconciler key (run key w (calls ++ [⟨some L, ans⟩])) ans').Reconcile key).subscriptions =
      some ((copySubscribers ((run key w calls).heapNext + L.length) L).map subscriptionOf) ∧
    (((reconciler key (run key w (calls ++ [⟨some L, ans⟩])) ans').Reconcile key).statusWrite =
        none ↔
      answerOutcomes ans (run key w calls).heapNext L =
        answerOutcomes ans' ((run key w calls).heapNext + L.length) L) := by
  have ht : Tracks key (run key w calls) := h.run calls
  have ht' := ht.step ⟨some L, ans⟩
  rw [step_of_some ht] at ht'
  rw [run_append_singleton, step_of_some ht]
  obtain ⟨herr, hsubs, -, hwrite⟩ := Reconcile_spec ht' ans'
  rw [reconcile_of_some _ _ (copySubscribers ((run key w calls).heapNext + L.length) L) rfl]
    at hsubs hwrite
  refine ⟨herr, hsubs, hwrite.trans ?_⟩
  -- the stored status and the new one differ only in the subscribers' outcomes
  simp only [deepCopy_status, KafkaChannelStatus.mk.injEq, SubscribableStatus.mk.injEq,
    Option.some_inj, true_and, answerOutcomes]
  exact subscriberStatuses_eq_iff _ _ (by simp)

theorem Reconcile_after_run_initialWorld :
    Tracks "default/kc" initialWorld ∧
    ((reconciler "default/kc" (run "default/kc" initialWorld ([] ++ [⟨some [u1, u2], failU1⟩]))
        fun _ => ∅).Reconcile "default/kc").err = none ∧
    ((reconciler "default/kc" (run "default/kc" initialWorld ([] ++ [⟨some [u1, u2], failU1⟩]))
        fun _ => ∅).Reconcile "default/kc").subscriptions =
      some ((copySubscribers ((run "default/kc" initialWorld []).heapNext + [u1, u2].length)
        [u1, u2]).map subscriptionOf) ∧
    (((reconciler "default/kc" (run "default/kc" initialWorld ([] ++ [⟨some [u1, u2], failU1⟩]))
        fun _ => ∅).Reconcile "default/kc").statusWrite = none ↔
      answerOutcomes failU1 (run "default/kc" initialWorld []).heapNext [u1, u2] =
        answerOutcomes (fun _ => ∅) ((run "default/kc" initialWorld []).heapNext + [u1, u2].length)
          [u1, u2]) :=
  have h : Tracks "default/kc" initialWorld := ⟨by decide, rfl⟩
  ⟨h, Reconcile_after_run h [] [u1, u2] failU1 fun _ => ∅⟩

/-- The retry that starts `kafka.u1` rewrites the status. -/
example : ((reconciler "default/kc" (run "default/kc" initialWorld [⟨some [u1, u2], failU1⟩])
    fun _ => ∅).Reconcile "default/kc").statusWrite.isSome := by
  decide

end ChannelWorld

end Controller
