/-
How long a value lives in a network: the `put`, `get` and maintenance of every node, and the requests and answers on
their way between them, which may be lost, come late and come twice. Which nodes a lookup leads to is left open. A
record carries its own time to live, but what moves a value from node to node does not.
-/
import NodeX.Kad.FindValue
import Mathlib.Logic.Function.Basic

namespace NodeX.Kad

open NodeX.Lib

/-! ## Maintenance -/

namespace Storage

/-- A record that the maintenance sends to other nodes. -/
def isDue (now : Nat) (e : NodeId × Record) : Bool := !e.2.isExpired now && decide (e.2.republishAt ≤ now)

/-- `get_keys_to_republish` for one record. -/
def rescheduled (now : Nat) (e : NodeId × Record) : NodeId × Record :=
  if isDue now e then (e.1, { e.2 with republishAt := now + republishInterval }) else e

theorem fst_rescheduled (now : Nat) (e : NodeId × Record) : (rescheduled now e).1 = e.1 := by
  unfold rescheduled
  split <;> rfl

/-- `get_keys_to_republish` -/
def getKeysToRepublish (st : Storage) (now : Nat) : Storage × List (NodeId × Bytes) :=
  ({ data := st.data.map (rescheduled now) (fst_rescheduled now), storedBytes := st.storedBytes },
    (st.data.list.filter (isDue now)).map fun e => (e.1, e.2.value))

end Storage

/-! ## The network -/

/-- What carries a value from node to node: a STORE, or an answer to FIND_VALUE. -/
inductive Carrier where
  | store (key : NodeId) (value : Bytes)
  | found (key : NodeId) (value : Bytes)
deriving DecidableEq

structure Sent (ι : Type*) where
  receiver : ι
  sentAt : Nat
  carrier : Carrier
deriving DecidableEq

structure Network (ι : Type*) where
  nodes : ι → Storage := fun _ => {}
  sent : List (Sent ι) := []
  now : Nat := 0

inductive NetworkAction (ι : Type*) where
  /-- time passes -/
  | wait (duration : Nat)
  /-- `put` of a client at a node; `closest` is what its lookup found -/
  | put (node : ι) (key : NodeId) (value : Bytes) (closest : List ι)
  /-- `get` of a client that finds the value in the storage of its node -/
  | get (node : ι) (key : NodeId)
  /-- a FIND_VALUE request, from the lookup of a `get` at another node -/
  | findValue (node : ι) (key : NodeId) (asker : ι)
  /-- something that was sent arrives; an answer to FIND_VALUE ends a `get` -/
  | arrive (m : Sent ι)
  /-- the two halves of a round of the maintenance task -/
  | cleanup (node : ι)
  | republish (node : ι) (closest : NodeId → List ι)
  /-- a mailbox that was read -/
  | remove (node : ι) (key : NodeId)

namespace Network

variable {ι : Type*} [DecidableEq ι] (J : ValueJson) (ttlSecs : ι → Nat)

def setNode (s : Network ι) (node : ι) (st : Storage) : Network ι := { s with nodes := Function.update s.nodes node st }

def send (s : Network ι) (closest : List ι) (carrier : Carrier) : Network ι :=
  { s with sent := s.sent ++ closest.map fun node => ⟨node, s.now, carrier⟩ }

/-- The STOREs of a republication. -/
def sendAll (s : Network ι) (closest : NodeId → List ι) (values : List (NodeId × Bytes)) : Network ι :=
  values.foldl (fun s e => s.send (closest e.1) (.store e.1 e.2)) s

def step (s : Network ι) : NetworkAction ι → Network ι
  | .wait duration => { s with now := s.now + duration }
  | .put node key value closest =>
    (s.setNode node ((s.nodes node).put key value (fromSecs (ttlSecs node)) s.now)).send closest (.store key value)
  | .get _ _ => s
  | .findValue node key asker =>
    match handleFindValue J (s.nodes node) key s.now with
    | (st, some value) => (s.setNode node st).send [asker] (.found key value)
    | (st, none) => s.setNode node st
  | .arrive m =>
    if m ∈ s.sent then
      match m.carrier with
      | .store key value => s.setNode m.receiver (handleStore J (s.nodes m.receiver) key value s.now).1
      | .found key value =>
        s.setNode m.receiver (cacheFound (s.nodes m.receiver) key (some value) (fromSecs (ttlSecs m.receiver)) s.now)
    else s
  | .cleanup node => s.setNode node ((s.nodes node).cleanupStale s.now)
  | .republish node closest =>
    match (s.nodes node).getKeysToRepublish s.now with
    | (st, values) => (s.setNode node st).sendAll closest values
  | .remove node key => s.setNode node ((s.nodes node).remove key).1

/-- What a step gives the client, or the node that asked: the key and the value. -/
def returned (s : Network ι) : NetworkAction ι → Option (NodeId × Bytes)
  | .get node key => ((s.nodes node).get key s.now).map (key, ·)
  | .findValue node key _ => (handleFindValue J (s.nodes node) key s.now).2.map (key, ·)
  | .arrive m =>
    if m ∈ s.sent then
      match m.carrier with
      | .store _ _ => none
      | .found key value => some (key, value)
    else none
  | _ => none

/-- A record made anew: where, under which key, with which value and which time to live. -/
structure Written (ι : Type*) where
  node : ι
  key : NodeId
  value : Bytes
  ttl : Nat
deriving DecidableEq

/-- The record that a step makes anew without a `put` of a client: a STORE makes one with the default time to live,
whatever is left of it where the value comes from, and so does the repair in FIND_VALUE; an answer to FIND_VALUE makes
one with the time to live that its node is configured with. -/
def renewed (s : Network ι) : NetworkAction ι → Option (Written ι)
  | .findValue node key _ =>
    match (s.nodes node).get key s.now with
    | none => none
    | some value =>
      let bounded := (mergeStoreValue J none value).1
      if bounded.length < value.length then some ⟨node, key, bounded, defaultTtl⟩ else none
  | .arrive m =>
    if m ∈ s.sent then
      match m.carrier with
      | .store key value =>
        match mergeStoreValue J ((s.nodes m.receiver).get key s.now) value with
        | (merged, ok, _) => if ok then some ⟨m.receiver, key, merged, defaultTtl⟩ else none
      | .found key value => some ⟨m.receiver, key, value, fromSecs (ttlSecs m.receiver)⟩
    else none
  | _ => none

/-! ## What is asked of a run -/

variable (key : NodeId) (what : Bytes → Prop) (deadline : Nat)

/-- What arrives was sent no longer ago than this. -/
def ArrivesWithin (delay : Nat) (s : Network ι) : NetworkAction ι → Prop
  | .arrive m => s.now ≤ m.sentAt + delay
  | _ => True

instance (delay : Nat) (s : Network ι) : DecidablePred (s.ArrivesWithin delay)
  | .arrive m => inferInstanceAs (Decidable (s.now ≤ m.sentAt + delay))
  | .wait _ | .put _ _ _ _ | .get _ _ | .findValue _ _ _ | .cleanup _ | .republish _ _ | .remove _ _ =>
    inferInstanceAs (Decidable True)

/-- A `put` of such a value starts a time to live that is over by the deadline. -/
def PutEndsBy (s : Network ι) : NetworkAction ι → Prop
  | .put node k value _ => k = key → what value → s.now + fromSecs (ttlSecs node) ≤ deadline
  | _ => True

/-- So does every record of such a value that is made without one. -/
def RenewalEndsBy (s : Network ι) (a : NetworkAction ι) : Prop :=
  ∀ w : Written ι, s.renewed J ttlSecs a = some w → w.key = key → what w.value → s.now + w.ttl ≤ deadline

/-- After the deadline the step returns no such value, and no read of the storage of any node does afterwards, however
long one waits. -/
structure Silent (s : Network ι) (a : NetworkAction ι) : Prop where
  step : deadline < s.now → ∀ value, s.returned J a = some (key, value) → ¬ what value
  after : ∀ later ≥ (s.step J ttlSecs a).now, deadline < later → ∀ node value,
    ((s.step J ttlSecs a).nodes node).get key later = some value → ¬ what value

end Network

/-! ## One storage -/

namespace Storage

variable {st st' : Storage} {key k : NodeId} {what : Bytes → Prop} {deadline now : Nat} {value : Bytes}

/-- If the record under the key has such a value, its time to live is over by the deadline. -/
def EndsBy (key : NodeId) (what : Bytes → Prop) (deadline : Nat) (st : Storage) : Prop :=
  ∀ r, st.record? key = some r → what r.value → r.createdAt + r.ttl ≤ deadline

theorem EndsBy.of_record? (h : EndsBy key what deadline st)
    (hsub : ∀ r, st'.record? key = some r → st.record? key = some r) : EndsBy key what deadline st' :=
  fun r hr => h r (hsub r hr)

theorem EndsBy.put (h : EndsBy key what deadline st) {ttl : Nat}
    (hnew : k = key → what value → now + ttl ≤ deadline) : EndsBy key what deadline (st.put k value ttl now) := by
  by_cases hk : k = key
  · by_cases hlen : value.length ≤ maxStorageBytes
    · intro r hr hwhat
      rw [← hk, st.record?_put_self k ttl now hlen, Option.some.injEq] at hr
      subst hr
      exact hnew hk hwhat
    · rwa [st.put_oversized k ttl now (Nat.not_le.1 hlen)]
  · exact h.of_record? fun r hr => st.record?_put_other value ttl now hk hr

theorem EndsBy.remove (h : EndsBy key what deadline st) (k : NodeId) : EndsBy key what deadline (st.remove k).1 := by
  refine h.of_record? fun r hr => ?_
  rw [record?_remove] at hr
  split at hr
  · cases hr
  · exact hr

theorem EndsBy.cleanupStale (h : EndsBy key what deadline st) (now : Nat) :
    EndsBy key what deadline (st.cleanupStale now) := by
  refine h.of_record? fun r hr => ?_
  rw [record?_cleanupStale] at hr
  exact (Option.filter_eq_some_iff.1 hr).1

/-- The maintenance puts the next republication off, and nothing else. -/
theorem record?_getKeysToRepublish {r : Record} (hr : (st.getKeysToRepublish now).1.record? key = some r) :
    ∃ r', st.record? key = some r' ∧ r.value = r'.value ∧ r.createdAt = r'.createdAt ∧ r.ttl = r'.ttl := by
  unfold getKeysToRepublish record? at hr
  rw [KeyedList.get?_map, Option.map_map] at hr
  obtain ⟨e, he, rfl⟩ := Option.map_eq_some_iff.1 hr
  refine ⟨e.2, by rw [record?, he, Option.map_some], ?_⟩
  rw [Function.comp_apply, rescheduled]
  split <;> exact ⟨rfl, rfl, rfl⟩

theorem EndsBy.getKeysToRepublish (h : EndsBy key what deadline st) (now : Nat) :
    EndsBy key what deadline (st.getKeysToRepublish now).1 := by
  intro r hr hwhat
  obtain ⟨r', hr', hvalue, hcreated, httl⟩ := record?_getKeysToRepublish hr
  rw [hcreated, httl]
  exact h r' hr' (hvalue ▸ hwhat)

theorem EndsBy.le_of_get (h : EndsBy key what deadline st) (hget : st.get key now = some value) (hwhat : what value) :
    now ≤ deadline := by
  obtain ⟨r, hr, hfresh, rfl⟩ := get_eq_some.1 hget
  have hends := h r hr hwhat
  have hage : ¬ r.ttl < now - r.createdAt := of_decide_eq_false hfresh
  omega

theorem accounted_getKeysToRepublish (h : st.Accounted) (now : Nat) : (st.getKeysToRepublish now).1.Accounted := by
  have hvalues : (fun e : NodeId × Record => e.2.value.length) ∘ rescheduled now = fun e => e.2.value.length := by
    funext e
    rw [Function.comp_apply, rescheduled]
    split <;> rfl
  refine ⟨?_, h.size, ?_⟩
  · unfold valueBytes getKeysToRepublish KeyedList.map
    rw [List.map_map, hvalues]
    exact h.bytes
  · unfold getKeysToRepublish KeyedList.map
    rw [List.length_map]
    exact h.count

end Storage

/-! ## One step -/

namespace Network

variable {ι : Type*} [DecidableEq ι] {J : ValueJson} {ttlSecs : ι → Nat} {key : NodeId} {what : Bytes → Prop}
  {deadline : Nat} {s : Network ι} {a : NetworkAction ι}

omit [DecidableEq ι] in
@[simp] theorem nodes_sendAll (closest : NodeId → List ι) : ∀ (values : List (NodeId × Bytes)) (s : Network ι),
    (s.sendAll closest values).nodes = s.nodes
  | [], _ => rfl
  | e :: values, s => nodes_sendAll closest values (s.send (closest e.1) (.store e.1 e.2))

/-- What holds of every storage holds of them after one has changed, if it holds of what it became. -/
theorem forall_setNode {p : Storage → Prop} (h : ∀ node, p (s.nodes node)) {node : ι} {st : Storage} (hst : p st) :
    ∀ n, p ((s.setNode node st).nodes n) := by
  intro n
  change p (Function.update s.nodes node st n)
  by_cases hn : n = node
  · rw [hn, Function.update_self]
    exact hst
  · rw [Function.update_of_ne hn]
    exact h n

@[simp] theorem nodes_setNode_self (s : Network ι) (node : ι) (st : Storage) : (s.setNode node st).nodes node = st :=
  Function.update_self ..

variable (J ttlSecs s) in
theorem step_findValue (node : ι) (k : NodeId) (asker : ι) : (s.step J ttlSecs (.findValue node k asker)).nodes =
      (s.setNode node (handleFindValue J (s.nodes node) k s.now).1).nodes ∧
    (s.step J ttlSecs (.findValue node k asker)).now = s.now := by
  unfold step
  dsimp only
  split
  all_goals
    rename_i heq
    rw [heq]
    exact ⟨rfl, rfl⟩

theorem step_arrive_store {m : Sent ι} (hm : m ∈ s.sent) {k : NodeId} {value : Bytes}
    (hc : m.carrier = .store k value) :
    s.step J ttlSecs (.arrive m) = s.setNode m.receiver (handleStore J (s.nodes m.receiver) k value s.now).1 := by
  unfold step
  dsimp only
  rw [if_pos hm, hc]

theorem step_arrive_found {m : Sent ι} (hm : m ∈ s.sent) {k : NodeId} {value : Bytes}
    (hc : m.carrier = .found k value) :
    s.step J ttlSecs (.arrive m) =
      s.setNode m.receiver ((s.nodes m.receiver).put k value (fromSecs (ttlSecs m.receiver)) s.now) := by
  unfold step
  dsimp only
  rw [if_pos hm, hc]
  rfl

theorem step_arrive_of_not_mem {m : Sent ι} (hm : m ∉ s.sent) : s.step J ttlSecs (.arrive m) = s := if_neg hm

theorem renewed_findValue {node : ι} {k : NodeId} {asker : ι} {value : Bytes}
    (hget : (s.nodes node).get k s.now = some value) : s.renewed J ttlSecs (.findValue node k asker) =
      if (mergeStoreValue J none value).1.length < value.length then
        some ⟨node, k, (mergeStoreValue J none value).1, defaultTtl⟩
      else none := by
  unfold renewed
  dsimp only
  rw [hget]

theorem renewed_store {m : Sent ι} (hm : m ∈ s.sent) {k : NodeId} {value : Bytes} (hc : m.carrier = .store k value) :
    s.renewed J ttlSecs (.arrive m) =
      if (mergeStoreValue J ((s.nodes m.receiver).get k s.now) value).2.1 then
        some ⟨m.receiver, k, (mergeStoreValue J ((s.nodes m.receiver).get k s.now) value).1, defaultTtl⟩
      else none := by
  unfold renewed
  dsimp only
  rw [if_pos hm, hc]

theorem renewed_found {m : Sent ι} (hm : m ∈ s.sent) {k : NodeId} {value : Bytes} (hc : m.carrier = .found k value) :
    s.renewed J ttlSecs (.arrive m) = some ⟨m.receiver, k, value, fromSecs (ttlSecs m.receiver)⟩ := by
  unfold renewed
  dsimp only
  rw [if_pos hm, hc]

/-- A step without a `put` and without a renewal leaves every record as it is, or takes it away, or puts its
republication off. -/
theorem endsBy_step (h : ∀ node, (s.nodes node).EndsBy key what deadline)
    (hput : s.PutEndsBy ttlSecs key what deadline a) (hrenewal : s.RenewalEndsBy J ttlSecs key what deadline a) :
    ∀ node, ((s.step J ttlSecs a).nodes node).EndsBy key what deadline := by
  cases a with
  | wait duration => exact h
  | put node k value closest =>
    change ∀ n, ((s.setNode node _).nodes n).EndsBy key what deadline
    exact forall_setNode h ((h node).put hput)
  | get node k => exact h
  | findValue node k asker =>
    rw [(step_findValue J ttlSecs s node k asker).1]
    refine forall_setNode h ?_
    cases hget : (s.nodes node).get k s.now with
    | none =>
      rw [handleFindValue_of_none hget]
      exact h node
    | some value =>
      unfold RenewalEndsBy at hrenewal
      rw [renewed_findValue hget] at hrenewal
      rw [handleFindValue_of_some hget]
      split_ifs at hrenewal ⊢ with hlen
      · exact (h node).put (hrenewal _ rfl)
      · exact h node
  | arrive m =>
    by_cases hm : m ∈ s.sent
    · unfold RenewalEndsBy at hrenewal
      cases hc : m.carrier with
      | store k value =>
        rw [renewed_store hm hc] at hrenewal
        rw [step_arrive_store hm hc]
        refine forall_setNode h ?_
        unfold handleStore
        dsimp only
        split_ifs at hrenewal ⊢ with hok
        · exact (h m.receiver).put (hrenewal _ rfl)
        · exact h m.receiver
      | found k value =>
        rw [renewed_found hm hc] at hrenewal
        rw [step_arrive_found hm hc]
        exact forall_setNode h ((h m.receiver).put (hrenewal _ rfl))
    · rw [step_arrive_of_not_mem hm]
      exact h
  | cleanup node => exact forall_setNode h ((h node).cleanupStale s.now)
  | republish node closest =>
    change ∀ n, ((sendAll _ closest _).nodes n).EndsBy key what deadline
    rw [nodes_sendAll]
    exact forall_setNode h ((h node).getKeysToRepublish s.now)
  | remove node k => exact forall_setNode h ((h node).remove k)

/-- The accounts of the storages are right, and an answer carries no more than a storage holds. -/
structure Sized (s : Network ι) : Prop where
  accounted : ∀ node, (s.nodes node).Accounted
  found : ∀ m ∈ s.sent, ∀ k value, m.carrier = .found k value → value.length ≤ maxStorageBytes

omit [DecidableEq ι] in
theorem sized_empty : Sized ({} : Network ι) :=
  ⟨fun _ => Storage.accounted_empty, fun _ hm => absurd hm List.not_mem_nil⟩

theorem Sized.setNode (h : s.Sized) {node : ι} {st : Storage} (hst : st.Accounted) : (s.setNode node st).Sized :=
  ⟨forall_setNode h.accounted hst, h.found⟩

omit [DecidableEq ι] in
theorem Sized.send (h : s.Sized) (closest : List ι) {carrier : Carrier}
    (hcarrier : ∀ k value, carrier = .found k value → value.length ≤ maxStorageBytes) :
    (s.send closest carrier).Sized := by
  refine ⟨h.accounted, ?_⟩
  intro m hm k value hc
  rcases List.mem_append.1 hm with hm | hm
  · exact h.found m hm k value hc
  · obtain ⟨node, -, rfl⟩ := List.mem_map.1 hm
    exact hcarrier k value hc

omit [DecidableEq ι] in
theorem Sized.sendAll (closest : NodeId → List ι) : ∀ (values : List (NodeId × Bytes)) {s : Network ι}, s.Sized →
    (s.sendAll closest values).Sized
  | [], _, h => h
  | e :: values, _, h => Sized.sendAll closest values (h.send (closest e.1) fun _ _ hc => by cases hc)

theorem sized_step (h : s.Sized) (a : NetworkAction ι) : (s.step J ttlSecs a).Sized := by
  cases a with
  | wait duration => exact ⟨h.accounted, h.found⟩
  | put node k value closest =>
    refine Sized.send (h.setNode ((h.accounted node).put ..)) closest ?_
    intro _ _ hc
    cases hc
  | get node k => exact h
  | findValue node k asker =>
    unfold step
    dsimp only
    cases hget : (s.nodes node).get k s.now with
    | none =>
      rw [handleFindValue_of_none hget]
      exact h.setNode (h.accounted node)
    | some value =>
      obtain ⟨r, hr, -, rfl⟩ := Storage.get_eq_some.1 hget
      have hlen := (h.accounted node).length_le hr
      rw [handleFindValue_of_some hget]
      split_ifs with hshorter
      · refine Sized.send (h.setNode ((h.accounted node).put ..)) [asker] ?_
        rintro _ _ ⟨⟩
        omega
      · refine Sized.send (h.setNode (h.accounted node)) [asker] ?_
        rintro _ _ ⟨⟩
        exact hlen
  | arrive m =>
    by_cases hm : m ∈ s.sent
    · cases hc : m.carrier with
      | store k value =>
        rw [step_arrive_store hm hc]
        exact h.setNode (accounted_handleStore (h.accounted _) ..)
      | found k value =>
        rw [step_arrive_found hm hc]
        exact h.setNode ((h.accounted _).put ..)
    · rw [step_arrive_of_not_mem hm]
      exact h
  | cleanup node => exact h.setNode ((h.accounted node).cleanupStale s.now)
  | republish node closest =>
    exact Sized.sendAll closest _ (h.setNode (Storage.accounted_getKeysToRepublish (h.accounted node) s.now))
  | remove node k => exact h.setNode ((h.accounted node).remove k)

/-- A renewal is what its name says. -/
theorem record?_of_renewed (h : s.Sized) {w : Written ι} (hw : s.renewed J ttlSecs a = some w) :
    ((s.step J ttlSecs a).nodes w.node).record? w.key = some (Record.new w.value w.ttl s.now) ∧
      (s.step J ttlSecs a).now = s.now := by
  cases a with
  | wait _ | put _ _ _ _ | get _ _ | cleanup _ | republish _ _ | remove _ _ => cases hw
  | findValue node k asker =>
    obtain ⟨hnodes, hnow⟩ := step_findValue J ttlSecs s node k asker
    refine ⟨?_, hnow⟩
    cases hget : (s.nodes node).get k s.now with
    | none =>
      unfold renewed at hw
      dsimp only at hw
      rw [hget] at hw
      cases hw
    | some value =>
      obtain ⟨r, hr, -, rfl⟩ := Storage.get_eq_some.1 hget
      have hlen := (h.accounted node).length_le hr
      rw [renewed_findValue hget] at hw
      split_ifs at hw with hshorter
      obtain rfl := Option.some.inj hw
      rw [hnodes, nodes_setNode_self, handleFindValue_of_some hget, if_pos hshorter]
      exact Storage.record?_put_self _ k defaultTtl s.now (by omega)
  | arrive m =>
    by_cases hm : m ∈ s.sent
    · cases hc : m.carrier with
      | store k value =>
        rw [renewed_store hm hc] at hw
        split_ifs at hw with hok
        obtain rfl := Option.some.inj hw
        rw [step_arrive_store hm hc, nodes_setNode_self]
        exact ⟨record?_handleStore hok, rfl⟩
      | found k value =>
        rw [renewed_found hm hc] at hw
        obtain rfl := Option.some.inj hw
        rw [step_arrive_found hm hc, nodes_setNode_self]
        exact ⟨Storage.record?_put_self _ k _ s.now (h.found m hm k value hc), rfl⟩
    · unfold renewed at hw
      dsimp only at hw
      rw [if_neg hm] at hw
      cases hw

/-! ## Runs -/

/-- What the steps keep up: every record of such a value ends by the deadline. -/
structure EndsBy (key : NodeId) (what : Bytes → Prop) (deadline : Nat) (s : Network ι) : Prop where
  sized : s.Sized
  ends : ∀ node, (s.nodes node).EndsBy key what deadline

theorem EndsBy.step (h : s.EndsBy key what deadline) (hput : s.PutEndsBy ttlSecs key what deadline a)
    (hrenewal : s.RenewalEndsBy J ttlSecs key what deadline a) : (s.step J ttlSecs a).EndsBy key what deadline :=
  ⟨sized_step h.sized a, endsBy_step h.ends hput hrenewal⟩

/-- What a step returns after the deadline is read from a record that is past its end, or renewed at that moment. -/
theorem EndsBy.silent (h : s.EndsBy key what deadline) (hput : s.PutEndsBy ttlSecs key what deadline a)
    (hrenewal : s.RenewalEndsBy J ttlSecs key what deadline a) : s.Silent J ttlSecs key what deadline a where
  step := by
    intro hlate value hreturned hwhat
    cases a with
    | wait _ | put _ _ _ _ | cleanup _ | republish _ _ | remove _ _ => cases hreturned
    | get node k =>
      obtain ⟨v, hget, hpair⟩ := Option.map_eq_some_iff.1 hreturned
      obtain ⟨rfl, rfl⟩ := Prod.mk.inj hpair
      exact absurd ((h.ends node).le_of_get hget hwhat) (Nat.not_le.2 hlate)
    | findValue node k asker =>
      obtain ⟨v, hfound, hpair⟩ := Option.map_eq_some_iff.1 hreturned
      obtain ⟨rfl, rfl⟩ := Prod.mk.inj hpair
      cases hget : (s.nodes node).get k s.now with
      | none =>
        rw [handleFindValue_of_none hget] at hfound
        cases hfound
      | some stored =>
        unfold RenewalEndsBy at hrenewal
        rw [renewed_findValue hget] at hrenewal
        rw [handleFindValue_of_some hget] at hfound
        split_ifs at hrenewal hfound with hshorter
        · obtain rfl := Option.some.inj hfound
          have hends := hrenewal _ rfl rfl hwhat
          omega
        · obtain rfl := Option.some.inj hfound
          exact absurd ((h.ends node).le_of_get hget hwhat) (Nat.not_le.2 hlate)
    | arrive m =>
      by_cases hm : m ∈ s.sent
      · unfold returned at hreturned
        dsimp only at hreturned
        rw [if_pos hm] at hreturned
        cases hc : m.carrier with
        | store k v =>
          rw [hc] at hreturned
          cases hreturned
        | found k v =>
          rw [hc] at hreturned
          obtain ⟨rfl, rfl⟩ := Prod.mk.inj (Option.some.inj hreturned)
          have hends := hrenewal _ (renewed_found hm hc) rfl hwhat
          omega
      · unfold returned at hreturned
        dsimp only at hreturned
        rw [if_neg hm] at hreturned
        cases hreturned
  after := by
    intro later _ hlate node value hget hwhat
    exact absurd ((endsBy_step h.ends hput hrenewal node).le_of_get hget hwhat) (Nat.not_le.2 hlate)

/-- A record that a step renews beyond the deadline can be read after it. -/
theorem Silent.renewalEndsBy (hsized : s.Sized) (h : s.Silent J ttlSecs key what deadline a) :
    s.RenewalEndsBy J ttlSecs key what deadline a := by
  intro w hw hkey hwhat
  by_contra hlong
  obtain ⟨hrecord, hnow⟩ := record?_of_renewed hsized hw
  have hget : ((s.step J ttlSecs a).nodes w.node).get w.key (max s.now (deadline + 1)) = some w.value :=
    get_of_new hrecord (by omega)
  exact h.after _ (by omega) (by omega) w.node w.value (hkey ▸ hget) hwhat

omit [DecidableEq ι] in
theorem PutEndsBy.mono {ended : Nat} (hle : ended ≤ deadline) (h : s.PutEndsBy ttlSecs key what ended a) :
    s.PutEndsBy ttlSecs key what deadline a := by
  cases a with
  | put node k value closest => exact fun hk hwhat => (h hk hwhat).trans hle
  | _ => trivial

/-- A value is put at `t`, for the time `d`, and not for longer again. With an allowance for what is on its way, it is
not returned later, in a run of the network, if and only if every record of it that is made without a put ends by then
too. -/
theorem run_silent_iff {t d delay : Nat} (as : List (NetworkAction ι))
    (hputs : Steps (step J ttlSecs) (PutEndsBy ttlSecs key what (t + d)) {} as) :
    Steps (step J ttlSecs) (Silent J ttlSecs key what (t + d + delay)) {} as ↔
      Steps (step J ttlSecs) (RenewalEndsBy J ttlSecs key what (t + d + delay)) {} as := by
  have hlate : Steps (step J ttlSecs) (PutEndsBy ttlSecs key what (t + d + delay)) {} as :=
    hputs.imp fun _ _ => PutEndsBy.mono (Nat.le_add_right ..)
  have hempty : EndsBy key what (t + d + delay) ({} : Network ι) :=
    ⟨sized_empty, fun _ r hr => by cases hr⟩
  have hiff : Steps (step J ttlSecs) (fun s a =>
        PutEndsBy ttlSecs key what (t + d + delay) s a ∧ Silent J ttlSecs key what (t + d + delay) s a) {} as ↔
      Steps (step J ttlSecs) (fun s a =>
        PutEndsBy ttlSecs key what (t + d + delay) s a ∧ RenewalEndsBy J ttlSecs key what (t + d + delay) s a) {} as :=
    steps_iff_of_invariant (I := EndsBy key what (t + d + delay))
      (fun s a hs => and_congr_right fun hput => ⟨Silent.renewalEndsBy hs.sized, hs.silent hput⟩)
      (fun s a hs h => hs.step h.1 (h.2.renewalEndsBy hs.sized)) as hempty
  constructor
  · intro h
    exact (hiff.1 (hlate.and h)).imp fun _ _ => And.right
  · intro h
    exact (hiff.2 (hlate.and h)).imp fun _ _ => And.right

end Network

namespace Sample

def greeting : Bytes := [104, 105]

/-- Both nodes keep what they are given for a day. -/
def aDay : Bool → Nat := fun _ => 86400

/-- What the one node puts is replicated to the other, which sends it back an hour before the day is over. -/
def republished : List (NetworkAction Bool) :=
  [.put false mailboxKey greeting [true], .arrive ⟨true, 0, .store mailboxKey greeting⟩, .wait (fromSecs (23 * 3600)),
    .republish true fun _ => [false], .arrive ⟨false, fromSecs (23 * 3600), .store mailboxKey greeting⟩,
    .wait (fromSecs (2 * 3600))]

end Sample

namespace Network

open Kad.Sample in
/-- One put, no delay, and after 25 hours the value is still there. -/
theorem run_silent_republished :
    Steps (step textJson aDay) (PutEndsBy aDay mailboxKey (· = greeting) (0 + fromSecs 86400)) {} republished ∧
      Steps (step textJson aDay) (ArrivesWithin 0) {} republished ∧
      (run (step textJson aDay) {} republished).now = fromSecs (25 * 3600) ∧
      ((run (step textJson aDay) {} republished).returned textJson (.get false mailboxKey)) =
        some (mailboxKey, greeting) ∧
      ¬ Steps (step textJson aDay) (Silent textJson aDay mailboxKey (· = greeting) (0 + fromSecs 86400 + 0)) {}
        republished := by
  refine ⟨⟨fun _ _ => by decide, trivial, trivial, trivial, trivial, trivial, trivial⟩,
    by decide, by decide, by decide, ?_⟩
  intro h
  have hafter := h.2.2.2.2.2.1.after (fromSecs (25 * 3600)) (by decide) (by decide) false greeting
    (by decide)
  exact hafter rfl

open Kad.Sample in
/-- Without the maintenance, it is gone after the day. -/
theorem run_silent_replicated :
    Steps (step textJson aDay) (Silent textJson aDay mailboxKey (· = greeting) (0 + fromSecs 86400 + 0)) {}
      (republished.take 2) := by
  refine (run_silent_iff (republished.take 2) ⟨fun _ _ => by decide, trivial, trivial⟩).2 ⟨?_, ?_, trivial⟩
  · intro w hw
    cases hw
  · intro w hw _ _
    have hrenewed : renewed textJson aDay (step textJson aDay {} (.put false mailboxKey greeting [true]))
        (.arrive ⟨true, 0, .store mailboxKey greeting⟩) = some ⟨true, mailboxKey, greeting, defaultTtl⟩ := by
      decide
    rw [← Option.some.inj (hrenewed.symm.trans hw)]
    decide

end Network

end NodeX.Kad
