/-
What draining a mailbox does to the envelopes in it: those that arrive while a round is under way, those
the next round has to look for in the network, and those that stand beside an entry that is no envelope.
-/
import NodeX.Messenger.Author
import NodeX.Messenger.Deposit
import NodeX.Messenger.Polling

namespace NodeX.Messenger

open NodeX.Lib

variable {C : Crypto} {M : MailboxJson} {me : UserIdentity C} {J : PayloadJson} {T : PresenceText} {ttl : Nat}

/-! ## Batches in order -/

namespace Batch

variable (M me) in
/-- The envelopes before `todo` are divided: the user's own are through the loop or in it, the others are put
aside. -/
def InOrder (b : Batch) : Prop := ∃ done, M.readEnvelopes b.fetched = done ++ b.todo ∧
  b.unconsumed = foreignEnvelopes me done ∧ b.processed ++ b.current.toList = ownEnvelopes me done

theorem inOrder_of (key : Option String) (fetched : Bytes) (window : List EncryptedEnvelope) :
    (Batch.of M key fetched window).InOrder M me :=
  ⟨[], rfl, rfl, rfl⟩

theorem ownEnvelopes_concat (done : List EncryptedEnvelope) {e : EncryptedEnvelope} (h : e.recipientId = me.userId) :
    ownEnvelopes me (done ++ [e]) = ownEnvelopes me done ++ [e] ∧
      foreignEnvelopes me (done ++ [e]) = foreignEnvelopes me done := by
  unfold ownEnvelopes foreignEnvelopes
  simp [h]

theorem foreignEnvelopes_concat (done : List EncryptedEnvelope) {e : EncryptedEnvelope}
    (h : e.recipientId ≠ me.userId) : ownEnvelopes me (done ++ [e]) = ownEnvelopes me done ∧
      foreignEnvelopes me (done ++ [e]) = foreignEnvelopes me done ++ [e] := by
  unfold ownEnvelopes foreignEnvelopes
  simp [h]

theorem InOrder.receive {b : Batch} (h : b.InOrder M me) {e : EncryptedEnvelope} {todo : List EncryptedEnvelope}
    (hcur : b.current = none) (htodo : b.todo = e :: todo) (hown : e.recipientId = me.userId) :
    Batch.InOrder M me { b with todo, current := some e } := by
  obtain ⟨done, hread, hun, hproc⟩ := h
  obtain ⟨ho, hf⟩ := ownEnvelopes_concat done hown
  refine ⟨done ++ [e], ?_, ?_, ?_⟩
  · rw [hread, htodo, List.append_assoc, List.singleton_append]
  · rw [hf]
    exact hun
  · rw [hcur, Option.toList_none, List.append_nil] at hproc
    rw [ho, ← hproc]
    rfl

theorem InOrder.passOver {b : Batch} (h : b.InOrder M me) {e : EncryptedEnvelope} {todo : List EncryptedEnvelope}
    (htodo : b.todo = e :: todo) (hother : e.recipientId ≠ me.userId) :
    Batch.InOrder M me { b with todo, unconsumed := b.unconsumed ++ [e] } := by
  obtain ⟨done, hread, hun, hproc⟩ := h
  obtain ⟨ho, hf⟩ := foreignEnvelopes_concat done hother
  refine ⟨done ++ [e], ?_, ?_, ?_⟩
  · rw [hread, htodo, List.append_assoc, List.singleton_append]
  · rw [hf, ← hun]
  · rw [ho]
    exact hproc

theorem InOrder.handle {b : Batch} (h : b.InOrder M me) {e : EncryptedEnvelope} (hcur : b.current = some e) :
    Batch.InOrder M me { b with current := none, processed := b.processed ++ [e] } := by
  obtain ⟨done, hread, hun, hproc⟩ := h
  refine ⟨done, hread, hun, ?_⟩
  rw [hcur] at hproc
  rw [← hproc]
  exact List.append_nil _

theorem InOrder.arrive {b : Batch} (h : b.InOrder M me) (key : NodeId) (es : List EncryptedEnvelope) :
    (b.arrive C key es).InOrder M me := by
  unfold Batch.arrive
  split <;> exact h

/-- At the end of a batch, everything it held for the user went through the loop, and the rest is put aside. -/
theorem InOrder.at_end {b : Batch} (h : b.InOrder M me) (htodo : b.todo = []) (hcur : b.current = none) :
    b.processed = ownEnvelopes me (M.readEnvelopes b.fetched) ∧
      b.unconsumed = foreignEnvelopes me (M.readEnvelopes b.fetched) := by
  obtain ⟨done, hread, hun, hproc⟩ := h
  rw [htodo, List.append_nil] at hread
  rw [hcur, Option.toList_none, List.append_nil] at hproc
  rw [hread]
  exact ⟨hproc, hun⟩

end Batch

namespace Poller

variable (M) in
/-- Every batch is in order, and what it is through with is through the loop. -/
structure InOrder (s : Poller me) : Prop where
  batches : ∀ b ∈ s.phase.batches, b.InOrder M me
  processed : ∀ b ∈ s.phase.batches, ∀ e ∈ b.processed, e ∈ s.processed

theorem inOrder_start (inbox : Inbox me) (storage : Kad.Storage) (tick : Nat) :
    InOrder M ({ inbox, storage, tick } : Poller me) :=
  ⟨fun _ h => (by cases h), fun _ h => by cases h⟩

/-- The envelope in the loop is among the processed ones once the loop is through with it. -/
theorem mem_processed_handle {s : Poller me} {now : Nat} {dht : Dht} {b : Batch} {e : EncryptedEnvelope}
    {rest : List Batch} (hp : s.phase = .processing b rest) (hcur : b.current = some e) :
    e ∈ (s.step M J T ttl (.handle now dht)).processed := by
  simp only [step, hp, hcur]
  exact List.mem_append_right _ List.mem_cons_self

theorem InOrder.step {s : Poller me} (h : s.InOrder M) (a : PollAction) : (s.step M J T ttl a).InOrder M := by
  constructor
  · intro b hb
    rcases batchStep a hb with hold | _ | _ | ⟨hold, hcur, htodo, hown⟩ | ⟨hold, -, htodo, hother⟩ | ⟨hp, hcur⟩ |
      ⟨hold, -⟩
    · exact h.batches b hold
    · exact Batch.inOrder_of ..
    · exact Batch.inOrder_of ..
    · exact (h.batches _ hold).receive hcur htodo hown
    · exact (h.batches _ hold).passOver htodo hother
    · exact (h.batches _ (Phase.mem_batches_of_eq hp)).handle hcur
    · exact (h.batches _ hold).arrive _ _
  · intro b hb e he
    have hgrow : ∀ e ∈ s.processed, e ∈ (s.step M J T ttl a).processed := processed_step a
    rcases batchStep a hb with hold | _ | _ | ⟨hold, -⟩ | ⟨hold, -⟩ | ⟨hp, hcur⟩ | ⟨hold, -⟩
    · exact hgrow e (h.processed b hold e he)
    · cases he
    · cases he
    · exact hgrow e (h.processed _ hold e he)
    · exact hgrow e (h.processed _ hold e he)
    · rcases List.mem_append.1 he with he | he
      · exact hgrow e (h.processed _ (Phase.mem_batches_of_eq hp) e he)
      · rw [List.mem_singleton.1 he]
        exact mem_processed_handle hp hcur
    · refine hgrow e (h.processed _ hold e ?_)
      unfold Batch.arrive at he
      split at he <;> exact he

/-! ## Envelopes that arrive during a round -/

section Arrivals

variable (M J T ttl)

/-- The envelope is in some record. -/
def Stores (s : Poller me) (e : EncryptedEnvelope) : Prop := ∃ r ∈ s.storage.data.list, e ∈ M.envelopesIn r.2.value

/-- A drain loses none of the user's envelopes that were accepted under the key since it was read: each went
through the loop, or is still stored. -/
def DrainLossless (s : Poller me) : PollAction → Prop
  | .drain now => ∀ d ∈ s.phase.draining?, ∀ e ∈ d.1.window, e.recipientId = me.userId →
      e ∈ (s.step M J T ttl (.drain now)).processed ∨ (s.step M J T ttl (.drain now)).Stores M e
  | _ => True

/-- Nothing new for the user arrives under a key between its read and its drain. What a STORE brings under the
key of a batch is in the batch, or through the loop; and what a STORE brought during a lookup is in the value the
lookup finds, or through the loop. -/
def NoNewArrival (s : Poller me) : PollAction → Prop
  | .store key value now => (Kad.handleStore M.toValueJson s.storage key value now).2 = true →
      ∀ b ∈ s.phase.batches, b.key.map (mailboxId C) = some key →
        ∀ e ∈ M.envelopesIn value, e.recipientId = me.userId → e ∈ M.readEnvelopes b.fetched ∨ e ∈ s.processed
  | .lookedUp found _ => ∀ bytes ∈ found, ∀ e ∈ s.phase.window, e.recipientId = me.userId →
      e ∈ M.readEnvelopes bytes ∨ e ∈ s.processed
  | _ => True

instance (s : Poller me) (e : EncryptedEnvelope) : Decidable (s.Stores M e) :=
  inferInstanceAs (Decidable (∃ r ∈ s.storage.data.list, _))

instance (s : Poller me) : ∀ a, Decidable (s.DrainLossless M J T ttl a)
  | .drain _ => inferInstanceAs (Decidable (∀ d ∈ s.phase.draining?, ∀ e ∈ d.1.window, _ → _ ∨ _))
  | .start _ | .fetch _ | .lookedUp .. | .receive _ | .handle .. | .store .. | .put .. | .remove _ | .cleanup _
  | .localOp _ => inferInstanceAs (Decidable True)

instance (s : Poller me) : ∀ a, Decidable (s.NoNewArrival M a)
  | .store .. => inferInstanceAs (Decidable (_ → ∀ b ∈ s.phase.batches, _ → ∀ e ∈ _, _ → _ ∨ _))
  | .lookedUp found _ => inferInstanceAs (Decidable (∀ bytes ∈ found, ∀ e ∈ s.phase.window, _ → _ ∨ _))
  | .start _ | .fetch _ | .drain _ | .receive _ | .handle .. | .put .. | .remove _ | .cleanup _ | .localOp _ =>
    inferInstanceAs (Decidable True)

end Arrivals

variable (M) in
/-- What arrived for the user under the key of a batch is in the batch, or through the loop. -/
def Covered (s : Poller me) : Prop := ∀ b ∈ s.phase.batches, ∀ e ∈ b.window, e.recipientId = me.userId →
  e ∈ M.readEnvelopes b.fetched ∨ e ∈ s.processed

theorem Covered.step {s : Poller me} (h : s.Covered M) {a : PollAction} (hn : s.NoNewArrival M a) :
    (s.step M J T ttl a).Covered M := by
  intro b hb e he hown
  have hgrow : ∀ e ∈ s.processed, e ∈ (s.step M J T ttl a).processed := processed_step a
  have hold : ∀ b ∈ s.phase.batches, e ∈ b.window →
      e ∈ M.readEnvelopes b.fetched ∨ e ∈ (s.step M J T ttl a).processed :=
    fun b hb he => (h b hb e he hown).imp_right (hgrow e)
  rcases batchStep a hb with hb' | _ | _ | ⟨hb', -⟩ | ⟨hb', -⟩ | ⟨hp, -⟩ | ⟨hb', hacc⟩
  · exact hold b hb' he
  · cases he
  · exact (hn _ rfl e he hown).imp_right (hgrow e)
  · have h := hold _ hb' he
    exact h
  · have h := hold _ hb' he
    exact h
  · have h := hold _ (Phase.mem_batches_of_eq hp) he
    exact h
  · -- what arrives now meets the condition, the rest was covered before
    unfold Batch.arrive at he ⊢
    split at he
    · rename_i hkey
      rw [if_pos hkey]
      rcases List.mem_append.1 he with he | he
      · have h := hold _ hb' he
        exact h
      · exact (hn hacc _ hb' hkey e he hown).imp_right (hgrow e)
    · rename_i hkey
      rw [if_neg hkey]
      exact hold _ hb' he

theorem Covered.drainLossless {s : Poller me} (h : s.Covered M) (ho : s.InOrder M) :
    ∀ a : PollAction, s.DrainLossless M J T ttl a
  | .drain now => by
    rintro ⟨b, rest⟩ hd e he hown
    obtain ⟨hp, htodo, hcur⟩ := Phase.draining?_eq_some hd
    have hb : b ∈ s.phase.batches := Phase.mem_batches_of_eq hp
    have hgrow : ∀ e ∈ s.processed, e ∈ (s.step M J T ttl (.drain now)).processed := processed_step (.drain now)
    refine .inl (hgrow e ?_)
    rcases h b hb e he hown with hread | hproc
    · have hend := ((ho.batches b hb).at_end htodo hcur).1
      refine ho.processed b hb e ?_
      unfold ownEnvelopes at hend
      rw [hend]
      exact List.mem_filter.2 ⟨hread, by simpa using hown⟩
    · exact hproc
  | .start _ | .fetch _ | .lookedUp .. | .receive _ | .handle .. | .store .. | .put .. | .remove _ | .cleanup _
  | .localOp _ => trivial

/-- In a run in which nothing new for the user arrives under a key between its read and its drain, no drain loses
an envelope that was accepted there meanwhile. -/
theorem run_drainLossless (inbox : Inbox me) (storage : Kad.Storage) (tick : Nat) (as : List PollAction)
    (h : Steps (Poller.step M J T ttl) (NoNewArrival M) { inbox, storage, tick } as) :
    Steps (Poller.step M J T ttl) (DrainLossless M J T ttl) { inbox, storage, tick } as := by
  have h0 : InOrder M ({ inbox, storage, tick } : Poller me) ∧ Covered M ({ inbox, storage, tick } : Poller me) :=
    ⟨inOrder_start inbox storage tick, fun _ hb => by cases hb⟩
  exact steps_of_invariant (I := fun s => InOrder M s ∧ Covered M s) (fun s a hI hn => ⟨hI.1.step a, hI.2.step hn⟩)
    (fun s a hI _ => hI.2.drainLossless hI.1 a) h0 h

namespace Round

open NodeX.Sample Sample

/-- Bob's mailbox on the day of the run, and where it is stored. -/
def mailboxKey : String := deriveSecureMailboxKey .transparent bob.userIdHex 1700000000

def mailbox : NodeId := mailboxId .transparent mailboxKey

/-- A storage with one record, at Bob's mailbox. -/
def holding (value : Bytes) : Kad.Storage := ({} : Kad.Storage).put mailbox value Kad.defaultTtl 0

abbrev pollStep : Poller bob → PollAction → Poller bob :=
  Poller.step mailboxJson SameId.payloadJson SameId.presenceText Kad.defaultTtl

/-- A round reads the mailbox, takes one envelope through the loop and drains; `during` and `after` fall between. -/
def round (during after : List PollAction) : List PollAction :=
  [.start 1700000010, .fetch 1, .fetch 2, .receive 1700000010] ++ during ++
    [.handle 1700000010 SameId.noDht, .drain 3] ++ after

/-- Mallory's envelope is stored in the mailbox. -/
def storeMallory : PollAction := .store mailbox (mailboxJson.printEnvelopes [SameId.fromMallory]) 2

/-- Alice's envelope is stored in the mailbox once more. -/
def storeAlice : PollAction := .store mailbox (mailboxJson.printEnvelopes [SameId.fromAlice]) 2

end Round

open Round in
/-- Mallory's envelope arrives while Alice's is in the loop, and is drained with it. -/
theorem run_drainLossless_during : ¬ Steps pollStep
    (DrainLossless Sample.mailboxJson SameId.payloadJson SameId.presenceText Kad.defaultTtl)
    { storage := holding (Sample.mailboxJson.printEnvelopes [SameId.fromAlice]) } (round [storeMallory] []) := by
  decide +kernel

open Round in
theorem run_drainLossless_after : Steps pollStep
    (DrainLossless Sample.mailboxJson SameId.payloadJson SameId.presenceText Kad.defaultTtl)
    { storage := holding (Sample.mailboxJson.printEnvelopes [SameId.fromAlice]) } (round [storeAlice] [storeMallory]) :=
  run_drainLossless {} _ 0 _ (by decide +kernel)

/-! ## The round after a drain -/

section Blindness

variable (M J T ttl) (k : NodeId)

/-- A round that comes to a mailbox at `k` drained before looks it up in the network, and what the lookup finds is
its batch. -/
def AsksNetwork (s : Poller me) : PollAction → Prop
  | .fetch now => ∀ key ∈ s.phase.nextKey?, mailboxId C key = k → k ∈ s.drained →
      (s.step M J T ttl (.fetch now)).phase.lookingFor? = some key ∧
        ∀ value now',
          ∃ b ∈ ((s.step M J T ttl (.fetch now)).step M J T ttl (.lookedUp (some value) now')).phase.batches,
          b.key = some key ∧ b.todo = M.readEnvelopes value
  | _ => True

/-- What is drained from `k` was all for the user, and nothing is written there until it is polled again. -/
def LeavesEmpty (s : Poller me) : PollAction → Prop
  | .drain _ => ∀ d ∈ s.phase.draining?, d.1.key.map (mailboxId C) = some k →
      ∀ e ∈ M.readEnvelopes d.1.fetched, e.recipientId = me.userId
  | .store key value now => key = k → k ∈ s.drained →
      (Kad.handleStore M.toValueJson s.storage key value now).2 = false
  | .put key _ _ _ => key = k → k ∉ s.drained
  | _ => True

instance (s : Poller me) : ∀ a, Decidable (s.LeavesEmpty M k a)
  | .drain _ => inferInstanceAs (Decidable (∀ d ∈ s.phase.draining?, _ → ∀ e ∈ _, _))
  | .store .. | .put .. => inferInstanceAs (Decidable (_ → _))
  | .start _ | .fetch _ | .lookedUp .. | .receive _ | .handle .. | .remove _ | .cleanup _ | .localOp _ =>
    inferInstanceAs (Decidable True)

/-- After a drain and until the next read, nothing is stored at `k`; while it is looked up, it is not drained. -/
structure Empty (s : Poller me) : Prop where
  record : k ∈ s.drained → s.storage.record? k = none
  lookup : ∀ key ∈ s.phase.lookingFor?, mailboxId C key = k → k ∉ s.drained

end Blindness

variable {k : NodeId} {s : Poller me}

theorem Phase.lookingFor?_arrive (key : NodeId) (es : List EncryptedEnvelope) :
    ∀ p : Phase, (p.arrive C key es).lookingFor? = p.lookingFor?
  | .idle => rfl
  | .fetching _ _ => rfl
  | .lookingUp _ _ _ _ => rfl
  | .processing _ _ => rfl

theorem Phase.lookingFor?_next : ∀ bs : List Batch, (Phase.next bs).lookingFor? = none
  | [] => rfl
  | _ :: _ => rfl

/-- A record that is there after a write under another key was there before. -/
theorem record?_eq_none_of_imp {st st' : Kad.Storage} (h : ∀ r, st'.record? k = some r → st.record? k = some r)
    (hn : st.record? k = none) : st'.record? k = none := by
  cases h' : st'.record? k with
  | none => rfl
  | some r => exact absurd (hn.symm.trans (h r h')) (by simp)

theorem Empty.fetch (h : s.Empty k) (now : Nat) : (s.step M J T ttl (.fetch now)).Empty k := by
  cases hp : s.phase with
  | fetching keys batches =>
    cases keys with
    | nil =>
      have hstep : s.step M J T ttl (.fetch now) = s.fetchOwn M batches := by simp only [step, hp]
      rw [hstep]
      unfold fetchOwn
      cases hr : s.storage.remove me.userId with
      | mk storage record =>
        -- the record under the own id is taken out, and nothing is written
        have hstorage : k ∈ s.drained → storage.record? k = none := by
          intro hk
          have hrec := s.storage.record?_remove me.userId k
          rw [hr] at hrec
          rw [hrec]
          split
          · rfl
          · exact h.record hk
        cases record <;> exact ⟨hstorage, fun key hkey => by rw [Phase.lookingFor?_next] at hkey; cases hkey⟩
    | cons key keys =>
      -- the key that is read does not count as drained any more
      have hdrained : ∀ x, x ∈ s.drained.filter (fun k => k ≠ mailboxId C key) → x ∈ s.drained := fun x hx =>
        (List.mem_filter.1 hx).1
      simp only [step, hp]
      split
      · exact ⟨fun hk => h.record (hdrained k hk), fun _ hk => by cases hk⟩
      · refine ⟨fun hk => h.record (hdrained k hk), fun key' hkey' heq hk => ?_⟩
        cases hkey'
        simp [heq] at hk
  | idle | lookingUp | processing =>
    simp only [step, hp]
    exact h

theorem Empty.lookedUp (h : s.Empty k) (found : Option Bytes) (now : Nat) :
    (s.step M J T ttl (.lookedUp found now)).Empty k := by
  cases hp : s.phase with
  | lookingUp key window keys batches =>
    simp only [step, hp]
    refine ⟨fun hk => ?_, fun _ hkey => by cases hkey⟩
    have hne : mailboxId C key ≠ k := fun heq => h.lookup key (by rw [hp]; rfl) heq hk
    exact record?_eq_none_of_imp (fun r hr => Kad.record?_cacheFound_other hne hr) (h.record hk)
  | idle | fetching | processing =>
    simp only [step, hp]
    exact h

theorem Empty.drain (h : s.Empty k) (ho : s.InOrder M) {now : Nat} (hl : s.LeavesEmpty M k (.drain now)) :
    (s.step M J T ttl (.drain now)).Empty k := by
  cases hd : s.phase.draining? with
  | none =>
    simp only [step, hd]
    exact h
  | some d =>
    obtain ⟨b, rest⟩ := d
    obtain ⟨hp, htodo, hcur⟩ := Phase.draining?_eq_some hd
    have hlook : ∀ key ∈ (Phase.next rest).lookingFor?, mailboxId C key = k → k ∉ s.drained := by
      rw [Phase.lookingFor?_next]
      exact fun _ hkey => by cases hkey
    cases hkey : b.key with
    | none =>
      simp only [step, hd, hkey]
      exact ⟨h.record, hlook⟩
    | some key =>
      simp only [step, hd, hkey]
      refine ⟨fun hk => ?_, fun key' hkey' => by rw [Phase.lookingFor?_next] at hkey'; cases hkey'⟩
      by_cases heq : mailboxId C key = k
      · -- all of it was for the user, so the record goes
        have hall := hl (b, rest) hd (by rw [hkey]; exact congrArg some heq)
        have hun : b.unconsumed = [] := by
          rw [((ho.batches b (Phase.mem_batches_of_eq hp)).at_end htodo hcur).2]
          refine List.filter_eq_nil_iff.2 fun e he => ?_
          simp [hall e he]
        rw [hun, if_pos List.isEmpty_nil, Kad.Storage.record?_remove, if_pos heq]
      · have hk' : k ∈ s.drained := (List.mem_cons.1 hk).resolve_left (Ne.symm heq)
        split
        · rw [Kad.Storage.record?_remove, if_neg heq]
          exact h.record hk'
        · exact record?_eq_none_of_imp (fun r hr => s.storage.record?_put_other _ _ _ heq hr) (h.record hk')

theorem Empty.store (h : s.Empty k) {key : NodeId} {value : Bytes} {now : Nat}
    (hl : s.LeavesEmpty M k (.store key value now)) : (s.step M J T ttl (.store key value now)).Empty k := by
  have hst : k ∈ s.drained → (Kad.handleStore M.toValueJson s.storage key value now).1.record? k = none := by
    intro hk
    by_cases heq : key = k
    · rw [Kad.handleStore_rejected (hl heq hk)]
      exact h.record hk
    · exact record?_eq_none_of_imp (fun r hr => Kad.record?_handleStore_other heq hr) (h.record hk)
  cases hs : Kad.handleStore M.toValueJson s.storage key value now with
  | mk storage ok =>
    rw [hs] at hst
    cases ok with
    | false =>
      simp only [step, hs]
      exact ⟨hst, h.lookup⟩
    | true =>
      simp only [step, hs]
      refine ⟨hst, fun key' hkey' => h.lookup key' ?_⟩
      rw [← Phase.lookingFor?_arrive key (M.envelopesIn value)]
      exact hkey'

theorem Empty.step (h : s.Empty k) (ho : s.InOrder M) : ∀ {a : PollAction}, s.LeavesEmpty M k a →
    (s.step M J T ttl a).Empty k
  | .start now, _ => by
    cases hp : s.phase with
    | idle =>
      simp only [Poller.step, hp]
      exact ⟨h.record, fun _ hkey => by cases hkey⟩
    | fetching | lookingUp | processing =>
      simp only [Poller.step, hp]
      exact h
  | .fetch now, _ => h.fetch now
  | .lookedUp found now, _ => h.lookedUp found now
  | .receive now, _ => by
    cases hp : s.phase with
    | processing b rest =>
      simp only [Poller.step, hp]
      split
      · split <;> exact ⟨h.record, fun _ hkey => by cases hkey⟩
      · exact h
    | idle | fetching | lookingUp =>
      simp only [Poller.step, hp]
      exact h
  | .handle now dht, _ => by
    cases hp : s.phase with
    | processing b rest =>
      simp only [Poller.step, hp]
      split
      · exact ⟨h.record, fun _ hkey => by cases hkey⟩
      · exact h
    | idle | fetching | lookingUp =>
      simp only [Poller.step, hp]
      exact h
  | .drain now, hl => h.drain ho hl
  | .store key value now, hl => h.store hl
  | .put key value _ now, hl => by
    refine ⟨fun hk => ?_, h.lookup⟩
    have hne : key ≠ k := fun heq => hl heq hk
    exact record?_eq_none_of_imp (fun r hr => s.storage.record?_put_other _ _ _ hne hr) (h.record hk)
  | .remove key, _ => by
    refine ⟨fun hk => ?_, h.lookup⟩
    simp only [Poller.step, Kad.Storage.record?_remove]
    split
    · rfl
    · exact h.record hk
  | .cleanup now, _ => by
    refine ⟨fun hk => ?_, h.lookup⟩
    simp only [Poller.step, Kad.Storage.record?_cleanupStale, h.record hk]
    rfl
  | .localOp _, _ => ⟨h.record, h.lookup⟩

theorem Empty.asksNetwork (h : s.Empty k) : ∀ a : PollAction, s.AsksNetwork M J T ttl k a
  | .fetch now => by
    intro key hkey heq hk
    cases hp : s.phase with
    | fetching keys batches =>
      rw [hp] at hkey
      cases keys with
      | nil => cases hkey
      | cons key' keys =>
        cases hkey
        have hget : s.storage.get (mailboxId C key) now = none :=
          Kad.Storage.get_eq_none_of_record now (heq ▸ h.record hk)
        have hphase : (s.step M J T ttl (.fetch now)).phase = .lookingUp key [] keys batches := by
          simp only [Poller.step, hp, hget]
        refine ⟨by rw [hphase]; rfl, fun value now' => ⟨Batch.of M (some key) value [], ?_, rfl, rfl⟩⟩
        generalize s.step M J T ttl (.fetch now) = s' at hphase
        simp only [Poller.step, hphase]
        exact List.mem_append_right _ List.mem_cons_self
    | idle | lookingUp | processing =>
      rw [hp] at hkey
      cases hkey
  | .start _ | .drain _ | .lookedUp .. | .receive _ | .handle .. | .store .. | .put .. | .remove _ | .cleanup _
  | .localOp _ => trivial

/-- In a run in which what is drained from a mailbox is all for the user and nothing is written there until it is
polled again, every poll of it after a drain asks the network. -/
theorem run_asksNetwork (k : NodeId) (inbox : Inbox me) (storage : Kad.Storage) (tick : Nat) (as : List PollAction)
    (h : Steps (Poller.step M J T ttl) (LeavesEmpty M k) { inbox, storage, tick } as) :
    Steps (Poller.step M J T ttl) (AsksNetwork M J T ttl k) { inbox, storage, tick } as := by
  have h0 : InOrder M ({ inbox, storage, tick } : Poller me) ∧ Empty k ({ inbox, storage, tick } : Poller me) :=
    ⟨inOrder_start inbox storage tick, fun hk => (by cases hk), fun _ hk => by cases hk⟩
  exact steps_of_invariant (I := fun s => InOrder M s ∧ Empty k s) (fun s a hI hl => ⟨hI.1.step a, hI.2.step hI.1 hl⟩)
    (fun s a hI _ => hI.2.asksNetwork a) h0 h

namespace Round

open NodeX.Sample Sample

/-- An envelope for Mallory, which anyone can put into Bob's mailbox. -/
def foreign : EncryptedEnvelope :=
  encryptEnvelope .transparent alice mallory.userId mallory.x25519Public (utf8 "x") (List.replicate 32 5)
    (List.replicate 12 3) 1700000002

/-- Bob's mailbox holds Alice's envelope and the foreign one. -/
def poisoned : Kad.Storage := holding (mailboxJson.printEnvelopes [SameId.fromAlice, foreign])

/-- A round over both, and the start of the next. -/
def bothThenAgain : List PollAction :=
  [.start 1700000010, .fetch 1, .fetch 2, .receive 1700000010, .handle 1700000010 SameId.noDht, .receive 1700000010,
    .drain 3, .start 1700000016]

end Round

open Round in
/-- The foreign envelope is written back, and the next round finds it and asks nobody. -/
theorem run_asksNetwork_poisoned : ¬ Steps pollStep
    (AsksNetwork Sample.mailboxJson SameId.payloadJson SameId.presenceText Kad.defaultTtl mailbox)
    { storage := poisoned } (bothThenAgain ++ [.fetch 7]) := by
  intro h
  have hlast := ((steps_concat _ _ _ bothThenAgain (.fetch 7)).1 h).2
  obtain ⟨hkey, hdrained, hlocal⟩ :
      (run pollStep { storage := poisoned } bothThenAgain).phase.nextKey? = some mailboxKey ∧
      mailbox ∈ (run pollStep { storage := poisoned } bothThenAgain).drained ∧
      (pollStep (run pollStep { storage := poisoned } bothThenAgain) (.fetch 7)).phase.lookingFor? = none := by
    decide +kernel
  have hask := (hlast mailboxKey hkey rfl hdrained).1
  exact absurd (hlocal.symm.trans hask) (by simp)

open Round in
theorem run_asksNetwork_clean : Steps pollStep
    (AsksNetwork Sample.mailboxJson SameId.payloadJson SameId.presenceText Kad.defaultTtl mailbox)
    { storage := holding (Sample.mailboxJson.printEnvelopes [SameId.fromAlice]) }
    (round [] [.start 1700000016, .fetch 7]) :=
  run_asksNetwork mailbox {} _ 0 _ (by decide +kernel)

end Poller

/-! ## Entries that are no envelope -/

section Entries

variable {values : List M.Value}

theorem mapM_eq_none {v : M.Value} : ∀ {values : List M.Value}, v ∈ values → M.asEnvelope v = none →
    values.mapM M.asEnvelope = none
  | w :: values, hv, hnone => by
    rw [List.mapM_cons]
    rcases List.mem_cons.1 hv with rfl | hv
    · rw [hnone]
      rfl
    · cases hw : M.asEnvelope w with
      | none => rfl
      | some e =>
        rw [mapM_eq_none hv hnone]
        rfl

theorem mapM_eq_filterMap : ∀ {values : List M.Value}, (∀ v ∈ values, (M.asEnvelope v).isSome) →
    values.mapM M.asEnvelope = some (values.filterMap M.asEnvelope)
  | [], _ => rfl
  | v :: values, h => by
    obtain ⟨e, he⟩ := Option.isSome_iff_exists.1 (h v List.mem_cons_self)
    rw [List.mapM_cons, he, mapM_eq_filterMap fun w hw => h w (List.mem_cons_of_mem _ hw),
      List.filterMap_cons_some he]
    rfl

/-- An array of envelopes is read element by element. -/
theorem readEnvelopes_printValues (hM : M.Lawful) (h : ∀ v ∈ values, (M.asEnvelope v).isSome) :
    M.readEnvelopes (M.printValues values) = values.filterMap M.asEnvelope := by
  unfold MailboxJson.readEnvelopes
  rw [hM.envelopes_printValues, mapM_eq_filterMap h]

/-- With one element that is no envelope, none of the others is read. -/
theorem readEnvelopes_printValues_of_none (hM : M.Lawful) {v w : M.Value} {e : EncryptedEnvelope} (hv : v ∈ values)
    (hnone : M.asEnvelope v = none) (hw : w ∈ values) (he : M.asEnvelope w = some e) :
    M.readEnvelopes (M.printValues values) = [] := by
  unfold MailboxJson.readEnvelopes
  rw [hM.envelopes_printValues, mapM_eq_none hv hnone]
  cases hs : M.parseEnvelope (M.printValues values) with
  | none => rfl
  | some single =>
    have hn := hM.envelope_printValues values single hs w hw
    rw [he] at hn
    cases hn

/-- How many envelopes a deposit of one more pushes out in front. -/
def overflow (envelopes : List EncryptedEnvelope) (envelope : EncryptedEnvelope) : Nat :=
  (withEnvelope envelopes envelope).length - maxDepositEnvelopes

/-- A deposit keeps what it read exactly if what it pushes out is also further back. -/
theorem forall_mem_lastEnvelopes_iff (envelopes : List EncryptedEnvelope) (envelope : EncryptedEnvelope) :
    (∀ e ∈ envelopes, e ∈ lastEnvelopes (withEnvelope envelopes envelope)) ↔
      ∀ e ∈ envelopes.take (overflow envelopes envelope), e ∈ envelopes.drop (overflow envelopes envelope) := by
  have hsplit : ∀ n, (∀ e ∈ envelopes, e ∈ envelopes.drop n) ↔ ∀ e ∈ envelopes.take n, e ∈ envelopes.drop n := by
    intro n
    constructor
    · intro h e he
      exact h e (List.mem_of_mem_take he)
    · intro h e he
      rw [← List.take_append_drop n envelopes] at he
      rcases List.mem_append.1 he with he | he
      · exact h e he
      · exact he
  rw [← hsplit]
  unfold overflow lastEnvelopes withEnvelope
  split
  · exact Iff.rfl
  · rename_i hany
    -- the envelope is appended, and it is none of those that were read
    have hnot : envelope ∉ envelopes := fun hmem => hany (List.any_eq_true.2 ⟨envelope, hmem, by simp⟩)
    have hle : (envelopes ++ [envelope]).length - maxDepositEnvelopes ≤ envelopes.length := by
      rw [List.length_append, List.length_singleton, maxDepositEnvelopes]
      omega
    rw [List.drop_append_of_le_length hle]
    constructor
    · intro h e he
      rcases List.mem_append.1 (h e he) with hd | hd
      · exact hd
      · exact absurd (List.mem_singleton.1 hd ▸ he) hnot
    · intro h e he
      exact List.mem_append_left _ (h e he)

variable (M) in
/-- When a poll gets the user's envelopes out of an array: every element is an envelope, or none is one for the
user. -/
def Readable (me : UserIdentity C) (values : List M.Value) : Prop :=
  (∀ v ∈ values, (M.asEnvelope v).isSome) ∨ ∀ v ∈ values, ∀ e ∈ M.asEnvelope v, e.recipientId ≠ me.userId

variable (M) in
/-- When a deposit keeps the envelopes of an array: every element is an envelope and what it pushes out is also
further back, or some element is none and there is no envelope but the one it brings. -/
def Keepable (envelope : EncryptedEnvelope) (values : List M.Value) : Prop :=
  ((∀ v ∈ values, (M.asEnvelope v).isSome) ∧
    ∀ e ∈ (values.filterMap M.asEnvelope).take (overflow (values.filterMap M.asEnvelope) envelope),
      e ∈ (values.filterMap M.asEnvelope).drop (overflow (values.filterMap M.asEnvelope) envelope)) ∨
  (∃ v ∈ values, M.asEnvelope v = none) ∧ ∀ v ∈ values, ∀ e ∈ M.asEnvelope v, e = envelope

theorem forall_mem_filterMap {P : EncryptedEnvelope → Prop} : (∀ e ∈ values.filterMap M.asEnvelope, P e) ↔
    ∀ v ∈ values, ∀ e ∈ M.asEnvelope v, P e := by
  constructor
  · intro h v hv e he
    exact h e (List.mem_filterMap.2 ⟨v, hv, he⟩)
  · intro h e he
    obtain ⟨v, hv, hve⟩ := List.mem_filterMap.1 he
    exact h v hv e hve

theorem readable_iff (hM : M.Lawful) (me : UserIdentity C) : Readable M me values ↔ ∀ v ∈ values, ∀ e ∈ M.asEnvelope v,
    e.recipientId = me.userId → e ∈ ownEnvelopes me (M.readEnvelopes (M.printValues values)) := by
  constructor
  · rintro (hall | hother) v hv e he hown
    · rw [readEnvelopes_printValues hM hall]
      exact List.mem_filter.2 ⟨List.mem_filterMap.2 ⟨v, hv, he⟩, by simpa using hown⟩
    · exact absurd hown (hother v hv e he)
  · intro h
    by_cases hall : ∀ v ∈ values, (M.asEnvelope v).isSome
    · exact .inl hall
    · refine .inr fun w hw e he hown => ?_
      obtain ⟨v, hv, hnone⟩ : ∃ v ∈ values, M.asEnvelope v = none := by simpa using hall
      have hin := h w hw e he hown
      rw [readEnvelopes_printValues_of_none hM hv hnone hw he] at hin
      cases hin

theorem keepable_iff (hM : M.Lawful) (envelope : EncryptedEnvelope) : Keepable M envelope values ↔
    ∀ v ∈ values, ∀ e ∈ M.asEnvelope v, e ∈ depositEnvelopes M (some (M.printValues values)) envelope := by
  rw [← forall_mem_filterMap]
  by_cases hall : ∀ v ∈ values, (M.asEnvelope v).isSome
  · -- every element is read, and the deposit may push some out
    have hread : readMailbox M (some (M.printValues values)) = values.filterMap M.asEnvelope :=
      readEnvelopes_printValues hM hall
    unfold depositEnvelopes
    rw [hread, forall_mem_lastEnvelopes_iff]
    constructor
    · rintro (⟨-, hcap⟩ | ⟨⟨v, hv, hnone⟩, -⟩)
      · exact hcap
      · have hsome := hall v hv
        rw [hnone] at hsome
        cases hsome
    · exact fun hcap => .inl ⟨hall, hcap⟩
  · obtain ⟨v, hv, hnone⟩ : ∃ v ∈ values, M.asEnvelope v = none := by simpa using hall
    -- nothing is read, and the deposit puts its envelope in the place of the array
    have hempty : ∀ e ∈ values.filterMap M.asEnvelope,
        depositEnvelopes M (some (M.printValues values)) envelope = [envelope] := by
      intro e he
      obtain ⟨w, hw, hwe⟩ := List.mem_filterMap.1 he
      have hread : readMailbox M (some (M.printValues values)) = [] :=
        readEnvelopes_printValues_of_none hM hv hnone hw hwe
      unfold depositEnvelopes
      rw [hread]
      rfl
    constructor
    · rintro (⟨h, -⟩ | ⟨-, hsame⟩) e he
      · exact absurd h hall
      · rw [hempty e he, forall_mem_filterMap.2 hsame e he]
        exact List.mem_singleton_self _
    · refine fun h => .inr ⟨⟨v, hv, hnone⟩, forall_mem_filterMap.1 fun e he => ?_⟩
      have hin := h e he
      rw [hempty e he] at hin
      exact List.mem_singleton.1 hin

/-- For an array of any JSON values, in every run: when a round drains the key it read the array under, it has
processed every element that is an envelope for the user exactly if the array is readable; and a deposit that read
the array keeps every element that is an envelope exactly if it is keepable. -/
theorem entries_independent_iff (hM : M.Lawful) (inbox : Inbox me) (storage : Kad.Storage) (tick : Nat)
    (as : List PollAction) {b : Batch} {rest : List Batch}
    (hd : (run (Poller.step M J T ttl) { inbox, storage, tick } as).phase.draining? = some (b, rest))
    (hf : b.fetched = M.printValues values) (envelope : EncryptedEnvelope) :
    ((∀ v ∈ values, ∀ e ∈ M.asEnvelope v, e.recipientId = me.userId → e ∈ b.processed) ↔ Readable M me values) ∧
      ((∀ v ∈ values, ∀ e ∈ M.asEnvelope v, e ∈ depositEnvelopes M (some b.fetched) envelope) ↔
        Keepable M envelope values) := by
  have hno : Steps (Poller.step M J T ttl) (fun _ _ => True) ({ inbox, storage, tick } : Poller me) as :=
    steps_of_forall (fun _ _ => trivial) _ _
  have ho := run_invariant (I := Poller.InOrder M) (fun s a h _ => h.step a)
    (Poller.inOrder_start inbox storage tick) hno
  obtain ⟨hp, htodo, hcur⟩ := Phase.draining?_eq_some hd
  have hend := ((ho.batches b (Phase.mem_batches_of_eq hp)).at_end htodo hcur).1
  rw [hend, hf]
  exact ⟨(readable_iff hM me).symm, (keepable_iff hM envelope).symm⟩

end Entries

namespace Poller.Round

open NodeX.Sample Sample

/-- Alice's envelope beside a number. -/
def spoiled : List mailboxJson.Value := [.inl SameId.fromAlice, .inr 7]

/-- Alice's envelope beside the foreign one. -/
def mixed : List mailboxJson.Value := [.inl SameId.fromAlice, .inl foreign]

/-- A round that has been through both, at the end of its batch. -/
def beforeDrain (values : List mailboxJson.Value) : Poller bob :=
  run pollStep { storage := holding (mailboxJson.printValues values) } (bothThenAgain.take 6)

/-- The batch of `mixed` at its end. -/
def mixedBatch : Batch :=
  { key := some mailboxKey, fetched := mailboxJson.printValues mixed, todo := [], processed := [SameId.fromAlice]
    unconsumed := [foreign] }

end Poller.Round

open Poller Poller.Round in
/-- With the number beside it, Alice's envelope is not processed when the mailbox is drained, and a deposit of
Mallory's drops it. -/
theorem entries_independent_spoiled :
    ((beforeDrain spoiled).phase.draining?.any fun d => d.1.fetched = Sample.mailboxJson.printValues spoiled &&
      ¬ SameId.fromAlice ∈ d.1.processed) = true ∧
    SameId.fromAlice ∉ depositEnvelopes Sample.mailboxJson (some (Sample.mailboxJson.printValues spoiled))
      SameId.fromMallory := by
  decide +kernel

open Poller Poller.Round in
theorem entries_independent_mixed :
    ((∀ v ∈ mixed, ∀ e ∈ Sample.mailboxJson.asEnvelope v, e.recipientId = Sample.bob.userId →
        e ∈ mixedBatch.processed) ↔
      Readable Sample.mailboxJson Sample.bob mixed) ∧
    ((∀ v ∈ mixed, ∀ e ∈ Sample.mailboxJson.asEnvelope v,
        e ∈ depositEnvelopes Sample.mailboxJson (some mixedBatch.fetched) SameId.fromMallory) ↔
      Keepable Sample.mailboxJson SameId.fromMallory mixed) := by
  have hd : (run pollStep { storage := holding (Sample.mailboxJson.printValues mixed) }
      (bothThenAgain.take 6)).phase.draining? = some (mixedBatch, []) := by decide +kernel
  exact entries_independent_iff Sample.mailboxJson_lawful {} (holding (Sample.mailboxJson.printValues mixed)) 0
    (bothThenAgain.take 6) hd rfl SameId.fromMallory

end NodeX.Messenger
