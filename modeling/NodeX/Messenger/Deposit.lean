/-
`deposit_envelope_to_mailbox`: a mailbox is read (locally, else looked up), an envelope is appended, and
the list is written back. Between these steps fall the steps of other deposits and the STORE requests
for the same key. Replication sends the list to other nodes and changes nothing here.
-/
import NodeX.Kad.Node
import NodeX.Lib.Runs
import NodeX.Messenger.MailboxJson

namespace NodeX.Messenger

open NodeX.Lib

/-! ## The list a deposit writes -/

def maxDepositEnvelopes : Nat := 30

section Lists

variable (J : MailboxJson)

/-- The envelopes of what `get_silent` returned. -/
def readMailbox (read : Option Bytes) : List EncryptedEnvelope :=
  match read with
  | some bytes => J.readEnvelopes bytes
  | none => []

/-- The envelope is appended unless one with its signature and timestamp is there. -/
def withEnvelope (envelopes : List EncryptedEnvelope) (envelope : EncryptedEnvelope) : List EncryptedEnvelope :=
  if envelopes.any fun e => e.signature = envelope.signature && e.timestamp = envelope.timestamp then envelopes
  else envelopes ++ [envelope]

def lastEnvelopes (envelopes : List EncryptedEnvelope) : List EncryptedEnvelope :=
  envelopes.drop (envelopes.length - maxDepositEnvelopes)

/-- What a deposit of `envelope` writes after `read`. -/
def depositEnvelopes (read : Option Bytes) (envelope : EncryptedEnvelope) : List EncryptedEnvelope :=
  lastEnvelopes (withEnvelope (readMailbox J read) envelope)

end Lists

theorem mem_withEnvelope_of_mem {envelopes : List EncryptedEnvelope} (envelope : EncryptedEnvelope)
    {e : EncryptedEnvelope} (h : e ∈ envelopes) : e ∈ withEnvelope envelopes envelope := by
  unfold withEnvelope
  split
  · exact h
  · exact List.mem_append_left _ h

/-- The envelope itself is in the list, unless another one stands in for it. -/
theorem mem_withEnvelope_self {envelopes : List EncryptedEnvelope} {envelope : EncryptedEnvelope}
    (h : ∀ e ∈ envelopes, e.signature = envelope.signature → e.timestamp = envelope.timestamp → envelope ∈ envelopes) :
    envelope ∈ withEnvelope envelopes envelope := by
  unfold withEnvelope
  split
  · rename_i hany
    obtain ⟨e, he, heq⟩ := List.any_eq_true.1 hany
    simp only [Bool.and_eq_true, decide_eq_true_eq] at heq
    exact h e he heq.1 heq.2
  · exact List.mem_append_right _ List.mem_cons_self

/-- The caps take from the front: what is not in the part they took is left. -/
theorem mem_suffix_of_not_mem_take {α : Type} {l l' : List α} (h : l' <:+ l) {e : α} (he : e ∈ l)
    (hn : e ∉ l.take (l.length - l'.length)) : e ∈ l' := by
  rw [← List.take_append_drop (l.length - l'.length) l, ← List.suffix_iff_eq_drop.1 h] at he
  rcases List.mem_append.1 he with he | he
  · exact absurd he hn
  · exact he

/-! ## One mailbox at one node -/

inductive DepositPhase where
  | looking
  | ready (read : Option Bytes)
  | written
deriving DecidableEq

/-- A call of `deposit_envelope_to_mailbox` for the key, and how far it is. -/
structure Deposit where
  envelope : EncryptedEnvelope
  phase : DepositPhase
deriving DecidableEq

/-- A node's storage, the deposits made on it, and what it owes: the envelopes it accepted under the key
that were not dropped since as the oldest beyond a cap. -/
structure MailboxNode where
  storage : Kad.Storage
  deposits : List Deposit := []
  owed : List EncryptedEnvelope := []

/-- A STORE for the key; a deposit's local read, the end of its lookup, and its local write. The calls are
numbered as they are made. -/
inductive MailboxAction where
  | store (value : Bytes) (now : Nat)
  | deposit (envelope : EncryptedEnvelope) (now : Nat)
  | lookedUp (i : Nat) (found : Option Bytes) (now : Nat)
  | put (i : Nat) (now : Nat)

variable (J : MailboxJson) (key : NodeId) (ttl : Nat)

/-- What the caps of a merge drop. -/
def droppedByStore (existing : Option Bytes) (value : Bytes) : List EncryptedEnvelope :=
  match J.parseValues value with
  | none => []
  | some new =>
    let merged := (Kad.appendNew J.toValueJson (Kad.elementsOf J.toValueJson existing) new).1
    (merged.take (merged.length - (Kad.capArray J.toValueJson merged).1.length)).filterMap J.asEnvelope

/-- What the cap of a deposit drops. -/
def droppedByDeposit (read : Option Bytes) (envelope : EncryptedEnvelope) : List EncryptedEnvelope :=
  let list := withEnvelope (readMailbox J read) envelope
  list.take (list.length - (lastEnvelopes list).length)

namespace MailboxNode

def owe (s : MailboxNode) (accepted dropped : List EncryptedEnvelope) : List EncryptedEnvelope :=
  (s.owed ++ accepted).filter fun e => e ∉ dropped

/-- Call `i`, if it waits for its lookup. -/
def looking? (s : MailboxNode) (i : Nat) : Option EncryptedEnvelope :=
  match s.deposits[i]? with
  | some ⟨envelope, .looking⟩ => some envelope
  | _ => none

/-- Call `i` with what it read, if it is about to write. -/
def ready? (s : MailboxNode) (i : Nat) : Option (EncryptedEnvelope × Option Bytes) :=
  match s.deposits[i]? with
  | some ⟨envelope, .ready read⟩ => some (envelope, read)
  | _ => none

def step (s : MailboxNode) : MailboxAction → MailboxNode
  | .store value now =>
    match Kad.handleStore J.toValueJson s.storage key value now with
    | (storage, true) =>
      { s with storage, owed := s.owe (J.envelopesIn value) (droppedByStore J (s.storage.get key now) value) }
    | (storage, false) => { s with storage }
  | .deposit envelope now =>
    match s.storage.get key now with
    | some bytes => { s with deposits := s.deposits ++ [⟨envelope, .ready (some bytes)⟩] }
    | none => { s with deposits := s.deposits ++ [⟨envelope, .looking⟩] }
  | .lookedUp i found now =>
    match s.looking? i with
    | some envelope =>
      { s with storage := Kad.cacheFound s.storage key found ttl now
               deposits := s.deposits.set i ⟨envelope, .ready found⟩ }
    | none => s
  | .put i now =>
    match s.ready? i with
    | some (envelope, read) =>
      { storage := s.storage.put key (J.printEnvelopes (depositEnvelopes J read envelope)) ttl now
        deposits := s.deposits.set i ⟨envelope, .written⟩
        owed := s.owe [envelope] (droppedByDeposit J read envelope) }
    | none => s

/-- The envelopes in the mailbox record. -/
def record (s : MailboxNode) : List EncryptedEnvelope :=
  match s.storage.record? key with
  | some r => J.envelopesIn r.value
  | none => []

/-- A node as it stands: it owes what its record holds. -/
def start (storage : Kad.Storage) : MailboxNode :=
  { storage, owed := record J key { storage } }

/-- Every envelope accepted is in the record, unless it was dropped as one of the oldest. -/
def Kept (s : MailboxNode) : Prop := ∀ e ∈ s.owed, e ∈ s.record J key

instance (s : MailboxNode) : Decidable (s.Kept J key) := inferInstanceAs (Decidable (∀ e ∈ s.owed, _))

/-- A step that overwrites no accepted envelope unread. A STORE that is accepted over owed envelopes finds
them in a live array and brings an array; a lookup that ends brings the owed envelopes; a deposit that
writes has read them all, no other envelope in what it read has its own signature and timestamp, and its
list is not larger than the storage takes. -/
def Undisturbed (s : MailboxNode) : MailboxAction → Prop
  | .store value now =>
    (Kad.handleStore J.toValueJson s.storage key value now).2 = true → s.owed ≠ [] →
      ((s.storage.get key now).bind J.parseValues).isSome ∧ (J.parseValues value).isSome
  | .deposit _ _ => True
  | .lookedUp i found _ => (s.looking? i).isSome → ∀ value ∈ found, ∀ e ∈ s.owed, e ∈ J.envelopesIn value
  | .put i _ => ∀ d ∈ s.ready? i, (∀ e ∈ s.owed, e ∈ readMailbox J d.2) ∧
      (∀ e ∈ readMailbox J d.2, e.signature = d.1.signature → e.timestamp = d.1.timestamp →
        d.1 ∈ readMailbox J d.2) ∧
      (J.printEnvelopes (depositEnvelopes J d.2 d.1)).length ≤ Kad.maxStorageBytes

instance (s : MailboxNode) : ∀ a, Decidable (s.Undisturbed J key a)
  | .store _ _ => inferInstanceAs (Decidable (_ → _ → _ ∧ _))
  | .deposit _ _ => inferInstanceAs (Decidable True)
  | .lookedUp _ found _ => inferInstanceAs (Decidable (_ → ∀ value ∈ found, _))
  | .put i _ => inferInstanceAs (Decidable (∀ d ∈ s.ready? i, _ ∧ _ ∧ _))

/-! ## Steps -/

variable {J key ttl} {s : MailboxNode}

theorem mem_owe {accepted dropped : List EncryptedEnvelope} {e : EncryptedEnvelope} :
    e ∈ s.owe accepted dropped ↔ (e ∈ s.owed ∨ e ∈ accepted) ∧ e ∉ dropped := by
  unfold owe
  rw [List.mem_filter, List.mem_append, decide_eq_true_eq]

theorem record_of_record? {r : Kad.Record} (h : s.storage.record? key = some r) :
    s.record J key = J.envelopesIn r.value := by
  unfold record
  rw [h]

/-- What a merge into `existing` keeps: everything of the array, and everything sent, but for what the caps drop. -/
theorem mem_mergeStoreValue (hJ : J.Lawful) {existing : Option Bytes} {value : Bytes} {new : List J.Value}
    (hnew : J.parseValues value = some new) (hok : (Kad.mergeStoreValue J.toValueJson existing value).2.1 = true)
    {e : EncryptedEnvelope}
    (he : e ∈ (Kad.elementsOf J.toValueJson existing).filterMap J.asEnvelope ∨ e ∈ J.envelopesIn value)
    (hdrop : e ∉ droppedByStore J existing value) :
    e ∈ J.envelopesIn (Kad.mergeStoreValue J.toValueJson existing value).1 := by
  obtain ⟨hrej, hbytes, -⟩ := Kad.mergeStoreValue_array hnew hok
  unfold droppedByStore at hdrop
  simp only [hnew] at hdrop
  obtain ⟨added, happ, -⟩ := Kad.appendNew_append new (Kad.elementsOf J.toValueJson existing)
  have hmem : ∀ v, v ∈ Kad.elementsOf J.toValueJson existing ∨ v ∈ new →
      v ∈ (Kad.appendNew J.toValueJson (Kad.elementsOf J.toValueJson existing) new).1 := by
    rintro v (hv | hv)
    · rw [happ]
      exact List.mem_append_left _ hv
    · exact Kad.mem_appendNew hrej v hv
  -- the envelope is a value of the array, or of the value sent
  have hex : ∃ v, (v ∈ Kad.elementsOf J.toValueJson existing ∨ v ∈ new) ∧ J.asEnvelope v = some e := by
    rcases he with he | he
    · obtain ⟨v, hv, hve⟩ := List.mem_filterMap.1 he
      exact ⟨v, .inl hv, hve⟩
    · unfold MailboxJson.envelopesIn at he
      rw [hnew] at he
      obtain ⟨v, hv, hve⟩ := List.mem_filterMap.1 he
      exact ⟨v, .inr hv, hve⟩
  obtain ⟨v, hv, hve⟩ := hex
  -- which goes only if the caps drop it in front
  have hkept := mem_suffix_of_not_mem_take (Kad.capArray_suffix _) (hmem v hv)
    (fun ht => hdrop (List.mem_filterMap.2 ⟨v, ht, hve⟩))
  rw [hbytes, MailboxJson.envelopesIn_printValues hJ]
  exact List.mem_filterMap.2 ⟨v, hkept, hve⟩

theorem Kept.store (hJ : J.Lawful) (h : s.Kept J key) {value : Bytes} {now : Nat}
    (hu : s.Undisturbed J key (.store value now)) : (s.step J key ttl (.store value now)).Kept J key := by
  cases hst : Kad.handleStore J.toValueJson s.storage key value now with
  | mk storage ok =>
    cases ok with
    | false =>
      have hsame := Kad.handleStore_rejected (by rw [hst])
      rw [hst] at hsame
      simp only at hsame
      simp only [step, hst, hsame]
      exact h
    | true =>
      have hacc : (Kad.handleStore J.toValueJson s.storage key value now).2 = true := by rw [hst]
      have hok : (Kad.mergeStoreValue J.toValueJson (s.storage.get key now) value).2.1 = true := hacc
      have hrec := Kad.record?_handleStore hacc
      rw [hst] at hrec
      simp only [step, hst]
      intro e he
      rw [record_of_record? hrec]
      obtain ⟨hmem, hdrop⟩ := mem_owe.1 he
      cases hnew : J.parseValues value with
      | some new =>
        refine mem_mergeStoreValue hJ hnew hok (hmem.imp_left fun howed => ?_) hdrop
        -- an owed envelope is an element of the live array
        obtain ⟨hlive, -⟩ := hu hacc (List.ne_nil_of_mem howed)
        cases hget : s.storage.get key now with
        | none =>
          rw [hget] at hlive
          cases hlive
        | some bytes =>
          obtain ⟨r, hr, -, rfl⟩ := Kad.Storage.get_eq_some.1 hget
          have hin := h e howed
          rw [record_of_record? hr] at hin
          rw [hget, Option.bind_some] at hlive
          obtain ⟨values, hvalues⟩ := Option.isSome_iff_exists.1 hlive
          unfold MailboxJson.envelopesIn at hin
          rw [hvalues] at hin
          unfold Kad.elementsOf
          rw [Option.bind_some, hvalues, Option.getD_some]
          exact hin
      | none =>
        rcases hmem with howed | hin
        · obtain ⟨-, hsome⟩ := hu hacc (List.ne_nil_of_mem howed)
          rw [hnew] at hsome
          cases hsome
        · rw [show (Kad.Record.new (Kad.mergeStoreValue J.toValueJson (s.storage.get key now) value).1
            Kad.defaultTtl now).value = value from (Kad.mergeStoreValue_other hnew hok).1]
          exact hin

theorem Kept.deposit (h : s.Kept J key) (envelope : EncryptedEnvelope) (now : Nat) :
    (s.step J key ttl (.deposit envelope now)).Kept J key := by
  unfold step
  simp only
  split <;> exact h

theorem Kept.lookedUp (h : s.Kept J key) {i : Nat} {found : Option Bytes} {now : Nat}
    (hu : s.Undisturbed J key (.lookedUp i found now)) : (s.step J key ttl (.lookedUp i found now)).Kept J key := by
  unfold step
  simp only
  split
  · rename_i envelope hd
    cases found with
    | none => exact h
    | some value =>
      have hu' : ∀ e ∈ s.owed, e ∈ J.envelopesIn value := hu (by rw [hd]; rfl) value rfl
      by_cases hv : Kad.maxStorageBytes < value.length
      · have hsame : Kad.cacheFound s.storage key (some value) ttl now = s.storage :=
          s.storage.put_oversized key ttl now hv
        rw [hsame]
        exact h
      · have hrec : (Kad.cacheFound s.storage key (some value) ttl now).record? key =
            some (Kad.Record.new value ttl now) := s.storage.record?_put_self key ttl now (by omega)
        intro e he
        rw [record_of_record? hrec]
        exact hu' e he
  · exact h

theorem Kept.put (hJ : J.Lawful) (h : s.Kept J key) {i now : Nat} (hu : s.Undisturbed J key (.put i now)) :
    (s.step J key ttl (.put i now)).Kept J key := by
  unfold step
  simp only
  split
  · rename_i envelope read hd
    obtain ⟨hread, hself, hsize⟩ := hu _ hd
    have hrec := s.storage.record?_put_self key ttl now hsize
    intro e he
    rw [record_of_record? hrec]
    change e ∈ J.envelopesIn (J.printEnvelopes (depositEnvelopes J read envelope))
    rw [MailboxJson.envelopesIn_printEnvelopes hJ]
    obtain ⟨hmem, hdrop⟩ := mem_owe.1 he
    have hlist : e ∈ withEnvelope (readMailbox J read) envelope := by
      rcases hmem with howed | hnew
      · exact mem_withEnvelope_of_mem envelope (hread e howed)
      · rw [List.mem_singleton.1 hnew]
        exact mem_withEnvelope_self hself
    exact mem_suffix_of_not_mem_take (List.drop_suffix _ _) hlist hdrop
  · exact h

theorem Kept.step (hJ : J.Lawful) (h : s.Kept J key) : ∀ {a : MailboxAction}, s.Undisturbed J key a →
    (s.step J key ttl a).Kept J key
  | .store _ _, hu => h.store hJ hu
  | .deposit envelope now, _ => h.deposit envelope now
  | .lookedUp _ _ _, hu => h.lookedUp hu
  | .put _ _, hu => h.put hJ hu

/-- In a run of deposits and STORE requests at a node in which no step overwrites accepted envelopes unread,
every envelope accepted stays in the record unless it is dropped as one of the oldest. -/
theorem run_kept (hJ : J.Lawful) (storage : Kad.Storage) (as : List MailboxAction)
    (h : Steps (MailboxNode.step J key ttl) (Undisturbed J key) (start J key storage) as) :
    (run (MailboxNode.step J key ttl) (start J key storage) as).Kept J key := by
  have h0 : (start J key storage).Kept J key := fun _ he => he
  exact run_invariant (I := Kept J key) (fun _ _ hk hu => Kept.step hJ hk hu) h0 h

/-! ## A STORE between a deposit's read and its write -/

namespace Race

open NodeX.Sample Sample

def mailboxKey : NodeId := .fromKey .transparent (utf8 (deriveSecureMailboxKey .transparent bob.userIdHex 1700000000))

def fromAlice : EncryptedEnvelope :=
  encryptEnvelope .transparent alice bob.userId bob.x25519Public (utf8 "hello") (List.replicate 32 3)
    (List.replicate 12 1)
    1700000000

def fromMallory : EncryptedEnvelope :=
  encryptEnvelope .transparent mallory bob.userId bob.x25519Public (utf8 "hi") (List.replicate 32 4)
    (List.replicate 12 2)
    1700000001

/-- The STORE of another node's deposit is accepted while the local one has read an empty mailbox. -/
def between : List MailboxAction :=
  [.deposit fromAlice 0, .lookedUp 0 none 1, .store (mailboxJson.printEnvelopes [fromMallory]) 2, .put 0 3]

/-- The same STORE, and the deposit before and after it. -/
def beside : List MailboxAction :=
  [.deposit fromAlice 0, .lookedUp 0 none 1, .put 0 2, .store (mailboxJson.printEnvelopes [fromMallory]) 3,
    .deposit fromAlice 4, .put 1 5]

end Race

open Race in
/-- Mallory's envelope was accepted and is gone. -/
theorem run_kept_between :
    ¬(run (step Sample.mailboxJson mailboxKey Kad.defaultTtl) (start Sample.mailboxJson mailboxKey {}) between).Kept
      Sample.mailboxJson mailboxKey := by
  decide +kernel

open Race in
theorem run_kept_beside :
    (run (step Sample.mailboxJson mailboxKey Kad.defaultTtl) (start Sample.mailboxJson mailboxKey {}) beside).Kept
      Sample.mailboxJson mailboxKey :=
  run_kept Sample.mailboxJson_lawful {} beside (by decide +kernel)

end MailboxNode

end NodeX.Messenger
