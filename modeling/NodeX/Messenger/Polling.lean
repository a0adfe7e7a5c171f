/-
The polling task: which mailbox keys a round polls, how each is fetched, how the batches are processed
and how each key is drained. A round gives way at every await, so each of its steps is a step of its
own, and STORE requests, other writes to the storage and the local user's operations fall between.
-/
import NodeX.Kad.Node
import NodeX.Messenger.Inbox
import NodeX.Messenger.MailboxJson

namespace NodeX.Messenger

open NodeX.Lib

variable {C : Crypto}

/-! ## The schedule -/

/-- The mailbox keys of a round, in the order they are polled. -/
def keysToPoll (C : Crypto) (myUserId : String) (tick now : Nat) : List String :=
  [deriveSecureMailboxKey C myUserId now] ++
  (if tick % 10 = 0 then [deriveSecureMailboxKey C myUserId (now - 86400)] else []) ++
  if tick % 60 = 0 then
    [2, 3, 4, 5, 6].map (fun dayOffset => deriveSecureMailboxKey C myUserId (now - dayOffset * 86400)) ++
      [deriveSecureMailboxKey C myUserId (now + 86400)]
  else if now % 86400 ≥ 82800 ∧ tick % 10 = 0 then [deriveSecureMailboxKey C myUserId (now + 86400)]
  else []

/-- Where a mailbox is stored. -/
def mailboxId (C : Crypto) (mailboxKey : String) : NodeId := .fromKey C (utf8 mailboxKey)

/-! ## What sixty rounds poll -/

/-- The keys of consecutive rounds, one at each clock reading; the tick counts up before a round. -/
def keysPolled (C : Crypto) (myUserId : String) : Nat → List Nat → List String
  | _, [] => []
  | tick, now :: nows =>
    let tick := (tick + 1) % 2 ^ 64
    keysToPoll C myUserId tick now ++ keysPolled C myUserId tick nows

/-- A mailbox key depends on the UTC day alone. -/
theorem deriveSecureMailboxKey_congr (user : String) {t u : Nat} (h : t / 86400 = u / 86400) :
    deriveSecureMailboxKey C user t = deriveSecureMailboxKey C user u := by
  unfold deriveSecureMailboxKey
  rw [h]

/-- A round polls days from six days back to the next one. -/
theorem day_of_mem_keysToPoll {user : String} {tick now : Nat} {k : String} (h : k ∈ keysToPoll C user tick now) :
    ∃ u, k = deriveSecureMailboxKey C user u ∧ now / 86400 ≤ u / 86400 + 6 ∧ u / 86400 ≤ now / 86400 + 1 := by
  unfold keysToPoll at h
  rcases List.mem_append.1 h with h | h
  · rcases List.mem_append.1 h with h | h
    · exact ⟨now, List.mem_singleton.1 h, by omega⟩
    · split at h
      · exact ⟨now - 86400, List.mem_singleton.1 h, by omega⟩
      · exact absurd h List.not_mem_nil
  · split at h
    · rcases List.mem_append.1 h with h | h
      · obtain ⟨d, hd, rfl⟩ := List.mem_map.1 h
        have hd : d ≤ 6 := by simp only [List.mem_cons, List.not_mem_nil, or_false] at hd; omega
        exact ⟨now - d * 86400, rfl, by omega⟩
      · exact ⟨now + 86400, List.mem_singleton.1 h, by omega⟩
    · split at h
      · exact ⟨now + 86400, List.mem_singleton.1 h, by omega⟩
      · exact absurd h List.not_mem_nil

/-- The round of every sixtieth tick polls the last seven days and the next one. -/
theorem mem_keysToPoll_of_sixtieth (user : String) {tick now t : Nat} (htick : tick % 60 = 0)
    (hlow : now / 86400 ≤ t / 86400 + 6) (hhigh : t / 86400 ≤ now / 86400 + 1) :
    deriveSecureMailboxKey C user t ∈ keysToPoll C user tick now := by
  have hten : tick % 10 = 0 := by omega
  unfold keysToPoll
  rw [if_pos hten, if_pos htick]
  by_cases hnext : t / 86400 = now / 86400 + 1
  · rw [deriveSecureMailboxKey_congr user (show t / 86400 = (now + 86400) / 86400 by omega)]
    exact List.mem_append_right _ (List.mem_append_right _ List.mem_cons_self)
  -- the day of `t`, counted back from `now`
  obtain ⟨d, hd, hback⟩ : ∃ d ≤ 6, t / 86400 = (now - d * 86400) / 86400 :=
    ⟨now / 86400 - t / 86400, by omega, by omega⟩
  rw [deriveSecureMailboxKey_congr user hback]
  rcases d with _ | _ | d
  · simp
  · simp
  · refine List.mem_append_right _ (List.mem_append_left _ (List.mem_map.2 ⟨d + 2, ?_, rfl⟩))
    simp only [List.mem_cons, List.not_mem_nil, or_false]
    omega

theorem mem_keysPolled {user : String} {k : String} : ∀ {tick : Nat} {nows : List Nat},
    k ∈ keysPolled C user tick nows ↔
      ∃ i, ∃ h : i < nows.length, k ∈ keysToPoll C user ((tick + (i + 1)) % 2 ^ 64) nows[i]
  | tick, [] => by simp [keysPolled]
  | tick, now :: nows => by
    have hshift : ∀ i, ((tick + 1) % 2 ^ 64 + (i + 1)) % 2 ^ 64 = (tick + (i + 1 + 1)) % 2 ^ 64 := by
      intro i
      omega
    unfold keysPolled
    rw [List.mem_append, mem_keysPolled]
    constructor
    · rintro (h | ⟨i, hi, h⟩)
      · exact ⟨0, Nat.zero_lt_succ _, h⟩
      · refine ⟨i + 1, Nat.succ_lt_succ hi, ?_⟩
        rw [hshift] at h
        exact h
    · rintro ⟨i, hi, h⟩
      cases i with
      | zero => exact .inl h
      | succ i =>
        refine .inr ⟨i, Nat.lt_of_succ_lt_succ hi, ?_⟩
        rw [hshift]
        exact h

/-- Among sixty consecutive ticks is a multiple of sixty, also where the counter wraps. -/
theorem exists_sixtieth (tick : Nat) : ∃ i < 60, (tick + (i + 1)) % 2 ^ 64 % 60 = 0 := by
  have hfirst : (tick + 1) % 2 ^ 64 < 2 ^ 64 := Nat.mod_lt _ (by decide)
  have hcount : ∀ first < 2 ^ 64, ∃ i < 60, (first + i) % 2 ^ 64 % 60 = 0 := by
    intro first hfirst
    by_cases hwrap : first + 59 < 2 ^ 64
    · have hlt : first + (60 - first % 60) % 60 < 2 ^ 64 := by omega
      refine ⟨(60 - first % 60) % 60, by omega, ?_⟩
      rw [Nat.mod_eq_of_lt hlt]
      omega
    · -- the counter comes to zero
      exact ⟨2 ^ 64 - first, by omega, by omega⟩
  obtain ⟨i, hi, h⟩ := hcount _ hfirst
  refine ⟨i, hi, ?_⟩
  rw [show (tick + (i + 1)) % 2 ^ 64 = ((tick + 1) % 2 ^ 64 + i) % 2 ^ 64 by omega]
  exact h

/-- Of sixty consecutive rounds, whatever the first tick, with clock readings on the UTC day of
`now`: they poll the mailbox of a deposit at `t` exactly if that is at most six UTC days back, or
the mailbox happens to have the key of another day that is polled. -/
theorem keysPolled_covers_iff (C : Crypto) (user : String) (tick : Nat) {nows : List Nat} (now t : Nat)
    (hlen : nows.length = 60) (hnow : ∀ n ∈ nows, n / 86400 = now / 86400) (ht : t ≤ now) :
    deriveSecureMailboxKey C user t ∈ keysPolled C user tick nows ↔
      now / 86400 ≤ t / 86400 + 6 ∨
        ∃ u, u / 86400 ≠ t / 86400 ∧ now / 86400 ≤ u / 86400 + 6 ∧ u / 86400 ≤ now / 86400 + 1 ∧
          deriveSecureMailboxKey C user u = deriveSecureMailboxKey C user t := by
  rw [mem_keysPolled]
  constructor
  · rintro ⟨i, hi, h⟩
    obtain ⟨u, hu, hlow, hhigh⟩ := day_of_mem_keysToPoll h
    rw [hnow _ (List.getElem_mem hi)] at hlow hhigh
    by_cases hday : u / 86400 = t / 86400
    · exact .inl (by omega)
    · exact .inr ⟨u, hday, hlow, hhigh, hu.symm⟩
  · intro h
    obtain ⟨i, hi, htick⟩ := exists_sixtieth tick
    have hi : i < nows.length := by omega
    have hn := hnow _ (List.getElem_mem hi)
    refine ⟨i, hi, ?_⟩
    rcases h with h | ⟨u, -, hlow, hhigh, hu⟩
    · exact mem_keysToPoll_of_sixtieth user htick (by omega) (by omega)
    · rw [← hu]
      exact mem_keysToPoll_of_sixtieth user htick (by omega) (by omega)

/-- Noon, and noon seven days later: the envelope is still accepted, and its mailbox is not polled. -/
theorem keysPolled_covers_weekOld :
    let t := 1000 * 86400 + 43200
    let now := t + maxReplayWindowSecs
    deriveSecureMailboxKey .transparent "a" t ∉ keysPolled .transparent "a" 0 (List.replicate 60 now) := by
  intro t now
  rw [keysPolled_covers_iff .transparent "a" 0 now t List.length_replicate
    (fun n hn => by rw [List.eq_of_mem_replicate hn]) (by decide)]
  rintro (h | ⟨u, hne, hlow, hhigh, hu⟩)
  · exact absurd h (by decide)
  · -- the eight days that are polled have other keys
    have hkeys : ∀ k < 8, deriveSecureMailboxKey .transparent "a" ((1001 + k) * 86400) ≠
        deriveSecureMailboxKey .transparent "a" t := by decide
    have hday : now / 86400 = 1007 := by decide
    have hback : 1001 + (u / 86400 - 1001) = u / 86400 := by omega
    refine hkeys (u / 86400 - 1001) (by omega) (Eq.trans (deriveSecureMailboxKey_congr "a" ?_) hu)
    rw [hback, Nat.mul_div_cancel _ (by decide)]

/-- Six days back, with the tick wrapping around on the way. -/
theorem keysPolled_covers_sixDays :
    deriveSecureMailboxKey .transparent "a" (1000 * 86400) ∈
      keysPolled .transparent "a" (2 ^ 64 - 20) (List.replicate 60 (1006 * 86400 + 86399)) :=
  (keysPolled_covers_iff .transparent "a" (2 ^ 64 - 20) (1006 * 86400 + 86399) (1000 * 86400)
    List.length_replicate (fun n hn => by rw [List.eq_of_mem_replicate hn]) (by decide)).2 (.inl (by decide))

/-! ## Batches -/

/-- What a round fetched under a mailbox key, or under the user's own id: the bytes, the envelopes still to
go through, the one in the loop, those it is through with, and those for somebody else. The window holds
the envelopes that STORE requests brought since the key was read. -/
structure Batch where
  key : Option String
  fetched : Bytes
  todo : List EncryptedEnvelope
  current : Option EncryptedEnvelope := none
  processed : List EncryptedEnvelope := []
  unconsumed : List EncryptedEnvelope := []
  window : List EncryptedEnvelope := []
deriving DecidableEq

/-- Where a round is. -/
inductive Phase where
  | idle
  | fetching (keys : List String) (batches : List Batch)
  | lookingUp (key : String) (window : List EncryptedEnvelope) (keys : List String) (batches : List Batch)
  | processing (batch : Batch) (rest : List Batch)

/-- The envelopes for this user. -/
def ownEnvelopes (me : UserIdentity C) (envelopes : List EncryptedEnvelope) : List EncryptedEnvelope :=
  envelopes.filter fun e => e.recipientId = me.userId

/-- The envelopes for somebody else. -/
def foreignEnvelopes (me : UserIdentity C) (envelopes : List EncryptedEnvelope) : List EncryptedEnvelope :=
  envelopes.filter fun e => e.recipientId ≠ me.userId

section Model

variable (C) in
/-- Envelopes arrive at a storage key. -/
def Batch.arrive (key : NodeId) (envelopes : List EncryptedEnvelope) (b : Batch) : Batch :=
  if b.key.map (mailboxId C) = some key then { b with window := b.window ++ envelopes } else b

namespace Phase

def batches : Phase → List Batch
  | idle => []
  | fetching _ batches => batches
  | lookingUp _ _ _ batches => batches
  | processing batch rest => batch :: rest

/-- On to the next batch, or the end of the round. -/
def next : List Batch → Phase
  | [] => idle
  | batch :: rest => processing batch rest

variable (C) in
def arrive (key : NodeId) (envelopes : List EncryptedEnvelope) : Phase → Phase
  | idle => idle
  | fetching keys batches => fetching keys (batches.map (Batch.arrive C key envelopes))
  | lookingUp k window keys batches =>
    lookingUp k (if mailboxId C k = key then window ++ envelopes else window) keys
      (batches.map (Batch.arrive C key envelopes))
  | processing batch rest => processing (batch.arrive C key envelopes) (rest.map (Batch.arrive C key envelopes))

/-- The window of the lookup under way. -/
def window : Phase → List EncryptedEnvelope
  | lookingUp _ window _ _ => window
  | _ => []

/-- The key a lookup is under way for. -/
def lookingFor? : Phase → Option String
  | lookingUp key _ _ _ => some key
  | _ => none

/-- The key the round reads next. -/
def nextKey? : Phase → Option String
  | fetching keys _ => keys.head?
  | _ => none

/-- The batch a round is about to drain, with those after it. -/
def draining? : Phase → Option (Batch × List Batch)
  | processing batch rest => if batch.todo.isEmpty && batch.current.isNone then some (batch, rest) else none
  | _ => none

end Phase

/-! ## Steps -/

/-- The inbox, the storage and the polling task; every envelope the loop went through, and the keys drained
and not fetched since. -/
structure Poller (me : UserIdentity C) where
  inbox : Inbox me := {}
  storage : Kad.Storage := {}
  tick : Nat := 0
  phase : Phase := .idle
  processed : List EncryptedEnvelope := []
  drained : List NodeId := []

/-- The steps of a round (it starts; a key is read, or at last the record under the own id; a lookup ends; the
next envelope enters the loop; the loop is through with it; a batch is drained), and what falls between:
a STORE, another local write or removal, the clean-up of expired records, the local user. -/
inductive PollAction where
  | start (now : Nat)
  | fetch (now : Nat)
  | lookedUp (found : Option Bytes) (now : Nat)
  | receive (now : Nat)
  | handle (now : Nat) (dht : Dht)
  | drain (now : Nat)
  | store (key : NodeId) (value : Bytes) (now : Nat)
  | put (key : NodeId) (value : Bytes) (ttl now : Nat)
  | remove (key : NodeId)
  | cleanup (now : Nat)
  | localOp (op : LocalOp)

variable (M : MailboxJson) (J : PayloadJson) (T : PresenceText) (ttl : Nat) {me : UserIdentity C}

/-- A new batch of what was read under a key. -/
def Batch.of (key : Option String) (fetched : Bytes) (window : List EncryptedEnvelope) : Batch :=
  { key, fetched, todo := M.readEnvelopes fetched, window }

namespace Poller

/-- The last read of a round: the record under the user's own id is taken out of the storage. -/
def fetchOwn (s : Poller me) (batches : List Batch) : Poller me :=
  match s.storage.remove me.userId with
  | (storage, some record) =>
    { s with storage
             phase := .next (if (M.readEnvelopes record.value).isEmpty then batches
               else batches ++ [Batch.of M none record.value []]) }
  | (storage, none) => { s with storage, phase := .next batches }

def step (s : Poller me) : PollAction → Poller me
  | .start now =>
    match s.phase with
    | .idle =>
      let tick := (s.tick + 1) % 2 ^ 64
      { s with tick, phase := .fetching (keysToPoll C me.userIdHex tick now) [] }
    | _ => s
  | .fetch now =>
    match s.phase with
    | .fetching (key :: keys) batches =>
      let drained := s.drained.filter fun k => k ≠ mailboxId C key
      match s.storage.get (mailboxId C key) now with
      | some bytes => { s with drained, phase := .fetching keys (batches ++ [Batch.of M (some key) bytes []]) }
      | none => { s with drained, phase := .lookingUp key [] keys batches }
    | .fetching [] batches => s.fetchOwn M batches
    | _ => s
  | .lookedUp found now =>
    match s.phase with
    | .lookingUp key window keys batches =>
      { s with storage := Kad.cacheFound s.storage (mailboxId C key) found ttl now
               phase := .fetching keys (match found with
                 | some bytes => batches ++ [Batch.of M (some key) bytes window]
                 | none => batches) }
    | _ => s
  | .receive now =>
    match s.phase with
    | .processing batch rest =>
      match batch.current, batch.todo with
      | none, e :: todo =>
        if e.recipientId = me.userId then
          { s with inbox := s.inbox.step J T (.receive e now)
                   phase := .processing { batch with todo, current := some e } rest }
        else { s with phase := .processing { batch with todo, unconsumed := batch.unconsumed ++ [e] } rest }
      | _, _ => s
    | _ => s
  | .handle now dht =>
    match s.phase with
    | .processing batch rest =>
      match batch.current with
      | some e =>
        { s with inbox := s.inbox.step J T (.handle e now dht)
                 phase := .processing { batch with current := none, processed := batch.processed ++ [e] } rest
                 processed := s.processed ++ [e] }
      | none => s
    | _ => s
  | .drain now =>
    match s.phase.draining? with
    | some (batch, rest) =>
      match batch.key with
      | some key =>
        { s with storage := if batch.unconsumed.isEmpty then (s.storage.remove (mailboxId C key)).1
                   else s.storage.put (mailboxId C key) (M.printEnvelopes batch.unconsumed) ttl now
                 phase := .next rest
                 drained := mailboxId C key :: s.drained }
      | none => { s with phase := .next rest }
    | none => s
  | .store key value now =>
    match Kad.handleStore M.toValueJson s.storage key value now with
    | (storage, true) =>
      { s with storage, phase := s.phase.arrive C key (M.envelopesIn value) }
    | (storage, false) => { s with storage }
  | .put key value ttl now => { s with storage := s.storage.put key value ttl now }
  | .remove key => { s with storage := (s.storage.remove key).1 }
  | .cleanup now => { s with storage := s.storage.cleanupStale now }
  | .localOp op => { s with inbox := s.inbox.step J T (.localOp op) }

end Poller

/-! ## What a step does to the batches -/

variable {M J T ttl} {s : Poller me}

/-- Where a batch after a step comes from. -/
inductive Poller.BatchStep (M : MailboxJson) (s : Poller me) : PollAction → Batch → Prop where
  | kept {a b} : b ∈ s.phase.batches → BatchStep M s a b
  | read {now key bytes} : BatchStep M s (.fetch now) (Batch.of M key bytes [])
  | found {bytes now key} : BatchStep M s (.lookedUp (some bytes) now) (Batch.of M (some key) bytes s.phase.window)
  | received {now e} {b : Batch} {todo} : b ∈ s.phase.batches → b.current = none → b.todo = e :: todo →
      e.recipientId = me.userId → BatchStep M s (.receive now) { b with todo, current := some e }
  | passedOver {now e} {b : Batch} {todo} : b ∈ s.phase.batches → b.current = none → b.todo = e :: todo →
      e.recipientId ≠ me.userId →
      BatchStep M s (.receive now) { b with todo, unconsumed := b.unconsumed ++ [e] }
  | handled {now dht e} {b : Batch} {rest} : s.phase = .processing b rest → b.current = some e →
      BatchStep M s (.handle now dht) { b with current := none, processed := b.processed ++ [e] }
  | arrived {key value now} {b : Batch} : b ∈ s.phase.batches →
      (Kad.handleStore M.toValueJson s.storage key value now).2 = true →
      BatchStep M s (.store key value now) (b.arrive C key (M.envelopesIn value))

theorem Phase.batches_next : ∀ bs : List Batch, (Phase.next bs).batches = bs
  | [] => rfl
  | _ :: _ => rfl

theorem Phase.batches_arrive (key : NodeId) (es : List EncryptedEnvelope) :
    ∀ p : Phase, (p.arrive C key es).batches = p.batches.map (Batch.arrive C key es)
  | .idle => rfl
  | .fetching _ _ => rfl
  | .lookingUp _ _ _ _ => rfl
  | .processing _ _ => rfl

theorem Phase.mem_batches_of_eq {p : Phase} {b : Batch} {rest : List Batch} (h : p = .processing b rest) :
    b ∈ p.batches := by
  rw [h]
  exact List.mem_cons_self

theorem Phase.draining?_eq_some {p : Phase} {b : Batch} {rest : List Batch} (h : p.draining? = some (b, rest)) :
    p = .processing b rest ∧ b.todo = [] ∧ b.current = none := by
  cases p with
  | processing batch rest' =>
    simp only [draining?] at h
    split at h
    · rename_i hc
      cases h
      simp only [Bool.and_eq_true, List.isEmpty_iff, Option.isNone_iff_eq_none] at hc
      exact ⟨rfl, hc.1, hc.2⟩
    · cases h
  | idle => cases h
  | fetching => cases h
  | lookingUp => cases h

namespace Poller

theorem batchStep_fetchOwn {batches : List Batch} (hb : ∀ b ∈ batches, b ∈ s.phase.batches) {now : Nat} {b : Batch}
    (h : b ∈ (s.fetchOwn M batches).phase.batches) : BatchStep M s (.fetch now) b := by
  unfold fetchOwn at h
  split at h
  · rw [Phase.batches_next] at h
    split at h
    · exact .kept (hb b h)
    · rcases List.mem_append.1 h with h | h
      · exact .kept (hb b h)
      · rw [List.mem_singleton.1 h]
        exact .read
  · rw [Phase.batches_next] at h
    exact .kept (hb b h)

/-- Reading adds a batch to those there were. -/
theorem batchStep_fetch {now : Nat} {b : Batch} (h : b ∈ (s.step M J T ttl (.fetch now)).phase.batches) :
    BatchStep M s (.fetch now) b := by
  cases hp : s.phase with
  | fetching keys batches =>
    have hkeep : ∀ b ∈ batches, b ∈ s.phase.batches := by
      rw [hp]
      exact fun _ hb => hb
    cases keys with
    | nil =>
      simp only [step, hp] at h
      exact batchStep_fetchOwn hkeep h
    | cons key keys =>
      simp only [step, hp] at h
      split at h
      · rcases List.mem_append.1 h with h | h
        · exact .kept (hkeep b h)
        · rw [List.mem_singleton.1 h]
          exact .read
      · exact .kept (hkeep b h)
  | idle | lookingUp | processing =>
    simp only [step, hp] at h
    exact .kept (hp ▸ h)

/-- A lookup that finds something adds a batch, with what arrived while it was under way. -/
theorem batchStep_lookedUp {found : Option Bytes} {now : Nat} {b : Batch}
    (h : b ∈ (s.step M J T ttl (.lookedUp found now)).phase.batches) : BatchStep M s (.lookedUp found now) b := by
  cases hp : s.phase with
  | lookingUp key window keys batches =>
    have hkeep : ∀ b ∈ batches, b ∈ s.phase.batches := by
      rw [hp]
      exact fun _ hb => hb
    simp only [step, hp] at h
    cases found with
    | none => exact .kept (hkeep b h)
    | some bytes =>
      rcases List.mem_append.1 h with h | h
      · exact .kept (hkeep b h)
      · have hw : window = s.phase.window := by
          rw [hp]
          rfl
        rw [List.mem_singleton.1 h, hw]
        exact .found
  | idle | fetching | processing =>
    simp only [step, hp] at h
    exact .kept (hp ▸ h)

/-- The next envelope of the first batch enters the loop, or is passed over. -/
theorem batchStep_receive {now : Nat} {b : Batch} (h : b ∈ (s.step M J T ttl (.receive now)).phase.batches) :
    BatchStep M s (.receive now) b := by
  cases hp : s.phase with
  | processing batch rest =>
    have hhead : batch ∈ s.phase.batches := Phase.mem_batches_of_eq hp
    have hrest : ∀ b ∈ rest, b ∈ s.phase.batches := by
      rw [hp]
      exact fun b hb => List.mem_cons_of_mem _ hb
    simp only [step, hp] at h
    split at h
    · rename_i e todo hcur htodo
      split at h
      · rename_i hown
        rcases List.mem_cons.1 h with rfl | h
        · exact .received hhead hcur htodo hown
        · exact .kept (hrest b h)
      · rename_i hown
        rcases List.mem_cons.1 h with rfl | h
        · exact .passedOver hhead hcur htodo hown
        · exact .kept (hrest b h)
    · exact .kept h
  | idle | fetching | lookingUp =>
    simp only [step, hp] at h
    exact .kept (hp ▸ h)

/-- The loop is through with the envelope of the first batch. -/
theorem batchStep_handle {now : Nat} {dht : Dht} {b : Batch}
    (h : b ∈ (s.step M J T ttl (.handle now dht)).phase.batches) : BatchStep M s (.handle now dht) b := by
  cases hp : s.phase with
  | processing batch rest =>
    simp only [step, hp] at h
    split at h
    · rename_i e hcur
      rcases List.mem_cons.1 h with rfl | h
      · exact .handled hp hcur
      · refine .kept ?_
        rw [hp]
        exact List.mem_cons_of_mem _ h
    · exact .kept h
  | idle | fetching | lookingUp =>
    simp only [step, hp] at h
    exact .kept (hp ▸ h)

/-- A drain takes the first batch away. -/
theorem batchStep_drain {now : Nat} {b : Batch} (h : b ∈ (s.step M J T ttl (.drain now)).phase.batches) :
    BatchStep M s (.drain now) b := by
  cases hd : s.phase.draining? with
  | none =>
    simp only [step, hd] at h
    exact .kept h
  | some d =>
    obtain ⟨batch, rest⟩ := d
    have hp := (Phase.draining?_eq_some hd).1
    have hrest : b ∈ rest := by
      cases hk : batch.key <;> simpa only [step, hd, hk, Phase.batches_next] using h
    refine .kept ?_
    rw [hp]
    exact List.mem_cons_of_mem _ hrest

/-- A STORE that is taken notes its envelopes with the batches of its key. -/
theorem batchStep_store {key : NodeId} {value : Bytes} {now : Nat} {b : Batch}
    (h : b ∈ (s.step M J T ttl (.store key value now)).phase.batches) : BatchStep M s (.store key value now) b := by
  cases hst : Kad.handleStore M.toValueJson s.storage key value now with
  | mk storage ok =>
    cases ok with
    | false =>
      simp only [step, hst] at h
      exact .kept h
    | true =>
      simp only [step, hst, Phase.batches_arrive] at h
      obtain ⟨b', hb', rfl⟩ := List.mem_map.1 h
      exact .arrived hb' (by rw [hst])

/-- Every batch after a step was there, or is new, or was moved on by the step. -/
theorem batchStep : ∀ (a : PollAction) {b : Batch}, b ∈ (s.step M J T ttl a).phase.batches → BatchStep M s a b
  | .start now, b, h => by
    cases hp : s.phase with
    | idle =>
      simp only [step, hp] at h
      cases h
    | fetching | lookingUp | processing =>
      simp only [step, hp] at h
      exact .kept (hp ▸ h)
  | .fetch _, _, h => batchStep_fetch h
  | .lookedUp .., _, h => batchStep_lookedUp h
  | .receive _, _, h => batchStep_receive h
  | .handle .., _, h => batchStep_handle h
  | .drain _, _, h => batchStep_drain h
  | .store .., _, h => batchStep_store h
  | .put .., _, h => .kept h
  | .remove _, _, h => .kept h
  | .cleanup _, _, h => .kept h
  | .localOp _, _, h => .kept h

/-- The envelopes the loop went through only grow, and grow by the one it is through with. -/
theorem processed_step : ∀ a : PollAction, ∀ e ∈ s.processed, e ∈ (s.step M J T ttl a).processed
  | .handle now dht, e, he => by
    unfold step
    simp only
    split
    · split
      · exact List.mem_append_left _ he
      · exact he
    · exact he
  | .start _, e, he => by
    unfold step
    simp only
    split <;> exact he
  | .fetch _, e, he => by
    unfold step fetchOwn
    simp only
    repeat' split
    all_goals exact he
  | .lookedUp .., e, he => by
    unfold step
    simp only
    split <;> exact he
  | .receive _, e, he => by
    unfold step
    simp only
    repeat' split
    all_goals exact he
  | .drain _, e, he => by
    unfold step
    simp only
    repeat' split
    all_goals exact he
  | .store .., e, he => by
    unfold step
    simp only
    split <;> exact he
  | .put .., _, he => he
  | .remove _, _, he => he
  | .cleanup _, _, he => he
  | .localOp _, _, he => he

end Poller

end Model

end NodeX.Messenger
