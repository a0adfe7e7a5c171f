/-
A transfer whose datagrams and acknowledgements all arrive: both phones come to its end, and the receiver has the file.
-/
import NodeX.Android.Transfer

namespace NodeX.Android

open NodeX.Lib Messenger AndroidMessageCrypto

namespace Exchange

variable {P : Account} {filesDir : String} {O : Outgoing P} {s : Exchange}

/-! ## The way there -/

/-- The phones and what lies between them while all goes well: parts come within a day, the receiver's disk works, both
kinds of datagrams have a length that is read, and the sender knows the receiver. -/
structure Smooth (O : Outgoing P) (createdAt : Int) (acks : Nat → Json) (phone : Phone) (x : Nat → Surroundings)
    (disk : Disk) : Prop where
  inTime : ∀ i, ((x i).clock.millis : Int) - createdAt ≤ 24 * 60 * 60 * 1000
  stores : disk.storeFails = none
  sendsAck : disk.sendsAck = true
  partsExist : disk.partsExist = true
  opensOutput : disk.opensOutput = true
  assembles : disk.assembled.isSome = true
  chunk : ∀ i < O.chunkCount, 2 ≤ (P.O.print (O.chunks i)).length ∧ (P.O.print (O.chunks i)).length ≤ 1388
  created : ∀ i < O.chunkCount, createAttachmentAck P O.id i O.senderHex = .ok (acks i)
  ack : ∀ i < O.chunkCount, 2 ≤ (P.O.print (acks i)).length ∧ (P.O.print (acks i)).length ≤ 1024
  known : phone.getVerifiedPeerEd25519Key P.K (hexString (identityKeys P.C P.seed).nodeId) =
    some (identityKeys P.C P.seed).edPublic

/-- A part that comes, and its acknowledgement. -/
def delivery (O : Outgoing P) (acks : Nat → Json) (phone : Phone) (x : Nat → Surroundings) (disk : Disk) (i : Nat) :
    List ExchangeEvent :=
  [.datagram (O.datagram i) (x i) disk, .ack phone (ackDatagram P (acks i))]

/-- A window that is sent, of which all comes. -/
def delivered (O : Outgoing P) (acks : Nat → Json) (phone : Phone) (x : Nat → Surroundings) (disk : Disk)
    (window : List Nat) : List ExchangeEvent :=
  .turn :: window.flatMap (delivery O acks phone x disk)

/-- The receiver with the first parts. -/
structure Upto (O : Outgoing P) (messageId : String) (createdAt : Int) (n : Nat) (s : Exchange) : Prop where
  table : ∃ partFiles : List (Option String), s.receiver.incomingAttachments.at? O.id =
      some ⟨O.senderHex, messageId, O.manifest, partFiles, createdAt⟩ ∧ partFiles.length = O.chunkCount ∧
    ∀ j < O.chunkCount, (partFiles[j]? = some none ↔ n ≤ j)
  ed : s.receiver.getVerifiedPeerEd25519Key P.K O.senderHex = some (identityKeys P.C O.seed).edPublic
  x25519 : s.receiver.getVerifiedPeerX25519Key P.K O.senderHex = some (identityKeys P.C O.seed).xPublic
  parts : ∀ j < n, s.parts j = some (O.piece j)
  files : s.files = []

/-- The receiver with the file. -/
structure Complete (O : Outgoing P) (s : Exchange) : Prop where
  table : s.receiver.incomingAttachments.at? O.id = none
  files : s.files = [O.file]

/-- The receiver after the first `n` parts. -/
def After (O : Outgoing P) (messageId : String) (createdAt : Int) (n : Nat) (s : Exchange) : Prop :=
  if n < O.chunkCount then Upto O messageId createdAt n s else Complete O s

section Way

variable {messageId : String} {createdAt : Int} {acks : Nat → Json} {phone : Phone} {x : Nat → Surroundings}
  {disk : Disk}

/-! ## Acknowledgements -/

theorem acknowledge_ackKey (s : Windowed Nat) (i : Nat) : O.acknowledge s (ackKey O.id i) = s.acknowledge i := by
  have hkey : ∀ j : Nat, decide (ackKey O.id j = ackKey O.id i) = decide (j = i) := by
    intro j
    refine decide_eq_decide.2 ⟨fun h => (ackKey_inj h).2, fun h => by rw [h]⟩
  unfold Outgoing.acknowledge Windowed.acknowledge
  simp only [hkey]
  by_cases hi : i ∈ s.window
  · have hfind : s.window.find? (fun j => decide (j = i)) = some i := by
      cases hfound : s.window.find? (fun j => decide (j = i)) with
      | none => exact absurd (decide_eq_true rfl) (List.find?_eq_none.1 hfound i hi)
      | some j =>
        have hj : j = i := by simpa using List.find?_some hfound
        rw [hj]
    rw [hfind, if_pos hi]
    dsimp only
    rw [if_pos hi]
  · have hfind : s.window.find? (fun j => decide (j = i)) = none := by
      refine List.find?_eq_none.2 fun j hj => ?_
      rintro h
      exact hi (of_decide_eq_true h ▸ hj)
    rw [hfind, if_neg hi]

theorem takeAck_of_taken {data : Bytes} {key : String} (h : phone.takenAck (P.peer O.seed) data = some key) :
    s.takeAck O phone data = { s with sender := O.acknowledge s.sender key } := by
  unfold takeAck
  rw [h]

theorem takeAck_delivery (hP : Platform P) (hC : P.C.Correct) (h : Smooth O createdAt acks phone x disk) {i : Nat}
    (hi : i < O.chunkCount) :
    s.takeAck O phone (ackDatagram P (acks i)) = { s with sender := s.sender.acknowledge i } := by
  have hlt : i < 2 ^ 31 := hi.trans O.chunkCount_le
  have hcreated := h.created i hi
  have hverify := verifyAttachmentAck_createAttachmentAck hP hC hlt hcreated
  have htaken : phone.takenAck (P.peer O.seed) (ackDatagram P (acks i)) = some (ackKey O.id i) := by
    rw [takenAck_ackDatagram hP (says_createAttachmentAck hcreated) (hP.ack _ _ _ _ hcreated) hlt,
      if_pos (h.ack i hi), h.known]
    dsimp only
    rw [hverify, if_pos rfl]
  rw [takeAck_of_taken htaken, acknowledge_ackKey]

/-! ## Parts -/

theorem isIntact_file : isIntact P O.manifest O.file = true := by
  have hsize : optLong P.O O.manifest "file_size" 0 = (O.file.length : Int) := by
    have hle := O.size.2
    have hopt : opt O.manifest "file_size" = some (.nat O.file.length) := rfl
    have hlong : toLong P.O (.nat O.file.length) = some (O.file.length : Int) := by
      change some (if O.file.length < 2 ^ 63 then (O.file.length : Int) else 2 ^ 63 - 1) = _
      rw [if_pos (by omega)]
    unfold optLong
    rw [hopt, Option.bind_some, hlong, Option.getD_some]
  unfold isIntact
  rw [hsize, Bool.and_eq_true]
  exact ⟨decide_eq_true rfl, beq_self_eq_true _⟩

theorem joined_of_parts {parts : Nat → Option Bytes} : ∀ {n : Nat}, (∀ j < n, parts j = some (O.piece j)) →
    joined parts n = some (O.file.take (350 * n))
  | 0, _ => by simp [joined]
  | n + 1, h => by
    have hfront : joined parts n = some (O.file.take (350 * n)) := joined_of_parts fun j hj => h j (by omega)
    rw [joined, hfront, Option.bind_some, h n (by omega), Option.map_some, Nat.mul_succ, List.take_add]
    rfl

theorem isComplete_iff {t : IncomingAttachment} : t.isComplete = true ↔ ∀ j : Nat, t.partFiles[j]? ≠ some none := by
  unfold IncomingAttachment.isComplete
  rw [List.all_eq_true]
  constructor
  · intro h j hj
    cases h none (List.mem_of_getElem? hj)
  · intro h part hpart
    cases part with
    | none =>
      obtain ⟨j, hj⟩ := List.mem_iff_getElem?.1 hpart
      exact absurd hj (h j)
    | some path => rfl

/-- The files after one more part. -/
theorem missing_set {partFiles : List (Option String)} {n count : Nat} (hlength : partFiles.length = count)
    (hmissing : ∀ j < count, (partFiles[j]? = some none ↔ n ≤ j)) (path : String) :
    ∀ j < count, ((partFiles.set n (some path))[j]? = some none ↔ n + 1 ≤ j) := by
  intro j hj
  rw [List.getElem?_set]
  by_cases hnj : n = j
  · rw [if_pos hnj, if_pos (by omega)]
    simp only [Option.some.injEq, reduceCtorEq, false_iff]
    omega
  · rw [if_neg hnj, hmissing j hj]
    omega

section Receive

variable {r : Phone} {data : Bytes} {y : Surroundings} {n : Nat} {t t' : IncomingAttachment}
  (haccepted : r.acceptedChunk P data y.clock = some (O.id, n, t)) (hmissing : t.partFiles[n]? = some none)
  (ht' : Phone.withPart t n (partPath filesDir O.id n) = t') (hstores : disk.storeFails = none)

include haccepted hmissing ht' hstores

theorem receive_part : (r.handleAttachmentDatagram P filesDir data y disk).1 =
    (Phone.afterPart P filesDir { r with incomingAttachments := r.incomingAttachments.put O.id t' } O.id t' y
      disk).1 := by
  unfold Phone.handleAttachmentDatagram
  rw [haccepted]
  dsimp only
  rw [if_pos hmissing, if_neg (by rw [hstores]; simp), ht']

/-- A part after which others are missing. -/
theorem receive_inner (hincomplete : t'.isComplete = false) :
    (r.handleAttachmentDatagram P filesDir data y disk).1 =
        { r with incomingAttachments := r.incomingAttachments.put O.id t' } ∧
      finishedBy P filesDir r (.datagram data y disk) = [] := by
  have hreceiver : (r.handleAttachmentDatagram P filesDir data y disk).1 =
      { r with incomingAttachments := r.incomingAttachments.put O.id t' } := by
    rw [receive_part haccepted hmissing ht' hstores]
    unfold Phone.afterPart
    rw [if_neg]
    unfold IncomingAttachment.isComplete at hincomplete
    rw [hincomplete]
    simp
  refine ⟨hreceiver, ?_⟩
  unfold finishedBy
  dsimp only
  rw [haccepted]
  dsimp only
  rw [hreceiver]
  dsimp only
  rw [KeyedMap.at?_put, if_pos rfl]
  rfl

/-- The last part. -/
theorem receive_last (hcomplete : t'.isComplete = true) (hends : disk.sendsAck = true ∧ disk.partsExist = true)
    (hopens : disk.opensOutput = true) (hintact : disk.assembled.any (isIntact P t.manifest) = true) :
    (r.handleAttachmentDatagram P filesDir data y disk).1.incomingAttachments.at? O.id = none ∧
      finishedBy P filesDir r (.datagram data y disk) ≠ [] := by
  have hgone : (r.handleAttachmentDatagram P filesDir data y disk).1.incomingAttachments.at? O.id = none := by
    rw [receive_part haccepted hmissing ht' hstores, Slots.incomingAttachments_afterPart, if_pos ⟨hcomplete, hends⟩,
      KeyedMap.at?_erase, if_pos rfl]
  refine ⟨hgone, ?_⟩
  unfold finishedBy
  dsimp only
  rw [haccepted]
  dsimp only
  rw [hgone, hopens, hintact, if_pos (by rfl)]
  simp

end Receive

variable (filesDir) in
/-- The next part. -/
theorem after_datagram (hP : Platform P) (hC : P.C.Correct) (h : Smooth O createdAt acks phone x disk) {n : Nat}
    (hn : n < O.chunkCount) (hs : s.After O messageId createdAt n) :
    (s.takeDatagram filesDir O (O.datagram n) (x n) disk).After O messageId createdAt (n + 1) := by
  unfold After at hs
  rw [if_pos hn] at hs
  obtain ⟨⟨partFiles, hat, hlength, hmissing⟩, hed, hx, hparts, hfiles⟩ := hs
  have haccepted := Outgoing.acceptedChunk_eq hP hC hn hat rfl hlength (h.inTime n) hed hx (h.chunk n hn)
  have hfirst : partFiles[n]? = some none := (hmissing n hn).2 le_rfl
  have hset := missing_set hlength hmissing (partPath filesDir O.id n)
  have htake : s.takeDatagram filesDir O (O.datagram n) (x n) disk = s.takePart P filesDir n
      ⟨O.senderHex, messageId, O.manifest, partFiles, createdAt⟩ (O.datagram n) (x n) disk := by
    unfold takeDatagram
    rw [haccepted]
    dsimp only
    rw [if_pos rfl]
  have hpartsAfter : s.partsAfter P n ⟨O.senderHex, messageId, O.manifest, partFiles, createdAt⟩ (O.datagram n)
      disk =
      Function.update s.parts n (some (O.piece n)) := by
    have hstores : Slots.stores ⟨O.senderHex, messageId, O.manifest, partFiles, createdAt⟩ n disk = true := by
      unfold Slots.stores
      rw [h.stores, Bool.and_eq_true]
      exact ⟨decide_eq_true hfirst, rfl⟩
    unfold partsAfter
    rw [if_pos hstores, Outgoing.opensTo_datagram hP hC hn hed hx]
  have hupdated : ∀ j < n + 1, Function.update s.parts n (some (O.piece n)) j = some (O.piece j) := by
    intro j hj
    rw [Function.update_apply]
    by_cases hjn : j = n
    · rw [if_pos hjn, hjn]
    · rw [if_neg hjn, hparts j (by omega)]
  rw [htake]
  unfold takePart
  dsimp only
  rw [hpartsAfter]
  generalize ht : IncomingAttachment.mk O.senderHex messageId O.manifest partFiles createdAt = t at *
  generalize hwith : Phone.withPart t n (partPath filesDir O.id n) = t'
  have hfiles' : t'.partFiles = partFiles.set n (some (partPath filesDir O.id n)) := by
    rw [← hwith, ← ht]
    rfl
  have hmissing' : t.partFiles[n]? = some none := by
    rw [← ht]
    exact hfirst
  generalize hdisk : diskWith (Function.update s.parts n (some (O.piece n))) partFiles.length disk = disk'
  have hstores : disk'.storeFails = none := by
    rw [← hdisk]
    exact h.stores
  by_cases hlast : n + 1 < O.chunkCount
  · have hincomplete : t'.isComplete = false := by
      rw [Bool.eq_false_iff]
      refine fun hcomplete => isComplete_iff.1 hcomplete (n + 1) ?_
      rw [hfiles']
      exact (hset (n + 1) hlast).2 le_rfl
    obtain ⟨hreceiver, hnone⟩ := receive_inner haccepted hmissing' hwith hstores hincomplete
    unfold After
    rw [if_pos hlast]
    refine ⟨⟨t'.partFiles, ?_, ?_, ?_⟩, ?_, ?_, hupdated, ?_⟩
    · dsimp only
      rw [hreceiver]
      dsimp only
      rw [KeyedMap.at?_put, if_pos rfl, ← hwith, ← ht]
      rfl
    · rw [hfiles', List.length_set, hlength]
    · rw [hfiles']
      exact hset
    · dsimp only
      rw [hreceiver]
      exact hed
    · dsimp only
      rw [hreceiver]
      exact hx
    · dsimp only
      rw [if_pos hnone]
      exact hfiles
  · have hcomplete : t'.isComplete = true := by
      refine isComplete_iff.2 fun j hj => ?_
      rw [hfiles'] at hj
      obtain ⟨hlt, -⟩ := List.getElem?_eq_some_iff.1 hj
      rw [List.length_set, hlength] at hlt
      have hle := (hset j hlt).1 hj
      omega
    have hjoined : joined (Function.update s.parts n (some (O.piece n))) partFiles.length = some O.file := by
      rw [hlength, joined_of_parts (O := O) fun j hj => hupdated j (by omega), Outgoing.take_chunkCount]
    have hassembled : disk'.assembled = some O.file := by
      obtain ⟨bytes, hbytes⟩ := Option.isSome_iff_exists.1 h.assembles
      rw [← hdisk]
      unfold diskWith
      rw [hbytes, Option.bind_some, hjoined]
    have hintact : disk'.assembled.any (isIntact P t.manifest) = true := by
      rw [hassembled, ← ht]
      exact isIntact_file
    have hends : disk'.sendsAck = true ∧ disk'.partsExist = true := by
      rw [← hdisk]
      exact ⟨h.sendsAck, h.partsExist⟩
    have hopens : disk'.opensOutput = true := by
      rw [← hdisk]
      exact h.opensOutput
    obtain ⟨hgone, hsome⟩ := receive_last haccepted hmissing' hwith hstores hcomplete hends hopens hintact
    unfold After
    rw [if_neg hlast]
    refine ⟨hgone, ?_⟩
    dsimp only
    rw [if_neg hsome, hassembled, hfiles]
    rfl

/-! ## All windows -/

theorem After.withSender {n : Nat} (hs : s.After O messageId createdAt n) (sender : Windowed Nat) :
    Exchange.After O messageId createdAt n { s with sender } := by
  unfold After at hs ⊢
  split at hs
  · rename_i hn
    rw [if_pos hn]
    exact { hs with }
  · rename_i hn
    rw [if_neg hn]
    exact { hs with }

theorem sender_takeDatagram (data : Bytes) (x : Surroundings) :
    (s.takeDatagram filesDir O data x disk).sender = s.sender := by
  unfold takeDatagram
  split
  · rfl
  split <;> rfl

variable (filesDir) in
/-- Parts in a row, with their acknowledgements. -/
theorem run_deliveries (hP : Platform P) (hC : P.C.Correct) (h : Smooth O createdAt acks phone x disk) :
    ∀ (k n : Nat) {s : Exchange}, n + k ≤ O.chunkCount → s.After O messageId createdAt n →
      (run (step filesDir O) s ((List.range' n k).flatMap (delivery O acks phone x disk))).After O messageId createdAt
          (n + k) ∧
        (run (step filesDir O) s ((List.range' n k).flatMap (delivery O acks phone x disk))).sender =
          (List.range' n k).foldl Windowed.acknowledge s.sender
  | 0, n, s, _, hs => ⟨hs, rfl⟩
  | k + 1, n, s, hk, hs => by
    have hn : n < O.chunkCount := by omega
    have hnext := after_datagram filesDir hP hC h hn hs
    have hboth : run (step filesDir O) s (delivery O acks phone x disk n) =
        { s.takeDatagram filesDir O (O.datagram n) (x n) disk with sender := s.sender.acknowledge n } := by
      have hack : ∀ s : Exchange, s.step filesDir O (.ack phone (ackDatagram P (acks n))) =
          s.takeAck O phone (ackDatagram P (acks n)) := fun _ => rfl
      have hpart : s.step filesDir O (.datagram (O.datagram n) (x n) disk) =
          s.takeDatagram filesDir O (O.datagram n) (x n) disk := rfl
      rw [delivery, run_cons, run_cons, run_nil, hack, hpart, takeAck_delivery hP hC h hn, sender_takeDatagram]
    rw [List.range'_succ, List.flatMap_cons, run_append, hboth, List.foldl_cons]
    have hrest := run_deliveries hP hC h k (n + 1) (by omega) (hnext.withSender (s.sender.acknowledge n))
    rw [Nat.add_right_comm, Nat.add_assoc] at hrest
    exact hrest

variable (filesDir) in
theorem run_windows (hP : Platform P) (hC : P.C.Correct) (h : Smooth O createdAt acks phone x disk) :
    ∀ (windows : List (List Nat)) (n : Nat) {s : Exchange}, windows.flatten = List.range' n (O.chunkCount - n) →
      n ≤ O.chunkCount → s.After O messageId createdAt n → s.sender.outcome = none → s.sender.unacked = [] →
      s.sender.rest = windows →
      (run (step filesDir O) s (windows.flatMap (delivered O acks phone x disk) ++ [.turn])).sender.outcome =
          some true ∧
        (run (step filesDir O) s (windows.flatMap (delivered O acks phone x disk) ++ [.turn])).After O messageId
          createdAt O.chunkCount
  | [], n, s, hflat, hle, hs, hnone, hall, hrest => by
    have hlength := congrArg List.length hflat
    rw [List.flatten_nil, List.length_nil, List.length_range'] at hlength
    obtain rfl : n = O.chunkCount := by omega
    exact ⟨Windowed.turn_last hnone hall hrest, hs.withSender _⟩
  | window :: windows, n, s, hflat, hle, hs, hnone, hall, hrest => by
    rw [List.flatten_cons] at hflat
    obtain ⟨k, hk, rfl, htail⟩ := List.range'_eq_append_iff.1 hflat.symm
    have hturn : s.step filesDir O .turn =
        { s with sender := { window := List.range' n k, rest := windows, tries := 1 } } := by
      show { s with sender := (s.sender.turn 4).1 } = _
      rw [Windowed.turn_next hnone hall hrest]
    obtain ⟨hafter, hsender⟩ := run_deliveries filesDir hP hC h k n (by omega) (hs.withSender
      { window := List.range' n k, rest := windows, tries := 1 })
    have hfolded := Windowed.foldl_acknowledge (List.range' n k)
      { window := List.range' n k, rest := windows, tries := 1 }
    have hall' := Windowed.unacked_foldl_acknowledge (κ := Nat)
      { window := List.range' n k, rest := windows, tries := 1 }
    rw [← hsender] at hall' hfolded
    rw [List.flatMap_cons, List.append_assoc, run_append, delivered, run_cons, hturn]
    refine run_windows hP hC h windows (n + k) ?_ (by omega) hafter ?_ hall' ?_
    · rw [htail, Nat.mul_one, Nat.sub_sub]
    · rw [hfolded]
    · rw [hfolded]

end Way

/-! ## The file of one byte -/

theorem smooth_letter : Smooth letter 101000 (fun _ => letterAck) alicesPhone (fun _ => arrives) workingDisk where
  inTime _ := by
    have hnow : arrives.clock.millis = 102000 := rfl
    omega
  stores := rfl
  sendsAck := rfl
  partsExist := rfl
  opensOutput := rfl
  assembles := rfl
  chunk i hi := by
    obtain rfl : i = 0 := Nat.lt_one_iff.1 hi
    exact length_letter
  created i hi := by
    obtain rfl : i = 0 := Nat.lt_one_iff.1 hi
    exact created_letterAck
  ack _ _ := by decide +kernel
  known := (keys_verifiedContact rfl).1

end Exchange

end NodeX.Android
