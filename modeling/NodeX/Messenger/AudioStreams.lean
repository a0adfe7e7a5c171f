/-
The voice frames of many calls: the listening task keeps the last sequence number of each stream,
so that the numbers it reports only grow. It keeps those of 4096 streams and forgets none, so a new
call is heard exactly as long as fewer streams were ever authentic.
-/
import NodeX.Lib.Runs
import NodeX.Messenger.AudioFrames

namespace NodeX.Messenger

open NodeX.Lib

/-! ## The task over many datagrams -/

variable {C : Crypto} (J : PayloadJson)

/-- A datagram, with the identity and the contacts at the time it is looked at. -/
structure AudioDatagram (C : Crypto) where
  me : UserIdentity C
  contacts : Finmap fun _ : String => SavedContact
  packet : Bytes

/-- The sequence numbers, and the frames reported so far. -/
structure AudioTask where
  sequences : AudioSequences := ∅
  emitted : List CallAudioFrame := []

namespace AudioTask

def step (s : AudioTask) (d : AudioDatagram C) : AudioTask :=
  let (sequences, frame) := receiveAudio J d.me d.contacts s.sequences d.packet
  { sequences, emitted := s.emitted ++ frame.toList }

end AudioTask

/-- What a datagram that passes every check up to authentication holds, and its plaintext. -/
def AudioDatagram.authentic? (d : AudioDatagram C) : Option (AudioPacket × Bytes) :=
  (audioPacket J d.packet).bind fun p => (openAudio d.me d.contacts p).map (p, ·)

/-- The frame of a plaintext of whole samples. -/
def frameOf? (p : AudioPacket) (plain : Bytes) : Option CallAudioFrame :=
  if plain.length % 2 ≠ 0 then none else some ⟨p.senderId.toHex, p.callId, p.seq, p.rate, pcmSamples plain⟩

namespace AudioTask

variable {J}

theorem authentic?_eq_some {d : AudioDatagram C} {p : AudioPacket} {plain : Bytes} :
    d.authentic? J = some (p, plain) ↔
      audioPacket J d.packet = some p ∧ openAudio d.me d.contacts p = some plain := by
  unfold AudioDatagram.authentic?
  simp only [Option.bind_eq_some_iff, Option.map_eq_some_iff, Prod.mk.injEq]
  constructor
  · rintro ⟨q, hq, plain, hplain, rfl, rfl⟩
    exact ⟨hq, hplain⟩
  · rintro ⟨hp, hplain⟩
    exact ⟨p, hp, plain, hplain, rfl, rfl⟩

/-- A datagram that fails a check changes nothing. -/
theorem step_of_none {d : AudioDatagram C} (h : d.authentic? J = none) (s : AudioTask) : s.step J d = s := by
  unfold step receiveAudio
  cases hp : audioPacket J d.packet with
  | none => simp
  | some p =>
    cases hplain : openAudio d.me d.contacts p with
    | none => simp [hplain]
    | some plain =>
      rw [authentic?_eq_some.2 ⟨hp, hplain⟩] at h
      cases h

/-- What is authentic is recorded and reported, or leaves everything as it is. -/
theorem step_of_some {d : AudioDatagram C} {p : AudioPacket} {plain : Bytes} (h : d.authentic? J = some (p, plain))
    (s : AudioTask) :
    s.sequences.Accepts (streamKey p.senderId p.callId) p.seq ∧
        s.step J d =
          { sequences := s.sequences.upsert (streamKey p.senderId p.callId, p.seq)
            emitted := s.emitted ++ (frameOf? p plain).toList } ∨
      ¬s.sequences.Accepts (streamKey p.senderId p.callId) p.seq ∧ s.step J d = s := by
  obtain ⟨hp, hplain⟩ := authentic?_eq_some.1 h
  unfold step
  rw [receiveAudio_of_open hp hplain]
  by_cases hacc : s.sequences.Accepts (streamKey p.senderId p.callId) p.seq
  · rw [if_pos hacc]
    exact .inl ⟨hacc, rfl⟩
  · rw [if_neg hacc]
    exact .inr ⟨hacc, by simp⟩

/-! ## Numbers only grow -/

/-- Every frame was recorded under its stream, and a later frame of the same stream has a larger number. -/
structure Increasing (s : AudioTask) : Prop where
  recorded : ∀ f ∈ s.emitted, ∃ last ∈ s.sequences.get? (f.senderId ++ ":" ++ f.callId), f.seq ≤ last.2
  pairwise : s.emitted.Pairwise fun f g => f.senderId = g.senderId → f.callId = g.callId → f.seq < g.seq

theorem increasing_step {s : AudioTask} (h : s.Increasing) (d : AudioDatagram C) : (s.step J d).Increasing := by
  cases hd : d.authentic? J with
  | none => rwa [step_of_none hd]
  | some a =>
    obtain ⟨p, plain⟩ := a
    rcases step_of_some hd s with ⟨hacc, hstep⟩ | ⟨-, hstep⟩
    swap
    · rwa [hstep]
    rw [hstep]
    -- what stands under the stream of an earlier frame
    have hold : ∀ f ∈ s.emitted, ∃ last ∈ (s.sequences.upsert (streamKey p.senderId p.callId, p.seq)).get?
        (f.senderId ++ ":" ++ f.callId), f.seq ≤ last.2 := by
      intro f hf
      obtain ⟨last, hlast, hle⟩ := h.recorded f hf
      rw [KeyedList.get?_upsert]
      by_cases hkey : streamKey p.senderId p.callId = f.senderId ++ ":" ++ f.callId
      · rw [if_pos hkey]
        rw [← hkey] at hlast
        exact ⟨_, rfl, UInt64.le_trans hle (UInt64.le_of_lt (hacc.1 last hlast))⟩
      · rw [if_neg hkey]
        exact ⟨last, hlast, hle⟩
    cases hframe : frameOf? p plain with
    | none => exact ⟨by simpa using hold, by simpa using h.pairwise⟩
    | some frame =>
      obtain ⟨hsender, hcall, hseq⟩ :
          frame.senderId = p.senderId.toHex ∧ frame.callId = p.callId ∧ frame.seq = p.seq := by
        unfold frameOf? at hframe
        split at hframe
        · cases hframe
        · obtain rfl := Option.some.inj hframe
          exact ⟨rfl, rfl, rfl⟩
      have hkey : streamKey p.senderId p.callId = frame.senderId ++ ":" ++ frame.callId := by
        rw [hsender, hcall]
        rfl
      constructor
      · intro f hf
        rcases List.mem_append.1 hf with hf | hf
        · exact hold f hf
        · obtain rfl := List.mem_singleton.1 hf
          exact ⟨_, (KeyedList.get?_upsert ..).trans (if_pos hkey), hseq ▸ UInt64.le_refl _⟩
      · refine List.pairwise_append.2 ⟨h.pairwise, List.pairwise_singleton .., fun f hf g hg hfs hfc => ?_⟩
        obtain rfl := List.mem_singleton.1 hg
        obtain ⟨last, hlast, hle⟩ := h.recorded f hf
        rw [hfs, hfc, ← hkey] at hlast
        rw [hseq]
        exact UInt64.lt_of_le_of_lt hle (hacc.1 last hlast)

/-- After any datagrams, the numbers of the frames reported for one sender and call strictly
increase, no frame was reported twice, and a datagram that is not authentic changes nothing. -/
theorem run_increasing (J : PayloadJson) (datagrams : List (AudioDatagram C)) :
    (∀ senderId callId, ((run (step J) {} datagrams).emitted.filter fun f =>
        f.senderId = senderId ∧ f.callId = callId).Pairwise fun f g => f.seq < g.seq) ∧
      (run (step J) {} datagrams).emitted.Nodup ∧
        ∀ d : AudioDatagram C, d.authentic? J = none →
          (run (step J) {} datagrams).step J d = run (step J) {} datagrams := by
  have hstart : ({} : AudioTask).Increasing := ⟨by simp, .nil⟩
  have h : (run (step J) {} datagrams).Increasing :=
    run_induction (I := Increasing) (fun s d hs => increasing_step hs d) datagrams hstart
  refine ⟨fun senderId callId => ?_, ?_, fun d hd => step_of_none hd _⟩
  · refine List.Pairwise.imp_of_mem (fun {f g} hf hg hlt => ?_) (h.pairwise.filter _)
    have hf := of_decide_eq_true (List.mem_filter.1 hf).2
    have hg := of_decide_eq_true (List.mem_filter.1 hg).2
    exact hlt (hf.1.trans hg.1.symm) (hf.2.trans hg.2.symm)
  · refine h.pairwise.imp fun {f g} hlt heq => ?_
    subst heq
    exact absurd (hlt rfl rfl) (UInt64.lt_irrefl _)

/-! ## Room for a new stream -/

/-- The streams of the authentic datagrams of a history. -/
def streams (J : PayloadJson) (history : List (AudioDatagram C)) : Finset (NodeId × String) :=
  (history.filterMap fun d => (d.authentic? J).map fun a => (a.1.senderId, a.1.callId)).toFinset

theorem streams_concat (history : List (AudioDatagram C)) (d : AudioDatagram C) :
    streams J (history ++ [d]) =
      match d.authentic? J with
      | none => streams J history
      | some a => insert (a.1.senderId, a.1.callId) (streams J history) := by
  unfold streams
  rw [List.filterMap_append, List.toFinset_append]
  cases hd : d.authentic? J with
  | none => simp [hd]
  | some a =>
    simp only [List.filterMap_cons, hd, Option.map_some, List.filterMap_nil, List.toFinset_cons, List.toFinset_nil]
    rw [Finset.union_comm, Finset.insert_union, Finset.empty_union]

theorem streamKey_inj {a b : NodeId} {c d : String} (h : streamKey a c = streamKey b d) : a = b ∧ c = d := by
  have hlen : ∀ id : NodeId, id.toHex.toList.length = 40 := by
    intro id
    unfold NodeId.toHex hexString
    rw [String.toList_ofList, List.length_flatMap]
    simp [id.size]
  have hchars := congrArg String.toList h
  simp only [streamKey, String.toList_append, List.append_assoc] at hchars
  obtain ⟨hid, hrest⟩ := List.append_inj hchars ((hlen a).trans (hlen b).symm)
  exact ⟨NodeId.toHex_inj.1 (String.toList_inj.1 hid), String.toList_inj.1 (List.append_cancel_left hrest)⟩

/-- The recorded keys are of authentic streams, and of all of them while there is room. -/
structure Records (D : Finset (NodeId × String)) (s : AudioTask) : Prop where
  known : ∀ k, (s.sequences.get? k).isSome = true → ∃ stream ∈ D, streamKey stream.1 stream.2 = k
  complete : s.sequences.list.length < maxAudioStreams →
    ∀ stream ∈ D, (s.sequences.get? (streamKey stream.1 stream.2)).isSome = true

theorem length_le_upsert (sequences : AudioSequences) (entry : String × UInt64) :
    sequences.list.length ≤ (sequences.upsert entry).list.length := by
  cases h : sequences.get? entry.1 with
  | none =>
    rw [KeyedList.list_upsert_of_none h, List.length_append]
    exact Nat.le_add_right _ _
  | some old =>
    have hkeys := congrArg List.length (KeyedList.keys_upsert_of_some h)
    rw [List.length_map, List.length_map] at hkeys
    exact hkeys.ge

theorem records_run (J : PayloadJson) (history : List (AudioDatagram C)) :
    (run (step J) {} history).Records (streams J history) := by
  induction history using List.reverseRecOn with
  | nil => exact ⟨by simp, by simp [streams]⟩
  | append_singleton history d ih =>
    rw [run_concat, streams_concat]
    cases hd : d.authentic? J with
    | none => rwa [step_of_none hd]
    | some a =>
      obtain ⟨p, plain⟩ := a
      dsimp only
      rcases step_of_some hd (run (step J) {} history) with ⟨-, hstep⟩ | ⟨hacc, hstep⟩
      · rw [hstep]
        constructor
        · intro k hk
          rw [KeyedList.get?_upsert] at hk
          split at hk
          · rename_i hkey
            exact ⟨_, Finset.mem_insert_self .., hkey⟩
          · obtain ⟨stream, hstream, hkey⟩ := ih.known k hk
            exact ⟨stream, Finset.mem_insert_of_mem hstream, hkey⟩
        · intro hroom stream hstream
          rw [KeyedList.get?_upsert]
          split
          · rfl
          · rename_i hkey
            rcases Finset.mem_insert.1 hstream with rfl | hstream
            · exact absurd rfl hkey
            · exact ih.complete (lt_of_le_of_lt (length_le_upsert _ _) hroom) stream hstream
      · rw [hstep]
        refine ⟨fun k hk => ?_, fun hroom stream hstream => ?_⟩
        · obtain ⟨stream, hstream, hkey⟩ := ih.known k hk
          exact ⟨stream, Finset.mem_insert_of_mem hstream, hkey⟩
        · rcases Finset.mem_insert.1 hstream with rfl | hstream
          · -- with room, only a number that is not later is refused
            by_contra hnone
            rw [Bool.not_eq_true, Option.isSome_eq_false_iff, Option.isNone_iff_eq_none] at hnone
            exact hacc ⟨by simp [hnone], .inl hroom⟩
          · exact ih.complete hroom stream hstream

/-- There is room for one more stream exactly as long as fewer were authentic. -/
theorem Records.room_iff {D : Finset (NodeId × String)} {s : AudioTask} (h : s.Records D) :
    s.sequences.list.length < maxAudioStreams ↔ D.card < maxAudioStreams := by
  have hkeys : (s.sequences.list.map Prod.fst).toFinset.card = s.sequences.list.length := by
    rw [List.toFinset_card_of_nodup s.sequences.nodup, List.length_map]
  have hD : (D.image fun stream => streamKey stream.1 stream.2).card = D.card :=
    Finset.card_image_of_injective _ fun a b hab => Prod.ext (streamKey_inj hab).1 (streamKey_inj hab).2
  have hmem : ∀ k, k ∈ (s.sequences.list.map Prod.fst).toFinset ↔ (s.sequences.get? k).isSome = true := by
    intro k
    rw [List.mem_toFinset, List.mem_map]
    constructor
    · rintro ⟨entry, hentry, rfl⟩
      rw [KeyedList.mem_iff_get?.1 hentry]
      rfl
    · intro hk
      obtain ⟨entry, hentry⟩ := Option.isSome_iff_exists.1 hk
      exact ⟨entry, KeyedList.mem_of_get? hentry, KeyedList.key_of_get? hentry⟩
  constructor
  · intro hroom
    have hsub : (D.image fun stream => streamKey stream.1 stream.2) ⊆ (s.sequences.list.map Prod.fst).toFinset := by
      intro k hk
      obtain ⟨stream, hstream, rfl⟩ := Finset.mem_image.1 hk
      exact (hmem _).2 (h.complete hroom stream hstream)
    have hle := Finset.card_le_card hsub
    omega
  · intro hcard
    have hsub : (s.sequences.list.map Prod.fst).toFinset ⊆ D.image fun stream => streamKey stream.1 stream.2 := by
      intro k hk
      obtain ⟨stream, hstream, hkey⟩ := h.known k ((hmem k).1 hk)
      exact Finset.mem_image.2 ⟨stream, hstream, hkey⟩
    have hle := Finset.card_le_card hsub
    omega

/-- What is reported of the first frame of a stream, after any history. -/
theorem receiveAudio_new (J : PayloadJson) (history : List (AudioDatagram C)) {d : AudioDatagram C} {p : AudioPacket}
    {plain : Bytes} (hp : audioPacket J d.packet = some p) (hopen : openAudio d.me d.contacts p = some plain)
    (hpcm : plain.length % 2 = 0) (hnew : (p.senderId, p.callId) ∉ streams J history) :
    (receiveAudio J d.me d.contacts (run (step J) {} history).sequences d.packet).2 =
      if (streams J history).card < maxAudioStreams then
        some ⟨p.senderId.toHex, p.callId, p.seq, p.rate, pcmSamples plain⟩
      else none := by
  have hrecords := records_run J history
  have heven : ¬plain.length % 2 ≠ 0 := not_not.2 hpcm
  have hget : (run (step J) {} history).sequences.get? (streamKey p.senderId p.callId) = none := by
    by_contra hsome
    obtain ⟨stream, hstream, hkey⟩ := hrecords.known _ (Option.isSome_iff_ne_none.2 hsome)
    obtain ⟨hid, hcall⟩ := streamKey_inj hkey
    exact hnew (by rw [← hid, ← hcall]; exact hstream)
  have haccepts : (run (step J) {} history).sequences.Accepts (streamKey p.senderId p.callId) p.seq ↔
      (streams J history).card < maxAudioStreams := by
    rw [← hrecords.room_iff, AudioSequences.Accepts, hget]
    simp
  rw [receiveAudio_of_open hp hopen]
  simp only [if_neg heven, haccepts]
  split <;> rfl

namespace Calls

open Voice

def contacts : Finmap fun _ : String => SavedContact :=
  (Finmap.singleton mallory.userIdHex (contactOf mallory)).insert alice.userIdHex (contactOf alice)

/-- The first frame of a call, without samples. -/
def voiceFrame (user : UserIdentity crypto) (callId : String) : AudioDatagram crypto where
  me := bob
  contacts := contacts
  packet := audioBytes user.userId bob.userId callId 1 8000 (List.replicate 12 3) (crypto.xPublic (List.replicate 32 4))
    (audioCiphertext user bob.userId bob.x25519Public callId [] 8000 1 (List.replicate 12 3) (List.replicate 32 4))

/-- What is found in it. -/
def packetOf (user : UserIdentity crypto) (callId : String) : AudioPacket :=
  ⟨user.userId, bob.userId, UInt8.ofNat (utf8 callId).length, callId, 1, 8000, List.replicate 12 3,
    crypto.xPublic (List.replicate 32 4),
    audioCiphertext user bob.userId bob.x25519Public callId [] 8000 1 (List.replicate 12 3) (List.replicate 32 4)⟩

theorem audioPacket_frame (user : UserIdentity crypto) {callId : String} (hpos : 0 < (utf8 callId).length)
    (hid : (utf8 callId).length ≤ 128) : audioPacket json (voiceFrame user callId).packet =
      some (packetOf user callId) := by
  have hct : (packetOf user callId).ciphertext.length = 16 :=
    tagged _ _ _ _ (correct.hkdf_length _ _ _) List.length_replicate
  exact audioPacket_audioBytes user.userId bob.userId 1 (utf8Lossy_json callId) hpos hid (by decide)
    List.length_replicate List.length_replicate hct.ge (hct.trans_le (by decide))

theorem openAudio_frame {user : UserIdentity crypto} (huser : user.WellSized)
    (hcontact : contacts.lookup user.userIdHex = some (contactOf user)) (callId : String) :
    openAudio bob contacts (packetOf user callId) = some [] :=
  openAudio_audioCiphertext correct huser wellSized_bob hcontact (key_contactOf huser)
    callId [] 8000 1 List.length_replicate List.length_replicate

theorem lookup_alice : contacts.lookup alice.userIdHex = some (contactOf alice) := Finmap.lookup_insert _

theorem mallory_ne_alice : mallory.userId ≠ alice.userId := by decide +kernel

theorem lookup_mallory : contacts.lookup mallory.userIdHex = some (contactOf mallory) := by
  have hne : mallory.userIdHex ≠ alice.userIdHex := fun h => mallory_ne_alice (NodeId.toHex_inj.1 h)
  exact (Finmap.lookup_insert_of_ne _ hne).trans Finmap.lookup_singleton_eq

/-- The streams of calls that are all authentic. -/
theorem streams_frames {user : UserIdentity crypto} (huser : user.WellSized)
    (hcontact : contacts.lookup user.userIdHex = some (contactOf user)) {callIds : List String}
    (hids : ∀ callId ∈ callIds, 0 < (utf8 callId).length ∧ (utf8 callId).length ≤ 128) :
    streams json (callIds.map (voiceFrame user)) = (callIds.map fun callId => (user.userId, callId)).toFinset := by
  unfold streams
  rw [List.filterMap_map, ← List.filterMap_eq_map]
  refine congrArg List.toFinset (List.filterMap_congr fun callId hid => ?_)
  have hauth : (voiceFrame user callId).authentic? json = some (packetOf user callId, []) :=
    authentic?_eq_some.2 ⟨audioPacket_frame user (hids callId hid).1 (hids callId hid).2,
      openAudio_frame huser hcontact callId⟩
  simp only [Function.comp_apply, hauth, Option.map_some, packetOf]

theorem alice_notMem_streams {callIds : List String}
    (hids : ∀ callId ∈ callIds, 0 < (utf8 callId).length ∧ (utf8 callId).length ≤ 128) :
    (alice.userId, "call-1") ∉ streams json (callIds.map (voiceFrame mallory)) := by
  rw [streams_frames wellSized_mallory lookup_mallory hids, List.mem_toFinset, List.mem_map]
  rintro ⟨callId, -, h⟩
  exact mallory_ne_alice (Prod.mk.inj h).1

def letter (n : ℕ) : Char := Char.ofNat (48 + n)

theorem letter_inj {m n : ℕ} (hm : m < 64) (hn : n < 64) (h : letter m = letter n) : m = n := by
  have hval : ∀ n : Fin 64, (letter n).toNat = 48 + n := by decide
  have hnat := congrArg Char.toNat h
  rw [hval ⟨m, hm⟩, hval ⟨n, hn⟩] at hnat
  exact Nat.add_left_cancel hnat

/-- Call ids of two letters each. -/
def callIds : List String := (List.range 4096).map fun n => String.ofList [letter (n / 64), letter (n % 64)]

theorem nodup_callIds : callIds.Nodup := by
  refine List.Nodup.map_on (fun m hm n hn h => ?_) List.nodup_range
  rw [List.mem_range] at hm hn
  have hletters := String.ofList_inj.1 h
  simp only [List.cons.injEq, and_true] at hletters
  have hdiv := letter_inj (by omega) (by omega) hletters.1
  have hmod := letter_inj (by omega) (by omega) hletters.2
  omega

theorem length_callIds {callId : String} (h : callId ∈ callIds) :
    0 < (utf8 callId).length ∧ (utf8 callId).length ≤ 128 := by
  obtain ⟨n, -, rfl⟩ := List.mem_map.1 h
  have hpos := Char.utf8Size_pos (letter (n / 64))
  have hfirst := Char.utf8Size_le_four (letter (n / 64))
  have hsecond := Char.utf8Size_le_four (letter (n % 64))
  simp only [utf8, String.toList_ofList, List.flatMap_cons, List.flatMap_nil, List.append_nil, List.length_append,
    String.length_utf8EncodeChar]
  omega

end Calls

end AudioTask

end NodeX.Messenger
