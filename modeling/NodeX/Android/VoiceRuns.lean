/-
The voice frames that the Android client hands on over any run. What else comes in, and what the user does meanwhile,
leaves the sequence numbers alone; only the end of the engine forgets them.
-/
import NodeX.Android.CallAudio
import NodeX.Android.Slots

namespace NodeX.Android

open NodeX.Lib Messenger AndroidMessageCrypto Kad.P2PTransportEngine

namespace CallAudio

variable (P : Account) (filesDir : String)

/-! ## Runs -/

/-- A frame, with the call that it was handed on in. -/
structure Played where
  peerId : String
  callId : String
  frame : Frame
deriving DecidableEq

/-- `streamKey` -/
def Played.stream (f : Played) : String := f.peerId ++ ":" ++ f.callId

/-- The phone, with what was handed on since the engine was started. -/
structure Listening where
  phone : Phone := {}
  played : List Played := []

/-- What comes in, a change that the repository makes on its own, and the end of the engine. -/
inductive VoiceEvent where
  | handle (e : AttachmentEvent)
  | audio (data : Bytes) (senderEndpoint : String)
  | change (f : Phone → Phone) (keeps : ∀ s, (f s).lastCallAudioSequence = s.lastCallAudioSequence)
  | stop

namespace Listening

/-- The frame of a datagram, in the call that the phone is in. -/
def heardOf (s : Phone) (data : Bytes) (senderEndpoint : String) : Option Played :=
  s.activeCall.bind fun call =>
    (handleCallAudioDatagram P s data senderEndpoint).2.map fun frame =>
      { peerId := call.peerId, callId := call.callId, frame }

def step (s : Listening) : VoiceEvent → Listening
  | .handle e => { s with phone := e.step P filesDir s.phone }
  | .audio data senderEndpoint =>
    { phone := (handleCallAudioDatagram P s.phone data senderEndpoint).1
      played := s.played ++ (heardOf P s.phone data senderEndpoint).toList }
  | .change f _ => { s with phone := f s.phone }
  | .stop => { phone := s.phone.stop }

/-- The streams that a frame was handed on of. -/
def streams (s : Listening) : Finset String := (s.played.map Played.stream).toFinset

/-- The numbers handed on of a stream. -/
def numbers (s : Listening) (stream : String) : List Int :=
  (s.played.filter fun f => f.stream = stream).map fun f => f.frame.seq

/-- The numbers of each stream grow, and the last one is recorded. -/
structure Tracks (s : Listening) : Prop where
  grows : ∀ stream, (s.numbers stream).Pairwise (· < ·)
  recorded : ∀ stream, s.phone.lastCallAudioSequence.at? stream = (s.numbers stream).getLast?

/-! ## What leaves the numbers alone -/

variable {P} {filesDir}

theorem sequences_afterPart (s : Phone) (id : String) (t : IncomingAttachment) (x : Surroundings) (disk : Disk) :
    (s.afterPart P filesDir id t x disk).1.lastCallAudioSequence = s.lastCallAudioSequence := by
  unfold Phone.afterPart
  split
  swap
  · rfl
  unfold Phone.finishIncomingAttachment
  dsimp only
  split
  · rfl
  split
  · rfl
  split
  · rfl
  · exact congrArg Engine.lastCallAudioSequence (Phone.engine_completeIncomingAttachment ..)

theorem sequences_handle (s : Phone) (e : AttachmentEvent) :
    (e.step P filesDir s).lastCallAudioSequence = s.lastCallAudioSequence := by
  cases e with
  | payload payload senderHex x =>
    show (s.handleDirectPayload P payload senderHex x).lastCallAudioSequence = _
    unfold Phone.handleDirectPayload
    dsimp only
    split
    · rfl
    split
    · split
      · exact congrArg Engine.lastCallAudioSequence (Phone.engine_handleDeliveryReceipt P s _ _ _)
      · rfl
    split
    · split
      · exact (Phone.besideCalls_handleCallSignal P s _ _ _).lastCallAudioSequence
      · rfl
    split
    · split
      · exact congrArg Engine.lastCallAudioSequence (Phone.engine_handleManifest P s _ _ _ _ _)
      · rfl
    · exact congrArg Engine.lastCallAudioSequence (Phone.engine_handleMessage P s _ _ _)
  | datagram data x disk =>
    show (s.handleAttachmentDatagram P filesDir data x disk).1.lastCallAudioSequence = _
    unfold Phone.handleAttachmentDatagram
    split
    · rfl
    split
    · dsimp only
      split
      · rfl
      · exact sequences_afterPart _ _ _ _ _
    · exact sequences_afterPart _ _ _ _ _

/-! ## A frame -/

/-- A frame is handed on, with the call that it is of, exactly where its number is recorded. -/
theorem audio_of_opened {s : Phone} {data plaintext : Bytes} {p : Parts} {callId : String}
    (h : opened P s data = some (p, callId, plaintext)) (endpoint : String) :
    (Talks s p.senderHex callId ∧ Later s.lastCallAudioSequence (p.senderHex ++ ":" ++ callId) p.seq ∧
        heardOf P s data endpoint = some ⟨p.senderHex, callId, ⟨signed p.seq, p.sampleRate, plaintext⟩⟩ ∧
        (handleCallAudioDatagram P s data endpoint).1.lastCallAudioSequence =
          s.lastCallAudioSequence.put (p.senderHex ++ ":" ++ callId) (signed p.seq)) ∨
      (¬(Talks s p.senderHex callId ∧ Later s.lastCallAudioSequence (p.senderHex ++ ":" ++ callId) p.seq) ∧
        heardOf P s data endpoint = none ∧
        (handleCallAudioDatagram P s data endpoint).1.lastCallAudioSequence = s.lastCallAudioSequence) := by
  unfold heardOf
  rw [handleCallAudioDatagram_of_opened h]
  by_cases htalks : Talks s p.senderHex callId
  swap
  · rw [if_neg htalks]
    exact .inr ⟨fun h => htalks h.1, by simp, rfl⟩
  rw [if_pos htalks]
  by_cases hlater : Later s.lastCallAudioSequence (p.senderHex ++ ":" ++ callId) p.seq
  swap
  · rw [if_neg hlater]
    exact .inr ⟨fun h => hlater h.2, by simp, rfl⟩
  rw [if_pos hlater]
  refine .inl ⟨htalks, hlater, ?_, rfl⟩
  -- the call that is talked in is the one of the frame
  obtain ⟨call, hcall, hsame⟩ := (Option.any_eq_true ..).1 htalks
  simp only [Bool.and_eq_true, beq_iff_eq] at hsame
  rw [hcall, Option.bind_some, Option.map_some, hsame.1.2, hsame.2]

theorem step_of_not_opened {s : Listening} {data : Bytes} (h : opened P s.phone data = none) (endpoint : String) :
    s.step P filesDir (.audio data endpoint) = s := by
  have hsame : handleCallAudioDatagram P s.phone data endpoint = (s.phone, none) := by
    unfold handleCallAudioDatagram
    rw [h]
  have hnone : heardOf P s.phone data endpoint = none := by
    unfold heardOf
    rw [hsame]
    simp
  unfold step
  dsimp only
  rw [hsame, hnone, Option.toList_none, List.append_nil]

theorem mem_streams {s : Listening} {stream : String} : stream ∈ s.streams ↔ s.numbers stream ≠ [] := by
  unfold streams numbers
  rw [List.mem_toFinset, List.mem_map, ne_eq, List.map_eq_nil_iff, List.filter_eq_nil_iff]
  simp

theorem numbers_concat (phone : Phone) (played : List Played) (f : Played) (stream : String) :
    (Listening.mk phone (played ++ [f])).numbers stream =
      (Listening.mk phone played).numbers stream ++ if f.stream = stream then [f.frame.seq] else [] := by
  unfold numbers
  rw [List.filter_append, List.map_append, List.filter_singleton]
  by_cases h : f.stream = stream <;> simp [h]

/-- A new number of a stream that is later than the last one. -/
theorem Tracks.append {s : Listening} (h : s.Tracks) {f : Played} {phone : Phone} {stream : String} {seq : Int}
    (hlater : ∀ last ∈ s.phone.lastCallAudioSequence.at? stream, last < seq)
    (hphone : phone.lastCallAudioSequence = s.phone.lastCallAudioSequence.put stream seq)
    (hstream : f.stream = stream) (hseq : f.frame.seq = seq) :
    Tracks { phone, played := s.played ++ [f] } := by
  subst hstream hseq
  have hnumbers : ∀ stream, (Listening.mk phone (s.played ++ [f])).numbers stream =
      s.numbers stream ++ if f.stream = stream then [f.frame.seq] else [] :=
    fun stream => numbers_concat phone s.played f stream
  constructor
  · intro stream
    rw [hnumbers]
    split
    swap
    · rw [List.append_nil]
      exact h.grows stream
    rename_i hstream
    subst hstream
    refine List.pairwise_append.2 ⟨h.grows _, List.pairwise_singleton .., fun n hn m hm => ?_⟩
    rw [List.mem_singleton.1 hm]
    -- what grows ends with its largest number
    have hne := List.ne_nil_of_mem hn
    have hlast : s.phone.lastCallAudioSequence.at? f.stream = some ((s.numbers f.stream).getLast hne) := by
      rw [h.recorded, List.getLast?_eq_some_getLast]
    refine lt_of_le_of_lt ?_ (hlater _ hlast)
    have hgrows := h.grows f.stream
    rw [← List.dropLast_append_getLast hne] at hn hgrows
    rcases List.mem_append.1 hn with hn | hn
    · exact ((List.pairwise_append.1 hgrows).2.2 n hn _ (List.mem_singleton_self _)).le
    · exact (List.mem_singleton.1 hn).le
  · intro stream
    rw [hnumbers, hphone, KeyedMap.at?_put]
    split
    · rw [List.getLast?_concat]
    · rw [List.append_nil]
      exact h.recorded stream

theorem tracks_step {s : Listening} (h : s.Tracks) (e : VoiceEvent) : (s.step P filesDir e).Tracks := by
  have hkeep : ∀ phone : Phone, phone.lastCallAudioSequence = s.phone.lastCallAudioSequence →
      Tracks { phone, played := s.played } := fun phone hphone =>
    ⟨h.grows, fun stream => (congrArg (·.at? stream) hphone).trans (h.recorded stream)⟩
  cases e with
  | handle e => exact hkeep _ (sequences_handle s.phone e)
  | change f keeps => exact hkeep _ (keeps s.phone)
  | stop => exact ⟨fun _ => .nil, fun stream => KeyedMap.at?_empty stream⟩
  | audio data endpoint =>
    cases hopened : opened P s.phone data with
    | none => rwa [step_of_not_opened hopened endpoint]
    | some a =>
      obtain ⟨p, callId, plaintext⟩ := a
      unfold step
      dsimp only
      rcases audio_of_opened hopened endpoint with ⟨-, hlater, hheard, hsequences⟩ | ⟨-, hnone, hsequences⟩
      · rw [hheard, Option.toList_some]
        exact h.append hlater.1 hsequences rfl (by dsimp only)
      · rw [hnone, Option.toList_none, List.append_nil]
        exact hkeep _ hsequences

/-- The numbers of as many streams are kept as frames were handed on of. -/
theorem Tracks.length_sequences {s : Listening} (h : s.Tracks) :
    s.phone.lastCallAudioSequence.list.length = s.streams.card := by
  have hkeys : ∀ stream, stream ∈ s.phone.lastCallAudioSequence.list.map Prod.fst ↔ stream ∈ s.streams := by
    intro stream
    rw [mem_streams, ← List.getLast?_isSome, ← h.recorded, List.mem_map]
    constructor
    · rintro ⟨⟨k, n⟩, hmem, rfl⟩
      rw [KeyedMap.at?_eq_some.2 hmem]
      rfl
    · intro hsome
      obtain ⟨n, hn⟩ := Option.isSome_iff_exists.1 hsome
      exact ⟨(stream, n), KeyedMap.at?_eq_some.1 hn, rfl⟩
  have hset : (s.phone.lastCallAudioSequence.list.map Prod.fst).toFinset = s.streams := by
    ext stream
    rw [List.mem_toFinset, hkeys]
  rw [← hset, List.toFinset_card_of_nodup s.phone.lastCallAudioSequence.nodup, List.length_map]

/-- A number is later exactly if it is larger than all that were handed on. -/
theorem Tracks.later_iff {s : Listening} (h : s.Tracks) (stream : String) (seq : UInt64) :
    Later s.phone.lastCallAudioSequence stream seq ↔
      (∀ f ∈ s.played, f.stream = stream → f.frame.seq < signed seq) ∧
        (s.streams.card < 4096 ∨ stream ∈ s.streams) := by
  have hall : (∀ last ∈ s.phone.lastCallAudioSequence.at? stream, last < signed seq) ↔
      ∀ n ∈ s.numbers stream, n < signed seq := by
    rw [h.recorded]
    have hgrows := h.grows stream
    rcases List.eq_nil_or_concat (s.numbers stream) with hnil | ⟨front, last, hconcat⟩
    · simp [hnil]
    · rw [hconcat, List.concat_eq_append] at hgrows ⊢
      rw [List.getLast?_concat]
      constructor
      · rintro hlast n hn
        rcases List.mem_append.1 hn with hn | hn
        · exact ((List.pairwise_append.1 hgrows).2.2 n hn last (List.mem_singleton_self _)).trans (hlast last rfl)
        · rw [List.mem_singleton.1 hn]
          exact hlast last rfl
      · intro hlt n hn
        rw [← Option.some.inj hn]
        exact hlt last (List.mem_append_right _ (List.mem_singleton_self _))
  have hplayed : (∀ n ∈ s.numbers stream, n < signed seq) ↔
      ∀ f ∈ s.played, f.stream = stream → f.frame.seq < signed seq := by
    unfold numbers
    rw [List.forall_mem_map]
    simp only [List.mem_filter, decide_eq_true_eq, and_imp]
  unfold Later
  rw [hall, hplayed, h.length_sequences, h.recorded, List.getLast?_isSome, ← mem_streams]

end Listening

end CallAudio

end NodeX.Android
