/-
Calls of the desktop client: its one call, the audio player and the microphone, as signals, audio and the user's actions
change them (`handle_incoming_events`, `update`). Times, names and the log of calls are left out.
-/
import NodeX.Messenger.Inbox

namespace NodeX.Gui

open NodeX.Lib Messenger

/-! ## Devices -/

/-- The devices that can be opened now. -/
structure Devices where
  output : Bool := true
  input : Bool := true

inductive Sound where
  | ringtone
  | dialTone
  | hangup
  | voiceNote (msgId : String)
deriving DecidableEq

/-- What plays, and the buffers queued for a call if its sink is open. -/
structure AudioPlayer where
  playing : Option Sound := none
  callAudioSink : Option (List (List Int)) := none
deriving DecidableEq

namespace AudioPlayer

variable (a : AudioPlayer)

def stop : AudioPlayer := { a with playing := none }

def stopCallAudio : AudioPlayer := { a with callAudioSink := none }

/-- A voice note counts as playing without a device, too. -/
def playVoiceNote (msgId : String) : AudioPlayer := { a.stop with playing := some (.voiceNote msgId) }

/-- `play_raw_wav`, `play_raw_wav_loop` -/
def playRawWav (sound : Sound) (d : Devices) : AudioPlayer :=
  if d.output then { a.stop with playing := some sound } else a.stop

def startCallAudio (d : Devices) : AudioPlayer :=
  if d.output then { a.stop with callAudioSink := some [] } else a.stop

/-- A buffer more, unless there are more than 40. -/
def playCallAudioSamples (samples : List Int) (d : Devices) : AudioPlayer :=
  if samples.isEmpty then a
  else
    let a := if a.callAudioSink.isNone then a.startCallAudio d else a
    match a.callAudioSink with
    | some queue => if 40 < queue.length then a else { a with callAudioSink := some (queue ++ [samples]) }
    | none => a

end AudioPlayer

structure MicRecorder where
  isRecording : Bool := false
  samples : List Int := []
deriving DecidableEq

namespace MicRecorder

def stop (_ : MicRecorder) : MicRecorder := {}

def start (_ : MicRecorder) (d : Devices) : MicRecorder := { isRecording := d.input }

def ensureStarted (m : MicRecorder) (d : Devices) : MicRecorder := if m.isRecording then m else m.start d

def drainCallSamples (m : MicRecorder) : MicRecorder := { m with samples := [] }

/-- What the device delivers while it is open. -/
def capture (m : MicRecorder) (samples : List Int) : MicRecorder :=
  if m.isRecording then { m with samples := m.samples ++ samples } else m

end MicRecorder

/-! ## The call -/

structure CallState where
  callId : String
  peerId : String
  isIncoming : Bool
  isConnected : Bool := false
  isMuted : Bool := false
  audioSeq : Nat := 0
deriving DecidableEq

/-- The call, the devices, whether a voice note is being recorded, and the signals that were sent. -/
structure Calls where
  callState : Option CallState := none
  audioPlayer : AudioPlayer := {}
  micRecorder : MicRecorder := {}
  voiceRecording : Bool := false
  sent : List (String × CallSignalType × String) := []

inductive CallEvent where
  | signal (senderHex : String) (signal : CallSignalPayload) (now : Nat) (d : Devices)
  | audio (senderId callId : String) (samples : List Int) (d : Devices)
  /-- a frame of the window; `due` is whether 20 ms have passed since audio was sent -/
  | tick (due : Bool) (d : Devices)
  | captured (samples : List Int)
  | soundEnds
  | startCall (peerId callId : String) (d : Devices)
  | acceptCall (d : Devices)
  | declineCall (d : Devices)
  | endCall (d : Devices)
  | mute
  | recordVoice (d : Devices)
  | cancelVoice
  | playVoiceNote (msgId : String)
  | playRingtone (d : Devices)
  | stopPlayback

namespace Calls

/-- The devices after a call: everything stops, and the sound of its end plays. -/
def hangUpDevices (s : Calls) (d : Devices) : Calls :=
  { s with
    audioPlayer := s.audioPlayer.stop.stopCallAudio.playRawWav .hangup d
    micRecorder := s.micRecorder.stop }

/-- The signal belongs to this call. -/
def isOf (cs : CallState) (signal : CallSignalPayload) : Bool :=
  decide (cs.peerId = signal.callerIdHex) && decide (cs.callId = signal.callId)

/-- `Reject` and `Hangup` -/
def onEnd (s : Calls) (signal : CallSignalPayload) (d : Devices) : Calls :=
  let s := s.hangUpDevices d
  if s.callState.any (isOf · signal) then { s with callState := none } else s

def onOffer (s : Calls) (signal : CallSignalPayload) (d : Devices) : Calls :=
  if s.callState.any fun cs => cs.isConnected || cs.callId ≠ "" then
    { s with sent := s.sent ++ [(signal.callerIdHex, .reject, signal.callId)] }
  else
    { s with
      audioPlayer := s.audioPlayer.playRawWav .ringtone d
      callState := some { callId := signal.callId, peerId := signal.callerIdHex, isIncoming := true } }

def onAnswer (s : Calls) (signal : CallSignalPayload) (d : Devices) : Calls :=
  -- the sink is opened before the call is looked at
  let s := { s with audioPlayer := s.audioPlayer.startCallAudio d }
  match s.callState with
  | some cs =>
    if !isOf cs signal || cs.isIncoming then s
    else { s with callState := some { cs with isConnected := true }, micRecorder := s.micRecorder.ensureStarted d }
  | none => s

def onSignal (s : Calls) (signal : CallSignalPayload) (d : Devices) : Calls :=
  match signal.signalType with
  | .offer => s.onOffer signal d
  | .answer => s.onAnswer signal d
  | .reject => s.onEnd signal d
  | .hangup => s.onEnd signal d
  | _ => s

def onEvent (d : Devices) (s : Calls) : MessengerEvent → Calls
  | .callSignalReceived signal => s.onSignal signal d
  | _ => s

def onAudio (s : Calls) (senderId callId : String) (samples : List Int) (d : Devices) : Calls :=
  if s.callState.any fun cs => cs.isConnected && decide (cs.peerId = senderId) && decide (cs.callId = callId) then
    { s with audioPlayer := s.audioPlayer.playCallAudioSamples samples d }
  else s

/-- The call part of `update`. -/
def onTick (s : Calls) (due : Bool) (d : Devices) : Calls :=
  match s.callState with
  | some cs =>
    if cs.isConnected then
      let mic := s.micRecorder.ensureStarted d
      if due then
        let sends := !cs.isMuted && !mic.samples.isEmpty
        { s with
          micRecorder := mic.drainCallSamples
          callState := some { cs with audioSeq := if sends then cs.audioSeq + 1 else cs.audioSeq } }
      else { s with micRecorder := mic }
    else s
  | none => s

/-- The start of a call replaces one there is. -/
def onStartCall (s : Calls) (peerId callId : String) (d : Devices) : Calls :=
  { s with
    audioPlayer := s.audioPlayer.playRawWav .dialTone d
    callState := some { callId, peerId, isIncoming := false }
    sent := s.sent ++ [(peerId, .offer, callId)] }

def onAccept (s : Calls) (d : Devices) : Calls :=
  match s.callState with
  | some cs =>
    if cs.isIncoming && !cs.isConnected then
      { s with
        audioPlayer := s.audioPlayer.startCallAudio d
        micRecorder := s.micRecorder.ensureStarted d
        callState := some { cs with isConnected := true }
        sent := s.sent ++ [(cs.peerId, .answer, cs.callId)] }
    else s
  | none => s

/-- `DeclineCall` and `EndCall`, with the signal they send. -/
def onLeave (s : Calls) (signalType : CallSignalType) (d : Devices) : Calls :=
  match s.callState with
  | some cs =>
    { s.hangUpDevices d with callState := none, sent := s.sent ++ [(cs.peerId, signalType, cs.callId)] }
  | none => s

/-- A click on the button that records voice notes. -/
def onRecord (s : Calls) (d : Devices) : Calls :=
  if s.voiceRecording then { s with voiceRecording := false, micRecorder := s.micRecorder.stop }
  else { s with voiceRecording := true, micRecorder := s.micRecorder.start d }

variable {C : Crypto} (me : UserIdentity C)

def step (s : Calls) : CallEvent → Calls
  | .signal senderHex signal now d => (handleCallSignal me {} senderHex signal now).events.foldl (onEvent d) s
  | .audio senderId callId samples d => s.onAudio senderId callId samples d
  | .tick due d => s.onTick due d
  | .captured samples => { s with micRecorder := s.micRecorder.capture samples }
  | .soundEnds => { s with audioPlayer := s.audioPlayer.stop }
  | .startCall peerId callId d => s.onStartCall peerId callId d
  | .acceptCall d => s.onAccept d
  | .declineCall d => if s.callState.any fun cs => cs.isIncoming && !cs.isConnected then s.onLeave .reject d else s
  | .endCall d => s.onLeave .hangup d
  | .mute => { s with callState := s.callState.map fun cs => { cs with isMuted := !cs.isMuted } }
  | .recordVoice d => s.onRecord d
  | .cancelVoice => { s with micRecorder := s.micRecorder.stop, voiceRecording := false }
  | .playVoiceNote msgId => { s with audioPlayer := s.audioPlayer.playVoiceNote msgId }
  | .playRingtone d => { s with audioPlayer := s.audioPlayer.playRawWav .ringtone d }
  | .stopPlayback => { s with audioPlayer := s.audioPlayer.stop }

/-! ## Who controls the call -/

/-- The signal is of another sender or call than the active one, and no offer while there is none. -/
def isStray (s : Calls) (senderHex : String) (signal : CallSignalPayload) : Bool :=
  match s.callState with
  | some cs => !(decide (cs.peerId = senderHex) && decide (cs.callId = signal.callId))
  | none => decide (signal.signalType ≠ .offer)

/-- The call, the audio and the microphone are as they were. -/
structure Unmoved (s t : Calls) : Prop where
  callState : t.callState = s.callState
  audioPlayer : t.audioPlayer = s.audioPlayer
  micRecorder : t.micRecorder = s.micRecorder

/-- The microphone runs for a voice note or for a call that is connected. -/
def MicInUse (s : Calls) : Prop :=
  s.micRecorder.isRecording = true → s.voiceRecording = true ∨ ∃ cs ∈ s.callState, cs.isConnected = true

def Controlled (s : Calls) (e : CallEvent) : Prop :=
  (∀ senderHex signal now d, e = .signal senderHex signal now d → s.isStray senderHex signal = true →
    Unmoved s (s.step me e)) ∧ MicInUse (s.step me e)

/-- The signal passes the inbox. -/
def Arrives (senderHex : String) (signal : CallSignalPayload) (now : Nat) : Prop :=
  (signal.callerIdHex = senderHex ∧ signal.calleeIdHex = me.userIdHex) ∧
    (now - signal.timestamp) + (signal.timestamp - now) ≤ 45

/-- A call is refused as another one is on; an answer finds nothing playing and the sink of a call fresh, if there is a
device; an end finds nothing to stop, and the sound of an end playing, if there is a device. -/
def Harmless (s : Calls) (signal : CallSignalPayload) (d : Devices) : Prop :=
  match signal.signalType with
  | .offer => ∃ cs ∈ s.callState, cs.isConnected = true ∨ cs.callId ≠ ""
  | .answer => s.audioPlayer.playing = none ∧ (d.output = true → s.audioPlayer.callAudioSink = some [])
  | .reject | .hangup => s.audioPlayer.playing = (if d.output then some .hangup else none) ∧
      s.audioPlayer.callAudioSink = none ∧ s.micRecorder = {}
  | _ => True

/-- Stray signals are harmless, and no call is started while the microphone runs for one. -/
def Guarded (s : Calls) : CallEvent → Prop
  | .signal senderHex signal now d => Arrives me senderHex signal now → s.isStray senderHex signal = true →
      s.Harmless signal d
  | .startCall .. => s.micRecorder.isRecording = true → s.voiceRecording = true
  | _ => True

/-! ## Stray signals -/

variable {me} {s : Calls} {senderHex : String} {signal : CallSignalPayload} {now : Nat} {d : Devices}

theorem Unmoved.refl (s : Calls) : Unmoved s s := ⟨rfl, rfl, rfl⟩

theorem step_signal_of_arrives (h : Arrives me senderHex signal now) (d : Devices) :
    s.step me (.signal senderHex signal now d) = s.onSignal signal d := by
  change (handleCallSignal me {} senderHex signal now).events.foldl (onEvent d) s = _
  have hsame : ¬(signal.callerIdHex ≠ senderHex ∨ signal.calleeIdHex ≠ me.userIdHex) := by
    rintro (hcaller | hcallee)
    · exact hcaller h.1.1
    · exact hcallee h.1.2
  unfold handleCallSignal
  rw [if_neg hsame, if_neg (not_lt.2 h.2)]
  rfl

theorem step_signal_of_not_arrives (h : ¬Arrives me senderHex signal now) (d : Devices) :
    s.step me (.signal senderHex signal now d) = s := by
  change (handleCallSignal me {} senderHex signal now).events.foldl (onEvent d) s = _
  unfold handleCallSignal
  split
  · rfl
  split
  · rfl
  · rename_i hsame hfresh
    rw [not_or, not_not, not_not] at hsame
    exact absurd ⟨hsame, not_lt.1 hfresh⟩ h

/-- A stray signal that arrives is of no call there is. -/
theorem any_isOf_of_isStray (h : Arrives me senderHex signal now) (hstray : s.isStray senderHex signal = true) :
    s.callState.any (isOf · signal) = false := by
  unfold isStray at hstray
  cases hcall : s.callState with
  | none => rfl
  | some cs =>
    rw [hcall] at hstray
    simpa [isOf, h.1.1, imp_iff_not_or] using hstray

theorem unmoved_onOffer_iff (h : Arrives me senderHex signal now) (hoffer : signal.signalType = .offer)
    (hstray : s.isStray senderHex signal = true) :
    Unmoved s (s.onOffer signal d) ↔ ∃ cs ∈ s.callState, cs.isConnected = true ∨ cs.callId ≠ "" := by
  have hother := any_isOf_of_isStray h hstray
  unfold isStray at hstray
  unfold onOffer
  cases hcall : s.callState with
  | none =>
    rw [hcall] at hstray
    simp [hoffer] at hstray
  | some cs =>
    rw [hcall] at hother
    simp only [Option.any_some, Option.mem_some_iff, exists_eq_left', Bool.or_eq_true, decide_eq_true_eq]
    split
    · rename_i hbusy
      exact ⟨fun _ => hbusy, fun _ => ⟨hcall.symm, rfl, rfl⟩⟩
    · rename_i hfree
      refine ⟨fun hsame => ?_, fun hbusy => absurd hbusy hfree⟩
      -- the call would be the one that is offered
      obtain rfl := Option.some.inj (hcall.symm.trans hsame.callState.symm)
      simp [isOf] at hother

theorem unmoved_onAnswer_iff (h : Arrives me senderHex signal now) (hstray : s.isStray senderHex signal = true) :
    Unmoved s (s.onAnswer signal d) ↔
      s.audioPlayer.playing = none ∧ (d.output = true → s.audioPlayer.callAudioSink = some []) := by
  have hother := any_isOf_of_isStray h hstray
  have honly : s.onAnswer signal d = { s with audioPlayer := s.audioPlayer.startCallAudio d } := by
    unfold onAnswer
    cases hcall : s.callState with
    | none => simp
    | some cs =>
      rw [hcall] at hother
      simp only [Option.any_some] at hother
      simp [hother]
  have hplayer : s.audioPlayer.startCallAudio d = s.audioPlayer ↔
      s.audioPlayer.playing = none ∧ (d.output = true → s.audioPlayer.callAudioSink = some []) := by
    unfold AudioPlayer.startCallAudio AudioPlayer.stop
    cases s.audioPlayer
    cases d.output <;> simp [eq_comm]
  rw [honly, ← hplayer]
  exact ⟨fun hsame => hsame.audioPlayer, fun hsame => ⟨rfl, hsame, rfl⟩⟩

theorem unmoved_onEnd_iff (h : Arrives me senderHex signal now) (hstray : s.isStray senderHex signal = true) :
    Unmoved s (s.onEnd signal d) ↔ s.audioPlayer.playing = (if d.output then some .hangup else none) ∧
      s.audioPlayer.callAudioSink = none ∧ s.micRecorder = {} := by
  have hother := any_isOf_of_isStray h hstray
  have honly : s.onEnd signal d = s.hangUpDevices d := if_neg (by simpa [hangUpDevices] using hother)
  have hplayer : s.audioPlayer.stop.stopCallAudio.playRawWav .hangup d = s.audioPlayer ↔
      s.audioPlayer.playing = (if d.output then some .hangup else none) ∧ s.audioPlayer.callAudioSink = none := by
    unfold AudioPlayer.playRawWav AudioPlayer.stopCallAudio AudioPlayer.stop
    cases s.audioPlayer
    cases d.output <;> simp [eq_comm]
  rw [honly]
  constructor
  · intro hsame
    have hsink := hplayer.1 hsame.audioPlayer
    exact ⟨hsink.1, hsink.2, hsame.micRecorder.symm⟩
  · rintro ⟨hplaying, hsink, hmic⟩
    exact ⟨rfl, hplayer.2 ⟨hplaying, hsink⟩, hmic.symm⟩

theorem unmoved_onSignal_iff (h : Arrives me senderHex signal now) (hstray : s.isStray senderHex signal = true) :
    Unmoved s (s.onSignal signal d) ↔ s.Harmless signal d := by
  unfold onSignal Harmless
  cases htype : signal.signalType with
  | offer => exact unmoved_onOffer_iff h htype hstray
  | answer => exact unmoved_onAnswer_iff h hstray
  | reject => exact unmoved_onEnd_iff h hstray
  | hangup => exact unmoved_onEnd_iff h hstray
  | iceCandidate candidate => exact ⟨fun _ => trivial, fun _ => .refl s⟩
  | ringing => exact ⟨fun _ => trivial, fun _ => .refl s⟩
  | busy => exact ⟨fun _ => trivial, fun _ => .refl s⟩

/-! ## The microphone -/

theorem MicInUse.of_idle (h : s.micRecorder.isRecording = false) : s.MicInUse := fun hrecording => by
  rw [h] at hrecording
  cases hrecording

theorem MicInUse.of_connected {cs : CallState} (h : s.callState = some cs) (hconnected : cs.isConnected = true) :
    s.MicInUse := fun _ => .inr ⟨cs, h, hconnected⟩

theorem micInUse_onSignal (hs : s.MicInUse) (signal : CallSignalPayload) (d : Devices) :
    (s.onSignal signal d).MicInUse := by
  have hend : (s.onEnd signal d).MicInUse := by
    unfold onEnd
    dsimp only
    split
    · exact .of_idle rfl
    · exact .of_idle rfl
  unfold onSignal
  cases signal.signalType with
  | offer =>
    dsimp only
    unfold onOffer
    split
    · exact hs
    · rename_i hfree
      intro hrecording
      refine .inl ((hs hrecording).resolve_right ?_)
      rintro ⟨cs, hcs, hconnected⟩
      refine hfree ?_
      rw [Option.mem_def.1 hcs]
      simp [hconnected]
  | answer =>
    dsimp only
    unfold onAnswer
    dsimp only
    split
    · rename_i cs hcall
      split
      · exact hs
      · exact .of_connected rfl rfl
    · exact hs
  | reject => exact hend
  | hangup => exact hend
  | iceCandidate candidate => exact hs
  | ringing => exact hs
  | busy => exact hs

theorem micInUse_onTick (hs : s.MicInUse) (due : Bool) (d : Devices) : (s.onTick due d).MicInUse := by
  unfold onTick
  split
  · rename_i cs hcall
    split
    · rename_i hconnected
      dsimp only
      split
      · exact .of_connected rfl hconnected
      · exact .of_connected hcall hconnected
    · exact hs
  · exact hs

theorem micInUse_onLeave (hs : s.MicInUse) (signalType : CallSignalType) (d : Devices) :
    (s.onLeave signalType d).MicInUse := by
  unfold onLeave
  split
  · exact .of_idle rfl
  · exact hs

/-- Nothing but the start of a call leaves the microphone without its use. -/
theorem micInUse_step (hs : s.MicInUse) (e : CallEvent) (h : s.Guarded me e) : (s.step me e).MicInUse := by
  cases e with
  | signal senderHex signal now d =>
    by_cases harrives : Arrives me senderHex signal now
    · rw [step_signal_of_arrives harrives]
      exact micInUse_onSignal hs signal d
    · rw [step_signal_of_not_arrives harrives]
      exact hs
  | audio senderId callId samples d =>
    change (s.onAudio senderId callId samples d).MicInUse
    unfold onAudio
    split
    · exact hs
    · exact hs
  | tick due d => exact micInUse_onTick hs due d
  | captured samples =>
    intro hrecording
    refine hs ?_
    change (s.micRecorder.capture samples).isRecording = true at hrecording
    unfold MicRecorder.capture at hrecording
    split at hrecording
    · exact hrecording
    · exact hrecording
  | soundEnds => exact hs
  | startCall peerId callId d => exact fun hrecording => .inl (h hrecording)
  | acceptCall d =>
    change (s.onAccept d).MicInUse
    unfold onAccept
    split
    · split
      · exact .of_connected rfl rfl
      · exact hs
    · exact hs
  | declineCall d =>
    change (if s.callState.any fun cs => cs.isIncoming && !cs.isConnected then s.onLeave .reject d else s).MicInUse
    split
    · exact micInUse_onLeave hs .reject d
    · exact hs
  | endCall d => exact micInUse_onLeave hs .hangup d
  | mute =>
    refine fun hrecording => (hs hrecording).imp_right ?_
    rintro ⟨cs, hcs, hconnected⟩
    exact ⟨{ cs with isMuted := !cs.isMuted }, Option.mem_map.2 ⟨cs, hcs, rfl⟩, hconnected⟩
  | recordVoice d =>
    change (s.onRecord d).MicInUse
    unfold onRecord
    split
    · exact .of_idle rfl
    · exact fun _ => .inl rfl
  | cancelVoice => exact .of_idle rfl
  | playVoiceNote msgId => exact hs
  | playRingtone d => exact hs
  | stopPlayback => exact hs

/-! ## Runs -/

theorem controlled_iff (hs : s.MicInUse) (e : CallEvent) : s.Controlled me e ↔ s.Guarded me e := by
  constructor
  · rintro ⟨hsignal, hmic⟩
    cases e with
    | signal senderHex signal now d =>
      intro harrives hstray
      have hunmoved := hsignal senderHex signal now d rfl hstray
      rw [step_signal_of_arrives harrives] at hunmoved
      exact (unmoved_onSignal_iff harrives hstray).1 hunmoved
    | startCall peerId callId d =>
      intro hrecording
      refine (hmic hrecording).resolve_right ?_
      rintro ⟨cs, hcs, hconnected⟩
      obtain rfl := Option.some.inj hcs
      cases hconnected
    | _ => trivial
  · intro h
    refine ⟨?_, micInUse_step hs e h⟩
    rintro senderHex signal now d rfl hstray
    by_cases harrives : Arrives me senderHex signal now
    · rw [step_signal_of_arrives harrives]
      exact (unmoved_onSignal_iff harrives hstray).2 (h harrives hstray)
    · rw [step_signal_of_not_arrives harrives]
      exact .refl s

/-- From the start of the client, only the peer of the call controls it exactly if stray signals find nothing to do and
no call is started in the middle of another. -/
theorem run_controlled_iff (me : UserIdentity C) (events : List CallEvent) :
    Steps (step me) (Controlled me) {} events ↔ Steps (step me) (Guarded me) {} events :=
  steps_iff_of_invariant (I := MicInUse) (fun _ e hs => controlled_iff hs e) (fun _ _ _ h => h.2) events
    (.of_idle rfl)

end Calls

/-! ## A stranger ends the sound of a call -/

open NodeX.Sample Calls

/-- A signal of that kind from this user to Alice. -/
def signalFrom (caller : UserIdentity .transparent) (callId : String) (signalType : CallSignalType) :
    CallSignalPayload :=
  { callId, callerIdHex := caller.userIdHex, calleeIdHex := alice.userIdHex, signalType, timestamp := 1700000000 }

/-- Alice calls Bob, who answers. -/
def talk : List CallEvent :=
  [.startCall bob.userIdHex "1700000000_b" {},
    .signal bob.userIdHex (signalFrom bob "1700000000_b" .answer) 1700000005 {}]

def strangersHangup : CallEvent := .signal mallory.userIdHex (signalFrom mallory "x" .hangup) 1700000010 {}

/-- The microphone of Alice's call with Bob is stopped as Mallory hangs up. -/
theorem run_controlled_stranger :
    (run (Calls.step alice) {} talk).micRecorder.isRecording = true ∧
      (Calls.step alice (run (Calls.step alice) {} talk) strangersHangup).micRecorder.isRecording = false ∧
      ¬Steps (Calls.step alice) (Controlled alice) {} (talk ++ [strangersHangup]) := by
  have hbefore : (run (Calls.step alice) {} talk).micRecorder.isRecording = true := by decide +kernel
  have hafter :
      (Calls.step alice (run (Calls.step alice) {} talk) strangersHangup).micRecorder.isRecording = false := by
    decide +kernel
  have hstray : (run (Calls.step alice) {} talk).isStray mallory.userIdHex (signalFrom mallory "x" .hangup) = true := by
    decide +kernel
  refine ⟨hbefore, hafter, fun h => ?_⟩
  rw [steps_concat] at h
  have hunmoved := h.2.1 _ _ _ _ rfl hstray
  have hsame := congrArg MicRecorder.isRecording hunmoved.micRecorder
  exact Bool.false_ne_true (hafter.symm.trans (hsame.trans hbefore))

end NodeX.Gui
