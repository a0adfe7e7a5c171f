/-
The opt-in relay of the Kademlia crate: signed session requests, packets forwarded within a session, the rate limiter,
the blacklist and the daily traffic counter. A session is registered under an id its requester chose, by an insert.

Every call carries the clock readings the code takes: the caller's timestamp, and instants in nanoseconds. A packet also
carries the time at which it comes, which the code does not look at.
-/
import NodeX.Lib.Runs
import NodeX.Lib.Keyed
import NodeX.Core.Net

namespace NodeX.Kad

open NodeX.Lib

/-! ## Sessions and packets -/

def maxRelaySessions : Nat := 10

def maxPacketsPerSec : UInt32 := 20

def maxRelayPacketSize : Nat := 1200

abbrev SessionId := Vector UInt8 16

/-- A request to establish a relay session. -/
structure RelaySessionRequest where
  sessionId : SessionId
  senderUserId : String
  recipientUserId : String
  createdAt : UInt64
  expiresAt : UInt64
  signatureHex : String
deriving DecidableEq

structure RelayPacket where
  sessionId : SessionId
  senderUserId : String
  payload : Bytes
deriving DecidableEq

structure RelayConfig where
  enabled : Bool
  maxSessions : Nat
  dailyTrafficLimitBytes : UInt64
deriving DecidableEq

structure PeerRateTracker where
  lastReset : Nat
  packetCount : UInt32
deriving DecidableEq

structure ActiveSession where
  senderAddr : SocketAddr
  recipientAddr : Option SocketAddr
  senderId : String
  recipientId : String
  createdAt : Nat
deriving DecidableEq

/-! ## The service -/

structure OptInRelayService where
  config : RelayConfig
  activeSessions : KeyedList (Prod.fst : SessionId × ActiveSession → SessionId) := ∅
  rateLimiters : KeyedList (Prod.fst : SocketAddr × PeerRateTracker → SocketAddr) := ∅
  blacklist : List String := []
  dailyBytesRelayed : UInt64 := 0
deriving DecidableEq

namespace OptInRelayService

def blacklistPeer (s : OptInRelayService) (userId : String) : OptInRelayService :=
  { s with blacklist := s.blacklist.insert userId }

def session? (s : OptInRelayService) (id : SessionId) : Option ActiveSession :=
  (s.activeSessions.get? id).map Prod.snd

/-- The most sessions there may be. -/
def capacity (s : OptInRelayService) : Nat := min s.config.maxSessions maxRelaySessions

def handleSessionRequest (s : OptInRelayService) (request : RelaySessionRequest) (fromAddr : SocketAddr)
    (currentTimestamp : UInt64) (instant : Nat) : OptInRelayService × Except String Bool :=
  if s.config.enabled = false then (s, .error "Relay is disabled on this node")
  else if request.expiresAt ≤ currentTimestamp then (s, .error "Relay session request has expired")
  else if request.senderUserId ∈ s.blacklist ∨ request.recipientUserId ∈ s.blacklist then
    (s, .error "Peer is blacklisted")
  else if s.dailyBytesRelayed ≥ s.config.dailyTrafficLimitBytes then (s, .error "Relay daily traffic quota reached")
  else if s.activeSessions.list.length ≥ s.capacity then
    (s, .error "Relay session capacity full (max 10 sessions)")
  else
    let session : ActiveSession :=
      { senderAddr := fromAddr, recipientAddr := none, senderId := request.senderUserId
        recipientId := request.recipientUserId, createdAt := instant }
    ({ s with activeSessions := s.activeSessions.upsert (request.sessionId, session) }, .ok true)

/-- The tracker of a sender, with a new packet counted; it starts again every second. -/
def tracked (s : OptInRelayService) (fromAddr : SocketAddr) (instant : Nat) : PeerRateTracker :=
  let fresh : PeerRateTracker := { lastReset := instant, packetCount := 0 }
  let tracker := ((s.rateLimiters.get? fromAddr).map Prod.snd).getD fresh
  let tracker := if instant - tracker.lastReset ≥ 1000000000 then fresh else tracker
  { tracker with packetCount := tracker.packetCount + 1 }

def forwardPacket (s : OptInRelayService) (packet : RelayPacket) (fromAddr : SocketAddr) (instant : Nat) :
    OptInRelayService × Except String (Option SocketAddr) :=
  if s.config.enabled = false then (s, .error "Relay disabled")
  else if packet.payload.length > maxRelayPacketSize then (s, .error "Packet size exceeds 1200 bytes limit")
  else
    let tracker := s.tracked fromAddr instant
    let counted := { s with rateLimiters := s.rateLimiters.upsert (fromAddr, tracker) }
    let relayed :=
      { counted with dailyBytesRelayed := s.dailyBytesRelayed + UInt64.ofNat packet.payload.length }
    if tracker.packetCount > maxPacketsPerSec then (counted, .error "Rate limit exceeded (>20 pkts/sec)")
    else match s.session? packet.sessionId with
      | none => (counted, .error "Session not found or expired")
      | some session =>
        if fromAddr = session.senderAddr then (relayed, .ok session.recipientAddr)
        else if some fromAddr = session.recipientAddr then (relayed, .ok (some session.senderAddr))
        else (counted, .error "Unauthorized sender for session")

/-! ## What the calls do -/

variable {s : OptInRelayService} {request : RelaySessionRequest} {packet : RelayPacket} {fromAddr : SocketAddr}
  {timestamp : UInt64} {instant : Nat}

/-- What a request is asked but for room. -/
structure Valid (s : OptInRelayService) (request : RelaySessionRequest) (timestamp : UInt64) : Prop where
  enabled : s.config.enabled = true
  notExpired : timestamp < request.expiresAt
  sender : request.senderUserId ∉ s.blacklist
  recipient : request.recipientUserId ∉ s.blacklist
  quota : s.dailyBytesRelayed < s.config.dailyTrafficLimitBytes

/-- A request is accepted. -/
def Admits (s : OptInRelayService) (request : RelaySessionRequest) (timestamp : UInt64) : Prop :=
  s.Valid request timestamp ∧ s.activeSessions.list.length < s.capacity

theorem handleSessionRequest_of_admits (h : s.Admits request timestamp) (fromAddr : SocketAddr) (instant : Nat) :
    s.handleSessionRequest request fromAddr timestamp instant =
      ({ s with activeSessions := s.activeSessions.upsert (request.sessionId,
          ⟨fromAddr, none, request.senderUserId, request.recipientUserId, instant⟩) }, .ok true) := by
  obtain ⟨⟨henabled, hexpired, hsender, hrecipient, hquota⟩, hroom⟩ := h
  unfold handleSessionRequest
  rw [if_neg (by simp [henabled]), if_neg (UInt64.not_le.2 hexpired), if_neg (by simp [hsender, hrecipient]),
    if_neg (UInt64.not_le.2 hquota), if_neg (by omega)]

/-- A request that is refused leaves the service as it is; a valid one is refused for lack of capacity. -/
theorem handleSessionRequest_of_not_admits (h : ¬s.Admits request timestamp) (fromAddr : SocketAddr) (instant : Nat) :
    ∃ e, s.handleSessionRequest request fromAddr timestamp instant = (s, .error e) ∧
      (e = "Relay session capacity full (max 10 sessions)" ↔ s.Valid request timestamp) := by
  unfold handleSessionRequest
  split
  · rename_i hdisabled
    exact ⟨_, rfl, fun h => absurd h (by decide), fun hv => by simp [hv.enabled] at hdisabled⟩
  split
  · rename_i hexpired
    exact ⟨_, rfl, fun h => absurd h (by decide), fun hv => absurd hv.notExpired (UInt64.not_lt.2 hexpired)⟩
  split
  · rename_i hblack
    refine ⟨_, rfl, fun h => absurd h (by decide), fun hv => ?_⟩
    rcases hblack with hblack | hblack
    · exact absurd hblack hv.sender
    · exact absurd hblack hv.recipient
  split
  · rename_i hquota
    exact ⟨_, rfl, fun h => absurd h (by decide), fun hv => absurd hv.quota (UInt64.not_lt.2 hquota)⟩
  rename_i henabled hexpired hblack hquota
  have hvalid : s.Valid request timestamp :=
    ⟨by simpa using henabled, UInt64.not_le.1 hexpired, fun h => hblack (.inl h), fun h => hblack (.inr h),
      UInt64.not_le.1 hquota⟩
  split
  · exact ⟨_, rfl, fun _ => hvalid, fun _ => rfl⟩
  · rename_i hroom
    exact absurd ⟨hvalid, by omega⟩ h

theorem isOk_handleSessionRequest :
    (s.handleSessionRequest request fromAddr timestamp instant).2.isOk ↔ s.Admits request timestamp := by
  by_cases h : s.Admits request timestamp
  · rw [handleSessionRequest_of_admits h]
    simp [h, Except.isOk, Except.toBool]
  · obtain ⟨e, he, -⟩ := handleSessionRequest_of_not_admits h fromAddr instant
    rw [he]
    simp [h, Except.isOk, Except.toBool]

/-- A request is refused for lack of capacity when it is valid and the table is full. -/
theorem handleSessionRequest_full_iff : (s.handleSessionRequest request fromAddr timestamp instant).2 =
      .error "Relay session capacity full (max 10 sessions)" ↔
    s.Valid request timestamp ∧ s.capacity ≤ s.activeSessions.list.length := by
  by_cases h : s.Admits request timestamp
  · rw [handleSessionRequest_of_admits h]
    simp [Nat.not_le.2 h.2]
  · obtain ⟨e, he, hfull⟩ := handleSessionRequest_of_not_admits h fromAddr instant
    rw [he, Except.error.injEq, hfull]
    constructor
    · intro hvalid
      exact ⟨hvalid, Nat.not_lt.1 fun hroom => h ⟨hvalid, hroom⟩⟩
    · rintro ⟨hvalid, -⟩
      exact hvalid

/-- A packet is let through: its sender is one end of its session. -/
def Passes (s : OptInRelayService) (packet : RelayPacket) (fromAddr : SocketAddr) (instant : Nat) : Prop :=
  s.config.enabled = true ∧ packet.payload.length ≤ maxRelayPacketSize ∧
    (s.tracked fromAddr instant).packetCount ≤ maxPacketsPerSec ∧
    ∃ session, s.session? packet.sessionId = some session ∧
      (fromAddr = session.senderAddr ∨ some fromAddr = session.recipientAddr)

/-- The packets that are let through are those that are accepted. -/
theorem isOk_forwardPacket : (s.forwardPacket packet fromAddr instant).2.isOk ↔ s.Passes packet fromAddr instant := by
  unfold forwardPacket Passes
  split
  · rename_i hdisabled
    simp [hdisabled, Except.isOk, Except.toBool]
  split
  · rename_i hsize
    simp [Nat.not_le.2 hsize, Except.isOk, Except.toBool]
  rename_i hdisabled hsize
  dsimp only
  split
  · rename_i hrate
    simp [UInt32.not_le.2 hrate, Except.isOk, Except.toBool]
  rename_i hrate
  have henabled : s.config.enabled = true := by simpa using hdisabled
  simp only [henabled, Nat.not_lt.1 hsize, UInt32.not_lt.1 hrate, true_and]
  cases s.session? packet.sessionId with
  | none => simp [Except.isOk, Except.toBool]
  | some session =>
    dsimp only
    split
    · rename_i hsender
      simp [hsender, Except.isOk, Except.toBool]
    split
    · rename_i hrecipient
      simp [hrecipient, Except.isOk, Except.toBool]
    · rename_i hsender hrecipient
      simp [hsender, hrecipient, Except.isOk, Except.toBool]

@[simp] theorem config_forwardPacket : (s.forwardPacket packet fromAddr instant).1.config = s.config := by
  unfold forwardPacket
  dsimp only
  repeat' split
  all_goals rfl

@[simp] theorem activeSessions_forwardPacket :
    (s.forwardPacket packet fromAddr instant).1.activeSessions = s.activeSessions := by
  unfold forwardPacket
  dsimp only
  repeat' split
  all_goals rfl

end OptInRelayService

/-! ## A day of a relay -/

inductive RelayAction where
  | request (request : RelaySessionRequest) (fromAddr : SocketAddr) (timestamp : UInt64) (instant : Nat)
  | packet (packet : RelayPacket) (fromAddr : SocketAddr) (timestamp : UInt64) (instant : Nat)
  | blacklist (userId : String)

/-- The service, with the packets it accepted for forwarding, the last of them first, and the request each of its
sessions was registered by. -/
structure RelayDay where
  service : OptInRelayService
  forwarded : List RelayPacket := []
  requests : KeyedList RelaySessionRequest.sessionId := ∅

namespace RelayDay

def start (config : RelayConfig) : RelayDay := { service := { config } }

/-- The request that is accepted in a step, and where it came from. -/
def registers? (s : RelayDay) : RelayAction → Option (RelaySessionRequest × SocketAddr)
  | .request request fromAddr timestamp instant =>
    if (s.service.handleSessionRequest request fromAddr timestamp instant).2.isOk then some (request, fromAddr)
    else none
  | _ => none

/-- The packet that is accepted in a step, where it came from, and when. -/
def forwards? (s : RelayDay) : RelayAction → Option (RelayPacket × SocketAddr × UInt64)
  | .packet packet fromAddr timestamp instant =>
    if (s.service.forwardPacket packet fromAddr instant).2.isOk then some (packet, fromAddr, timestamp) else none
  | _ => none

def step (s : RelayDay) (a : RelayAction) : RelayDay where
  service :=
    match a with
    | .request request fromAddr timestamp instant =>
      (s.service.handleSessionRequest request fromAddr timestamp instant).1
    | .packet packet fromAddr _ instant => (s.service.forwardPacket packet fromAddr instant).1
    | .blacklist userId => s.service.blacklistPeer userId
  forwarded := ((s.forwards? a).map Prod.fst).toList ++ s.forwarded
  requests := (s.registers? a).elim s.requests fun r => s.requests.upsert r.1

/-- The total payload accepted for forwarding. -/
def relayed (s : RelayDay) : Nat := (s.forwarded.map fun p => p.payload.length).sum

def limit (s : RelayDay) : Nat := s.service.config.dailyTrafficLimitBytes.toNat

/-- The limit is exceeded by no more than the packet that was accepted last. -/
def WithinQuota (s : RelayDay) : Prop := ∀ p ∈ s.forwarded.head?, s.relayed ≤ s.limit + p.payload.length

instance (s : RelayDay) : Decidable s.WithinQuota := inferInstanceAs (Decidable (∀ p ∈ s.forwarded.head?, _))

/-- A packet that is accepted comes before the limit is exceeded. -/
def QuotaLeft (s : RelayDay) (a : RelayAction) : Prop := (s.forwards? a).isSome → s.relayed ≤ s.limit

variable {s : RelayDay} {a : RelayAction}

theorem config_step (s : RelayDay) (a : RelayAction) : (s.step a).service.config = s.service.config := by
  cases a with
  | request request fromAddr timestamp instant =>
    show (s.service.handleSessionRequest request fromAddr timestamp instant).1.config = _
    by_cases h : s.service.Admits request timestamp
    · rw [OptInRelayService.handleSessionRequest_of_admits h]
    · obtain ⟨e, he, -⟩ := OptInRelayService.handleSessionRequest_of_not_admits h fromAddr instant
      rw [he]
  | packet packet fromAddr timestamp instant => exact OptInRelayService.config_forwardPacket
  | blacklist userId => rfl

theorem limit_step (s : RelayDay) (a : RelayAction) : (s.step a).limit = s.limit :=
  congrArg (fun c => c.dailyTrafficLimitBytes.toNat) (config_step s a)

/-- A step that accepts no packet keeps to the quota; one that does, keeps to it if there was some left. -/
theorem withinQuota_step_iff (h : s.WithinQuota) (a : RelayAction) : (s.step a).WithinQuota ↔ s.QuotaLeft a := by
  unfold WithinQuota QuotaLeft
  rw [limit_step]
  unfold relayed step
  cases ha : s.forwards? a with
  | none => simpa [WithinQuota, relayed] using h
  | some p =>
    simp only [Option.map_some, Option.toList_some, List.singleton_append, List.head?_cons, Option.mem_def,
      Option.some.injEq, forall_eq', List.map_cons, List.sum_cons, Option.isSome_some, forall_const]
    omega

namespace Flood

def client : SocketAddr := { ip := .localhost, port := 9001 }

def request : RelaySessionRequest where
  sessionId := .replicate 16 1
  senderUserId := "alice_node"
  recipientUserId := "bob_node"
  createdAt := 1000
  expiresAt := 2000
  signatureHex := ""

def packet : RelayPacket where
  sessionId := .replicate 16 1
  senderUserId := "alice_node"
  payload := List.replicate 1200 0xEE

def config : RelayConfig := { enabled := true, maxSessions := 10, dailyTrafficLimitBytes := 1000 }

/-- One session, registered while the quota was untouched, and two packets of the largest size. -/
def actions : List RelayAction :=
  [.request request client 1500 0, .packet packet client 1501 1, .packet packet client 1501 2]

end Flood

end RelayDay

end NodeX.Kad
