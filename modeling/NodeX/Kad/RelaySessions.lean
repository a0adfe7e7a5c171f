/-
Who a relay session belongs to and how long it lasts. The service checks neither the signature of a request nor whether
its session id is taken, and it keeps no deadline: a session stands until another request takes its id.
-/
import NodeX.Kad.Relay

namespace NodeX.Kad.RelayDay

open NodeX.Lib

variable {s : RelayDay} {a : RelayAction} {r : RelaySessionRequest} {addr : SocketAddr} {id : SessionId}

/-! ## Steps -/

/-- The session of a request, as it is registered from an address. -/
def Bound (r : RelaySessionRequest) (addr : SocketAddr) (s : RelayDay) : Prop :=
  ∃ session, s.service.session? r.sessionId = some session ∧ session.senderAddr = addr ∧
    session.senderId = r.senderUserId ∧ session.recipientId = r.recipientUserId

theorem registers?_eq_some : s.registers? a = some (r, addr) ↔
    ∃ timestamp instant, a = .request r addr timestamp instant ∧ s.service.Admits r timestamp := by
  cases a with
  | request request fromAddr timestamp instant =>
    unfold registers?
    simp only [OptInRelayService.isOk_handleSessionRequest, Option.ite_none_right_eq_some, Option.some.injEq,
      Prod.mk.injEq, RelayAction.request.injEq]
    constructor
    · rintro ⟨h, rfl, rfl⟩
      exact ⟨timestamp, instant, ⟨rfl, rfl, rfl, rfl⟩, h⟩
    · rintro ⟨_, _, ⟨rfl, rfl, rfl, rfl⟩, h⟩
      exact ⟨h, rfl, rfl⟩
  | packet packet fromAddr timestamp instant => simp [registers?]
  | blacklist userId => simp [registers?]

theorem forwards?_eq_some {p : RelayPacket} {timestamp : UInt64} : s.forwards? a = some (p, addr, timestamp) ↔
    ∃ instant, a = .packet p addr timestamp instant ∧ s.service.Passes p addr instant := by
  cases a with
  | packet packet fromAddr timestamp' instant =>
    unfold forwards?
    simp only [OptInRelayService.isOk_forwardPacket, Option.ite_none_right_eq_some, Option.some.injEq, Prod.mk.injEq,
      RelayAction.packet.injEq]
    constructor
    · rintro ⟨h, rfl, rfl, rfl⟩
      exact ⟨instant, ⟨rfl, rfl, rfl, rfl⟩, h⟩
    · rintro ⟨_, ⟨rfl, rfl, rfl, rfl⟩, h⟩
      exact ⟨h, rfl, rfl, rfl⟩
  | request request fromAddr timestamp' instant => simp [forwards?]
  | blacklist userId => simp [forwards?]

/-- A step that registers nothing leaves the sessions as they are. -/
theorem step_of_none (h : s.registers? a = none) :
    (s.step a).service.activeSessions = s.service.activeSessions ∧ (s.step a).requests = s.requests := by
  refine ⟨?_, by simp [step, h]⟩
  cases a with
  | request request fromAddr timestamp instant =>
    show (s.service.handleSessionRequest request fromAddr timestamp instant).1.activeSessions = _
    by_cases hadmits : s.service.Admits request timestamp
    · rw [registers?_eq_some.2 ⟨timestamp, instant, rfl, hadmits⟩] at h
      cases h
    · obtain ⟨e, he, -⟩ := OptInRelayService.handleSessionRequest_of_not_admits hadmits fromAddr instant
      rw [he]
  | packet packet fromAddr timestamp instant => exact OptInRelayService.activeSessions_forwardPacket
  | blacklist userId => rfl

/-- A request that is accepted finds room, and takes its id, whoever had it. -/
theorem step_of_some (h : s.registers? a = some (r, addr)) :
    s.service.activeSessions.list.length < s.service.capacity ∧
      (∃ instant, (s.step a).service.activeSessions = s.service.activeSessions.upsert
        (r.sessionId, ⟨addr, none, r.senderUserId, r.recipientUserId, instant⟩)) ∧
      (s.step a).requests = s.requests.upsert r := by
  have hrequests : (s.step a).requests = s.requests.upsert r := by simp [step, h]
  obtain ⟨timestamp, instant, rfl, hadmits⟩ := registers?_eq_some.1 h
  refine ⟨hadmits.2, ⟨instant, ?_⟩, hrequests⟩
  show (s.service.handleSessionRequest r addr timestamp instant).1.activeSessions = _
  rw [OptInRelayService.handleSessionRequest_of_admits hadmits]

theorem bound_step (h : s.registers? a = some (r, addr)) : (s.step a).Bound r addr := by
  obtain ⟨-, ⟨instant, hstep⟩, -⟩ := step_of_some h
  refine ⟨⟨addr, none, r.senderUserId, r.recipientUserId, instant⟩, ?_, rfl, rfl, rfl⟩
  unfold OptInRelayService.session?
  rw [hstep, KeyedList.get?_upsert, if_pos rfl]
  rfl

/-- A session is changed by an accepted request for its id alone. -/
theorem session?_step (h : ∀ r addr, s.registers? a = some (r, addr) → r.sessionId ≠ id) :
    (s.step a).service.session? id = s.service.session? id := by
  unfold OptInRelayService.session?
  cases hreg : s.registers? a with
  | none => rw [(step_of_none hreg).1]
  | some p =>
    obtain ⟨r, addr⟩ := p
    obtain ⟨-, ⟨instant, hstep⟩, -⟩ := step_of_some hreg
    rw [hstep, KeyedList.get?_upsert, if_neg (h r addr hreg)]

/-! ## Ownership -/

section Ownership

variable (signed : String → RelaySessionRequest → Prop)

/-- An accepted request for the session of `r`, signed by the sender of `r`. -/
def Renews (r : RelaySessionRequest) (s : RelayDay) (a : RelayAction) : Prop :=
  ∃ r' addr', s.registers? a = some (r', addr') ∧ r'.sessionId = r.sessionId ∧ signed r.senderUserId r'

/-- As long as its sender signs no other request for it, a session stays as it was registered, and takes packets only
from where it was registered and from the address of its recipient. -/
def Owned (r : RelaySessionRequest) (addr : SocketAddr) (s : RelayDay) (later : List RelayAction) : Prop :=
  ∀ mid a rest, later = mid ++ a :: rest → Steps step (fun s a => ¬Renews signed r s a) s (mid ++ [a]) →
    (run step s (mid ++ [a])).Bound r addr ∧
      ∀ p fromAddr timestamp, (run step s mid).forwards? a = some (p, fromAddr, timestamp) →
        p.sessionId = r.sessionId → fromAddr = addr ∨
          ∃ session, (run step s mid).service.session? r.sessionId = some session ∧
            session.recipientAddr = some fromAddr

/-- An accepted request for an id that is taken is signed by the sender the session has, or changes nothing. -/
def Respects (s : RelayDay) (a : RelayAction) : Prop :=
  ∀ r addr, s.registers? a = some (r, addr) → ∀ session, s.service.session? r.sessionId = some session →
    signed session.senderId r ∨ session.senderAddr = addr ∧ session.senderId = r.senderUserId ∧
      session.recipientId = r.recipientUserId

variable {signed}

theorem Bound.step (h : s.Bound r addr) (hrespects : s.Respects signed a) (hown : ¬Renews signed r s a) :
    (s.step a).Bound r addr := by
  obtain ⟨session, hsession, haddr, hsender, hrecipient⟩ := h
  by_cases htaken : ∀ r' addr', s.registers? a = some (r', addr') → r'.sessionId ≠ r.sessionId
  · exact ⟨session, (session?_step htaken).trans hsession, haddr, hsender, hrecipient⟩
  · simp only [not_forall, not_not] at htaken
    obtain ⟨r', addr', hreg, hid⟩ := htaken
    rcases hrespects r' addr' hreg session (hid ▸ hsession) with hsigned | ⟨h1, h2, h3⟩
    · exact absurd ⟨r', addr', hreg, hid, hsender ▸ hsigned⟩ hown
    · obtain ⟨session', hsession', haddr', hsender', hrecipient'⟩ := bound_step hreg
      exact ⟨session', hid ▸ hsession', haddr'.trans (h1.symm.trans haddr), hsender'.trans (h2.symm.trans hsender),
        hrecipient'.trans (h3.symm.trans hrecipient)⟩

/-- While the requests respect the sessions, a session is its sender's. -/
theorem owned_of_respects {later : List RelayAction} (h : s.Bound r addr)
    (hsteps : Steps step (Respects signed) s later) :
    Owned signed r addr s later := by
  have hrun : ∀ {as : List RelayAction}, Steps step (Respects signed) s as →
      Steps step (fun s a => ¬Renews signed r s a) s as → (run step s as).Bound r addr :=
    fun hrespects hown => run_invariant (fun _ _ hbound hok => hbound.step hok.1 hok.2) h (hrespects.and hown)
  rintro mid a rest rfl hown
  have hmid : Steps step (Respects signed) s (mid ++ [a]) := by
    rw [List.append_cons, steps_append] at hsteps
    exact hsteps.1
  refine ⟨hrun hmid hown, ?_⟩
  intro p fromAddr timestamp hforwards hid
  obtain ⟨session, hsession, haddr, -⟩ := hrun ((steps_concat ..).1 hmid).1 ((steps_concat ..).1 hown).1
  obtain ⟨instant, -, -, -, -, session', hsession', hends⟩ := forwards?_eq_some.1 hforwards
  obtain rfl : session = session' := Option.some.inj (hsession.symm.trans (hid ▸ hsession'))
  exact hends.imp (fun h => h.trans haddr) fun h => ⟨session, hsession, h.symm⟩

/-- A session that stands was registered by the last accepted request for its id. -/
theorem exists_registration {config : RelayConfig} {as : List RelayAction} {session : ActiveSession}
    (h : (run step (start config) as).service.session? id = some session) :
    ∃ pre a post r addr, as = pre ++ a :: post ∧ (run step (start config) pre).registers? a = some (r, addr) ∧
      r.sessionId = id ∧ (run step (start config) as).Bound r addr ∧
      Steps step (fun s a => ∀ r addr, s.registers? a = some (r, addr) → r.sessionId ≠ id)
        (run step (start config) (pre ++ [a])) post := by
  have hkeep : ∀ {s : RelayDay} {as : List RelayAction},
      Steps step (fun s a => ∀ r addr, s.registers? a = some (r, addr) → r.sessionId ≠ id) s as →
      (run step s as).service.session? id = s.service.session? id := by
    intro s as hsteps
    refine run_invariant (I := fun t => t.service.session? id = s.service.session? id) ?_ rfl hsteps
    exact fun t a ht hok => (session?_step hok).trans ht
  rcases exists_last_step step (fun s a => ∃ r addr, s.registers? a = some (r, addr) ∧ r.sessionId = id)
    (start config) as with hnone | ⟨pre, a, post, rfl, ⟨r, addr, hreg, hid⟩, hpost⟩
  · rw [hkeep (hnone.imp fun s a ha r addr hreg hid => ha ⟨r, addr, hreg, hid⟩)] at h
    cases h
  · have hrest := hpost.imp fun s a ha r addr hreg hid => ha ⟨r, addr, hreg, hid⟩
    refine ⟨pre, a, post, r, addr, rfl, hreg, hid, ?_, hrest⟩
    obtain ⟨session', hsession', hfields⟩ := bound_step hreg
    refine ⟨session', ?_, hfields⟩
    rw [List.append_cons, run_append, run_concat, hid, hkeep (run_concat step (start config) pre a ▸ hrest), ← hid]
    exact hsession'

end Ownership

/-! ## A session taken over -/

namespace Theft

def stranger : SocketAddr := { ip := .localhost, port := 9002 }

/-- Mallory's own request, under the id of the session of Alice. -/
def request : RelaySessionRequest := { Flood.request with senderUserId := "mallory_node" }

def actions : List RelayAction := [.request Flood.request Flood.client 1500 0, .request request stranger 1500 1]

/-- Every request is signed by the sender it names. -/
def signed (userId : String) (r : RelaySessionRequest) : Prop := r.senderUserId = userId

end Theft

/-- The requests of the sessions that have not expired. -/
def live (s : RelayDay) (timestamp : UInt64) : List RelaySessionRequest :=
  s.requests.list.filter fun r => timestamp < r.expiresAt

/-- No packet is accepted for a session that has expired, and a request is refused for lack of capacity only if the
sessions that have not expired fill it. -/
structure Expires (s : RelayDay) (a : RelayAction) : Prop where
  packet : ∀ p fromAddr timestamp, s.forwards? a = some (p, fromAddr, timestamp) →
    ∀ r, s.requests.get? p.sessionId = some r → timestamp < r.expiresAt
  room : ∀ r fromAddr timestamp instant, a = .request r fromAddr timestamp instant →
    (s.service.handleSessionRequest r fromAddr timestamp instant).2 =
      .error "Relay session capacity full (max 10 sessions)" → s.service.capacity ≤ (s.live timestamp).length

/-- A packet that passes comes before its session expires, and none has expired when a valid request finds the table
full. -/
structure InTime (s : RelayDay) (a : RelayAction) : Prop where
  packet : ∀ p fromAddr timestamp instant, a = .packet p fromAddr timestamp instant →
    s.service.Passes p fromAddr instant → ∀ r, s.requests.get? p.sessionId = some r → timestamp < r.expiresAt
  room : ∀ r fromAddr timestamp instant, a = .request r fromAddr timestamp instant → s.service.Valid r timestamp →
    s.service.capacity ≤ s.service.activeSessions.list.length → ∀ r' ∈ s.requests.list, timestamp < r'.expiresAt

/-- The sessions are those of the requests, and there are not too many. -/
structure Kept (s : RelayDay) : Prop where
  sessions : s.service.activeSessions.list.map Prod.fst = s.requests.list.map RelaySessionRequest.sessionId
  size : s.service.activeSessions.list.length ≤ s.service.capacity

theorem Kept.step (h : s.Kept) (a : RelayAction) : (s.step a).Kept := by
  have hcapacity : (s.step a).service.capacity = s.service.capacity :=
    congrArg (fun c => min c.maxSessions maxRelaySessions) (config_step s a)
  cases hreg : s.registers? a with
  | none =>
    obtain ⟨hsessions, hrequests⟩ := step_of_none hreg
    exact ⟨by rw [hsessions, hrequests, h.sessions], by rw [hsessions, hcapacity]; exact h.size⟩
  | some p =>
    obtain ⟨r, addr⟩ := p
    obtain ⟨hroom, ⟨instant, hsessions⟩, hrequests⟩ := step_of_some hreg
    constructor
    · rw [hsessions, hrequests]
      exact map_upsert_congr Prod.fst RelaySessionRequest.sessionId rfl h.sessions
    · rw [hsessions, hcapacity]
      exact (length_upsert_le ..).trans hroom

/-- In a full table the sessions that have not expired fill it exactly when none has expired. -/
theorem Kept.live_full_iff (h : s.Kept) (timestamp : UInt64)
    (hfull : s.service.capacity ≤ s.service.activeSessions.list.length) :
    s.service.capacity ≤ (s.live timestamp).length ↔ ∀ r ∈ s.requests.list, timestamp < r.expiresAt := by
  have hlength : s.service.activeSessions.list.length = s.requests.list.length := by
    simpa using congrArg List.length h.sessions
  have hsize := h.size
  have hle : (s.live timestamp).length ≤ s.requests.list.length := List.length_filter_le ..
  have hall : (s.live timestamp).length = s.requests.list.length ↔ ∀ r ∈ s.requests.list, timestamp < r.expiresAt := by
    simp [live]
  rw [← hall]
  omega

theorem expires_iff (h : s.Kept) (a : RelayAction) : s.Expires a ↔ s.InTime a := by
  constructor
  · rintro ⟨hpacket, hroom⟩
    refine ⟨?_, ?_⟩
    · intro p fromAddr timestamp instant ha hpasses r hr
      exact hpacket p fromAddr timestamp (forwards?_eq_some.2 ⟨instant, ha, hpasses⟩) r hr
    · intro r fromAddr timestamp instant ha hvalid hfull
      refine (h.live_full_iff timestamp hfull).1 (hroom r fromAddr timestamp instant ha ?_)
      exact OptInRelayService.handleSessionRequest_full_iff.2 ⟨hvalid, hfull⟩
  · rintro ⟨hpacket, hroom⟩
    refine ⟨?_, ?_⟩
    · intro p fromAddr timestamp hforwards r hr
      obtain ⟨instant, ha, hpasses⟩ := forwards?_eq_some.1 hforwards
      exact hpacket p fromAddr timestamp instant ha hpasses r hr
    · intro r fromAddr timestamp instant ha herror
      obtain ⟨hvalid, hfull⟩ := OptInRelayService.handleSessionRequest_full_iff.1 herror
      exact (h.live_full_iff timestamp hfull).2 (hroom r fromAddr timestamp instant ha hvalid hfull)

namespace Stale

def config : RelayConfig := { Flood.config with maxSessions := 1, dailyTrafficLimitBytes := 10000 }

def later : RelaySessionRequest := { Flood.request with sessionId := .replicate 16 2, expiresAt := 9000 }

/-- The session expires at 2000; a packet comes at 3000, and then another request. -/
def actions : List RelayAction :=
  [.request Flood.request Flood.client 1500 0, .packet Flood.packet Flood.client 3000 1,
    .request later Flood.client 3000 2]

end Stale

end NodeX.Kad.RelayDay
