/-
How many packets of one address the relay's limiter lets through. It counts in windows, and a window starts with the
first packet that comes a second or more after the start of the one before. Two windows may meet within a second, so
that what passes at the end of the one and at the start of the other is counted by neither.
-/
import NodeX.Kad.Relay

namespace NodeX.Kad

open NodeX.Lib

/-! ## Calls in time -/

/-- A call of `forward_packet`, so many nanoseconds after the one before it. -/
structure ForwardCall where
  delay : Nat
  packet : RelayPacket
  fromAddr : SocketAddr

def nanosPerSec : Nat := 1000000000

/-- The service and the time, with the sources and times of the packets that passed the limiter. -/
structure RelayLog where
  service : OptInRelayService
  now : Nat := 0
  passed : List (SocketAddr × Nat) := []

namespace RelayLog

/-- When a call comes. -/
def time (s : RelayLog) (c : ForwardCall) : Nat := s.now + c.delay

/-- The tracker of a source. -/
def tracker? (s : RelayLog) (addr : SocketAddr) : Option PeerRateTracker :=
  (s.service.rateLimiters.get? addr).map Prod.snd

/-- The tracker of the source with the packet of a call counted. -/
def counted (s : RelayLog) (c : ForwardCall) : PeerRateTracker := s.service.tracked c.fromAddr (s.time c)

/-- The packet gets as far as the limiter. -/
def Arrives (s : RelayLog) (c : ForwardCall) : Prop :=
  s.service.config.enabled = true ∧ c.packet.payload.length ≤ maxRelayPacketSize

instance (s : RelayLog) (c : ForwardCall) : Decidable (s.Arrives c) := inferInstanceAs (Decidable (_ ∧ _))

/-- The limiter lets the packet of a call through. -/
def PassesLimiter (s : RelayLog) (c : ForwardCall) : Prop :=
  s.Arrives c ∧ (s.counted c).packetCount ≤ maxPacketsPerSec

instance (s : RelayLog) (c : ForwardCall) : Decidable (s.PassesLimiter c) := inferInstanceAs (Decidable (_ ∧ _))

def step (s : RelayLog) (c : ForwardCall) : RelayLog where
  service := (s.service.forwardPacket c.packet c.fromAddr (s.time c)).1
  now := s.time c
  passed := if s.PassesLimiter c then (c.fromAddr, s.time c) :: s.passed else s.passed

/-- The packets of a source that passed from one time to another. -/
def passedBetween (s : RelayLog) (addr : SocketAddr) (first last : Nat) : Nat :=
  s.passed.countP fun p => decide (p.1 = addr ∧ first ≤ p.2 ∧ p.2 ≤ last)

/-- In no interval shorter than a second more than twenty packets of one source pass. -/
def WithinRate (s : RelayLog) : Prop :=
  ∀ addr first last, last < first + nanosPerSec → s.passedBetween addr first last ≤ maxPacketsPerSec.toNat

/-- The packets of the source that passed less than a second before, in windows that are over. -/
def carried (s : RelayLog) (c : ForwardCall) : Nat :=
  s.passed.countP fun p =>
    decide (p.1 = c.fromAddr ∧ s.time c < p.2 + nanosPerSec ∧ p.2 < (s.counted c).lastReset)

/-- A packet that passes finds its count, and what earlier windows let through less than a second before, to be no more
than twenty together; and the counter has not run over. -/
def Fits (s : RelayLog) (c : ForwardCall) : Prop :=
  s.PassesLimiter c → 0 < (s.counted c).packetCount ∧
    s.carried c + (s.counted c).packetCount.toNat ≤ maxPacketsPerSec.toNat

/-- A service that has not seen a packet yet, whatever its sessions. -/
def start (config : RelayConfig) (sessions : KeyedList (Prod.fst : SessionId × ActiveSession → SessionId)) :
    RelayLog := { service := { config, activeSessions := sessions } }

/-! ## What a call does to the trackers -/

variable {s : RelayLog} {c : ForwardCall} {addr : SocketAddr}

theorem rateLimiters_of_arrives (h : s.Arrives c) : (s.step c).service.rateLimiters =
    s.service.rateLimiters.upsert (c.fromAddr, s.counted c) := by
  obtain ⟨henabled, hsize⟩ := h
  change (s.service.forwardPacket c.packet c.fromAddr (s.time c)).1.rateLimiters = _
  unfold OptInRelayService.forwardPacket
  rw [if_neg (by simp [henabled]), if_neg (by omega)]
  dsimp only
  split
  · rfl
  split
  · rfl
  split
  · rfl
  split <;> rfl

theorem rateLimiters_of_not_arrives (h : ¬s.Arrives c) :
    (s.step c).service.rateLimiters = s.service.rateLimiters := by
  change (s.service.forwardPacket c.packet c.fromAddr (s.time c)).1.rateLimiters = _
  unfold OptInRelayService.forwardPacket
  by_cases henabled : s.service.config.enabled = true
  · have hsize : ¬c.packet.payload.length ≤ maxRelayPacketSize := fun hsize => h ⟨henabled, hsize⟩
    rw [if_neg (by simp [henabled]), if_pos (by omega)]
  · rw [if_pos (by simpa using henabled)]

theorem tracker?_step (s : RelayLog) (c : ForwardCall) (addr : SocketAddr) : (s.step c).tracker? addr =
    if s.Arrives c ∧ addr = c.fromAddr then some (s.counted c) else s.tracker? addr := by
  unfold tracker?
  by_cases harrives : s.Arrives c
  · rw [rateLimiters_of_arrives harrives, KeyedList.get?_upsert]
    by_cases haddr : addr = c.fromAddr
    · rw [if_pos haddr.symm, if_pos ⟨harrives, haddr⟩]
      rfl
    · rw [if_neg fun h => haddr h.symm, if_neg fun h => haddr h.2]
  · rw [rateLimiters_of_not_arrives harrives, if_neg fun h => harrives h.1]

/-- The first packet of a source, and one a second or more after the start of its window, start a window; the others
are counted in the window under way. -/
theorem counted_eq (s : RelayLog) (c : ForwardCall) : s.counted c = match s.tracker? c.fromAddr with
    | some t => if nanosPerSec ≤ s.time c - t.lastReset then ⟨s.time c, 1⟩ else ⟨t.lastReset, t.packetCount + 1⟩
    | none => ⟨s.time c, 1⟩ := by
  unfold counted OptInRelayService.tracked tracker?
  dsimp only
  cases s.service.rateLimiters.get? c.fromAddr with
  | none => simp
  | some e =>
    simp only [Option.map_some, Option.getD_some]
    by_cases hold : s.time c - e.2.lastReset ≥ 1000000000
    · rw [if_pos hold, if_pos (show nanosPerSec ≤ _ from hold)]
      rfl
    · rw [if_neg hold, if_neg (show ¬nanosPerSec ≤ _ from hold)]

/-! ## What is counted -/

/-- A tracker has counted the packets of its window that passed, up to the limit. -/
structure Tracks (s : RelayLog) (addr : SocketAddr) (t : PeerRateTracker) : Prop where
  started : t.lastReset ≤ s.now
  window : ∀ p ∈ s.passed, p.1 = addr → p.2 < t.lastReset + nanosPerSec
  count : (s.passed.countP fun p => decide (p.1 = addr ∧ t.lastReset ≤ p.2)) =
    min t.packetCount.toNat maxPacketsPerSec.toNat

/-- What passed was counted. -/
structure Counted (s : RelayLog) : Prop where
  past : ∀ p ∈ s.passed, p.2 ≤ s.now
  tracked : ∀ addr t, s.tracker? addr = some t → s.Tracks addr t
  untracked : ∀ addr, s.tracker? addr = none → ∀ p ∈ s.passed, p.1 ≠ addr

theorem now_le_time (s : RelayLog) (c : ForwardCall) : s.now ≤ s.time c := Nat.le_add_right _ _

theorem passed_of_not (h : ¬s.PassesLimiter c) : (s.step c).passed = s.passed := if_neg h

theorem passed_of_passes (h : s.PassesLimiter c) : (s.step c).passed = (c.fromAddr, s.time c) :: s.passed := if_pos h

/-- A tracker is right about its source whatever other sources do. -/
theorem Tracks.of_other {t : PeerRateTracker} (h : s.Tracks addr t) (haddr : addr ≠ c.fromAddr) :
    (s.step c).Tracks addr t := by
  have hstart := h.started.trans (now_le_time s c)
  by_cases hpass : s.PassesLimiter c
  · refine ⟨hstart, ?_, ?_⟩
    · intro p hp hpa
      rw [passed_of_passes hpass] at hp
      rcases List.mem_cons.1 hp with rfl | hp
      · exact absurd hpa.symm haddr
      · exact h.window p hp hpa
    · rw [passed_of_passes hpass, List.countP_cons_of_neg (by simp [haddr.symm])]
      exact h.count
  · refine ⟨hstart, ?_, ?_⟩
    · rw [passed_of_not hpass]
      exact h.window
    · rw [passed_of_not hpass]
      exact h.count

/-- How the tracker of the source comes to its count: a new window, or one more packet in the window under way. -/
theorem counted_cases (h : s.Counted) (c : ForwardCall) :
    s.counted c = ⟨s.time c, 1⟩ ∧ (∀ p ∈ s.passed, p.1 = c.fromAddr → p.2 < s.time c) ∨
      ∃ t, s.Tracks c.fromAddr t ∧ s.time c < t.lastReset + nanosPerSec ∧
        s.counted c = ⟨t.lastReset, t.packetCount + 1⟩ := by
  rw [counted_eq]
  cases htracker : s.tracker? c.fromAddr with
  | none =>
    left
    refine ⟨rfl, ?_⟩
    intro p hp hpa
    exact absurd hpa (h.untracked _ htracker p hp)
  | some t =>
    have ht := h.tracked _ t htracker
    dsimp only
    by_cases hold : nanosPerSec ≤ s.time c - t.lastReset
    · left
      rw [if_pos hold]
      refine ⟨rfl, ?_⟩
      intro p hp hpa
      have hwindow := ht.window p hp hpa
      have hstart := ht.started.trans (now_le_time s c)
      omega
    · right
      rw [if_neg hold]
      refine ⟨t, ht, ?_, rfl⟩
      have hstart := ht.started.trans (now_le_time s c)
      omega

/-- The packets of the source that passed in the window of a call, the call's own packet apart. -/
def inWindow (s : RelayLog) (c : ForwardCall) : Nat :=
  s.passed.countP fun p => decide (p.1 = c.fromAddr ∧ (s.counted c).lastReset ≤ p.2)

/-- The window of a call lies within the last second, and was counted up to the limit. -/
theorem window_of_counted (h : s.Counted) (c : ForwardCall) :
    (s.counted c).lastReset ≤ s.time c ∧ s.time c < (s.counted c).lastReset + nanosPerSec ∧
      (0 < (s.counted c).packetCount →
        s.inWindow c = min ((s.counted c).packetCount.toNat - 1) maxPacketsPerSec.toNat) ∧
      (¬0 < (s.counted c).packetCount → s.inWindow c = maxPacketsPerSec.toNat) := by
  have hmax : maxPacketsPerSec.toNat = 20 := rfl
  have hsec : nanosPerSec = 1000000000 := rfl
  rcases counted_cases h c with ⟨hnew, hpast⟩ | ⟨t, ht, hwindow, hmore⟩
  · have hzero : s.inWindow c = 0 := by
      unfold inWindow
      rw [hnew, List.countP_eq_zero]
      intro p hp
      simp only [decide_eq_true_eq, not_and]
      intro hpa
      have hlt := hpast p hp hpa
      omega
    rw [hnew, hzero]
    refine ⟨le_refl _, ?_, fun _ => rfl, fun hcount => absurd (show (0 : UInt32) < 1 by decide) hcount⟩
    simp only
    omega
  · have hcount : s.inWindow c = min t.packetCount.toNat maxPacketsPerSec.toNat := by
      unfold inWindow
      rw [hmore]
      exact ht.count
    have hstart := ht.started.trans (now_le_time s c)
    have hlt := t.packetCount.toNat_lt
    rw [hmore, hcount]
    simp only [UInt32.lt_iff_toNat_lt, UInt32.toNat_add, UInt32.reduceToNat, Nat.not_lt]
    refine ⟨hstart, hwindow, ?_, ?_⟩
    · omega
    · omega

/-- What is counted in two kinds is counted in all. -/
theorem countP_add {α : Type} {p q r : α → Bool} : ∀ {l : List α},
    (∀ a ∈ l, (p a).toNat = (q a).toNat + (r a).toNat) → l.countP p = l.countP q + l.countP r
  | [], _ => rfl
  | a :: l, h => by
    obtain ⟨ha, hl⟩ := List.forall_mem_cons.1 h
    have ih := countP_add hl
    rw [List.countP_cons, List.countP_cons, List.countP_cons, ih]
    cases hp : p a <;> cases hq : q a <;> cases hr : r a <;> simp [hp, hq, hr] at ha ⊢ <;> omega

/-- The packets of the last second are those that earlier windows let through and those of the window. -/
theorem recent_eq (h : s.Counted) (c : ForwardCall) :
    (s.passed.countP fun p => decide (p.1 = c.fromAddr ∧ s.time c < p.2 + nanosPerSec)) =
      s.carried c + s.inWindow c := by
  have hwindow := (window_of_counted h c).2.1
  refine countP_add fun p _ => ?_
  by_cases hpa : p.1 = c.fromAddr
  · rcases Nat.lt_or_ge p.2 (s.counted c).lastReset with hlt | hge
    · have hnot : ¬(s.counted c).lastReset ≤ p.2 := by omega
      simp [hpa, hlt, hnot]
    · have hnot : ¬p.2 < (s.counted c).lastReset := by omega
      have hrecent : s.time c < p.2 + nanosPerSec := by omega
      simp [hpa, hge, hnot, hrecent]
  · simp [hpa]

/-! ## One call -/

theorem passedBetween_of_passes (hpass : s.PassesLimiter c) (addr : SocketAddr) (first last : Nat) :
    (s.step c).passedBetween addr first last = s.passedBetween addr first last +
      if c.fromAddr = addr ∧ first ≤ s.time c ∧ s.time c ≤ last then 1 else 0 := by
  unfold passedBetween
  rw [passed_of_passes hpass, List.countP_cons]
  simp only [decide_eq_true_eq]

/-- The packets of the source in an interval that ends with a call, or about it, came within the last second. -/
theorem passedBetween_le (h : s.Counted) (c : ForwardCall) {first last : Nat} (hlast : s.time c ≤ last)
    (hshort : last < first + nanosPerSec) :
    s.passedBetween c.fromAddr first last ≤ s.carried c + s.inWindow c := by
  rw [← recent_eq h c]
  refine List.countP_mono_left fun p _ hp => ?_
  simp only [decide_eq_true_eq] at hp ⊢
  refine ⟨hp.1, ?_⟩
  omega

/-- The last second before a call. -/
theorem passedBetween_last (h : s.Counted) (c : ForwardCall) :
    s.passedBetween c.fromAddr (s.time c + 1 - nanosPerSec) (s.time c) = s.carried c + s.inWindow c := by
  rw [← recent_eq h c]
  refine List.countP_congr fun p hp => ?_
  have hpast := (h.past p hp).trans (now_le_time s c)
  simp only [decide_eq_true_eq]
  refine and_congr_right fun _ => ?_
  omega

/-- After a call the rate is kept exactly if the packet fits. -/
theorem withinRate_step_iff (h : s.Counted) (hrate : s.WithinRate) (c : ForwardCall) :
    (s.step c).WithinRate ↔ s.Fits c := by
  have hmax : maxPacketsPerSec.toNat = 20 := rfl
  by_cases hpass : s.PassesLimiter c
  · obtain ⟨-, -, hcount, hover⟩ := window_of_counted h c
    have hle : (s.counted c).packetCount.toNat ≤ maxPacketsPerSec.toNat := UInt32.le_iff_toNat_le.1 hpass.2
    constructor
    · intro hstep _
      have hlast := hstep c.fromAddr (s.time c + 1 - nanosPerSec) (s.time c) (by
        have hsec : nanosPerSec = 1000000000 := rfl
        omega)
      rw [passedBetween_of_passes hpass, passedBetween_last h, if_pos ⟨rfl, by
        have hsec : nanosPerSec = 1000000000 := rfl
        omega, le_refl _⟩] at hlast
      by_cases hpos : 0 < (s.counted c).packetCount
      · refine ⟨hpos, ?_⟩
        have hnat : 0 < (s.counted c).packetCount.toNat := UInt32.lt_iff_toNat_lt.1 hpos
        rw [hcount hpos] at hlast
        omega
      · -- a counter that ran over has twenty packets in its window
        rw [hover hpos] at hlast
        omega
    · intro hfits addr first last hshort
      obtain ⟨hpos, hsum⟩ := hfits hpass
      have hnat : 0 < (s.counted c).packetCount.toNat := UInt32.lt_iff_toNat_lt.1 hpos
      rw [passedBetween_of_passes hpass]
      split
      · rename_i hin
        obtain ⟨rfl, -, hlast⟩ := hin
        have hbefore := passedBetween_le h c hlast hshort
        rw [hcount hpos] at hbefore
        omega
      · exact hrate addr first last hshort
  · constructor
    · intro _ hpass'
      exact absurd hpass' hpass
    · intro _
      unfold WithinRate passedBetween
      rw [passed_of_not hpass]
      exact hrate

/-- The source's own tracker after a call that arrives. -/
theorem tracks_counted (h : s.Counted) (hfits : s.Fits c) (harrives : s.Arrives c) :
    (s.step c).Tracks c.fromAddr (s.counted c) := by
  have hmax : maxPacketsPerSec.toNat = 20 := rfl
  obtain ⟨hstart, hwindow, hcount, hover⟩ := window_of_counted h c
  have hpast : ∀ p ∈ s.passed, p.1 = c.fromAddr → p.2 < (s.counted c).lastReset + nanosPerSec := by
    intro p hp _
    have hle := (h.past p hp).trans (now_le_time s c)
    omega
  by_cases hpass : s.PassesLimiter c
  · have hle : (s.counted c).packetCount.toNat ≤ maxPacketsPerSec.toNat := UInt32.le_iff_toNat_le.1 hpass.2
    have hpos := (hfits hpass).1
    have hnat : 0 < (s.counted c).packetCount.toNat := UInt32.lt_iff_toNat_lt.1 hpos
    have hold := hcount hpos
    refine ⟨hstart, ?_, ?_⟩
    · intro p hp hpa
      rw [passed_of_passes hpass] at hp
      rcases List.mem_cons.1 hp with rfl | hp
      · exact hwindow
      · exact hpast p hp hpa
    · unfold inWindow at hold
      rw [passed_of_passes hpass, List.countP_cons_of_pos (by simpa using hstart), hold]
      omega
  · have hpos : 0 < (s.counted c).packetCount := by
      by_contra hzero
      have hle : (s.counted c).packetCount.toNat ≤ 0 := UInt32.le_iff_toNat_le.1 (UInt32.not_lt.1 hzero)
      refine hpass ⟨harrives, UInt32.le_iff_toNat_le.2 ?_⟩
      omega
    have hmore : maxPacketsPerSec.toNat < (s.counted c).packetCount.toNat := by
      rw [← UInt32.lt_iff_toNat_lt, ← UInt32.not_le]
      exact fun hle => hpass ⟨harrives, hle⟩
    have hold := hcount hpos
    refine ⟨hstart, ?_, ?_⟩
    · rw [passed_of_not hpass]
      exact hpast
    · unfold inWindow at hold
      rw [passed_of_not hpass, hold]
      omega

theorem Counted.step (h : s.Counted) (hfits : s.Fits c) : (s.step c).Counted where
  past := by
    intro p hp
    by_cases hpass : s.PassesLimiter c
    · rw [passed_of_passes hpass] at hp
      rcases List.mem_cons.1 hp with rfl | hp
      · exact le_refl _
      · exact (h.past p hp).trans (now_le_time s c)
    · rw [passed_of_not hpass] at hp
      exact (h.past p hp).trans (now_le_time s c)
  tracked := by
    intro addr t ht
    rw [tracker?_step] at ht
    split at ht
    · rename_i hown
      obtain ⟨harrives, rfl⟩ := hown
      obtain rfl := Option.some.inj ht
      exact tracks_counted h hfits harrives
    · rename_i hother
      have htracks := h.tracked addr t ht
      by_cases haddr : addr = c.fromAddr
      · have hpass : ¬s.PassesLimiter c := fun hpass => hother ⟨hpass.1, haddr⟩
        refine ⟨htracks.started.trans (now_le_time s c), ?_, ?_⟩
        · rw [passed_of_not hpass]
          exact htracks.window
        · rw [passed_of_not hpass]
          exact htracks.count
      · exact htracks.of_other haddr
  untracked := by
    intro addr ht p hp
    rw [tracker?_step] at ht
    split at ht
    · cases ht
    · rename_i hother
      by_cases hpass : s.PassesLimiter c
      · rw [passed_of_passes hpass] at hp
        rcases List.mem_cons.1 hp with rfl | hp
        · exact fun haddr => hother ⟨hpass.1, haddr.symm⟩
        · exact h.untracked addr ht p hp
      · rw [passed_of_not hpass] at hp
        exact h.untracked addr ht p hp

/-! ## Runs -/

/-- In every state of a run no interval shorter than a second has more than twenty packets of one source that passed,
exactly if every packet that passes fits. -/
theorem run_withinRate_iff (config : RelayConfig)
    (sessions : KeyedList (Prod.fst : SessionId × ActiveSession → SessionId)) (calls : List ForwardCall) :
    (∀ pre, pre <+: calls → (run step (start config sessions) pre).WithinRate) ↔
      Steps step Fits (start config sessions) calls := by
  have hrate : (start config sessions).WithinRate := fun _ _ _ _ => Nat.zero_le _
  have hcounted : (start config sessions).Counted :=
    ⟨(fun _ h => by cases h), (fun _ _ h => by cases h), fun _ _ _ h => by cases h⟩
  rw [forall_prefix_iff, and_iff_right hrate]
  refine steps_iff_of_invariant (I := fun s => s.Counted ∧ s.WithinRate) ?_ ?_ calls ⟨hcounted, hrate⟩
  · rintro s c ⟨h, hs⟩
    exact withinRate_step_iff h hs c
  · rintro s c ⟨h, hs⟩ hstep
    exact ⟨h.step ((withinRate_step_iff h hs c).1 hstep), hstep⟩

/-! ## Two windows that meet -/

open RelayDay.Flood in
/-- One packet, nineteen more just before its second is over, and twenty as soon as it is. -/
def bursts : List ForwardCall :=
  ⟨0, packet, client⟩ :: ⟨999999999, packet, client⟩ :: List.replicate 18 ⟨0, packet, client⟩ ++
    ⟨1, packet, client⟩ :: List.replicate 19 ⟨0, packet, client⟩

open RelayDay.Flood in
/-- Thirty-nine packets pass within two nanoseconds. -/
theorem run_withinRate_bursts : ¬(run step (start config ∅) bursts).WithinRate := by
  intro h
  have hpassed : (run step (start config ∅) bursts).passedBetween client 999999999 1000000000 = 39 := by decide +kernel
  have hle := h client 999999999 1000000000 (by decide)
  rw [hpassed] at hle
  exact absurd hle (by decide)

end RelayLog

end NodeX.Kad
