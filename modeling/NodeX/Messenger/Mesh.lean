/-
Blind mesh discovery: announcements of a way to a target over a relay, gossiped in payloads, and the table that keeps
one of them for each target and relay. Which one is decided by the order in which they come.
-/
import NodeX.Lib.Keyed
import NodeX.Core.Net
import Mathlib.Data.List.MinMax

namespace NodeX.Messenger

open NodeX.Lib

/-! ## The table -/

structure BlindMeshAnnouncement where
  targetIdHex : String
  targetDisplayName : String
  targetX25519PubHex : String
  relayIdHex : String
  relayAddr : SocketAddr
  hops : UInt8
  expiresAt : UInt64
deriving DecidableEq

structure MeshGossipPayload where
  senderIdHex : String
  announcements : List BlindMeshAnnouncement
  timestamp : UInt64

/-- The candidate routes of each target. -/
structure MeshDiscoveryTable where
  routes : KeyedList (Prod.fst : String × List BlindMeshAnnouncement → String) := ∅
deriving DecidableEq

namespace MeshDiscoveryTable

def list (t : MeshDiscoveryTable) (targetIdHex : String) : List BlindMeshAnnouncement :=
  ((t.routes.get? targetIdHex).map Prod.snd).getD []

def insert (t : MeshDiscoveryTable) (ann : BlindMeshAnnouncement) (maxHops : UInt8) (now : UInt64) :
    MeshDiscoveryTable :=
  if ann.hops > maxHops ∨ ann.expiresAt ≤ now then t
  else
    -- remove older announcements from same relay
    let entry := (t.list ann.targetIdHex).filter fun r => r.relayIdHex ≠ ann.relayIdHex ∧ r.expiresAt > now
    { routes := t.routes.upsert (ann.targetIdHex, entry ++ [ann]) }

def insertAnnouncements (t : MeshDiscoveryTable) (announcements : List BlindMeshAnnouncement) (maxHops : UInt8)
    (now : UInt64) : MeshDiscoveryTable :=
  announcements.foldl (fun t ann => t.insert ann maxHops now) t

/-- `min_by_key` gives the first of the least. -/
def findBestRoute (t : MeshDiscoveryTable) (targetIdHex : String) (now : UInt64) : Option BlindMeshAnnouncement :=
  ((t.list targetIdHex).filter fun r => r.expiresAt > now).argmin fun r => r.hops.toNat

/-- `MeshManager::add_gossip`. -/
def addGossip (t : MeshDiscoveryTable) (payload : MeshGossipPayload) (now : UInt64) : MeshDiscoveryTable :=
  t.insertAnnouncements payload.announcements 3 now

/-- The table after some gossip. -/
def gossiped (maxHops : UInt8) (now : UInt64) (payloads : List MeshGossipPayload) : MeshDiscoveryTable :=
  payloads.foldl (fun t payload => t.insertAnnouncements payload.announcements maxHops now) {}

end MeshDiscoveryTable

/-! ## What arrives -/

section Arrived

variable (maxHops : UInt8) (now : UInt64)

def BlindMeshAnnouncement.Admissible (ann : BlindMeshAnnouncement) : Prop := ann.hops ≤ maxHops ∧ now < ann.expiresAt

instance (ann : BlindMeshAnnouncement) : Decidable (ann.Admissible maxHops now) := inferInstanceAs (Decidable (_ ∧ _))

/-- The admissible announcements of a target and a relay, in their order. -/
def arrived (anns : List BlindMeshAnnouncement) (targetIdHex relayIdHex : String) : List BlindMeshAnnouncement :=
  anns.filter fun a => a.Admissible maxHops now ∧ a.targetIdHex = targetIdHex ∧ a.relayIdHex = relayIdHex

/-- The announcement of its target and relay with the largest `expires_at`. -/
def Newest (anns : List BlindMeshAnnouncement) (ann : BlindMeshAnnouncement) : Prop :=
  ann ∈ arrived maxHops now anns ann.targetIdHex ann.relayIdHex ∧
    ∀ other ∈ arrived maxHops now anns ann.targetIdHex ann.relayIdHex, other.expiresAt ≤ ann.expiresAt

/-- The admissible announcement that arrives last for its target and relay is the newest. -/
def FreshestLast (anns : List BlindMeshAnnouncement) : Prop :=
  ∀ ann ∈ anns, ann ∈ (arrived maxHops now anns ann.targetIdHex ann.relayIdHex).getLast? →
    ∀ other ∈ arrived maxHops now anns ann.targetIdHex ann.relayIdHex, other.expiresAt ≤ ann.expiresAt

instance (anns : List BlindMeshAnnouncement) : Decidable (FreshestLast maxHops now anns) :=
  inferInstanceAs (Decidable (∀ ann ∈ anns, _))

/-- The table holds the newest announcement of each target and relay and no others, each once, and the best route to a
target is one of those with the fewest hops. -/
structure Converged (anns : List BlindMeshAnnouncement) (t : MeshDiscoveryTable) : Prop where
  holds : ∀ targetIdHex ann, ann ∈ t.list targetIdHex ↔ ann.targetIdHex = targetIdHex ∧ Newest maxHops now anns ann
  once : ∀ targetIdHex, ((t.list targetIdHex).map (·.relayIdHex)).Nodup
  best : ∀ targetIdHex ann, t.findBestRoute targetIdHex now = some ann →
    ann.targetIdHex = targetIdHex ∧ Newest maxHops now anns ann ∧
      ∀ other, other.targetIdHex = targetIdHex → Newest maxHops now anns other → ann.hops ≤ other.hops
  unreached : ∀ targetIdHex, t.findBestRoute targetIdHex now = none →
    ∀ ann, ann.targetIdHex = targetIdHex → ¬Newest maxHops now anns ann

variable {maxHops now} {anns : List BlindMeshAnnouncement} {ann : BlindMeshAnnouncement}

theorem mem_arrived {targetIdHex relayIdHex : String} : ann ∈ arrived maxHops now anns targetIdHex relayIdHex ↔
    ann ∈ anns ∧ ann.Admissible maxHops now ∧ ann.targetIdHex = targetIdHex ∧ ann.relayIdHex = relayIdHex := by
  simp [arrived]

theorem arrived_concat (targetIdHex relayIdHex : String) :
    arrived maxHops now (anns ++ [ann]) targetIdHex relayIdHex = arrived maxHops now anns targetIdHex relayIdHex ++
      if ann.Admissible maxHops now ∧ ann.targetIdHex = targetIdHex ∧ ann.relayIdHex = relayIdHex then [ann]
      else [] := by
  simp only [arrived, List.filter_append, List.filter_cons, List.filter_nil, decide_eq_true_eq]

end Arrived

/-! ## The table holds what came last -/

namespace MeshDiscoveryTable

variable {maxHops : UInt8} {now : UInt64} {t : MeshDiscoveryTable} {ann other : BlindMeshAnnouncement}
  {anns : List BlindMeshAnnouncement}

theorem list_insert (t : MeshDiscoveryTable) (ann : BlindMeshAnnouncement) (targetIdHex : String) :
    (t.insert ann maxHops now).list targetIdHex =
      if ann.Admissible maxHops now ∧ ann.targetIdHex = targetIdHex then
        ((t.list targetIdHex).filter fun r => r.relayIdHex ≠ ann.relayIdHex ∧ r.expiresAt > now) ++ [ann]
      else t.list targetIdHex := by
  unfold insert BlindMeshAnnouncement.Admissible
  split
  · rename_i hrefused
    rw [if_neg]
    rintro ⟨⟨hhops, hexpires⟩, -⟩
    rcases hrefused with h | h
    · exact absurd hhops (UInt8.not_le.2 h)
    · exact absurd hexpires (UInt64.not_lt.2 h)
  · rename_i hrefused
    simp only [not_or, gt_iff_lt, UInt8.not_lt, UInt64.not_le] at hrefused
    by_cases htarget : ann.targetIdHex = targetIdHex
    · subst htarget
      rw [if_pos ⟨hrefused, rfl⟩]
      simp [list]
    · rw [if_neg fun h => htarget h.2]
      simp [list, htarget]

/-- After any announcements the table holds, for each target and relay, the last admissible one. -/
structure HoldsLast (maxHops : UInt8) (now : UInt64) (anns : List BlindMeshAnnouncement) (t : MeshDiscoveryTable) :
    Prop where
  mem : ∀ targetIdHex ann, ann ∈ t.list targetIdHex ↔
    ann ∈ (arrived maxHops now anns targetIdHex ann.relayIdHex).getLast?
  once : ∀ targetIdHex, ((t.list targetIdHex).map (·.relayIdHex)).Nodup

theorem HoldsLast.mem_iff (h : HoldsLast maxHops now anns t) {targetIdHex : String} (hmem : ann ∈ t.list targetIdHex) :
    ann ∈ anns ∧ ann.Admissible maxHops now ∧ ann.targetIdHex = targetIdHex := by
  have hlast := mem_arrived.1 (List.mem_of_mem_getLast? ((h.mem targetIdHex ann).1 hmem))
  exact ⟨hlast.1, hlast.2.1, hlast.2.2.1⟩

theorem HoldsLast.insert (h : HoldsLast maxHops now anns t) (ann : BlindMeshAnnouncement) :
    HoldsLast maxHops now (anns ++ [ann]) (t.insert ann maxHops now) := by
  constructor
  · intro targetIdHex other
    rw [list_insert, arrived_concat]
    by_cases hin : ann.Admissible maxHops now ∧ ann.targetIdHex = targetIdHex
    · rw [if_pos hin, List.mem_append, List.mem_filter, List.mem_singleton]
      by_cases hrelay : ann.relayIdHex = other.relayIdHex
      · rw [if_pos ⟨hin.1, hin.2, hrelay⟩, List.getLast?_concat]
        simp [hrelay, eq_comm]
      · rw [if_neg fun h => hrelay h.2.2, List.append_nil, ← h.mem]
        constructor
        · rintro (⟨hmem, -⟩ | rfl)
          · exact hmem
          · exact absurd rfl hrelay
        · intro hmem
          refine .inl ⟨hmem, ?_⟩
          simp [Ne.symm hrelay, (h.mem_iff hmem).2.1.2]
    · rw [if_neg hin, if_neg fun h => hin ⟨h.1, h.2.1⟩, List.append_nil]
      exact h.mem targetIdHex other
  · intro targetIdHex
    rw [list_insert]
    split
    · rw [List.map_append, List.map_singleton, List.nodup_append]
      refine ⟨(h.once targetIdHex).sublist (List.filter_sublist.map _), List.nodup_singleton _, ?_⟩
      intro relay hrelay relay' hrelay'
      obtain ⟨r, hr, rfl⟩ := List.mem_map.1 hrelay
      simp only [List.mem_singleton] at hrelay'
      have hne := (List.mem_filter.1 hr).2
      simp only [ne_eq, decide_eq_true_eq] at hne
      exact hrelay' ▸ hne.1
    · exact h.once targetIdHex

/-- The payloads are their announcements, one after the other. -/
theorem gossiped_eq (maxHops : UInt8) (now : UInt64) (payloads : List MeshGossipPayload) :
    gossiped maxHops now payloads =
      (payloads.flatMap (·.announcements)).foldl (fun t ann => t.insert ann maxHops now) {} := by
  rw [List.foldl_flatMap]
  rfl

theorem holdsLast_gossiped (maxHops : UInt8) (now : UInt64) (payloads : List MeshGossipPayload) :
    HoldsLast maxHops now (payloads.flatMap (·.announcements)) (gossiped maxHops now payloads) := by
  rw [gossiped_eq]
  induction payloads.flatMap (·.announcements) using List.reverseRecOn with
  | nil => exact ⟨by simp [arrived, list], by simp [list]⟩
  | append_singleton anns ann ih =>
    rw [List.foldl_concat]
    exact ih.insert ann

/-- Nothing in the table has expired, so the best route is chosen among all of it. -/
theorem HoldsLast.findBestRoute_eq (h : HoldsLast maxHops now anns t) (targetIdHex : String) :
    t.findBestRoute targetIdHex now = (t.list targetIdHex).argmin fun r => r.hops.toNat := by
  unfold findBestRoute
  rw [List.filter_eq_self.2]
  intro r hr
  simpa using (h.mem_iff hr).2.1.2

/-- The announcement that came last is the newest, if the newest of each target and relay came last. -/
theorem HoldsLast.mem_iff_newest (h : HoldsLast maxHops now anns t)
    (hdistinct : (anns.map fun a => (a.targetIdHex, a.relayIdHex, a.expiresAt)).Nodup)
    (hlast : FreshestLast maxHops now anns) (targetIdHex : String) (ann : BlindMeshAnnouncement) :
    ann ∈ t.list targetIdHex ↔ ann.targetIdHex = targetIdHex ∧ Newest maxHops now anns ann := by
  constructor
  · intro hmem
    obtain ⟨-, -, rfl⟩ := h.mem_iff hmem
    have harrived := (h.mem ann.targetIdHex ann).1 hmem
    have hin := List.mem_of_mem_getLast? harrived
    exact ⟨rfl, hin, hlast ann (mem_arrived.1 hin).1 harrived⟩
  · rintro ⟨rfl, harrived, hnewest⟩
    obtain ⟨last, hsome⟩ : ∃ last, (arrived maxHops now anns ann.targetIdHex ann.relayIdHex).getLast? = some last := by
      rw [← Option.isSome_iff_exists, List.getLast?_isSome]
      exact List.ne_nil_of_mem harrived
    have hmem := List.mem_of_mem_getLast? hsome
    obtain ⟨hlastIn, -, htarget, hrelay⟩ := mem_arrived.1 hmem
    have hle : ann.expiresAt ≤ last.expiresAt := by
      refine hlast last hlastIn ?_ ann ?_
      · rw [htarget, hrelay]
        exact hsome
      · rw [htarget, hrelay]
        exact harrived
    have hexpires : last.expiresAt = ann.expiresAt := UInt64.le_antisymm (hnewest last hmem) hle
    obtain rfl : last = ann := List.inj_on_of_nodup_map hdistinct hlastIn (mem_arrived.1 harrived).1
      (by rw [htarget, hrelay, hexpires])
    exact (h.mem _ last).2 hsome

/-- However the announcements are grouped and ordered, the table converges to the newest ones exactly if the newest of
each target and relay arrives last. -/
theorem converged_iff (maxHops : UInt8) (now : UInt64) (payloads : List MeshGossipPayload)
    (hdistinct : ((payloads.flatMap (·.announcements)).map fun a => (a.targetIdHex, a.relayIdHex, a.expiresAt)).Nodup) :
    Converged maxHops now (payloads.flatMap (·.announcements)) (gossiped maxHops now payloads) ↔
      FreshestLast maxHops now (payloads.flatMap (·.announcements)) := by
  have hheld := holdsLast_gossiped maxHops now payloads
  constructor
  · intro h ann _ hlast
    exact ((h.holds _ ann).1 ((hheld.mem _ ann).2 hlast)).2.2
  · intro hlast
    have hmem := hheld.mem_iff_newest hdistinct hlast
    refine ⟨hmem, hheld.once, ?_, ?_⟩
    · intro targetIdHex ann hbest
      rw [hheld.findBestRoute_eq] at hbest
      obtain ⟨htarget, hnewest⟩ := (hmem targetIdHex ann).1 (List.argmin_mem hbest)
      refine ⟨htarget, hnewest, ?_⟩
      intro other hother hnewest'
      rw [UInt8.le_iff_toNat_le]
      exact List.le_of_mem_argmin (f := fun r => r.hops.toNat) ((hmem targetIdHex other).2 ⟨hother, hnewest'⟩) hbest
    · intro targetIdHex hnone ann htarget hnewest
      rw [hheld.findBestRoute_eq, List.argmin_eq_none] at hnone
      have := (hmem targetIdHex ann).2 ⟨htarget, hnewest⟩
      simp [hnone] at this

/-! ## The order in which they come -/

namespace Sample

def announcement (expiresAt : UInt64) : BlindMeshAnnouncement where
  targetIdHex := "bob"
  targetDisplayName := "Bob"
  targetX25519PubHex := "aabb"
  relayIdHex := "carol"
  relayAddr := { ip := .localhost, port := 8000 }
  hops := 1
  expiresAt

def payload (expiresAt : UInt64) : MeshGossipPayload := ⟨"dave", [announcement expiresAt], 90⟩

end Sample

open MeshDiscoveryTable.Sample in
/-- What is gossiped again by a slower peer takes the place of the newer announcement. -/
theorem converged_slow :
    ¬Converged 3 100 [announcement 300, announcement 200] (gossiped 3 100 [payload 300, payload 200]) := by
  intro h
  have hold := ((h.holds "bob" (announcement 200)).1 (by decide)).2.2 (announcement 300) (by decide)
  exact absurd hold (by decide)

open MeshDiscoveryTable.Sample in
theorem converged_fast :
    Converged 3 100 [announcement 200, announcement 300] (gossiped 3 100 [payload 200, payload 300]) :=
  (converged_iff 3 100 [payload 200, payload 300] (by decide)).2 (by decide)

end MeshDiscoveryTable

end NodeX.Messenger
