/-
The replay cache over a whole run of `check_and_insert` calls on a clock that never goes back: an entry leaves the
cache only when no call with its timestamp can pass the window check any more, so nothing is accepted twice.
-/
import NodeX.Messenger.Inbox

namespace NodeX.Messenger

open NodeX.Lib

variable {C : Crypto}

/-! ## Runs -/

/-- A call of `check_and_insert`. -/
structure ReplayCheck where
  signature : Bytes
  timestamp : Nat
  now : Nat
deriving DecidableEq

/-- The cache with its history: the last clock reading, and the pairs of signature and timestamp accepted so far. -/
structure ReplayLog where
  cache : ReplayCache := ∅
  clock : Nat := 0
  accepted : List (Bytes × Nat) := []

namespace ReplayLog

def step (C : Crypto) (s : ReplayLog) (c : ReplayCheck) : ReplayLog :=
  let (cache, accepted) := checkAndInsert C s.cache c.signature c.timestamp c.now
  { cache
    clock := c.now
    accepted := if accepted then s.accepted ++ [(c.signature, c.timestamp)] else s.accepted }

/-- The clock does not go back. -/
def Forward (s : ReplayLog) (c : ReplayCheck) : Prop := s.clock ≤ c.now

instance (s : ReplayLog) (c : ReplayCheck) : Decidable (s.Forward c) := inferInstanceAs (Decidable (_ ≤ _))

/-- What a call removes is outside the window, for this call and every later one. -/
def RemovesExpired (C : Crypto) (s : ReplayLog) (c : ReplayCheck) : Prop :=
  ∀ entry ∈ s.cache, entry ∉ (s.step C c).cache → ∀ later, c.now ≤ later → ¬ InWindow later entry.2

/-- What was accepted is in the cache or outside the window for good; no pair was accepted twice, and the cache keeps
to its bound. -/
structure Good (C : Crypto) (s : ReplayLog) : Prop where
  kept : ∀ p ∈ s.accepted, (C.sha256 p.1, p.2) ∈ s.cache ∨ ∀ later, s.clock ≤ later → ¬ InWindow later p.2
  nodup : s.accepted.Nodup
  bound : s.cache.list.length ≤ maxReplayCacheEntries

/-- The three outcomes of a step. -/
theorem step_cases (s : ReplayLog) (c : ReplayCheck) :
    ¬InWindow c.now c.timestamp ∧ s.step C c = { s with clock := c.now } ∨
      s.step C c = { s with cache := s.cache.filter (isFresh c.now), clock := c.now } ∨
      InWindow c.now c.timestamp ∧ (s.cache.filter (isFresh c.now)).get? (C.sha256 c.signature) = none ∧
        (s.cache.filter (isFresh c.now)).list.length < maxReplayCacheEntries ∧
        s.step C c =
          { cache := (s.cache.filter (isFresh c.now)).upsert (C.sha256 c.signature, c.timestamp)
            clock := c.now
            accepted := s.accepted ++ [(c.signature, c.timestamp)] } := by
  unfold step
  rcases checkAndInsert_cases C s.cache c.signature c.timestamp c.now with
    ⟨hw, h⟩ | ⟨-, -, h⟩ | ⟨hw, hnone, hroom, h⟩
  · rw [h]
    exact .inl ⟨hw, rfl⟩
  · rw [h]
    exact .inr (.inl rfl)
  · rw [h]
    exact .inr (.inr ⟨hw, hnone, hroom, rfl⟩)

/-- An entry that is still fresh stays. -/
theorem mem_step_of_isFresh {s : ReplayLog} {c : ReplayCheck} {entry : Bytes × Nat} (h : entry ∈ s.cache)
    (hfresh : isFresh c.now entry = true) : entry ∈ (s.step C c).cache := by
  have hmem : entry ∈ s.cache.filter (isFresh c.now) := List.mem_filter.2 ⟨h, hfresh⟩
  rcases step_cases (C := C) s c with ⟨-, hs⟩ | hs | ⟨-, hnone, -, hs⟩
  · rw [hs]
    exact h
  · rw [hs]
    exact hmem
  · rw [hs]
    show entry ∈ ((s.cache.filter (isFresh c.now)).upsert (C.sha256 c.signature, c.timestamp)).list
    rw [KeyedList.list_upsert_of_none hnone]
    exact List.mem_append_left _ hmem

theorem removesExpired (s : ReplayLog) (c : ReplayCheck) : RemovesExpired C s c := by
  intro entry h hgone later hlater
  refine not_inWindow_of_not_isFresh ?_ hlater
  by_contra hfresh
  exact hgone (mem_step_of_isFresh h (Bool.eq_true_of_not_eq_false hfresh))

theorem Good.init : Good C {} where
  kept := by simp
  nodup := List.nodup_nil
  bound := Nat.zero_le _

/-- A pair accepted earlier is still kept after the step. -/
theorem Good.kept_step {s : ReplayLog} {c : ReplayCheck} (hs : s.Good C) (hc : s.Forward c) {p : Bytes × Nat}
    (hp : p ∈ s.accepted) :
    (C.sha256 p.1, p.2) ∈ (s.step C c).cache ∨ ∀ later, c.now ≤ later → ¬ InWindow later p.2 := by
  rcases hs.kept p hp with h | h
  · by_cases hfresh : isFresh c.now (C.sha256 p.1, p.2) = true
    · exact .inl (mem_step_of_isFresh h hfresh)
    · refine .inr fun later hlater => ?_
      exact not_inWindow_of_not_isFresh (Bool.eq_false_of_not_eq_true hfresh) hlater
  · exact .inr fun later hlater => h later (le_trans hc hlater)

/-- What the cache accepts now was not accepted before: its entry would be there, or the window past. -/
theorem Good.not_mem_accepted {s : ReplayLog} {c : ReplayCheck} (hs : s.Good C) (hc : s.Forward c)
    (hw : InWindow c.now c.timestamp)
    (hnone : (s.cache.filter (isFresh c.now)).get? (C.sha256 c.signature) = none) :
    (c.signature, c.timestamp) ∉ s.accepted := by
  intro hp
  rcases hs.kept _ hp with h | h
  · have hfresh : isFresh c.now (C.sha256 c.signature, c.timestamp) = true := by
      unfold InWindow at hw
      unfold isFresh
      rw [decide_eq_true_eq]
      omega
    have hmem : (C.sha256 c.signature, c.timestamp) ∈ s.cache.filter (isFresh c.now) :=
      List.mem_filter.2 ⟨h, hfresh⟩
    rw [KeyedList.mem_iff_get?.1 hmem] at hnone
    cases hnone
  · exact h _ hc hw

theorem Good.step {s : ReplayLog} (c : ReplayCheck) (hs : s.Good C) (hc : s.Forward c) : (s.step C c).Good C := by
  have hlength : (s.cache.filter (isFresh c.now)).list.length ≤ s.cache.list.length := List.length_filter_le _ _
  have hold : ∀ p ∈ s.accepted, (C.sha256 p.1, p.2) ∈ (s.step C c).cache ∨
      ∀ later, c.now ≤ later → ¬ InWindow later p.2 := fun p => hs.kept_step hc
  rcases step_cases (C := C) s c with ⟨-, h⟩ | h | ⟨hw, hnone, hroom, h⟩
  · rw [h] at hold ⊢
    exact ⟨hold, hs.nodup, hs.bound⟩
  · rw [h] at hold ⊢
    exact ⟨hold, hs.nodup, hlength.trans hs.bound⟩
  · have hnew := hs.not_mem_accepted hc hw hnone
    rw [h] at hold ⊢
    refine ⟨fun p hp => ?_, ?_, ?_⟩
    · rcases List.mem_append.1 hp with hp | hp
      · exact hold p hp
      · rw [List.mem_singleton.1 hp]
        left
        rw [KeyedList.mem_iff_get?, KeyedList.get?_upsert, if_pos rfl]
    · rw [List.nodup_append]
      refine ⟨hs.nodup, List.nodup_singleton _, ?_⟩
      rintro p hp _ hq rfl
      rw [List.mem_singleton.1 hq] at hp
      exact hnew hp
    · rw [KeyedList.list_upsert_of_none hnone, List.length_append]
      exact hroom

/-- Over a run of calls on a clock that never goes back: no pair of signature and timestamp is accepted twice, the
cache stays within its bound, and no call removes an entry that could still pass the window check. -/
theorem run_replay (C : Crypto) (checks : List ReplayCheck) (h : Steps (step C) Forward {} checks) :
    (run (step C) {} checks).accepted.Nodup ∧
      (run (step C) {} checks).cache.list.length ≤ maxReplayCacheEntries ∧
      Steps (step C) (RemovesExpired C) {} checks := by
  have hgood : (run (step C) {} checks).Good C :=
    run_invariant (fun _ c hs hc => hs.step c hc) Good.init h
  exact ⟨hgood.nodup, hgood.bound, steps_of_forall removesExpired {} checks⟩

section Sample

/-- An envelope at the start of its window, again in the same second, another at the end of its own, and the first once
more when its entry has expired. -/
def replays : List ReplayCheck :=
  [⟨[1], 700000, 95200⟩, ⟨[1], 700000, 95200⟩, ⟨[2], 700000, 1304800⟩, ⟨[1], 700000, 1304801⟩]

theorem run_replay_replays :
    (run (step .transparent) {} replays).accepted.Nodup ∧
      (run (step .transparent) {} replays).cache.list.length ≤ maxReplayCacheEntries ∧
      Steps (step .transparent) (RemovesExpired .transparent) {} replays :=
  run_replay .transparent replays (by decide)

/-- What is accepted is accepted once. -/
example : (run (step .transparent) {} replays).accepted = [([1], 700000), ([2], 700000)] := by decide

end Sample

end ReplayLog

end NodeX.Messenger
