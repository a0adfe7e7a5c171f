/-
A sender of items in windows. What is not acknowledged of a window is sent again in the next turn, a bounded number of
times, and the next window follows once all of this one is acknowledged.
-/
import NodeX.Lib.Bits

namespace NodeX.Lib

theorem flatten_pieces_of_le {α : Type*} {n : ℕ} : ∀ {count : ℕ} {l : List α}, l.length ≤ n * count →
    (pieces n count l).flatten = l
  | 0, l, h => by simpa [pieces, eq_comm] using h
  | count + 1, l, h => by
    rw [Nat.mul_succ] at h
    rw [pieces, List.flatten_cons, flatten_pieces_of_le (by rw [List.length_drop]; omega), List.take_append_drop]

theorem flatten_chunked {α : Type*} {n : ℕ} (hn : 0 < n) (l : List α) : (chunked n l).flatten = l := by
  refine flatten_pieces_of_le ?_
  have hdiv := Nat.div_add_mod (l.length + n - 1) n
  have hmod := Nat.mod_lt (l.length + n - 1) hn
  omega

/-- The window that is sent and those that follow. -/
structure Windowed (κ : Type*) where
  window : List κ := []
  rest : List (List κ)
  acked : List κ := []
  tries : ℕ := 0
  /-- whether everything was acknowledged, at the end -/
  outcome : Option Bool := none

namespace Windowed

variable {κ : Type*} {Q Q' : κ → Prop} {items : List κ} {s : Windowed κ}

/-! ## What an end means -/

/-- What has been acknowledged has this property, and what is not of the windows to come has it too. -/
structure Covers (Q : κ → Prop) (items : List κ) (s : Windowed κ) : Prop where
  acked : ∀ k ∈ s.acked, Q k
  within : ∀ k, k ∈ s.window ∨ k ∈ s.rest.flatten → k ∈ items
  passed : s.outcome ≠ some false → ∀ k ∈ items, Q k ∨ k ∈ s.window ∨ k ∈ s.rest.flatten
  ended : s.outcome = some true → s.window = [] ∧ s.rest = []

theorem covers_start (windows : List (List κ)) : Covers Q windows.flatten { rest := windows } :=
  ⟨by simp, by simp, fun _ _ hk => .inr (.inr hk), by simp⟩

theorem Covers.mono (h : Covers Q items s) (hQ : ∀ k, Q k → Q' k) : Covers Q' items s :=
  ⟨fun k hk => hQ k (h.acked k hk), h.within, fun hs k hk => (h.passed hs k hk).imp_left (hQ k), h.ended⟩

/-- A sender that ends well has an acknowledgement of every item. -/
theorem Covers.all (h : Covers Q items s) (hs : s.outcome = some true) : ∀ k ∈ items, Q k := by
  intro k hk
  obtain ⟨hwindow, hrest⟩ := h.ended hs
  rcases h.passed (by simp [hs]) k hk with hQ | hk | hk
  · exact hQ
  · rw [hwindow] at hk
    cases hk
  · rw [hrest] at hk
    cases hk

variable [DecidableEq κ]

/-! ## Turns -/

def unacked (s : Windowed κ) : List κ := s.window.filter (· ∉ s.acked)

/-- An acknowledgement counts while the item is of the window. -/
def acknowledge (s : Windowed κ) (k : κ) : Windowed κ :=
  if k ∈ s.window then { s with acked := k :: s.acked } else s

/-- A turn, of which each window has at most `limit`: the sender after it, and what it sends. -/
def turn (limit : ℕ) (s : Windowed κ) : Windowed κ × List κ :=
  if s.outcome.isSome then (s, [])
  else if s.unacked = [] then
    match s.rest with
    | [] => ({ rest := [], outcome := some true }, [])
    | window :: rest => ({ window, rest, tries := 1 }, window)
  else if s.tries < limit then ({ s with tries := s.tries + 1 }, s.unacked)
  else ({ rest := s.rest, outcome := some false }, [])

theorem Covers.acknowledge (h : Covers Q items s) {k : κ} (hk : Q k) : Covers Q items (s.acknowledge k) := by
  unfold Windowed.acknowledge
  split
  · refine ⟨fun k' hk' => ?_, h.within, h.passed, h.ended⟩
    rcases List.mem_cons.1 hk' with rfl | hk'
    · exact hk
    · exact h.acked k' hk'
  · exact h

theorem Covers.turn (h : Covers Q items s) (limit : ℕ) : Covers Q items (s.turn limit).1 := by
  unfold Windowed.turn
  by_cases hend : s.outcome.isSome = true
  · rwa [if_pos hend]
  rw [if_neg hend]
  have hnone : s.outcome = none := by simpa using hend
  by_cases hall : s.unacked = []
  swap
  · rw [if_neg hall]
    split
    · exact ⟨h.acked, h.within, h.passed, h.ended⟩
    · exact ⟨by simp, fun k hk => h.within k (.inr (by simpa using hk)), by simp, by simp⟩
  rw [if_pos hall]
  -- all of the window has the property now
  have hwindow : ∀ k ∈ s.window, Q k := by
    intro k hk
    by_contra hQ
    have hmem : k ∈ s.unacked := List.mem_filter.2 ⟨hk, decide_eq_true fun hacked => hQ (h.acked k hacked)⟩
    rw [hall] at hmem
    cases hmem
  have hpassed : ∀ k ∈ items, Q k ∨ k ∈ s.rest.flatten := by
    intro k hk
    rcases h.passed (by simp [hnone]) k hk with hQ | hk | hk
    · exact .inl hQ
    · exact .inl (hwindow k hk)
    · exact .inr hk
  cases hrest : s.rest with
  | nil =>
    refine ⟨by simp, by simp, fun _ k hk => ?_, by simp⟩
    rcases hpassed k hk with hQ | hk
    · exact .inl hQ
    · rw [hrest] at hk
      cases hk
  | cons window rest =>
    refine ⟨by simp, fun k hk => h.within k (.inr ?_), fun _ k hk => ?_, by simp⟩
    · rw [hrest, List.flatten_cons, List.mem_append]
      exact hk
    · rcases hpassed k hk with hQ | hk
      · exact .inl hQ
      · rw [hrest, List.flatten_cons, List.mem_append] at hk
        exact .inr hk

theorem mem_of_mem_turn (h : Covers Q items s) {limit : ℕ} {k : κ} (hk : k ∈ (s.turn limit).2) : k ∈ items := by
  unfold Windowed.turn at hk
  split at hk
  · cases hk
  split at hk
  · split at hk
    · cases hk
    · rename_i window rest hrest
      refine h.within k (.inr ?_)
      rw [hrest, List.flatten_cons, List.mem_append]
      exact .inl hk
  split at hk
  · exact h.within k (.inl ((List.mem_filter.1 hk).1))
  · cases hk

/-! ## When nothing is lost -/

theorem turn_next {limit : ℕ} {window : List κ} {rest : List (List κ)} (hnone : s.outcome = none)
    (hall : s.unacked = []) (hrest : s.rest = window :: rest) :
    s.turn limit = ({ window, rest, tries := 1 }, window) := by
  unfold turn
  rw [if_neg (by simp [hnone]), if_pos hall, hrest]

theorem turn_last {limit : ℕ} (hnone : s.outcome = none) (hall : s.unacked = []) (hrest : s.rest = []) :
    (s.turn limit).1.outcome = some true := by
  unfold turn
  rw [if_neg (by simp [hnone]), if_pos hall, hrest]

theorem foldl_acknowledge : ∀ (ks : List κ) (s : Windowed κ),
    ks.foldl acknowledge s = { s with acked := (ks.filter (· ∈ s.window)).reverse ++ s.acked }
  | [], s => rfl
  | k :: ks, s => by
    rw [List.foldl_cons, foldl_acknowledge ks, List.filter_cons]
    unfold acknowledge
    by_cases hk : k ∈ s.window <;> simp [hk]

/-- A window of which all is acknowledged. -/
theorem unacked_foldl_acknowledge (s : Windowed κ) : (s.window.foldl acknowledge s).unacked = [] := by
  rw [foldl_acknowledge]
  refine List.filter_eq_nil_iff.2 fun k hk => ?_
  have hacked : k ∈ (s.window.filter (· ∈ s.window)).reverse ++ s.acked :=
    List.mem_append_left _ (List.mem_reverse.2 (List.mem_filter.2 ⟨hk, decide_eq_true hk⟩))
  exact fun h => of_decide_eq_true h hacked

end Windowed

end NodeX.Lib
