/-
Searching in a text: what follows the first occurrence of a part, and where an element first stands.
-/
import NodeX.Lib.Text

namespace NodeX.Lib

variable {α : Type*} [DecidableEq α]

/-- What follows the first occurrence of a part. -/
def after (part : List α) : List α → Option (List α)
  | [] => if part = [] then some [] else none
  | c :: l => if part.isPrefixOf (c :: l) then some ((c :: l).drop part.length) else after part l

/-- Where an element first stands. -/
def position (c : α) (l : List α) : Option ℕ := l.findIdx? (· = c)

variable {c : α} {part front rest l : List α}

theorem after_prefix (part rest : List α) : after part (part ++ rest) = some rest := by
  cases part with
  | nil => cases rest <;> simp [after]
  | cons c part =>
    have hprefix : (c :: part).isPrefixOf (c :: (part ++ rest)) = true :=
      List.isPrefixOf_iff_prefix.2 (List.prefix_append (c :: part) rest)
    rw [List.cons_append, after, if_pos hprefix, List.length_cons, List.drop_succ_cons, List.drop_left]

/-- An occurrence is the first one, if there is none that begins further to the front. -/
theorem after_of_first (h : ∀ a b, front ++ part ++ rest = a ++ part ++ b → front.length ≤ a.length) :
    after part (front ++ part ++ rest) = some rest := by
  induction front with
  | nil => exact after_prefix part rest
  | cons c front ih =>
    have hnot : ¬part.isPrefixOf (c :: (front ++ part ++ rest)) = true := by
      intro hprefix
      obtain ⟨b, hb⟩ := List.isPrefixOf_iff_prefix.1 hprefix
      exact absurd (h [] b hb.symm) (by simp)
    rw [List.cons_append, List.cons_append, after, if_neg hnot]
    refine ih fun a b hab => ?_
    have hlen := h (c :: a) b (by rw [List.cons_append, List.cons_append, hab]; rfl)
    simpa using hlen

/-- A part is found where its first element stands first. -/
theorem after_of_not_mem (h : c ∉ front) : after (c :: part) (front ++ c :: part ++ rest) = some rest := by
  refine after_of_first fun a b hab => ?_
  by_contra hlt
  have hmem : c ∈ front := by
    have hat := congrArg (·[a.length]?) hab
    rw [List.append_assoc, List.append_assoc, List.getElem?_append_left (by omega), List.cons_append,
      List.getElem?_append_right le_rfl, Nat.sub_self, List.getElem?_cons_zero] at hat
    exact List.mem_of_getElem? hat
  exact h hmem

/-- The last element of a part stands once in front of it, and other elements precede it there. -/
theorem after_concat {f₁ f₂ : List α} (hf₁ : c ∉ f₁) (hf₂ : c ∉ f₂) (hpart : c ∉ part) (hnot : ¬part <:+ f₁) :
    after (part ++ [c]) (f₁ ++ c :: f₂ ++ (part ++ [c]) ++ rest) = some rest := by
  refine after_of_first fun a b hab => ?_
  simp only [List.append_assoc, List.cons_append, List.nil_append] at hab
  by_cases ha : c ∈ a
  · obtain ⟨a₁, a₂, rfl, ha₁⟩ := List.eq_append_cons_of_mem ha
    rw [List.append_assoc, List.cons_append] at hab
    have hfront : c ∉ f₂ ++ part := by simp [hf₂, hpart]
    obtain ⟨rfl, hback⟩ := append_cons_inj hf₁ ha₁ hab
    rw [← List.append_assoc, ← List.append_assoc] at hback
    have hlen : f₂.length ≤ a₂.length := by
      by_cases ha₂ : c ∈ a₂
      · obtain ⟨a₃, a₄, rfl, ha₃⟩ := List.eq_append_cons_of_mem ha₂
        rw [List.append_assoc a₃, List.append_assoc a₃, List.cons_append, List.cons_append] at hback
        obtain ⟨rfl, -⟩ := append_cons_inj hfront ha₃ hback
        simp only [List.length_append]
        omega
      · obtain ⟨hsplit, -⟩ := append_cons_inj hfront (by simp [ha₂, hpart]) hback
        exact (congrArg List.length (List.append_cancel_right hsplit)).le
    simpa using hlen
  · exfalso
    rw [← List.append_assoc a] at hab
    obtain ⟨hsplit, -⟩ := append_cons_inj hf₁ (by simp [ha, hpart]) hab
    exact hnot ⟨a, hsplit.symm⟩

/-- This follows the first occurrence. -/
def Follows (part l rest : List α) : Prop :=
  ∃ front, l = front ++ part ++ rest ∧ ∀ a b, l = a ++ part ++ b → front.length ≤ a.length

theorem after_eq_some_iff : after part l = some rest ↔ Follows part l rest := by
  constructor
  · intro h
    induction l with
    | nil =>
      rw [after] at h
      split at h
      · rename_i hpart
        cases h
        exact ⟨[], by simp [hpart], fun _ _ _ => Nat.zero_le _⟩
      · cases h
    | cons c l ih =>
      rw [after] at h
      split at h
      · rename_i hprefix
        obtain ⟨b, hb⟩ := List.isPrefixOf_iff_prefix.1 hprefix
        rw [← hb, List.drop_left, Option.some.injEq] at h
        exact ⟨[], by rw [← hb, h]; rfl, fun _ _ _ => Nat.zero_le _⟩
      · rename_i hnot
        obtain ⟨front, hl, hfirst⟩ := ih h
        refine ⟨c :: front, by rw [hl]; rfl, ?_⟩
        intro a b hab
        cases a with
        | nil => exact absurd (List.isPrefixOf_iff_prefix.2 ⟨b, hab.symm⟩) hnot
        | cons x a =>
          have hlen := hfirst a b (List.cons.inj hab).2
          simpa using hlen
  · rintro ⟨front, rfl, hfirst⟩
    exact after_of_first hfirst

/-- A part is not found where its first element is not. -/
theorem after_eq_none (h : c ∉ l) : after (c :: part) l = none := by
  cases hafter : after (c :: part) l with
  | none => rfl
  | some rest =>
    obtain ⟨front, rfl, -⟩ := after_eq_some_iff.1 hafter
    simp at h

theorem position_append (h : c ∉ front) : position c (front ++ c :: rest) = some front.length := by
  have hfront : front.findIdx? (· = c) = none := by
    rw [List.findIdx?_eq_none_iff]
    intro x hx
    exact decide_eq_false fun hxc => h (hxc ▸ hx)
  rw [position, List.findIdx?_append, hfront, List.findIdx?_cons, decide_eq_true rfl]
  simp

theorem position_eq_none : position c l = none ↔ c ∉ l := by
  rw [position, List.findIdx?_eq_none_iff]
  constructor
  · intro h hc
    exact absurd rfl (of_decide_eq_false (h c hc))
  · intro h x hx
    exact decide_eq_false fun hxc => h (hxc ▸ hx)

theorem position_eq_some {i : ℕ} (h : position c l = some i) :
    ∃ front rest, l = front ++ c :: rest ∧ c ∉ front ∧ i = front.length := by
  have hc : c ∈ l := by
    by_contra hnot
    rw [position_eq_none.2 hnot] at h
    cases h
  obtain ⟨front, rest, rfl, hfront⟩ := List.eq_append_cons_of_mem hc
  rw [position_append hfront, Option.some.injEq] at h
  exact ⟨front, rest, rfl, hfront, h.symm⟩

end NodeX.Lib
