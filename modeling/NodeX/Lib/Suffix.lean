/-
What is left of a list when its oldest elements, the ones in front, go until the rest has a property: the longest
suffix with it. And what a list gets at its end when the elements of another are added, each once.
-/
import Mathlib.Tactic

namespace NodeX.Lib

variable {α : Type*}

/-! ## The longest suffix with a property -/

section Longest

variable (P : List α → Prop) [DecidablePred P]

def longestSuffix : List α → List α
  | [] => []
  | a :: l => if P (a :: l) then a :: l else longestSuffix l

variable {P} {k l s q : List α} {a : α}

theorem longestSuffix_of_prop (h : P l) : longestSuffix P l = l := by
  cases l with
  | nil => rfl
  | cons a l => rw [longestSuffix, if_pos h]

theorem longestSuffix_of_not (h : ¬P (a :: l)) : longestSuffix P (a :: l) = longestSuffix P l := by
  rw [longestSuffix, if_neg h]

theorem longestSuffix_suffix : ∀ l : List α, longestSuffix P l <:+ l
  | [] => List.suffix_rfl
  | a :: l => by
    by_cases h : P (a :: l)
    · rw [longestSuffix_of_prop h]
    · rw [longestSuffix_of_not h]
      exact (longestSuffix_suffix l).trans (List.suffix_cons a l)

theorem prop_longestSuffix (hnil : P []) : ∀ l : List α, P (longestSuffix P l)
  | [] => hnil
  | a :: l => by
    by_cases h : P (a :: l)
    · rwa [longestSuffix_of_prop h]
    · rw [longestSuffix_of_not h]
      exact prop_longestSuffix hnil l

/-- No suffix with the property is longer. -/
theorem suffix_longestSuffix (hP : P s) : ∀ {l : List α}, s <:+ l → s <:+ longestSuffix P l
  | [], h => h
  | a :: l, h => by
    by_cases hl : P (a :: l)
    · rwa [longestSuffix_of_prop hl]
    · rw [longestSuffix_of_not hl]
      rcases List.suffix_cons_iff.1 h with rfl | h
      · exact absurd hP hl
      · exact suffix_longestSuffix hP h

/-- The elements in front that are too many for the property anyway can go first. -/
theorem longestSuffix_drop {n : ℕ} (hn : ∀ s, P s → s.length ≤ n) :
    longestSuffix P l = longestSuffix P (l.drop (l.length - n)) := by
  induction l with
  | nil => rw [List.drop_nil]
  | cons a l ih =>
    by_cases hlen : (a :: l).length ≤ n
    · rw [Nat.sub_eq_zero_of_le hlen, List.drop_zero]
    · have hnot : ¬P (a :: l) := fun h => hlen (hn _ h)
      rw [List.length_cons] at hlen ⊢
      rw [longestSuffix_of_not hnot, ih, Nat.succ_sub (by omega), List.drop_succ_cons]

/-- An element that went was in front of a suffix without the property. -/
theorem not_prop_of_dropped (h : a :: q <:+ l) (hq : longestSuffix P l <:+ q) : ¬P (a :: q) := by
  intro hP
  have hlen := ((suffix_longestSuffix hP h).trans hq).length_le
  rw [List.length_cons] at hlen
  omega

theorem exists_of_dropped (ha : a ∈ l) (hk : a ∉ longestSuffix P l) :
    ∃ q, a :: q <:+ l ∧ longestSuffix P l <:+ q ∧ ¬P (a :: q) := by
  obtain ⟨s, hs⟩ := longestSuffix_suffix (P := P) l
  have has : a ∈ s := by
    rw [← hs] at ha
    exact (List.mem_append.1 ha).resolve_right hk
  obtain ⟨d, d', rfl⟩ := List.append_of_mem has
  have hq : a :: (d' ++ longestSuffix P l) <:+ l := ⟨d, by rwa [List.append_assoc, List.cons_append] at hs⟩
  exact ⟨_, hq, List.suffix_append _ _, not_prop_of_dropped hq (List.suffix_append _ _)⟩

end Longest

/-! ### A property that shorter suffixes inherit -/

def SuffixClosed (P : List α → Prop) : Prop := ∀ a l, P (a :: l) → P l

namespace SuffixClosed

variable {P : List α → Prop} {l s : List α} {a : α}

theorem of_suffix (hP : SuffixClosed P) : ∀ {l : List α}, P l → s <:+ l → P s
  | [], h, hs => by
    rw [List.suffix_nil.1 hs]
    exact h
  | a :: l, h, hs => by
    rcases List.suffix_cons_iff.1 hs with rfl | hs
    · exact h
    · exact hP.of_suffix (hP a l h) hs

variable [DecidablePred P]

/-- An element stays if the suffix that starts with it has the property. -/
theorem mem_longestSuffix_iff (hP : SuffixClosed P) (hnil : P []) :
    a ∈ longestSuffix P l ↔ ∃ q, a :: q <:+ l ∧ P (a :: q) := by
  constructor
  · intro ha
    obtain ⟨p, q, hpq⟩ := List.append_of_mem ha
    have hq : a :: q <:+ longestSuffix P l := ⟨p, hpq.symm⟩
    exact ⟨q, hq.trans (longestSuffix_suffix l), hP.of_suffix (prop_longestSuffix hnil l) hq⟩
  · rintro ⟨q, hq, hprop⟩
    exact (suffix_longestSuffix hprop hq).subset List.mem_cons_self

/-- It is enough that the suffix with one more element has not the property. -/
theorem longestSuffix_eq_iff (hP : SuffixClosed P) (hnil : P []) :
    longestSuffix P l = s ↔ s <:+ l ∧ P s ∧ ∀ a, a :: s <:+ l → ¬P (a :: s) := by
  constructor
  · rintro rfl
    exact ⟨longestSuffix_suffix l, prop_longestSuffix hnil l, fun a ha => not_prop_of_dropped ha List.suffix_rfl⟩
  · rintro ⟨hs, hprop, hmax⟩
    obtain ⟨d, hd⟩ := suffix_longestSuffix hprop hs
    rcases List.eq_nil_or_concat d with rfl | ⟨front, a, rfl⟩
    · exact hd.symm
    · -- one more element would have stayed
      have ha : a :: s <:+ longestSuffix P l := ⟨front, by rw [← hd, List.concat_eq_append, List.append_cons]⟩
      exact absurd (hP.of_suffix (prop_longestSuffix hnil l) ha) (hmax a (ha.trans (longestSuffix_suffix l)))

/-- Nothing stays if not even the last element does. -/
theorem longestSuffix_eq_nil_iff (hP : SuffixClosed P) (hnil : P []) :
    longestSuffix P l = [] ↔ ∀ a, [a] <:+ l → ¬P [a] := by
  constructor
  · intro h a ha hprop
    have hs := suffix_longestSuffix hprop ha
    rw [h, List.suffix_nil] at hs
    cases hs
  · intro h
    rcases List.eq_nil_or_concat (longestSuffix P l) with hk | ⟨k, a, hk⟩
    · exact hk
    · have hs : [a] <:+ longestSuffix P l := ⟨k, by rw [hk, List.concat_eq_append]⟩
      exact absurd (hP.of_suffix (prop_longestSuffix hnil l) hs) (h a (hs.trans (longestSuffix_suffix l)))

end SuffixClosed

/-! ## New elements, each once -/

section Unseen

variable [DecidableEq α] {seen l : List α} {a : α}

/-- The elements that are not among the ones seen, each once, in the order they come. -/
def unseen (seen l : List α) : List α := (l.filter fun a => a ∉ seen).eraseDups

@[simp] theorem unseen_nil (seen : List α) : unseen seen [] = [] := rfl

theorem unseen_nil_left (l : List α) : unseen [] l = l.eraseDups := by
  unfold unseen
  rw [List.filter_eq_self.2 fun a _ => by simp]

theorem unseen_cons_of_mem (h : a ∈ seen) : unseen seen (a :: l) = unseen seen l := by
  unfold unseen
  rw [List.filter_cons_of_neg (by simpa using h)]

theorem unseen_cons_of_not_mem (h : a ∉ seen) : unseen seen (a :: l) = a :: unseen (seen ++ [a]) l := by
  unfold unseen
  rw [List.filter_cons_of_pos (by simpa using h), List.eraseDups_cons, List.filter_filter]
  refine congrArg (fun m => a :: m.eraseDups) (List.filter_congr fun b _ => ?_)
  by_cases hb : b = a <;> simp [hb]

@[simp] theorem mem_unseen : a ∈ unseen seen l ↔ a ∈ l ∧ a ∉ seen := by
  unfold unseen
  rw [List.mem_eraseDups, List.mem_filter, decide_eq_true_eq]

theorem unseen_eq_nil_iff : unseen seen l = [] ↔ ∀ a ∈ l, a ∈ seen := by
  rw [List.eq_nil_iff_forall_not_mem]
  simp

theorem nodup_append_unseen : ∀ {l seen : List α}, seen.Nodup → (seen ++ unseen seen l).Nodup
  | [], seen, h => by rwa [unseen_nil, List.append_nil]
  | a :: l, seen, h => by
    by_cases ha : a ∈ seen
    · rw [unseen_cons_of_mem ha]
      exact nodup_append_unseen h
    · rw [unseen_cons_of_not_mem ha, List.append_cons]
      exact nodup_append_unseen (List.concat_eq_append ▸ h.concat ha)

/-- What is new of distinct elements is the rest. -/
theorem unseen_of_nodup : ∀ {l seen : List α}, (seen ++ l).Nodup → unseen seen l = l
  | [], _, _ => rfl
  | a :: l, seen, h => by
    have ha : a ∉ seen := fun hs => (List.disjoint_of_nodup_append h) hs List.mem_cons_self
    rw [List.append_cons] at h
    rw [unseen_cons_of_not_mem ha, unseen_of_nodup h]

theorem unseen_sublist : ∀ (l seen : List α), List.Sublist (unseen seen l) l
  | [], _ => List.Sublist.slnil
  | a :: l, seen => by
    by_cases ha : a ∈ seen
    · rw [unseen_cons_of_mem ha]
      exact (unseen_sublist l seen).cons a
    · rw [unseen_cons_of_not_mem ha]
      exact (unseen_sublist l _).cons_cons a

theorem eraseDups_sublist (l : List α) : List.Sublist l.eraseDups l := by
  rw [← unseen_nil_left]
  exact unseen_sublist l []

theorem nodup_eraseDups (l : List α) : l.eraseDups.Nodup := by
  have h : ([] ++ unseen [] l).Nodup := nodup_append_unseen List.nodup_nil
  rwa [List.nil_append, unseen_nil_left] at h

theorem eraseDups_of_nodup (h : l.Nodup) : l.eraseDups = l := by
  rw [← List.nil_append l] at h
  rw [← unseen_nil_left, unseen_of_nodup h]

/-- New elements at the end leave a list as it is if there are none, or if nothing stays and nothing was there. -/
theorem longestSuffix_append_unseen_iff {P : List α → Prop} [DecidablePred P] (hl : P l) (new : List α) :
    longestSuffix P (l ++ unseen l new) = l ↔ (∀ a ∈ new, a ∈ l) ∨ l = [] ∧ longestSuffix P (unseen [] new) = [] := by
  constructor
  · intro h
    rcases List.eq_nil_or_concat l with rfl | ⟨front, last, rfl⟩
    · exact .inr ⟨rfl, h⟩
    · refine .inl (unseen_eq_nil_iff.1 ?_)
      rw [List.concat_eq_append] at h ⊢
      rcases List.eq_nil_or_concat (unseen (front ++ [last]) new) with hu | ⟨us, u, hu⟩
      · exact hu
      · -- the last of the new elements would be the last of all
        rw [List.concat_eq_append] at hu
        have hmem : u ∈ unseen (front ++ [last]) new := by
          rw [hu]
          exact List.mem_append_right _ List.mem_cons_self
        have hs := longestSuffix_suffix (P := P) (front ++ [last] ++ unseen (front ++ [last]) new)
        rw [h, hu, ← List.append_assoc, List.suffix_concat_iff] at hs
        rcases hs with hs | ⟨t, ht, -⟩
        · simp at hs
        · have hlast : last = u := List.singleton_inj.1 (List.append_inj' ht rfl).2
          exact absurd (hlast ▸ List.mem_append_right front List.mem_cons_self) (mem_unseen.1 hmem).2
  · rintro (hmem | ⟨rfl, h⟩)
    · rw [unseen_eq_nil_iff.2 hmem, List.append_nil, longestSuffix_of_prop hl]
    · exact h

end Unseen

end NodeX.Lib
