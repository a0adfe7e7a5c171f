/-
What stands at a place of a list: a reader that walks over a buffer with a cursor, and the writer that laid the
parts down one after the other, are compared part by part.
-/
import Mathlib.Data.List.Basic

namespace NodeX.Lib

variable {α : Type*}

/-- `s` stands in `l` from place `i` on. -/
def At (l : List α) (i : Nat) (s : List α) : Prop := i + s.length ≤ l.length ∧ (l.drop i).take s.length = s

theorem at_iff_append {l s : List α} {i : Nat} : At l i s ↔ ∃ u v, l = u ++ (s ++ v) ∧ u.length = i := by
  constructor
  · rintro ⟨hlen, hs⟩
    refine ⟨l.take i, (l.drop i).drop s.length, ?_, ?_⟩
    · have hrest : s ++ (l.drop i).drop s.length = l.drop i := by
        conv_lhs => rw [← hs, List.length_take_of_le (by rw [List.length_drop]; omega)]
        exact List.take_append_drop s.length (l.drop i)
      rw [hrest, List.take_append_drop]
    · rw [List.length_take]
      omega
  · rintro ⟨u, v, rfl, rfl⟩
    constructor
    · simp only [List.length_append]
      omega
    · rw [List.drop_left, List.take_left]

/-- Two parts in a row. -/
theorem at_append {l s t : List α} {i : Nat} : At l i (s ++ t) ↔ At l i s ∧ At l (i + s.length) t := by
  unfold At
  rw [List.length_append, List.take_add, List.drop_drop]
  constructor
  · rintro ⟨hlen, hst⟩
    obtain ⟨hs, ht⟩ := List.append_inj hst (by
      rw [List.length_take, List.length_drop]
      omega)
    exact ⟨⟨by omega, hs⟩, by omega, ht⟩
  · rintro ⟨⟨-, hs⟩, hlen, ht⟩
    exact ⟨by omega, by rw [hs, ht]⟩

theorem at_cons {l s : List α} {i : Nat} {a : α} : At l i (a :: s) ↔ At l i [a] ∧ At l (i + 1) s :=
  at_append (s := [a])

theorem at_singleton {l : List α} {i : Nat} {a : α} : At l i [a] ↔ l[i]? = some a := by
  rw [at_iff_append, List.getElem?_eq_some_iff]
  constructor
  · rintro ⟨u, v, rfl, rfl⟩
    exact ⟨by simp, by simp⟩
  · rintro ⟨hi, rfl⟩
    refine ⟨l.take i, l.drop (i + 1), ?_, ?_⟩
    · rw [List.singleton_append, ← List.drop_eq_getElem_cons, List.take_append_drop]
    · rw [List.length_take]
      omega

/-- A part in front of where the list is cut. -/
theorem at_take {l s : List α} {i n : Nat} (h : At l i s) (hn : i + s.length ≤ n) : At (l.take n) i s := by
  obtain ⟨hlen, hs⟩ := h
  refine ⟨?_, ?_⟩
  · rw [List.length_take]
    omega
  · rw [List.drop_take, List.take_take, Nat.min_eq_left (by omega)]
    exact hs

theorem at_zero_self (s : List α) : At s 0 s := at_iff_append.2 ⟨[], [], by simp, rfl⟩

end NodeX.Lib
