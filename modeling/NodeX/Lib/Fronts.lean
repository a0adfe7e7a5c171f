/-
Messages told apart by what they begin with: a table of fronts, none of which begins another, and what a message in
front of which none of them stands has to look like.
-/
import Mathlib.Data.List.Basic

namespace NodeX.Lib

variable {α κ : Type*} [DecidableEq α]

/-- The entry of the front that a message begins with. -/
def frontOf (table : List (List α × κ)) (m : List α) : Option κ :=
  (table.find? fun e => e.1.isPrefixOf m).map Prod.snd

/-- No front of the table begins another. -/
def PrefixFree (table : List (List α × κ)) : Prop := ∀ e ∈ table, ∀ e' ∈ table, e.1 <+: e'.1 → e = e'

variable {table : List (List α × κ)}

theorem frontOf_append (h : PrefixFree table) {e : List α × κ} (he : e ∈ table) (rest : List α) :
    frontOf table (e.1 ++ rest) = some e.2 := by
  unfold frontOf
  cases hfind : table.find? fun e' => e'.1.isPrefixOf (e.1 ++ rest) with
  | none =>
    have hnot := List.find?_eq_none.1 hfind e he
    exact absurd (List.isPrefixOf_iff_prefix.2 (List.prefix_append _ _)) hnot
  | some e' =>
    have hmem := List.mem_of_find?_eq_some hfind
    have hbegins := List.find?_some hfind
    have hfront : e'.1 <+: e.1 ++ rest := List.isPrefixOf_iff_prefix.1 hbegins
    -- of two fronts of one message, one begins the other
    rcases List.prefix_or_prefix_of_prefix hfront (List.prefix_append e.1 rest) with hbegins | hbegins
    · rw [h e' hmem e he hbegins, Option.map_some]
    · rw [← h e he e' hmem hbegins, Option.map_some]

/-- A message whose first elements are all of one kind begins with no front that has another one among them. -/
theorem frontOf_eq_none {p : α → Prop} {n : ℕ} (htable : ∀ e ∈ table, ∃ a ∈ e.1.take n, ¬p a) {m : List α}
    (hm : ∀ a ∈ m.take n, p a) : frontOf table m = none := by
  unfold frontOf
  rw [Option.map_eq_none_iff, List.find?_eq_none]
  intro e he hfront
  obtain ⟨a, ha, hp⟩ := htable e he
  obtain ⟨rest, rfl⟩ := List.isPrefixOf_iff_prefix.1 hfront
  refine hp (hm a ?_)
  rw [List.take_append]
  exact List.mem_append_left _ ha

end NodeX.Lib
