/-
A whole whose parts arrive in any order, and some of them more than once, between other things. What is kept of it is
one entry for each part; it is complete with the last of them.
-/
import NodeX.Lib.Keyed
import NodeX.Lib.Runs
import Mathlib.Data.List.Perm.Subperm

namespace NodeX.Lib

/-! ## The entries -/

section Entries

variable {P K α : Type*} {entry : P → K × α} {m : KeyedList (Prod.fst : K × α → K)} {parts came : List P} {p : P}

/-- The entries are those of the parts that came. -/
def Collected (entry : P → K × α) (m : KeyedList (Prod.fst : K × α → K)) (came : List P) : Prop :=
  ∀ x, x ∈ m ↔ x ∈ came.map entry

theorem collected_empty : Collected entry ∅ [] := fun _ => Iff.rfl

namespace Collected

/-- There are as many entries as parts exactly if every part came. -/
theorem length_eq_iff (h : Collected entry m came) (hsub : came ⊆ parts)
    (hnodup : (parts.map fun p => (entry p).1).Nodup) : m.list.length = parts.length ↔ parts ⊆ came := by
  have hkeys : m.list.map Prod.fst ⊆ parts.map fun p => (entry p).1 := by
    intro k hk
    obtain ⟨x, hx, rfl⟩ := List.mem_map.1 hk
    obtain ⟨q, hq, rfl⟩ := List.mem_map.1 ((h x).1 hx)
    exact List.mem_map_of_mem (hsub hq)
  have hle := (List.subperm_of_subset m.nodup hkeys).length_le
  rw [List.length_map, List.length_map] at hle
  constructor
  · intro hlen p hp
    have hperm : (m.list.map Prod.fst).Perm (parts.map fun p => (entry p).1) := by
      refine (List.subperm_of_subset m.nodup hkeys).perm_of_length_le ?_
      rw [List.length_map, List.length_map]
      exact Nat.le_of_eq hlen.symm
    obtain ⟨x, hx, hxp⟩ := List.mem_map.1 (hperm.mem_iff.2 (List.mem_map_of_mem hp))
    obtain ⟨q, hq, rfl⟩ := List.mem_map.1 ((h x).1 hx)
    rwa [← List.inj_on_of_nodup_map hnodup (hsub hq) hp hxp]
  · intro hall
    have hkeys' : (parts.map fun p => (entry p).1) ⊆ m.list.map Prod.fst := by
      intro k hk
      obtain ⟨p, hp, rfl⟩ := List.mem_map.1 hk
      exact List.mem_map_of_mem ((h _).2 (List.mem_map_of_mem (hall hp)))
    have hge := (List.subperm_of_subset hnodup hkeys').length_le
    rw [List.length_map, List.length_map] at hge
    exact Nat.le_antisymm hle hge

/-- Once every part came, the entries are those of the parts. -/
theorem perm (h : Collected entry m came) (hsub : came ⊆ parts) (hall : parts ⊆ came)
    (hnodup : (parts.map fun p => (entry p).1).Nodup) : m.list.Perm (parts.map entry) := by
  refine (List.perm_ext_iff_of_nodup m.nodup.of_map (List.Nodup.of_map Prod.fst ?_)).2 ?_
  · rw [List.map_map]
    exact hnodup
  · intro x
    rw [← KeyedList.mem_def, h x, List.mem_map, List.mem_map]
    constructor
    · rintro ⟨p, hp, rfl⟩
      exact ⟨p, hsub hp, rfl⟩
    · rintro ⟨p, hp, rfl⟩
      exact ⟨p, hall hp, rfl⟩

variable [DecidableEq K]

theorem get? (h : Collected entry m came) (hp : p ∈ came) : m.get? (entry p).1 = some (entry p) :=
  KeyedList.mem_iff_get?.1 ((h _).2 (List.mem_map_of_mem hp))

/-- A part that comes again is the same part. -/
theorem upsert (h : Collected entry m came) (hsame : ∀ q ∈ came, (entry q).1 = (entry p).1 → entry q = entry p) :
    Collected entry (m.upsert (entry p)) (p :: came) := by
  intro x
  rw [KeyedList.mem_iff_get?, KeyedList.get?_upsert, List.map_cons, List.mem_cons]
  split
  · rename_i hkey
    rw [Option.some_inj]
    constructor
    · rintro rfl
      exact .inl rfl
    · rintro (rfl | hx)
      · rfl
      · obtain ⟨q, hq, rfl⟩ := List.mem_map.1 hx
        exact (hsame q hq hkey.symm).symm
  · rename_i hkey
    rw [← KeyedList.mem_iff_get?, h x]
    constructor
    · exact .inr
    · rintro (rfl | hx)
      · exact absurd rfl hkey
      · exact hx

/-- What was kept, part by part. -/
theorem mapM_get? (h : Collected entry m came) : ∀ {parts : List P}, parts ⊆ came →
    (parts.mapM fun p => (m.get? (entry p).1).map Prod.snd) = some (parts.map fun p => (entry p).2)
  | [], _ => rfl
  | p :: parts, hsub => by
    obtain ⟨hp, hparts⟩ := List.cons_subset.1 hsub
    rw [List.mapM_cons, h.get? hp, mapM_get? h hparts]
    rfl

end Collected

end Entries

/-! ## The run -/

section Run

variable {S A P B : Type*} {step : S → A → S} {out : S → A → Option B} {own? : A → Option P} {ok : S → A → Prop}
  {parts : List P} {Shows : S → List P → Prop} {whole : B}

/-- A state shows which parts came; a step with something else leaves that as it is, a step with a part adds it, and
the whole comes out once no part is missing. -/
structure Assembles (step : S → A → S) (out : S → A → Option B) (own? : A → Option P) (ok : S → A → Prop)
    (parts : List P) (Shows : S → List P → Prop) (whole : B) : Prop where
  other : ∀ {s a came}, ok s a → own? a = none → Shows s came → Shows (step s a) came
  part : ∀ {s a came p}, ok s a → own? a = some p → came ⊆ parts → ¬parts ⊆ p :: came → Shows s came →
    Shows (step s a) (p :: came) ∧ out s a = none
  last : ∀ {s a came p}, ok s a → own? a = some p → came ⊆ parts → parts ⊆ p :: came → Shows s came →
    out s a = some whole

namespace Assembles

/-- As long as a part is missing, nothing comes out. -/
theorem waits (h : Assembles step out own? ok parts Shows whole) (hown : ∀ a p, own? a = some p → p ∈ parts) :
    ∀ {s : S} {came : List P} (as : List A), Shows s came → came ⊆ parts → Steps step ok s as →
      ¬parts ⊆ (as.filterMap own?).reverse ++ came →
        Shows (run step s as) ((as.filterMap own?).reverse ++ came) ∧
          Steps step (fun s a => (own? a).isSome → out s a = none) s as
  | _, _, [], hshows, _, _, _ => ⟨hshows, trivial⟩
  | s, came, a :: as, hshows, hsub, hok, hmissing => by
    rw [run_cons]
    cases ha : own? a with
    | none =>
      rw [List.filterMap_cons_none ha] at hmissing ⊢
      obtain ⟨hrun, hnone⟩ := waits h hown as (h.other hok.1 ha hshows) hsub hok.2 hmissing
      refine ⟨hrun, ?_, hnone⟩
      intro hsome
      rw [ha] at hsome
      cases hsome
    | some p =>
      rw [List.filterMap_cons_some ha, List.reverse_cons, List.append_assoc, List.singleton_append] at hmissing ⊢
      have hpart : ¬parts ⊆ p :: came := fun hall => hmissing (List.Subset.trans hall (List.subset_append_right _ _))
      obtain ⟨hshows', hout⟩ := h.part hok.1 ha hsub hpart hshows
      obtain ⟨hrun, hnone⟩ := waits h hown as hshows' (List.cons_subset.2 ⟨hown a p ha, hsub⟩) hok.2 hmissing
      exact ⟨hrun, fun _ => hout, hnone⟩

/-- With the last part the whole comes out, and not before. -/
theorem completes (h : Assembles step out own? ok parts Shows whole) (hown : ∀ a p, own? a = some p → p ∈ parts)
    {s : S} {as : List A} {a : A} {p : P} (hshows : Shows s []) (hok : Steps step ok s (as ++ [a]))
    (ha : own? a = some p) (hnot : p ∉ as.filterMap own?) (hall : parts ⊆ p :: as.filterMap own?) :
    Steps step (fun s a => (own? a).isSome → out s a = none) s as ∧ out (run step s as) a = some whole := by
  rw [steps_append] at hok
  have hmissing : ¬parts ⊆ (as.filterMap own?).reverse ++ [] := by
    intro hsub
    rw [List.append_nil] at hsub
    exact hnot (List.mem_reverse.1 (hsub (hown a p ha)))
  obtain ⟨hrun, hnone⟩ := h.waits hown as hshows (List.nil_subset _) hok.1 hmissing
  rw [List.append_nil] at hrun
  refine ⟨hnone, h.last hok.2.1 ha ?_ ?_ hrun⟩
  · intro q hq
    obtain ⟨b, -, hb⟩ := List.mem_filterMap.1 (List.mem_reverse.1 hq)
    exact hown b q hb
  · intro q hq
    rcases List.mem_cons.1 (hall hq) with rfl | hq'
    · exact List.mem_cons_self
    · exact List.mem_cons_of_mem _ (List.mem_reverse.2 hq')

end Assembles

end Run

end NodeX.Lib
