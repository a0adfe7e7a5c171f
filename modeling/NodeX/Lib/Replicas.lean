/-
Two copies of one state, each of which passes its changes on to the other: one to tasks that run in any order, the
other to a queue. As long as what is passed on commutes with what comes the other way, the copies are equal whenever
nothing is on its way.
-/
import Mathlib.Data.List.Perm.Basic
import Mathlib.Logic.Function.Conjugate

namespace NodeX.Lib

variable {S : Type*}

/-- The state after the changes, in order. -/
def applyAll (fs : List (S → S)) (s : S) : S := fs.foldl (fun s f => f s) s

@[simp] theorem applyAll_nil (s : S) : applyAll [] s = s := rfl

@[simp] theorem applyAll_cons (f : S → S) (fs : List (S → S)) (s : S) : applyAll (f :: fs) s = applyAll fs (f s) := rfl

theorem applyAll_append (fs gs : List (S → S)) (s : S) : applyAll (fs ++ gs) s = applyAll gs (applyAll fs s) :=
  List.foldl_append

/-- A change that commutes with all of them may come first or last. -/
theorem applyAll_comm {f : S → S} : ∀ {fs : List (S → S)}, (∀ g ∈ fs, Function.Commute f g) → ∀ s,
    applyAll fs (f s) = f (applyAll fs s)
  | [], _, _ => rfl
  | g :: fs, h, s => by
    rw [applyAll_cons, applyAll_cons, ← applyAll_comm (fun g' hg' => h g' (List.mem_cons_of_mem _ hg')),
      h g List.mem_cons_self s]

theorem applyAll_perm {fs gs : List (S → S)} (hperm : fs.Perm gs)
    (hcomm : ∀ f ∈ fs, ∀ g ∈ fs, Function.Commute f g) (s : S) : applyAll fs s = applyAll gs s :=
  hperm.foldl_eq' (fun f hf g hg s => (hcomm f hf g hg s).symm) s

/-- The two copies, with the changes of the first that wait for the second, in any order, and those of the second that
wait for the first, in theirs. -/
structure Balanced (near far : S) (toFar toNear : List (S → S)) : Prop where
  agree : applyAll toNear near = applyAll toFar far
  commute : ∀ f ∈ toFar, ∀ g ∈ toFar, Function.Commute f g

namespace Balanced

variable {near far : S} {toFar toNear : List (S → S)} {f : S → S}

theorem refl (s : S) : Balanced s s [] [] := ⟨rfl, by simp⟩

/-- The first copy changes. -/
theorem here (h : Balanced near far toFar toNear) (hfar : ∀ g ∈ toFar, Function.Commute f g)
    (hnear : ∀ g ∈ toNear, Function.Commute f g) : Balanced (f near) far (toFar ++ [f]) toNear := by
  have hself : Function.Commute f f := .refl f
  refine ⟨?_, ?_⟩
  · rw [applyAll_comm hnear, h.agree, applyAll_append]
    rfl
  · simp only [List.mem_append, List.mem_singleton]
    rintro g (hg | rfl) g' (hg' | rfl)
    · exact h.commute g hg g' hg'
    · exact (hfar g hg).symm
    · exact hfar g' hg'
    · exact hself

/-- One of the changes that wait for the second copy gets there. -/
theorem arrive (h : Balanced near far toFar toNear) {i : ℕ} (hi : toFar[i]? = some f) :
    Balanced near (f far) (toFar.eraseIdx i) toNear := by
  obtain ⟨hlt, rfl⟩ := List.getElem?_eq_some_iff.1 hi
  refine ⟨?_, fun g hg g' hg' => h.commute g (List.mem_of_mem_eraseIdx hg) g' (List.mem_of_mem_eraseIdx hg')⟩
  rw [h.agree, applyAll_perm (List.getElem_cons_eraseIdx_perm hlt).symm h.commute, applyAll_cons]

/-- The second copy changes. -/
theorem there (h : Balanced near far toFar toNear) {fs : List (S → S)}
    (hfar : ∀ f ∈ fs, ∀ g ∈ toFar, Function.Commute f g) :
    Balanced near (applyAll fs far) toFar (toNear ++ fs) := by
  refine ⟨?_, h.commute⟩
  have hpast : ∀ (fs : List (S → S)), (∀ f ∈ fs, ∀ g ∈ toFar, Function.Commute f g) → ∀ far,
      applyAll toFar (applyAll fs far) = applyAll fs (applyAll toFar far) := by
    intro fs hfs
    induction fs with
    | nil => exact fun _ => rfl
    | cons f fs ih =>
      intro far
      rw [applyAll_cons, ih (fun g hg => hfs g (List.mem_cons_of_mem _ hg)), applyAll_cons,
        applyAll_comm (hfs f List.mem_cons_self)]
  rw [applyAll_append, h.agree, hpast fs hfar]

/-- The first of the changes that wait for the first copy gets there. -/
theorem take (h : Balanced near far toFar (f :: toNear)) : Balanced (f near) far toFar toNear := ⟨h.agree, h.commute⟩

/-- Nothing is on its way. -/
theorem eq_of_idle (h : Balanced near far [] []) : near = far := h.agree

end Balanced

end NodeX.Lib
