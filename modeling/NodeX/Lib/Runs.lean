/-
Runs of a deterministic machine: a total step function, with everything the environment decides
(clock readings, replies, failures) part of the action. The rules are the ones the developments
over it use: an invariant carried by guarded steps, a property of every step of a guarded run,
and the unwinding rule for two runs that differ only in hidden actions.
-/
import Mathlib.Data.List.Induction

namespace NodeX.Lib

variable {S A : Type*}

/-! ## Runs -/

/-- The state after the actions `as`, in order. -/
def run (step : S → A → S) (s : S) (as : List A) : S := as.foldl step s

@[simp] theorem run_nil (step : S → A → S) (s : S) : run step s [] = s := rfl

@[simp] theorem run_cons (step : S → A → S) (s : S) (a : A) (as : List A) :
    run step s (a :: as) = run step (step s a) as := rfl

theorem run_append (step : S → A → S) (s : S) (as bs : List A) :
    run step s (as ++ bs) = run step (run step s as) bs := List.foldl_append

/-- Every step of the run satisfies `P`, a condition on the state before it and the action. -/
def Steps (step : S → A → S) (P : S → A → Prop) : S → List A → Prop
  | _, [] => True
  | s, a :: as => P s a ∧ Steps step P (step s a) as

@[simp] theorem steps_nil (step : S → A → S) (P : S → A → Prop) (s : S) : Steps step P s [] ↔ True := Iff.rfl

@[simp] theorem steps_cons (step : S → A → S) (P : S → A → Prop) (s : S) (a : A) (as : List A) :
    Steps step P s (a :: as) ↔ P s a ∧ Steps step P (step s a) as := Iff.rfl

instance Steps.decidable (step : S → A → S) (P : S → A → Prop) [∀ s a, Decidable (P s a)] :
    ∀ s as, Decidable (Steps step P s as)
  | _, [] => isTrue trivial
  | s, a :: as =>
    have := Steps.decidable step P (step s a) as
    inferInstanceAs (Decidable (P s a ∧ Steps step P (step s a) as))

theorem steps_append (step : S → A → S) (P : S → A → Prop) : ∀ (s : S) (as bs : List A),
    Steps step P s (as ++ bs) ↔ Steps step P s as ∧ Steps step P (run step s as) bs
  | s, [], bs => by simp
  | s, a :: as, bs => by
    simp only [List.cons_append, steps_cons, run_cons, steps_append step P (step s a) as bs, and_assoc]

theorem run_concat (step : S → A → S) (s : S) (as : List A) (a : A) :
    run step s (as ++ [a]) = step (run step s as) a := run_append step s as [a]

theorem steps_concat (step : S → A → S) (P : S → A → Prop) (s : S) (as : List A) (a : A) :
    Steps step P s (as ++ [a]) ↔ Steps step P s as ∧ P (run step s as) a := by
  rw [steps_append, steps_cons, steps_nil, and_true]

/-- A run seen through `f`, where `f` takes steps to steps. -/
theorem run_map {S' : Type*} {step : S → A → S} {step' : S' → A → S'} (f : S → S')
    (h : ∀ s a, f (step s a) = step' (f s) a) : ∀ (s : S) (as : List A), f (run step s as) = run step' (f s) as
  | _, [] => rfl
  | s, a :: as => by rw [run_cons, run_cons, run_map f h (step s a) as, h]

/-- One more event in a history: what the history is split at is the new event, or one before it. -/
theorem concat_eq_append_cons {E : Type*} {h pre post : List E} {e x : E} (heq : h ++ [e] = pre ++ x :: post) :
    h = pre ∧ e = x ∧ post = [] ∨ ∃ front, post = front ++ [e] ∧ h = pre ++ x :: front := by
  rcases List.eq_nil_or_concat post with rfl | ⟨front, last, rfl⟩
  · obtain ⟨hpre, hlast⟩ := List.append_inj' heq rfl
    exact .inl ⟨hpre, List.singleton_inj.1 hlast, rfl⟩
  · rw [List.concat_eq_append, ← List.cons_append, ← List.append_assoc] at heq
    obtain ⟨hfront, hlast⟩ := List.append_inj' heq rfl
    obtain rfl := List.singleton_inj.1 hlast
    exact .inr ⟨front, List.concat_eq_append, hfront⟩

/-! ## Invariants -/

/-- An invariant kept by the steps that meet `ok` holds after every run whose steps all do. -/
theorem run_invariant {step : S → A → S} {ok : S → A → Prop} {I : S → Prop}
    (hstep : ∀ s a, I s → ok s a → I (step s a)) :
    ∀ {s : S} {as : List A}, I s → Steps step ok s as → I (run step s as)
  | _, [], hI, _ => hI
  | s, a :: as, hI, h => by
    rw [run_cons]
    exact run_invariant hstep (hstep s a hI h.1) h.2

/-- An invariant kept by every step holds after every run. -/
theorem run_induction {step : S → A → S} {I : S → Prop} (hstep : ∀ s a, I s → I (step s a)) :
    ∀ {s : S} (as : List A), I s → I (run step s as)
  | _, [], hI => hI
  | s, a :: as, hI => by
    rw [run_cons]
    exact run_induction hstep as (hstep s a hI)

/-- An invariant that looks back to the actions taken so far. -/
theorem run_history {step : S → A → S} {ok : S → A → Prop} {s : S} {I : List A → S → Prop} (hnil : I [] s)
    (hstep : ∀ as a, I as (run step s as) → ok (run step s as) a → I (as ++ [a]) (step (run step s as) a))
    (as : List A) (h : Steps step ok s as) : I as (run step s as) := by
  induction as using List.reverseRecOn with
  | nil => exact hnil
  | append_singleton as a ih =>
    obtain ⟨has, ha⟩ := (steps_concat step ok s as a).1 h
    rw [run_concat]
    exact hstep as a (ih has) ha

/-- What holds in every state of a run. -/
theorem forall_prefix_iff {step : S → A → S} {I : S → Prop} : ∀ {s : S} {as : List A},
    (∀ pre, pre <+: as → I (run step s pre)) ↔ I s ∧ Steps step (fun s a => I (step s a)) s as
  | s, [] => by simp
  | s, a :: as => by
    rw [steps_cons, ← forall_prefix_iff]
    constructor
    · intro h
      exact ⟨h [] List.nil_prefix, fun pre hpre => h (a :: pre) (List.cons_prefix_cons.2 ⟨rfl, hpre⟩)⟩
    · rintro ⟨hs, h⟩ pre hpre
      cases pre with
      | nil => exact hs
      | cons b pre =>
        obtain ⟨rfl, htail⟩ := List.cons_prefix_cons.1 hpre
        exact h pre htail

/-- What a guarded step does under an invariant, every step of a guarded run does. -/
theorem steps_of_invariant {step : S → A → S} {ok P : S → A → Prop} {I : S → Prop}
    (hstep : ∀ s a, I s → ok s a → I (step s a)) (hP : ∀ s a, I s → ok s a → P s a) :
    ∀ {s : S} {as : List A}, I s → Steps step ok s as → Steps step P s as
  | _, [], _, _ => trivial
  | _, _ :: _, hI, h => ⟨hP _ _ hI h.1, steps_of_invariant hstep hP (hstep _ _ hI h.1) h.2⟩

/-- A step property that holds of every step, holds of every step of a run. -/
theorem steps_of_forall {step : S → A → S} {P : S → A → Prop} (h : ∀ s a, P s a) :
    ∀ (s : S) (as : List A), Steps step P s as
  | _, [] => trivial
  | s, a :: as => ⟨h s a, steps_of_forall h (step s a) as⟩

theorem steps_iff_forall_split {step : S → A → S} {P : S → A → Prop} : ∀ {s : S} {as : List A},
    Steps step P s as ↔ ∀ pre a post, as = pre ++ a :: post → P (run step s pre) a
  | s, [] => by simp
  | s, b :: as => by
    rw [steps_cons, steps_iff_forall_split]
    constructor
    · rintro ⟨hb, h⟩ pre a post heq
      cases pre with
      | nil =>
        obtain ⟨rfl, rfl⟩ := List.cons.inj heq
        exact hb
      | cons c pre =>
        obtain ⟨rfl, htail⟩ := List.cons.inj heq
        exact h pre a post htail
    · intro h
      exact ⟨h [] b as rfl, fun pre a post heq => h (b :: pre) a post (congrArg (b :: ·) heq)⟩

/-- The last step of a run that is one of `P`, if there is any. -/
theorem exists_last_step (step : S → A → S) (P : S → A → Prop) : ∀ (s : S) (as : List A),
    Steps step (fun s a => ¬P s a) s as ∨ ∃ pre a post, as = pre ++ a :: post ∧ P (run step s pre) a ∧
      Steps step (fun s a => ¬P s a) (run step s (pre ++ [a])) post
  | _, [] => .inl trivial
  | s, a :: as => by
    rcases exists_last_step step P (step s a) as with h | ⟨pre, b, post, rfl, hb, hpost⟩
    · by_cases ha : P s a
      · exact .inr ⟨[], a, as, rfl, ha, h⟩
      · exact .inl ⟨ha, h⟩
    · exact .inr ⟨a :: pre, b, post, rfl, hb, hpost⟩

theorem Steps.imp {step : S → A → S} {P Q : S → A → Prop} (h : ∀ s a, P s a → Q s a) :
    ∀ {s : S} {as : List A}, Steps step P s as → Steps step Q s as
  | _, [], _ => trivial
  | _, _ :: _, hs => ⟨h _ _ hs.1, Steps.imp h hs.2⟩

theorem steps_congr {step : S → A → S} {P Q : S → A → Prop} (h : ∀ s a, P s a ↔ Q s a) (s : S) (as : List A) :
    Steps step P s as ↔ Steps step Q s as :=
  ⟨Steps.imp fun s a => (h s a).1, Steps.imp fun s a => (h s a).2⟩

/-- Two step properties that agree under an invariant, which the first of them carries on, agree on runs. -/
theorem steps_iff_of_invariant {step : S → A → S} {P Q : S → A → Prop} {I : S → Prop}
    (hiff : ∀ s a, I s → (P s a ↔ Q s a)) (hstep : ∀ s a, I s → P s a → I (step s a)) :
    ∀ {s : S} (as : List A), I s → (Steps step P s as ↔ Steps step Q s as)
  | _, [], _ => Iff.rfl
  | s, a :: as, hI => by
    rw [steps_cons, steps_cons, hiff s a hI]
    refine and_congr_right fun hQ => steps_iff_of_invariant hiff hstep as (hstep s a hI ?_)
    exact (hiff s a hI).2 hQ

theorem Steps.and {step : S → A → S} {P Q : S → A → Prop} :
    ∀ {s : S} {as : List A}, Steps step P s as → Steps step Q s as → Steps step (fun s a => P s a ∧ Q s a) s as
  | _, [], _, _ => trivial
  | _, _ :: _, hp, hq => ⟨⟨hp.1, hq.1⟩, Steps.and hp.2 hq.2⟩

theorem steps_iff_forall_mem {step : S → A → S} {P : A → Prop} : ∀ {s : S} {as : List A},
    Steps step (fun _ a => P a) s as ↔ ∀ a ∈ as, P a
  | _, [] => by simp
  | s, a :: as => by rw [steps_cons, steps_iff_forall_mem, List.forall_mem_cons]

/-- What holds of every action of the run, holds of every step. -/
theorem steps_of_mem {step : S → A → S} {P : A → Prop} {s : S} {as : List A} (h : ∀ a ∈ as, P a) :
    Steps step (fun _ a => P a) s as := steps_iff_forall_mem.2 h

/-! ## Two runs -/

/-- Unwinding. Two runs take the same actions apart from hidden ones. If a hidden action on
either side keeps the states related, and a common action takes related states to related ones,
then the runs end in related states. -/
theorem unwinding {step : S → A → S} {okL okR : S → A → Prop} {R : S → S → Prop} {hidden : A → Bool}
    (hl : ∀ s t a, hidden a = true → R s t → okL s a → R (step s a) t)
    (hr : ∀ s t a, hidden a = true → R s t → okR t a → R s (step t a))
    (hb : ∀ s t a, hidden a = false → R s t → okL s a → okR t a → R (step s a) (step t a)) :
    ∀ (as bs : List A) {s t : S}, as.filter (fun a => !hidden a) = bs.filter (fun a => !hidden a) →
      R s t → Steps step okL s as → Steps step okR t bs → R (run step s as) (run step t bs)
  | [], [], _, _, _, hR, _, _ => hR
  | a :: as, bs, s, t, hf, hR, ha, hbs => by
    cases hh : hidden a with
    | true =>
      rw [List.filter_cons_of_neg (by simp [hh])] at hf
      -- a hidden action moves its own side alone
      exact unwinding hl hr hb as bs hf (hl s t a hh hR ha.1) ha.2 hbs
    | false =>
      cases bs with
      | nil => simp [hh] at hf
      | cons b bs =>
        cases hhb : hidden b with
        | true =>
          rw [List.filter_cons_of_neg (a := b) (by simp [hhb])] at hf
          exact unwinding hl hr hb (a :: as) bs hf (hr s t b hhb hR hbs.1) ha hbs.2
        | false =>
          rw [List.filter_cons_of_pos (by simp [hh]), List.filter_cons_of_pos (by simp [hhb])] at hf
          obtain ⟨hab, hrest⟩ := List.cons.inj hf
          -- neither is hidden, so both sides take the same action
          subst hab
          exact unwinding hl hr hb as bs hrest (hb s t a hh hR ha.1 hbs.1) ha.2 hbs.2
  | [], b :: bs, s, t, hf, hR, ha, hbs => by
    cases hhb : hidden b with
    | true =>
      rw [List.filter_cons_of_neg (a := b) (by simp [hhb])] at hf
      exact unwinding hl hr hb [] bs hf (hr s t b hhb hR hbs.1) ha hbs.2
    | false => simp [hhb] at hf
termination_by as bs => as.length + bs.length

end NodeX.Lib
