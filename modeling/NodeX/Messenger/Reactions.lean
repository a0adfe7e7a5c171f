/-
Reactions to one message. A call of `add_reaction` takes the reactor out of every list, drops the
emoji whose list that empties, and puts the reactor at the end of one list. So after any calls
each reactor is counted once, under the emoji of the last call.
-/
import NodeX.Messenger.MessageStore

namespace NodeX.Messenger

open NodeX.Lib

/-! ## The three steps of a call -/

namespace Reactions

/-- `retain` in every list, then `retain` on the map. -/
def dropReactor (reactor : String) (reactions : Reactions) : Reactions :=
  (reactions.map fun p => (p.1, p.2.filter (· ≠ reactor))).filter fun p => !p.2.isEmpty

/-- `entry(emoji).or_insert_with(Vec::new).push(reactor)`. -/
def push (emoji reactor : String) (reactions : Reactions) : Reactions :=
  match lookupKey Prod.fst emoji reactions with
  | some _ => modifyKey Prod.fst emoji (fun p => (p.1, p.2 ++ [reactor])) reactions
  | none => reactions ++ [(emoji, [reactor])]

/-- Everyone who reacted, as often as counted. -/
def reactors (reactions : Reactions) : List String := reactions.flatMap Prod.snd

end Reactions

open Reactions

theorem reactions_addReaction (emoji reactor : String) (m : SavedChatMessage) :
    (m.addReaction emoji reactor).reactions = push emoji reactor (dropReactor reactor m.reactions) := rfl

namespace Reactions

variable (emoji reactor : String) (reactions : Reactions)

/-! ## Counting -/

theorem count_filter_ne (l : List String) (r : String) :
    (l.filter (· ≠ reactor)).count r = if r = reactor then 0 else l.count r := by
  split
  · rename_i h
    exact List.count_eq_zero.2 fun hr => by simp [h] at hr
  · rename_i h
    exact List.count_filter (by simpa using h)

theorem count_reactors_dropReactor (r : String) :
    (dropReactor reactor reactions).reactors.count r = if r = reactor then 0 else reactions.reactors.count r := by
  unfold dropReactor reactors
  induction reactions with
  | nil => simp
  | cons p reactions ih =>
    have hp := count_filter_ne reactor p.2 r
    rw [List.map_cons, List.flatMap_cons, List.count_append]
    by_cases hempty : (p.2.filter (· ≠ reactor)) = []
    · rw [List.filter_cons_of_neg (by simpa using hempty), ih]
      rw [hempty, List.count_nil] at hp
      split at hp <;> simp_all
    · rw [List.filter_cons_of_pos (by simpa using hempty), List.flatMap_cons, List.count_append, ih, hp]
      split <;> rfl

theorem count_reactors_push (r : String) :
    (push emoji reactor reactions).reactors.count r = reactions.reactors.count r + if r = reactor then 1 else 0 := by
  have hone : [reactor].count r = if r = reactor then 1 else 0 := by
    rw [List.count_singleton]
    by_cases h : r = reactor
    · simp [h]
    · simp [h, Ne.symm h]
  unfold push
  cases hfound : lookupKey Prod.fst emoji reactions with
  | none =>
    show ((reactions ++ [(emoji, [reactor])]).flatMap Prod.snd).count r = _
    rw [List.flatMap_append, List.count_append, List.flatMap_singleton, hone]
    rfl
  | some p =>
    -- the list grows where the emoji stands first
    induction reactions with
    | nil => simp at hfound
    | cons q reactions ih =>
      rw [lookupKey_cons] at hfound
      unfold modifyKey
      by_cases hq : q.1 = emoji
      · simp only [if_pos hq, reactors, List.flatMap_cons, List.count_append, hone]
        omega
      · rw [if_neg hq] at hfound
        have htail := ih hfound
        simp only [reactors, if_neg hq, List.flatMap_cons, List.count_append] at htail ⊢
        omega

/-! ## Under which emoji -/

theorem mem_dropReactor {p : String × List String} (h : p ∈ dropReactor reactor reactions) :
    p.2 ≠ [] ∧ ∃ q ∈ reactions, q.1 = p.1 ∧ ∀ r ∈ p.2, r ∈ q.2 ∧ r ≠ reactor := by
  obtain ⟨hp, hne⟩ := List.mem_filter.1 h
  obtain ⟨q, hq, rfl⟩ := List.mem_map.1 hp
  refine ⟨by simpa using hne, q, hq, rfl, fun r hr => ?_⟩
  simpa using hr

/-- An entry of the map after a push is one of before, perhaps with the reactor at its end. -/
theorem mem_push {p : String × List String} (h : p ∈ push emoji reactor reactions) :
    p ∈ reactions ∨ p.1 = emoji ∧ (p.2 = [reactor] ∨ ∃ q ∈ reactions, q.1 = emoji ∧ p.2 = q.2 ++ [reactor]) := by
  unfold push at h
  cases hfound : lookupKey Prod.fst emoji reactions with
  | none =>
    rw [hfound] at h
    rcases List.mem_append.1 h with h | h
    · exact .inl h
    · rw [List.mem_singleton.1 h]
      exact .inr ⟨rfl, .inl rfl⟩
  | some q =>
    rw [hfound] at h
    clear hfound
    dsimp only at h
    induction reactions with
    | nil => simp [modifyKey] at h
    | cons q reactions ih =>
      unfold modifyKey at h
      split at h
      · rename_i hq
        rcases List.mem_cons.1 h with rfl | h
        · exact .inr ⟨hq, .inr ⟨q, List.mem_cons_self, hq, rfl⟩⟩
        · exact .inl (List.mem_cons_of_mem _ h)
      · rcases List.mem_cons.1 h with rfl | h
        · exact .inl List.mem_cons_self
        · rcases ih h with h | ⟨hemoji, h | ⟨q, hq, h⟩⟩
          · exact .inl (List.mem_cons_of_mem _ h)
          · exact .inr ⟨hemoji, .inl h⟩
          · exact .inr ⟨hemoji, .inr ⟨q, List.mem_cons_of_mem _ hq, h⟩⟩

theorem keysNodup_dropReactor {reactions : Reactions} (h : KeysNodup Prod.fst reactions) :
    KeysNodup Prod.fst (dropReactor reactor reactions) := by
  unfold dropReactor
  apply keysNodup_filter
  exact keysNodup_map Prod.fst (f := fun p => (p.1, p.2.filter (· ≠ reactor))) (fun _ => rfl) h

theorem keysNodup_push {reactions : Reactions} (h : KeysNodup Prod.fst reactions) :
    KeysNodup Prod.fst (push emoji reactor reactions) := by
  unfold push
  cases hfound : lookupKey Prod.fst emoji reactions with
  | some p => exact keysNodup_modifyKey Prod.fst (f := fun p => (p.1, p.2 ++ [reactor])) (fun _ => rfl) emoji h
  | none =>
    have hkey := (lookupKey_eq_none Prod.fst).1 hfound
    unfold KeysNodup at h ⊢
    rw [List.map_append]
    refine List.nodup_append.2 ⟨h, List.nodup_singleton _, ?_⟩
    simp only [List.mem_map, List.map_cons, List.map_nil, List.mem_singleton]
    rintro _ ⟨p, hp, rfl⟩ _ rfl
    exact hkey p hp

/-! ## After any calls -/

/-- The emoji of the last call by a reactor, if there was one. -/
def lastEmoji? (calls : List (String × String)) (reactor : String) : Option String :=
  (calls.reverse.find? fun call => call.2 = reactor).map Prod.fst

theorem lastEmoji?_concat (calls : List (String × String)) (call : String × String) (r : String) :
    lastEmoji? (calls ++ [call]) r = if r = call.2 then some call.1 else lastEmoji? calls r := by
  unfold lastEmoji?
  rw [List.reverse_append, List.reverse_singleton, List.singleton_append, List.find?_cons]
  by_cases h : r = call.2
  · simp [h]
  · simp [h, Ne.symm h]

theorem isSome_lastEmoji? {calls : List (String × String)} {call : String × String} (h : call ∈ calls) :
    (lastEmoji? calls call.2).isSome = true := by
  unfold lastEmoji?
  rw [Option.isSome_map, List.find?_isSome]
  exact ⟨call, List.mem_reverse.2 h, by simp⟩

/-- The map has a list for each emoji at most once and no empty one; a reactor is in the lists once
if they called at all, under the emoji of their last call. -/
structure OneEach (calls : List (String × String)) (reactions : Reactions) : Prop where
  keys : KeysNodup Prod.fst reactions
  nonempty : ∀ p ∈ reactions, p.2 ≠ []
  once : ∀ r, reactions.reactors.count r = if (lastEmoji? calls r).isSome then 1 else 0
  last : ∀ p ∈ reactions, ∀ r ∈ p.2, lastEmoji? calls r = some p.1

theorem oneEach_nil : OneEach [] [] :=
  ⟨List.nodup_nil, by simp, by simp [reactors, lastEmoji?], by simp⟩

theorem OneEach.call {calls : List (String × String)} {reactions : Reactions} (h : OneEach calls reactions) :
    OneEach (calls ++ [(emoji, reactor)]) (push emoji reactor (dropReactor reactor reactions)) where
  keys := keysNodup_push emoji reactor (keysNodup_dropReactor reactor h.keys)
  nonempty p hp := by
    rcases mem_push emoji reactor _ hp with hp | ⟨-, hlist | ⟨q, -, -, hlist⟩⟩
    · exact (mem_dropReactor reactor reactions hp).1
    · simp [hlist]
    · simp [hlist]
  once r := by
    rw [count_reactors_push, count_reactors_dropReactor, lastEmoji?_concat]
    by_cases hr : r = reactor
    · simp [hr]
    · simpa [hr] using h.once r
  last p hp r hr := by
    rw [lastEmoji?_concat]
    -- who was left in a list is not the caller, and has not called since
    have hkept : ∀ q ∈ dropReactor reactor reactions, ∀ r ∈ q.2,
        (if r = reactor then some emoji else lastEmoji? calls r) = some q.1 := by
      intro q hq r hr
      obtain ⟨-, old, hold, hemoji, hmem⟩ := mem_dropReactor reactor reactions hq
      rw [if_neg (hmem r hr).2, ← hemoji]
      exact h.last old hold r (hmem r hr).1
    rcases mem_push emoji reactor _ hp with hp | ⟨hemoji, hlist | ⟨q, hq, hqe, hlist⟩⟩
    · exact hkept p hp r hr
    · rw [hlist] at hr
      rw [if_pos (List.mem_singleton.1 hr), hemoji]
    · rw [hlist] at hr
      rcases List.mem_append.1 hr with hr | hr
      · exact (hkept q hq r hr).trans (by rw [hqe, hemoji])
      · rw [if_pos (List.mem_singleton.1 hr), hemoji]

end Reactions

namespace MessageStore

theorem find_set {s : MessageStore} {id : String} {pos : ℕ} {msg : SavedChatMessage}
    (h : s.find id = some (pos, msg)) {msg' : SavedChatMessage} (hid : msg'.id = msg.id) :
    { s with messages := s.messages.set pos msg' }.find id = some (pos, msg') :=
  locate_set SavedChatMessage.id h hid

/-- The calls of `add_reaction` on one message, in order. -/
def addReactions (id : String) (s : MessageStore) (calls : List (String × String)) : MessageStore :=
  run (fun s call => (s.addReaction id call.1 call.2).1) s calls

/-- A message without reactions, after any calls of `add_reaction` on it: each reactor who called is
in the lists exactly once, in the list of their last emoji; nobody else is; no list is empty; and
the other messages are what they were. -/
theorem oneEach_addReactions {s : MessageStore} {id : String} {pos : ℕ} {msg : SavedChatMessage}
    (h : s.find id = some (pos, msg)) (hnone : msg.reactions = []) (calls : List (String × String)) :
    ∃ msg', (s.addReactions id calls).find id = some (pos, msg') ∧ OneEach calls msg'.reactions ∧
      ∀ i, i ≠ pos → (s.addReactions id calls).messages[i]? = s.messages[i]? := by
  induction calls using List.reverseRecOn with
  | nil => exact ⟨msg, h, hnone ▸ oneEach_nil, fun _ _ => rfl⟩
  | append_singleton calls call ih =>
    obtain ⟨before, hfind, hone, hother⟩ := ih
    have hstep : s.addReactions id (calls ++ [call]) =
        { s.addReactions id calls with
          messages := (s.addReactions id calls).messages.set pos (before.addReaction call.1 call.2) } := by
      unfold addReactions at hfind ⊢
      rw [run_concat, addReaction, hfind]
    rw [hstep]
    refine ⟨before.addReaction call.1 call.2, find_set hfind rfl, ?_, fun i hi => ?_⟩
    · rw [reactions_addReaction]
      exact hone.call call.1 call.2
    · rw [List.getElem?_set_ne (Ne.symm hi)]
      exact hother i hi

/-- Two people react to the second of two messages, one of them twice. -/
theorem oneEach_addReactions_changed :
    let m : SavedChatMessage :=
      { id := "m1", senderIdHex := "b0", recipientIdHex := "a0", text := "hi", timestamp := 5, incoming := true,
        delivered := false }
    let s : MessageStore := { messages := [m, { m with id := "m2" }] }
    let calls := [("+1", "b0"), ("+1", "a0"), ("heart", "b0")]
    ∃ msg', (s.addReactions "m2" calls).find "m2" = some (1, msg') ∧ Reactions.OneEach calls msg'.reactions ∧
      ∀ i, i ≠ 1 → (s.addReactions "m2" calls).messages[i]? = s.messages[i]? := by
  intro m s calls
  have hfind : s.find "m2" = some (1, { m with id := "m2" }) := by decide
  exact oneEach_addReactions hfind rfl calls

end MessageStore

end NodeX.Messenger
