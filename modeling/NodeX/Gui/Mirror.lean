/-
When the shown messages are those of the database: an abstract content that both copies have, the changes that the
user's actions and the peers' envelopes make to it, and which of these may be under way at the same time.
-/
import NodeX.Gui.View

namespace NodeX.Gui

open NodeX.Lib Messenger

/-! ## The content of a copy -/

/-- Who reacted with what. -/
def reactionPairs (reactions : Reactions) : Finset (String × String) :=
  (reactions.flatMap fun p => p.2.map fun reactor => (p.1, reactor)).toFinset

/-- What the user sees of a message. -/
structure Entry where
  senderIdHex : String
  recipientIdHex : String
  groupId : Option String
  text : String
  delivered : Bool
  reactions : Finset (String × String)

def entryOf (m : SavedChatMessage) : Entry :=
  { senderIdHex := m.senderIdHex, recipientIdHex := m.recipientIdHex, groupId := m.groupId, text := m.text
    delivered := m.delivered, reactions := reactionPairs m.reactions }

/-- The conversations with others, by the ids of the messages. -/
abbrev Content := String → Option Entry

def contentOf (myNodeId : String) (message? : String → Option SavedChatMessage) : Content := fun id =>
  ((message? id).filter fun m => !isNote myNodeId m).map entryOf

/-! ## Changes -/

/-- A change to one message. -/
inductive EntryChange where
  | delivered
  | edit (newText : String)
  | react (emoji reactor : String)

/-- Which messages go. -/
inductive Removal where
  | ids (messageIds : List String)
  | authored (messageIds : List String) (author : String)
  | chat (contactIdHex : String)

inductive ContentOp where
  | add (msg : SavedChatMessage)
  | change (messageId : String) (g : EntryChange)
  | remove (r : Removal)

namespace Entry

def inConversation (contactIdHex : String) (e : Entry) : Bool :=
  e.groupId.isNone && (e.senderIdHex = contactIdHex || e.recipientIdHex = contactIdHex)

/-- Of this conversation. -/
def inChat (myNodeId targetId : String) (e : Entry) : Bool :=
  match e.groupId with
  | some gid => gid = targetId
  | none =>
    (e.senderIdHex = targetId && e.recipientIdHex = myNodeId) ||
      (e.senderIdHex = myNodeId && e.recipientIdHex = targetId)

end Entry

def EntryChange.apply (e : Entry) : EntryChange → Entry
  | delivered => { e with delivered := true }
  | edit newText => { e with text := newText }
  | react emoji reactor => { e with reactions := insert (emoji, reactor) (e.reactions.filter (·.2 ≠ reactor)) }

/-- In either order they come to the same. -/
def EntryChange.Compatible : EntryChange → EntryChange → Prop
  | edit newText, edit newText' => newText = newText'
  | react emoji reactor, react emoji' reactor' => reactor = reactor' → emoji = emoji'
  | _, _ => True

def Removal.keeps (id : String) (e : Entry) : Removal → Bool
  | ids messageIds => id ∉ messageIds
  | authored messageIds author => id ∉ messageIds || e.senderIdHex ≠ author
  | chat contactIdHex => !e.inConversation contactIdHex

/-- A change leaves the message in its conversation. -/
theorem keeps_apply (id : String) (e : Entry) (g : EntryChange) (r : Removal) :
    r.keeps id (g.apply e) = r.keeps id e := by
  cases g <;> cases r <;> rfl

theorem EntryChange.Compatible.commute {g g' : EntryChange} (h : g.Compatible g') :
    g.apply ∘ g'.apply = g'.apply ∘ g.apply := by
  funext e
  cases g with
  | delivered => cases g' <;> rfl
  | edit newText =>
    cases g' with
    | edit newText' =>
      obtain rfl : newText = newText' := h
      rfl
    | _ => rfl
  | react emoji reactor =>
    cases g' with
    | react emoji' reactor' =>
      by_cases hr : reactor = reactor'
      · obtain rfl := h hr
        obtain rfl := hr
        rfl
      · simp only [Function.comp, apply, Entry.mk.injEq, true_and]
        ext ⟨x, y⟩
        simp only [Finset.mem_insert, Finset.mem_filter, Prod.mk.injEq]
        constructor
        · rintro (⟨rfl, rfl⟩ | ⟨⟨rfl, rfl⟩ | ⟨hmem, hy'⟩, hy⟩)
          · exact .inr ⟨.inl ⟨rfl, rfl⟩, hr⟩
          · exact .inl ⟨rfl, rfl⟩
          · exact .inr ⟨.inr ⟨hmem, hy⟩, hy'⟩
        · rintro (⟨rfl, rfl⟩ | ⟨⟨rfl, rfl⟩ | ⟨hmem, hy'⟩, hy⟩)
          · exact .inr ⟨.inl ⟨rfl, rfl⟩, Ne.symm hr⟩
          · exact .inl ⟨rfl, rfl⟩
          · exact .inr ⟨.inr ⟨hmem, hy⟩, hy'⟩
    | _ => rfl

namespace ContentOp

variable (myNodeId : String)

/-- What becomes of the entry under an id. -/
def act (op : ContentOp) (c : Content) : Content := fun id =>
  match op with
  | add msg => if msg.id = id then (if isNote myNodeId msg then none else some (entryOf msg)) else c id
  | change messageId g => if messageId = id then (c id).map g.apply else c id
  | remove r => (c id).filter fun e => r.keeps id e

/-- The change may touch the message. -/
def concerns (msg : SavedChatMessage) : ContentOp → Bool
  | add msg' => msg'.id = msg.id
  | change messageId _ => messageId = msg.id
  | remove r => !r.keeps msg.id (entryOf msg)

/-- The changes may be under way at the same time. -/
def Independent : ContentOp → ContentOp → Prop
  | add msg, op => op.concerns msg = false
  | op, add msg => op.concerns msg = false
  | change messageId g, change messageId' g' => messageId = messageId' → g.Compatible g'
  | _, _ => True

variable {myNodeId}

theorem act_congr (op : ContentOp) {c c' : Content} {id : String} (h : c id = c' id) :
    op.act myNodeId c id = op.act myNodeId c' id := by
  cases op <;> simp only [act, h]

/-- A message that is not concerned stays as it is. -/
theorem act_of_not_concerns {op : ContentOp} {msg : SavedChatMessage} (h : op.concerns msg = false) {c : Content}
    (hc : c msg.id = if isNote myNodeId msg then none else some (entryOf msg)) :
    op.act myNodeId c msg.id = c msg.id := by
  cases op with
  | add msg' => exact if_neg (of_decide_eq_false h)
  | change messageId g => exact if_neg (of_decide_eq_false h)
  | remove r =>
    have hkeeps : r.keeps msg.id (entryOf msg) = true := by simpa [concerns] using h
    change (c msg.id).filter _ = _
    rw [hc]
    split
    · rfl
    · exact Option.filter_some_pos hkeeps

theorem commute_add {op : ContentOp} {msg : SavedChatMessage} (h : op.concerns msg = false) :
    Function.Commute ((add msg).act myNodeId) (op.act myNodeId) := by
  intro c
  funext id
  by_cases hid : msg.id = id
  · subst hid
    have hadded : ∀ c, (add msg).act myNodeId c msg.id = if isNote myNodeId msg then none else some (entryOf msg) :=
      fun c => if_pos rfl
    rw [hadded, act_of_not_concerns h (hadded c), hadded]
  · have hother : ∀ c, (add msg).act myNodeId c id = c id := fun c => if_neg hid
    rw [hother, act_congr op (hother c)]

theorem commute_change_remove (messageId : String) (g : EntryChange) (r : Removal) :
    Function.Commute ((change messageId g).act myNodeId) ((remove r).act myNodeId) := by
  intro c
  funext id
  simp only [act]
  split
  · cases c id with
    | none => rfl
    | some e =>
      have hkeeps := keeps_apply id e g r
      cases hr : r.keeps id e <;> simp [Option.filter, hkeeps, hr]
  · rfl

theorem independent_symm {a b : ContentOp} (h : a.Independent b) : b.Independent a := by
  cases a <;> cases b
  case change.change id g id' g' =>
    intro hid
    have hcompatible := h hid.symm
    cases g <;> cases g' <;> first | exact hcompatible.symm | exact fun hr => (hcompatible hr.symm).symm | trivial
  case add.add msg msg' => simpa [Independent, concerns, eq_comm] using h
  all_goals exact h

theorem commute_of_independent {a b : ContentOp} (h : a.Independent b) :
    Function.Commute (a.act myNodeId) (b.act myNodeId) := by
  cases a with
  | add msg => exact commute_add h
  | change messageId g =>
    cases b with
    | add msg => exact (commute_add h).symm
    | change messageId' g' =>
      intro c
      funext id
      by_cases hid : messageId = id
      · by_cases hid' : messageId' = id
        · have hcomm := (h (hid.trans hid'.symm)).commute
          simp only [act, if_pos hid, if_pos hid', Option.map_map, hcomm]
        · simp only [act, if_neg hid']
      · simp only [act, if_neg hid]
    | remove r => exact commute_change_remove messageId g r
  | remove r =>
    cases b with
    | add msg => exact (commute_add h).symm
    | change messageId g => exact (commute_change_remove messageId g r).symm
    | remove r' =>
      intro c
      funext id
      simp only [act, Option.filter_filter, Bool.and_comm]

end ContentOp

/-! ## Reactions -/

theorem mem_reactionPairs {reactions : Reactions} {emoji reactor : String} :
    (emoji, reactor) ∈ reactionPairs reactions ↔ ∃ p ∈ reactions, p.1 = emoji ∧ reactor ∈ p.2 := by
  simp only [reactionPairs, List.mem_toFinset, List.mem_flatMap, List.mem_map, Prod.mk.injEq]
  constructor
  · rintro ⟨p, hp, _, hr, rfl, rfl⟩
    exact ⟨p, hp, rfl, hr⟩
  · rintro ⟨p, hp, rfl, hr⟩
    exact ⟨p, hp, reactor, hr, rfl, rfl⟩

theorem reactionPairs_cons (p : String × List String) (reactions : Reactions) :
    reactionPairs (p :: reactions) = (p.2.map fun reactor => (p.1, reactor)).toFinset ∪ reactionPairs reactions := by
  simp [reactionPairs]

theorem reactionPairs_push (emoji reactor : String) (reactions : Reactions) :
    reactionPairs (pushReaction emoji reactor reactions) = insert (emoji, reactor) (reactionPairs reactions) := by
  have hmodify : ∀ l : Reactions, (lookupKey Prod.fst emoji l).isSome = true →
      reactionPairs (modifyKey Prod.fst emoji (fun p => (p.1, p.2 ++ [reactor])) l) =
        insert (emoji, reactor) (reactionPairs l) := by
    intro l hl
    induction l with
    | nil => cases hl
    | cons p l ih =>
      unfold modifyKey
      rw [lookupKey_cons] at hl
      by_cases hp : p.1 = emoji
      · rw [if_pos hp, reactionPairs_cons, reactionPairs_cons]
        ext x
        simp [← hp]
      · rw [if_neg hp] at hl ⊢
        rw [reactionPairs_cons, ih hl, reactionPairs_cons, Finset.union_insert]
  unfold pushReaction
  cases hfound : lookupKey Prod.fst emoji reactions with
  | some p => exact hmodify _ (by rw [hfound]; rfl)
  | none =>
    ext x
    simp [reactionPairs]

theorem hasReacted_imp {emoji reactor : String} {reactions : Reactions}
    (h : hasReacted emoji reactor reactions = true) : (emoji, reactor) ∈ reactionPairs reactions := by
  unfold hasReacted at h
  rw [Option.any_eq_true] at h
  obtain ⟨p, hp, hr⟩ := h
  exact mem_reactionPairs.2 ⟨p, mem_of_lookupKey _ hp, key_of_lookupKey _ hp, List.contains_iff_mem.1 hr⟩

/-- Dropping the reactions of one person. -/
theorem reactionPairs_drop (reactor : String) (reactions : Reactions) :
    reactionPairs ((reactions.map fun p => (p.1, p.2.filter (· ≠ reactor))).filter fun p => !p.2.isEmpty) =
      (reactionPairs reactions).filter (·.2 ≠ reactor) := by
  ext ⟨e, r⟩
  simp only [mem_reactionPairs, List.mem_filter, List.mem_map, Finset.mem_filter]
  constructor
  · rintro ⟨_, ⟨⟨p, hp, rfl⟩, -⟩, rfl, hr⟩
    obtain ⟨hr, hne⟩ := List.mem_filter.1 hr
    exact ⟨⟨p, hp, rfl, hr⟩, of_decide_eq_true hne⟩
  · rintro ⟨⟨p, hp, rfl, hr⟩, hne⟩
    have hmem : r ∈ p.2.filter (· ≠ reactor) := List.mem_filter.2 ⟨hr, decide_eq_true hne⟩
    refine ⟨_, ⟨⟨p, hp, rfl⟩, ?_⟩, rfl, hmem⟩
    cases hl : p.2.filter (· ≠ reactor) with
    | nil =>
      rw [hl] at hmem
      cases hmem
    | cons _ _ => rfl

theorem entryOf_addReaction (emoji reactor : String) (m : SavedChatMessage) :
    entryOf (m.addReaction emoji reactor) = (EntryChange.react emoji reactor).apply (entryOf m) := by
  have hpairs := reactionPairs_push emoji reactor
    ((m.reactions.map fun p => (p.1, p.2.filter (· ≠ reactor))).filter fun p => !p.2.isEmpty)
  rw [reactionPairs_drop] at hpairs
  exact congrArg (fun r => { entryOf m with reactions := r }) hpairs

theorem entryOf_toggleReaction {emoji myId : String} {m : SavedChatMessage}
    (h : (emoji, myId) ∉ reactionPairs m.reactions) :
    entryOf (toggleReaction emoji myId m) = (EntryChange.react emoji myId).apply (entryOf m) := by
  rw [← entryOf_addReaction]
  unfold toggleReaction
  dsimp only
  rw [if_neg fun hr => h (hasReacted_imp hr)]
  rfl

theorem entryOf_showReaction {emoji reactor : String} {m : SavedChatMessage}
    (h : ∀ e, (e, reactor) ∈ reactionPairs m.reactions → e = emoji) :
    entryOf (showReaction emoji reactor m) = (EntryChange.react emoji reactor).apply (entryOf m) := by
  have hall : insert (emoji, reactor) ((reactionPairs m.reactions).filter (·.2 ≠ reactor)) =
      insert (emoji, reactor) (reactionPairs m.reactions) := by
    ext ⟨e, r⟩
    simp only [Finset.mem_insert, Finset.mem_filter, Prod.mk.injEq]
    constructor
    · rintro (hnew | ⟨hmem, -⟩)
      · exact .inl hnew
      · exact .inr hmem
    · rintro (hnew | hmem)
      · exact .inl hnew
      · by_cases hr : r = reactor
        · subst hr
          exact .inl ⟨h e hmem, rfl⟩
        · exact .inr ⟨hmem, hr⟩
  have hpairs : reactionPairs (showReaction emoji reactor m).reactions =
      insert (emoji, reactor) (reactionPairs m.reactions) := by
    unfold showReaction
    dsimp only
    split
    · rename_i hr
      rw [Finset.insert_eq_self.2 (hasReacted_imp hr)]
    · exact reactionPairs_push ..
  exact congrArg (fun r => { entryOf m with reactions := r }) (hpairs.trans hall.symm)

/-! ## What is done to a copy -/

section Copies

variable {myNodeId : String} {message? message?' : String → Option SavedChatMessage}

theorem contentOf_congr (h : ∀ id, message?' id = message? id) :
    contentOf myNodeId message?' = contentOf myNodeId message? := by
  rw [funext h]

theorem contentOf_add {msg : SavedChatMessage}
    (h : ∀ id, message?' id = if msg.id = id then some msg else message? id) :
    contentOf myNodeId message?' = (ContentOp.add msg).act myNodeId (contentOf myNodeId message?) := by
  funext id
  unfold contentOf ContentOp.act
  rw [h]
  dsimp only
  split
  · cases hnote : isNote myNodeId msg <;> simp [Option.filter, hnote]
  · rfl

theorem contentOf_modify {messageId : String} {f : SavedChatMessage → SavedChatMessage} {g : EntryChange}
    (h : ∀ id, message?' id = if messageId = id then (message? id).map f else message? id)
    (hnote : ∀ m, isNote myNodeId (f m) = isNote myNodeId m)
    (hentry : ∀ m, message? messageId = some m → isNote myNodeId m = false → entryOf (f m) = g.apply (entryOf m)) :
    contentOf myNodeId message?' = (ContentOp.change messageId g).act myNodeId (contentOf myNodeId message?) := by
  funext id
  unfold contentOf ContentOp.act
  rw [h]
  dsimp only
  split
  · rename_i hid
    subst hid
    cases hm : message? messageId with
    | none => rfl
    | some m =>
      cases hnote' : isNote myNodeId m with
      | true => simp [Option.filter, hnote, hnote']
      | false => simp [Option.filter, hnote, hnote', hentry m hm hnote']
  · rfl

theorem contentOf_filter {p : String → SavedChatMessage → Bool} {r : Removal}
    (h : ∀ id, message?' id = (message? id).filter (p id))
    (hkeeps : ∀ id m, message? id = some m → isNote myNodeId m = false → p id m = r.keeps id (entryOf m)) :
    contentOf myNodeId message?' = (ContentOp.remove r).act myNodeId (contentOf myNodeId message?) := by
  funext id
  unfold contentOf ContentOp.act
  rw [h]
  dsimp only
  cases hm : message? id with
  | none => rfl
  | some m =>
    cases hnote : isNote myNodeId m with
    | true => cases hp : p id m <;> simp [Option.filter, hnote, hp]
    | false => cases hp : p id m <;> simp [Option.filter, hnote, hp, ← hkeeps id m hm hnote]

end Copies

end NodeX.Gui
