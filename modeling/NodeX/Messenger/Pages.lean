/-
Reading a conversation in pages. A page is cut by position in the order in which messages were
stored, but its cursor is a timestamp, so what is stored before a page and is not earlier than all
of it is never read.
-/
import NodeX.Lib.Pages
import NodeX.Messenger.MessageStore

namespace NodeX.Messenger

open NodeX.Lib

namespace MessageStore

def getMessagesForContact (s : MessageStore) (contactIdHex : String) : List SavedChatMessage :=
  s.messages.filter (·.inConversation contactIdHex)

/-- The last `limit` messages of the conversation from before the cursor, oldest stored first. -/
def getMessagesPaginated (s : MessageStore) (contactIdHex : String) (limit : ℕ) (beforeTimestamp : Option ℕ) :
    List SavedChatMessage :=
  let matching := s.messages.filter fun m =>
    let matchesPeer := m.inConversation contactIdHex
    let before := beforeTimestamp.all (m.timestamp < ·)
    matchesPeer && before
  if matching.length > limit then matching.drop (matching.length - limit) else matching

variable (s : MessageStore) (contactIdHex : String) (limit : ℕ)

/-- What a cursor leaves of the conversation. -/
def before (beforeTimestamp : Option ℕ) : List SavedChatMessage :=
  (s.getMessagesForContact contactIdHex).filter fun m => beforeTimestamp.all (m.timestamp < ·)

theorem before_none : s.before contactIdHex none = s.getMessagesForContact contactIdHex := by
  simp [before]

/-- The smallest timestamp of a page is an earlier cursor than the one the page was read with. -/
theorem before_some {beforeTimestamp : Option ℕ} {m : SavedChatMessage}
    (h : m ∈ s.before contactIdHex beforeTimestamp) :
    s.before contactIdHex (some m.timestamp) =
      earlier SavedChatMessage.timestamp m.timestamp (s.before contactIdHex beforeTimestamp) := by
  have hm : beforeTimestamp.all (m.timestamp < ·) = true := (List.mem_filter.1 h).2
  unfold before earlier
  rw [List.filter_filter]
  refine List.filter_congr fun x _ => ?_
  cases beforeTimestamp with
  | none => simp
  | some t =>
    simp only [Option.all_some, decide_eq_true_eq] at hm ⊢
    rw [← Bool.decide_and, decide_eq_decide]
    omega

theorem getMessagesPaginated_eq (beforeTimestamp : Option ℕ) :
    s.getMessagesPaginated contactIdHex limit beforeTimestamp =
      (s.before contactIdHex beforeTimestamp).rtake limit := by
  unfold getMessagesPaginated before getMessagesForContact List.rtake
  rw [List.filter_filter]
  dsimp only
  simp only [Bool.and_comm]
  split
  · rfl
  · rename_i hlength
    rw [Nat.sub_eq_zero_of_le (Nat.le_of_not_lt hlength), List.drop_zero]

/-- Page after page, each with the smallest timestamp of the one before as its cursor, until one is empty. -/
def readPages (beforeTimestamp : Option ℕ) : List (List SavedChatMessage) :=
  match _h : ((s.getMessagesPaginated contactIdHex limit beforeTimestamp).map (·.timestamp)).min? with
  | none => []
  | some t => s.getMessagesPaginated contactIdHex limit beforeTimestamp :: readPages (some t)
termination_by (s.before contactIdHex beforeTimestamp).length
decreasing_by
  rw [getMessagesPaginated_eq] at _h
  obtain ⟨⟨m, hm, rfl⟩, -⟩ := min?_map_eq_some SavedChatMessage.timestamp _h
  have hm := mem_of_mem_rtake limit hm
  rw [before_some s contactIdHex hm]
  exact length_earlier SavedChatMessage.timestamp ⟨m, hm, rfl⟩

theorem readPages_eq (beforeTimestamp : Option ℕ) :
    s.readPages contactIdHex limit beforeTimestamp =
      pages SavedChatMessage.timestamp limit (s.before contactIdHex beforeTimestamp) := by
  induction beforeTimestamp using readPages.induct s contactIdHex limit with
  | case1 cursor h =>
    rw [readPages, pages_of_none _ _ (by rw [← getMessagesPaginated_eq, h])]
    split
    · rfl
    · simp_all
  | case2 cursor t h ih =>
    have hpage : (((s.before contactIdHex cursor).rtake limit).map (·.timestamp)).min? = some t := by
      rw [← getMessagesPaginated_eq, h]
    obtain ⟨⟨m, hm, rfl⟩, -⟩ := min?_map_eq_some SavedChatMessage.timestamp hpage
    rw [readPages, pages_of_some _ _ hpage, ← before_some s contactIdHex (mem_of_mem_rtake limit hm), ← ih,
      getMessagesPaginated_eq]
    split
    · simp_all
    · simp_all

/-- Reading page after page yields every message of the conversation exactly once if and only if,
with the conversation cut into pages by position, every message is strictly earlier than those of
the pages that are read before its own. -/
theorem readPages_perm_iff {limit : ℕ} (hlimit : 1 ≤ limit) :
    (s.readPages contactIdHex limit none).flatten.Perm (s.getMessagesForContact contactIdHex) ↔
      PagesInOrder SavedChatMessage.timestamp limit (s.getMessagesForContact contactIdHex) := by
  rw [readPages_eq, before_none]
  exact flatten_pages_perm_iff SavedChatMessage.timestamp hlimit _

/-- A message that came late, but into the page it belongs to. -/
theorem readPages_perm_iff_late :
    let m : SavedChatMessage :=
      { id := "m1", senderIdHex := "b0", recipientIdHex := "a0", text := "hi", timestamp := 3, incoming := true,
        delivered := false }
    let s : MessageStore := 
      { messages := [m, { m with id := "m3", timestamp := 5 }, { m with id := "m2", timestamp := 4 }] }
    (s.readPages "b0" 2 none).flatten.Perm (s.getMessagesForContact "b0") := by
  intro m s
  exact (readPages_perm_iff s "b0" (by decide)).2 (by decide)

/-- Two messages of one second, read one at a time. -/
theorem readPages_misses_equal_timestamp :
    ¬∀ (s : MessageStore) (contactIdHex : String) (limit : ℕ), 1 ≤ limit →
      (s.readPages contactIdHex limit none).flatten.Perm (s.getMessagesForContact contactIdHex) := by
  intro h
  let m : SavedChatMessage :=
    { id := "m1", senderIdHex := "b0", recipientIdHex := "a0", text := "hi", timestamp := 5, incoming := true,
      delivered := false }
  have hperm := h { messages := [m, { m with id := "m2" }] } "b0" 1 le_rfl
  rw [readPages_eq, before_none, flatten_pages_perm_iff _ one_pos] at hperm
  exact absurd hperm (by decide)

end MessageStore

end NodeX.Messenger
