/-
Texts put together from pieces: numbers in a base up to sixteen, pieces joined by a separator that stands in none of
them, and pieces with a gap, of which the empty part shows where the gap is.
-/
import Mathlib.Tactic

namespace NodeX.Lib

/-! ## Numbers -/

theorem digitChar_inj {m n : ℕ} (hm : m < 16) (hn : n < 16) (h : Nat.digitChar m = Nat.digitChar n) : m = n :=
  (by decide : ∀ m n : Fin 16, Nat.digitChar m = Nat.digitChar n → (m : ℕ) = n) ⟨m, hm⟩ ⟨n, hn⟩ h

/-- A number is known by its digits. -/
theorem toDigits_inj {b : ℕ} (hb : 1 < b) (hb' : b ≤ 16) :
    ∀ {m n : ℕ}, Nat.toDigits b m = Nat.toDigits b n → m = n := by
  intro m
  induction m using Nat.strong_induction_on with
  | _ m ih =>
    intro n h
    rw [Nat.toDigits_eq_if hb, Nat.toDigits_eq_if hb (n := n)] at h
    have hlast : ∀ k, k % b < 16 := fun k => (Nat.mod_lt k (by omega)).trans_le hb'
    split at h
    · split at h
      · exact digitChar_inj (by omega) (by omega) (List.singleton_inj.1 h)
      · have hlen := congrArg List.length h
        simp at hlen
    · split at h
      · have hlen := congrArg List.length h
        simp at hlen
      · rename_i hm hn
        obtain ⟨hrest, hdigit⟩ := List.append_inj' h rfl
        have hdiv := ih (m / b) (Nat.div_lt_self (by omega) hb) hrest
        have hmod := digitChar_inj (hlast m) (hlast n) (List.singleton_inj.1 hdigit)
        rw [← Nat.div_add_mod m b, ← Nat.div_add_mod n b, hdiv, hmod]

theorem exists_of_mem_toDigits {b : ℕ} (hb : 1 < b) {n : ℕ} {c : Char} (h : c ∈ Nat.toDigits b n) :
    ∃ d < b, c = Nat.digitChar d := by
  induction n using Nat.strong_induction_on with
  | _ n ih =>
    rw [Nat.toDigits_eq_if hb] at h
    split at h
    · exact ⟨n, ‹_›, List.mem_singleton.1 h⟩
    · rcases List.mem_append.1 h with h | h
      · exact ih (n / b) (Nat.div_lt_self (by omega) hb) h
      · exact ⟨n % b, Nat.mod_lt n (by omega), List.mem_singleton.1 h⟩

/-- What is no digit stands in no number. -/
theorem not_mem_toDigits {b : ℕ} (hb : 1 < b) (hb' : b ≤ 16) {c : Char} (hc : ∀ d : Fin 16, Nat.digitChar d ≠ c)
    (n : ℕ) : c ∉ Nat.toDigits b n := by
  intro h
  obtain ⟨d, hd, rfl⟩ := exists_of_mem_toDigits hb h
  exact hc ⟨d, by omega⟩ rfl

/-! ## Separators -/

variable {α β : Type*}

/-- The part before the first separator, and what follows it. -/
theorem append_cons_inj {c : α} {s t : List α} (hs : c ∉ s) (ht : c ∉ t) {r r' : List α}
    (h : s ++ c :: r = t ++ c :: r') : s = t ∧ r = r' := by
  induction s generalizing t with
  | nil =>
    cases t with
    | nil => exact ⟨rfl, List.tail_eq_of_cons_eq h⟩
    | cons x t => exact absurd (List.head_eq_of_cons_eq h ▸ List.mem_cons_self) ht
  | cons x s ih =>
    cases t with
    | nil => exact absurd (List.head_eq_of_cons_eq h ▸ List.mem_cons_self) hs
    | cons y t =>
      rw [List.cons_append, List.cons_append, List.cons.injEq] at h
      obtain ⟨rfl, htail⟩ := h
      have hs' : c ∉ s := fun hmem => hs (List.mem_cons_of_mem _ hmem)
      have ht' : c ∉ t := fun hmem => ht (List.mem_cons_of_mem _ hmem)
      obtain ⟨rfl, hr⟩ := ih hs' ht' htail
      exact ⟨rfl, hr⟩

/-- Joined pieces are known by what they are joined to. -/
theorem intercalate_inj [DecidableEq α] {c : α} {l m : List (List α)} (hl : ∀ s ∈ l, c ∉ s) (hm : ∀ s ∈ m, c ∉ s)
    (hl' : l ≠ []) (hm' : m ≠ []) (h : [c].intercalate l = [c].intercalate m) : l = m := by
  rw [← List.splitOn_intercalate c hl hl', h, List.splitOn_intercalate c hm hm']

theorem mem_intercalate {c x : α} : ∀ {l : List (List α)}, x ∈ [c].intercalate l → x = c ∨ ∃ s ∈ l, x ∈ s
  | [], h => by cases h
  | [s], h => .inr ⟨s, List.mem_singleton_self s, by rwa [List.intercalate_singleton] at h⟩
  | s :: t :: l, h => by
    rw [List.intercalate_cons_cons, List.append_assoc] at h
    rcases List.mem_append.1 h with h | h
    · exact .inr ⟨s, List.mem_cons_self, h⟩
    · rcases List.mem_append.1 h with h | h
      · exact .inl (List.mem_singleton.1 h)
      · rcases mem_intercalate h with h | ⟨u, hu, h⟩
        · exact .inl h
        · exact .inr ⟨u, List.mem_cons_of_mem _ hu, h⟩

/-- Joined pieces without a separator in them are split where they were joined. -/
theorem splitOnP_intercalate {p : α → Bool} {c : α} (hc : p c = true) : ∀ {l : List (List α)},
    (∀ s ∈ l, ∀ x ∈ s, p x = false) → l ≠ [] → ([c].intercalate l).splitOnP p = l
  | [], _, hl => absurd rfl hl
  | [s], h, _ => by
    rw [List.intercalate_singleton]
    exact List.splitOnP_eq_singleton (h s (List.mem_singleton_self s))
  | s :: t :: l, h, _ => by
    obtain ⟨hs, htail⟩ := List.forall_mem_cons.1 h
    rw [List.intercalate_cons_cons, List.append_assoc, List.singleton_append,
      List.splitOnP_append_cons_of_forall_mem hs c hc, splitOnP_intercalate hc htail (by simp)]

/-- What is split off has no separator in it. -/
theorem not_of_mem_splitOnP {p : α → Bool} : ∀ {l : List α}, ∀ s ∈ l.splitOnP p, ∀ x ∈ s, p x = false
  | [], s, hs, x, hx => by
    rw [List.splitOnP_nil] at hs
    rw [List.mem_singleton.1 hs] at hx
    cases hx
  | a :: l, s, hs, x, hx => by
    have ih := not_of_mem_splitOnP (p := p) (l := l)
    rw [List.splitOnP_cons_eq_if_modifyHead] at hs
    split at hs
    · rcases List.mem_cons.1 hs with rfl | hs
      · cases hx
      · exact ih s hs x hx
    · rename_i ha
      cases hsplit : l.splitOnP p with
      | nil => exact absurd hsplit (List.splitOnP_ne_nil p l)
      | cons first rest =>
        rw [hsplit] at hs ih
        rw [List.modifyHead_cons] at hs
        rcases List.mem_cons.1 hs with rfl | hs
        · rcases List.mem_cons.1 hx with rfl | hx
          · simpa using ha
          · exact ih first List.mem_cons_self x hx
        · exact ih s (List.mem_cons_of_mem _ hs) x hx

/-- Joined pieces that are not empty begin and end with a piece. -/
theorem exists_ends_intercalate {c : α} : ∀ {l : List (List α)}, l ≠ [] → (∀ s ∈ l, s ≠ []) →
    (∃ s ∈ l, ∃ x ∈ s, ∃ tail, [c].intercalate l = x :: tail) ∧
      ∃ s ∈ l, ∃ x ∈ s, ∃ front, [c].intercalate l = front ++ [x]
  | [], hl, _ => absurd rfl hl
  | [s], _, h => by
    have hs := h s (List.mem_singleton_self s)
    rw [List.intercalate_singleton]
    obtain ⟨x, tail, rfl⟩ := List.exists_cons_of_ne_nil hs
    refine ⟨⟨_, List.mem_singleton_self _, x, List.mem_cons_self, tail, rfl⟩,
      ⟨_, List.mem_singleton_self _, _, List.getLast_mem hs, _, (List.dropLast_append_getLast hs).symm⟩⟩
  | s :: t :: l, _, h => by
    obtain ⟨hs, htail⟩ := List.forall_mem_cons.1 h
    obtain ⟨-, u, hu, y, hy, front, hlast⟩ := exists_ends_intercalate (c := c) (List.cons_ne_nil t l) htail
    obtain ⟨x, tail, rfl⟩ := List.exists_cons_of_ne_nil hs
    rw [List.intercalate_cons_cons, hlast]
    refine ⟨⟨_, List.mem_cons_self, x, List.mem_cons_self, _, rfl⟩,
      ⟨u, List.mem_cons_of_mem _ hu, y, hy, _, (List.append_assoc ..).symm⟩⟩

/-- A text is not stripped of what it does not begin or end with. -/
theorem strip_eq_self {p : α → Bool} {l : List α} (hhead : ∃ x tail, l = x :: tail ∧ p x = false)
    (hlast : ∃ x front, l = front ++ [x] ∧ p x = false) :
    ((l.dropWhile p).reverse.dropWhile p).reverse = l := by
  obtain ⟨x, tail, rfl, hx⟩ := hhead
  obtain ⟨y, front, hl, hy⟩ := hlast
  rw [List.dropWhile_cons_of_neg (by simp [hx]), hl, List.reverse_append, List.reverse_singleton,
    List.singleton_append, List.dropWhile_cons_of_neg (by simp [hy]), List.reverse_cons, List.reverse_reverse]

/-! ## Gaps -/

/-- No pieces at all, joined, are one empty piece. -/
def padded (l : List (List α)) : List (List α) := if l = [] then [[]] else l

theorem intercalate_padded (c : List α) (l : List (List α)) : c.intercalate (padded l) = c.intercalate l := by
  unfold padded
  split
  · rename_i hl
    rw [hl]
    rfl
  · rfl

theorem padded_ne_nil (l : List (List α)) : padded l ≠ [] := by
  unfold padded
  split <;> simp_all

theorem intercalate_append (c : List α) : ∀ {l m : List (List α)}, l ≠ [] → m ≠ [] →
    c.intercalate (l ++ m) = c.intercalate l ++ c ++ c.intercalate m
  | [], _, hl, _ => absurd rfl hl
  | [s], m, _, hm => by
    rw [List.singleton_append, List.intercalate_cons_of_ne_nil hm, List.intercalate_singleton]
  | s :: t :: l, m, _, hm => by
    have htail := intercalate_append c (List.cons_ne_nil t l) hm
    rw [List.cons_append, List.intercalate_cons_of_ne_nil (by simp), htail,
      List.intercalate_cons_of_ne_nil (List.cons_ne_nil t l)]
    simp only [List.append_assoc]

/-- Pieces with a gap after the first of them: an empty piece, and an empty one beside it where a side has none. -/
def gapped (l m : List (List α)) : List (List α) := padded l ++ [] :: padded m

theorem intercalate_gapped (c : α) (l m : List (List α)) :
    [c].intercalate (gapped l m) = [c].intercalate l ++ [c, c] ++ [c].intercalate m := by
  unfold gapped
  rw [intercalate_append _ (padded_ne_nil l) (by simp), List.intercalate_cons_of_ne_nil (padded_ne_nil m),
    intercalate_padded, intercalate_padded]
  simp

/-- The pieces before the first empty one. -/
theorem takeWhile_padded [DecidableEq α] {l : List (List α)} (hl : ∀ s ∈ l, s ≠ []) (r : List (List α)) :
    (padded l ++ [] :: r).takeWhile (· ≠ []) = l := by
  unfold padded
  split
  · rename_i h
    rw [h]
    rfl
  · rw [List.takeWhile_append_of_pos fun s hs => decide_eq_true (hl s hs), List.takeWhile_cons_of_neg (by simp),
      List.append_nil]

theorem reverse_gapped (l m : List (List α)) : (gapped l m).reverse = gapped m.reverse l.reverse := by
  have hpadded : ∀ k : List (List α), (padded k).reverse = padded k.reverse := by
    intro k
    unfold padded
    by_cases hk : k = []
    · simp [hk]
    · simp [hk]
  unfold gapped
  simp [hpadded]

/-- What stands on both sides of a gap is known by the pieces. -/
theorem gapped_inj [DecidableEq α] {l m l' m' : List (List α)} (hl : ∀ s ∈ l, s ≠ []) (hm : ∀ s ∈ m, s ≠ [])
    (hl' : ∀ s ∈ l', s ≠ []) (hm' : ∀ s ∈ m', s ≠ []) (h : gapped l m = gapped l' m') : l = l' ∧ m = m' := by
  have hreverse := congrArg List.reverse h
  rw [reverse_gapped, reverse_gapped] at hreverse
  constructor
  · rw [← takeWhile_padded hl (padded m), ← takeWhile_padded hl' (padded m')]
    exact congrArg _ h
  · have hback : m.reverse = m'.reverse := by
      rw [← takeWhile_padded (l := m.reverse) (by simpa using hm) (padded l.reverse),
        ← takeWhile_padded (l := m'.reverse) (by simpa using hm') (padded l'.reverse)]
      exact congrArg _ hreverse
    exact List.reverse_injective hback

/-- Pieces without a gap are not pieces with one. -/
theorem nil_mem_gapped (l m : List (List α)) : [] ∈ gapped l m := by simp [gapped]

/-! ## Parts in brackets -/

/-- A part of a text between two characters that it does not have is a part of what stands between them. -/
theorem infix_of_infix_enclosed {part l : List α} {a b : α} (ha : a ∉ part) (hb : b ∉ part)
    (h : part <:+: a :: (l ++ [b])) : part <:+: l := by
  have hinside : part <:+: l ++ [b] := by
    rcases List.infix_cons_iff.1 h with hfront | hinside
    · rcases List.prefix_cons_iff.1 hfront with rfl | ⟨rest, rfl, -⟩
      · exact List.nil_infix
      · exact absurd List.mem_cons_self ha
    · exact hinside
  rcases List.infix_concat_iff.1 hinside with hback | hl
  · rcases List.suffix_concat_iff.1 hback with rfl | ⟨rest, rfl, -⟩
    · exact List.nil_infix
    · exact absurd (List.mem_append_right _ (List.mem_singleton_self b)) hb
  · exact hl

end NodeX.Lib
