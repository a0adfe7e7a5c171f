/-
Texts that are taken two bytes at a time and read as hex: which of them can be read, and which are cut inside a
character, which is a panic.
-/
import NodeX.Core.Bytes

namespace NodeX

/-! ## Where characters start -/

theorem startsChar_of_ge (b : UInt8) (bs : Bytes) : b < 128 ∨ 192 ≤ b → startsChar (b :: bs) = true :=
  forall_uint8 (p := fun b => b < 128 ∨ 192 ≤ b → (b &&& 0xC0 != 0x80) = true) (by decide +kernel) b

theorem le_ofNat {b : UInt8} {n : Nat} (h : b.toNat ≤ n) (hn : n < 256) : b ≤ UInt8.ofNat n := by
  rw [UInt8.le_iff_toNat_le, UInt8.toNat_ofNat', Nat.mod_eq_of_lt hn]
  exact h

/-- A continuation byte. -/
theorem le_continuation (n : Nat) : 128 ≤ UInt8.ofNat (n % 64 + 128) :=
  le_ofNat (Nat.le_add_left 128 _) (by omega)

/-- The bytes of a character: one below 128, or a first one from 192 on and others from 128 on. -/
theorem utf8EncodeChar_cases (c : Char) : (∃ b, String.utf8EncodeChar c = [b] ∧ b < 128) ∨
    ∃ b bs, String.utf8EncodeChar c = b :: bs ∧ 192 ≤ b ∧ ∀ b' ∈ bs, 128 ≤ b' := by
  unfold String.utf8EncodeChar
  dsimp only
  split
  · refine .inl ⟨_, rfl, ?_⟩
    rw [UInt8.lt_iff_toNat_lt, UInt8.toNat_ofNat']
    show _ % 256 < 128
    omega
  right
  split
  · refine ⟨_, _, rfl, le_ofNat (Nat.le_add_left 192 _) (by omega), ?_⟩
    simp only [List.mem_cons, List.not_mem_nil, or_false, forall_eq, le_continuation]
  split
  · refine ⟨_, _, rfl, le_ofNat (Nat.le_add_left 192 (_ + 32)) (by omega), ?_⟩
    simp only [List.mem_cons, List.not_mem_nil, or_false, forall_eq_or_imp, forall_eq, le_continuation, and_self]
  · refine ⟨_, _, rfl, le_ofNat (Nat.le_add_left 192 (_ + 48)) (by omega), ?_⟩
    simp only [List.mem_cons, List.not_mem_nil, or_false, forall_eq_or_imp, forall_eq, le_continuation, and_self]

/-- After a byte below 128 a character starts. -/
def Aligned : Bytes → Prop
  | [] => True
  | b :: rest => (b < 128 → startsChar rest = true) ∧ Aligned rest

theorem aligned_append : ∀ {bs tail : Bytes}, (∀ b ∈ bs, 128 ≤ b) → Aligned tail → Aligned (bs ++ tail)
  | [], _, _, htail => htail
  | b :: bs, tail, h, htail => by
    obtain ⟨hb, hbs⟩ := List.forall_mem_cons.1 h
    refine ⟨?_, aligned_append hbs htail⟩
    intro hlt
    exact absurd hb (UInt8.not_le.2 hlt)

theorem aligned_flatMap (cs : List Char) :
    startsChar (cs.flatMap String.utf8EncodeChar) = true ∧ Aligned (cs.flatMap String.utf8EncodeChar) := by
  induction cs with
  | nil => exact ⟨rfl, trivial⟩
  | cons c cs ih =>
    rw [List.flatMap_cons]
    rcases utf8EncodeChar_cases c with ⟨b, hc, hb⟩ | ⟨b, bs, hc, hb, hbs⟩
    · rw [hc]
      exact ⟨startsChar_of_ge b _ (.inl hb), fun _ => ih.1, ih.2⟩
    · rw [hc]
      refine ⟨startsChar_of_ge b _ (.inr hb), aligned_append (List.forall_mem_cons.2 ⟨?_, hbs⟩) ih.2⟩
      exact UInt8.le_trans (by decide) hb

theorem aligned_utf8 (s : String) : startsChar (utf8 s) = true ∧ Aligned (utf8 s) := aligned_flatMap s.toList

/-! ## What is read -/

/-- Pieces of two bytes that can all be read. -/
inductive Readable : Bytes → Prop
  | nil : Readable []
  | cons {a b v : UInt8} {rest : Bytes} : hexPair a b = some v → Readable rest → Readable (a :: b :: rest)

def IsHexDigit (b : UInt8) : Prop := (hexValue b).isSome = true

theorem lt_of_isHexDigit (b : UInt8) : IsHexDigit b → b < 128 :=
  forall_uint8 (p := fun b => (hexValue b).isSome = true → b < 128) (by decide +kernel) b

theorem isHexDigit_of_hexPair {a b v : UInt8} (h : hexPair a b = some v) : IsHexDigit b := by
  unfold hexPair at h
  unfold IsHexDigit
  split at h
  · rw [h]
    rfl
  · split at h
    · rename_i hb
      rw [hb]
      rfl
    · cases h

/-- Two digits are a byte. -/
theorem exists_hexPair {a b : UInt8} (ha : IsHexDigit a) (hb : IsHexDigit b) : ∃ v, hexPair a b = some v := by
  obtain ⟨x, hx⟩ := Option.isSome_iff_exists.1 ha
  obtain ⟨y, hy⟩ := Option.isSome_iff_exists.1 hb
  unfold hexPair
  split
  · exact ⟨y, hy⟩
  · rw [hx, hy]
    exact ⟨_, rfl⟩

variable {bs front rest : Bytes}

theorem Readable.even (h : Readable bs) : bs.length % 2 = 0 := by
  induction h with
  | nil => rfl
  | cons _ _ ih =>
    simp only [List.length_cons]
    omega

/-- In a text with characters where they are to be, what is read is what can be. -/
theorem hexPairs_ok_iff : ∀ {bs : Bytes}, startsChar bs = true → Aligned bs →
    ((∃ v, hexPairs bs = .ok v) ↔ Readable bs)
  | [], _, _ => iff_of_true ⟨[], rfl⟩ .nil
  | [_], _, _ => by
    refine iff_of_false (fun h => ?_) fun h => by cases h
    obtain ⟨v, h⟩ := h
    cases h
  | a :: b :: rest, hstart, haligned => by
    rw [hexPairs, hstart, Bool.true_and]
    cases hpair : hexPair a b with
    | none =>
      constructor
      · rintro ⟨v, h⟩
        split at h <;> cases h
      · intro h
        cases h with
        | cons hsome _ =>
          rw [hpair] at hsome
          cases hsome
    | some v =>
      have hrest := haligned.2.1 (lt_of_isHexDigit b (isHexDigit_of_hexPair hpair))
      have ih := hexPairs_ok_iff hrest haligned.2.2
      rw [if_pos hrest]
      constructor
      · rintro ⟨w, h⟩
        obtain ⟨w, hw, -⟩ := Outcome.map_eq_ok.1 h
        exact .cons hpair (ih.1 ⟨w, hw⟩)
      · intro h
        cases h with
        | cons _ hreadable =>
          obtain ⟨w, hw⟩ := ih.2 hreadable
          exact ⟨v :: w, Outcome.map_eq_ok.2 ⟨w, hw, rfl⟩⟩

/-- The first piece that cannot be read ends inside a character. -/
def Splits (bs : Bytes) : Prop :=
  ∃ front a b rest, bs = front ++ a :: b :: rest ∧ Readable front ∧ hexPair a b = none ∧ startsChar rest = false

theorem splits_cons_of_none {a b : UInt8} (h : hexPair a b = none) :
    Splits (a :: b :: rest) ↔ startsChar rest = false := by
  constructor
  · rintro ⟨front, a', b', rest', hsplit, hfront, -, hrest⟩
    cases hfront with
    | nil =>
      cases hsplit
      exact hrest
    | cons hsome _ =>
      cases hsplit
      rw [h] at hsome
      cases hsome
  · intro hrest
    exact ⟨[], a, b, rest, rfl, .nil, h, hrest⟩

theorem splits_cons_of_some {a b v : UInt8} (h : hexPair a b = some v) : Splits (a :: b :: rest) ↔ Splits rest := by
  constructor
  · rintro ⟨front, a', b', rest', hsplit, hfront, hnone, hrest⟩
    cases hfront with
    | nil =>
      cases hsplit
      rw [h] at hnone
      cases hnone
    | cons _ hfront =>
      cases hsplit
      exact ⟨_, a', b', rest', rfl, hfront, hnone, hrest⟩
  · rintro ⟨front, a', b', rest', rfl, hfront, hnone, hrest⟩
    exact ⟨a :: b :: front, a', b', rest', rfl, .cons h hfront, hnone, hrest⟩

/-- A text of even length is a panic where it splits a character. -/
theorem hexPairs_panic_iff : ∀ {bs : Bytes}, startsChar bs = true → Aligned bs → bs.length % 2 = 0 →
    (hexPairs bs = .panic ↔ Splits bs)
  | [], _, _, _ => by
    refine iff_of_false (fun h => by cases h) ?_
    rintro ⟨front, a, b, rest, hsplit, -⟩
    simp at hsplit
  | [_], _, _, heven => by simp at heven
  | a :: b :: rest, hstart, haligned, heven => by
    rw [hexPairs, hstart, Bool.true_and]
    cases hpair : hexPair a b with
    | none =>
      rw [splits_cons_of_none hpair]
      cases startsChar rest <;> simp
    | some v =>
      have hrest := haligned.2.1 (lt_of_isHexDigit b (isHexDigit_of_hexPair hpair))
      have hlen : rest.length % 2 = 0 := by
        simp only [List.length_cons] at heven
        omega
      rw [if_pos hrest, splits_cons_of_some hpair, ← hexPairs_panic_iff hrest haligned.2.2 hlen]
      cases hexPairs rest <;> simp [Outcome.map]

/-- The text of a node id that is cut inside a character. -/
def CutsId (hex : String) : Prop := (utf8 (trim hex)).length = 40 ∧ Splits (utf8 (trim hex))

theorem NodeId.fromHex_eq_panic_iff {hex : String} :
    fromHex hex = .panic ↔ (utf8 (trim hex)).length = 40 ∧ hexPairs (utf8 (trim hex)) = .panic := by
  unfold fromHex
  dsimp only
  split
  · rename_i hlen
    split
    · rename_i h
      simp [h]
    · rename_i h
      simp [h]
    · rename_i h
      simp [h, hlen]
  · rename_i hlen
    simp [hlen]

theorem panic_iff_splits (s : String) : (utf8 s).length = 40 ∧ hexPairs (utf8 s) = .panic ↔
    (utf8 s).length = 40 ∧ Splits (utf8 s) := by
  obtain ⟨hstart, haligned⟩ := aligned_utf8 s
  refine and_congr_right fun hlen => hexPairs_panic_iff hstart haligned ?_
  rw [hlen]

theorem NodeId.fromHex_eq_panic {hex : String} : fromHex hex = .panic ↔ CutsId hex :=
  fromHex_eq_panic_iff.trans (panic_iff_splits (trim hex))

end NodeX
