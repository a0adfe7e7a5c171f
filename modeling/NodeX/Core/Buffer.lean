/-
Each reader of a buffer returns exactly what stands at its place.
-/
import NodeX.Core.Net
import NodeX.Lib.Cursor

namespace NodeX

open NodeX.Lib

/-! ## Big-endian numbers -/

@[simp] theorem length_toBe : ∀ width n : Nat, (toBe width n).length = width
  | 0, _ => rfl
  | width + 1, n => by rw [toBe, List.length_cons, length_toBe width n]

theorem foldl_beNat (bs : Bytes) : ∀ n : Nat,
    bs.foldl (fun n b => n * 256 + b.toNat) n = n * 256 ^ bs.length + beNat bs := by
  induction bs with
  | nil => simp [beNat]
  | cons b bs ih =>
    intro n
    unfold beNat
    rw [List.foldl_cons, List.foldl_cons, ih, ih, List.length_cons]
    ring

theorem beNat_cons (b : UInt8) (bs : Bytes) : beNat (b :: bs) = b.toNat * 256 ^ bs.length + beNat bs := by
  rw [beNat, List.foldl_cons, foldl_beNat, Nat.zero_mul, Nat.zero_add]

theorem beNat_lt : ∀ bs : Bytes, beNat bs < 256 ^ bs.length
  | [] => Nat.one_pos
  | b :: bs => by
    have hb := b.toNat_lt
    have hbs := beNat_lt bs
    rw [beNat_cons, List.length_cons, pow_succ]
    calc b.toNat * 256 ^ bs.length + beNat bs < b.toNat * 256 ^ bs.length + 256 ^ bs.length := by omega
      _ = (b.toNat + 1) * 256 ^ bs.length := by ring
      _ ≤ 256 * 256 ^ bs.length := Nat.mul_le_mul_right _ (by omega)
      _ = 256 ^ bs.length * 256 := Nat.mul_comm _ _

theorem beNat_toBe : ∀ (width n : Nat), beNat (toBe width n) = n % 256 ^ width
  | 0, n => by rw [toBe, pow_zero, Nat.mod_one]; rfl
  | width + 1, n => by
    have hsplit : n % (256 ^ width * 256) = n % 256 ^ width + 256 ^ width * (n / 256 ^ width % 256) := Nat.mod_mul
    rw [toBe, beNat_cons, beNat_toBe width n, length_toBe, UInt8.toNat_ofNat', pow_succ 256 width, hsplit]
    ring

theorem beNat_inj : ∀ {bs cs : Bytes}, bs.length = cs.length → beNat bs = beNat cs → bs = cs
  | [], [], _, _ => rfl
  | b :: bs, c :: cs, hlen, h => by
    have hlen : bs.length = cs.length := Nat.succ.inj hlen
    have hbs := beNat_lt bs
    have hcs := beNat_lt cs
    rw [beNat_cons, beNat_cons, ← hlen, Nat.add_comm, Nat.add_comm (_ * _) (beNat cs)] at h
    rw [← hlen] at hcs
    have hpos : 0 < 256 ^ bs.length := by positivity
    -- the first byte is the quotient, the rest the remainder
    have hb := congrArg (· / 256 ^ bs.length) h
    have hr := congrArg (· % 256 ^ bs.length) h
    simp only [Nat.add_mul_div_right _ _ hpos, Nat.div_eq_of_lt hbs, Nat.div_eq_of_lt hcs, Nat.zero_add] at hb
    simp only [Nat.add_mul_mod_self_right, Nat.mod_eq_of_lt hbs, Nat.mod_eq_of_lt hcs] at hr
    rw [UInt8.toNat_inj.1 hb, beNat_inj hlen hr]

theorem toBe_beNat {bs : Bytes} {width : Nat} (h : bs.length = width) : toBe width (beNat bs) = bs := by
  subst h
  refine beNat_inj (length_toBe _ _) ?_
  rw [beNat_toBe, Nat.mod_eq_of_lt (beNat_lt bs)]

/-! ## What a reader returns -/

variable {buf : Bytes} {i : Nat}

theorem slice?_of_le {n : Nat} (h : i + n ≤ buf.length) : slice? buf i n = some ((buf.drop i).take n) := if_pos h

theorem slice?_eq_some_iff_at {s : Bytes} {n : Nat} : slice? buf i n = some s ↔ s.length = n ∧ At buf i s := by
  constructor
  · intro h
    have hlen := length_of_slice? h
    subst hlen
    exact ⟨rfl, slice?_eq_some.1 h⟩
  · rintro ⟨rfl, h⟩
    exact slice?_eq_some.2 h

theorem u8?_eq_some {b : UInt8} : u8? buf i = some b ↔ At buf i [b] := at_singleton.symm

/-- A number of `width` bytes, in a type that holds exactly those. -/
theorem be?_eq_some {β : Type} {width : Nat} {ofNat : Nat → β} {toNat : β → Nat} (hof : ∀ b, ofNat (toNat b) = b)
    (hto : ∀ n, n < 256 ^ width → toNat (ofNat n) = n) (hlt : ∀ b, toNat b < 256 ^ width) {b : β} :
    (slice? buf i width).map (fun s => ofNat (beNat s)) = some b ↔ At buf i (toBe width (toNat b)) := by
  rw [Option.map_eq_some_iff]
  constructor
  · rintro ⟨s, hs, rfl⟩
    obtain ⟨hlen, hat⟩ := slice?_eq_some_iff_at.1 hs
    have hbound : beNat s < 256 ^ width := hlen ▸ beNat_lt s
    rwa [hto _ hbound, toBe_beNat hlen]
  · intro h
    refine ⟨_, slice?_eq_some_iff_at.2 ⟨length_toBe _ _, h⟩, ?_⟩
    rw [beNat_toBe, Nat.mod_eq_of_lt (hlt b), hof]

theorem u16?_eq_some {x : UInt16} : u16? buf i = some x ↔ At buf i (toBe 2 x.toNat) :=
  be?_eq_some (fun b => by simp) (fun n hn => by simpa using hn) (fun b => b.toNat_lt)

theorem u32?_eq_some {x : UInt32} : u32? buf i = some x ↔ At buf i (toBe 4 x.toNat) :=
  be?_eq_some (fun b => by simp) (fun n hn => by simpa using hn) (fun b => b.toNat_lt)

theorem u64?_eq_some {x : UInt64} : u64? buf i = some x ↔ At buf i (toBe 8 x.toNat) :=
  be?_eq_some (fun b => by simp) (fun n hn => by simpa using hn) (fun b => b.toNat_lt)

theorem id?_eq_some {id : NodeId} : id? buf i = some id ↔ At buf i id.bytes := by
  have hslice : id? buf i = some id ↔ slice? buf i 20 = some id.bytes := by
    unfold id?
    split
    · rename_i s hs
      constructor
      · rintro ⟨⟩
        exact hs
      · intro h
        rw [h] at hs
        cases hs
        rfl
    · rename_i hs
      rw [hs]
      simp
  rw [hslice, slice?_eq_some_iff_at]
  exact and_iff_right id.size

theorem array?_eq_some {n : Nat} {v : Vector UInt8 n} : array? n buf i = some v ↔ At buf i v.toList := by
  have hslice : array? n buf i = some v ↔ slice? buf i n = some v.toList := by
    unfold array?
    split
    · rename_i s hs
      constructor
      · rintro ⟨⟩
        exact hs
      · intro h
        rw [h] at hs
        cases hs
        rfl
    · rename_i hs
      rw [hs]
      simp
  rw [hslice, slice?_eq_some_iff_at]
  exact and_iff_right Vector.length_toList

/-! ## Reads within the buffer -/

theorem exists_slice? {n : Nat} (h : i + n ≤ buf.length) : ∃ s, slice? buf i n = some s := ⟨_, slice?_of_le h⟩

theorem exists_id? (h : i + 20 ≤ buf.length) : ∃ id, id? buf i = some id := by
  obtain ⟨s, hs⟩ := exists_slice? h
  obtain ⟨hlen, hat⟩ := slice?_eq_some_iff_at.1 hs
  exact ⟨⟨s, hlen⟩, id?_eq_some.2 hat⟩

theorem exists_u8? (h : i + 1 ≤ buf.length) : ∃ b, u8? buf i = some b := ⟨_, List.getElem?_eq_getElem h⟩

theorem exists_u16? (h : i + 2 ≤ buf.length) : ∃ n, u16? buf i = some n :=
  ⟨_, by rw [u16?, slice?_of_le h, Option.map_some]⟩

theorem exists_u32? (h : i + 4 ≤ buf.length) : ∃ n, u32? buf i = some n :=
  ⟨_, by rw [u32?, slice?_of_le h, Option.map_some]⟩

theorem exists_u64? (h : i + 8 ≤ buf.length) : ∃ n, u64? buf i = some n :=
  ⟨_, by rw [u64?, slice?_of_le h, Option.map_some]⟩

end NodeX
