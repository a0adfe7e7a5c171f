/-
Byte strings, text and identifiers as the crates handle them: UTF-8 bytes, trimming by Unicode
white space, big-endian integers, two-digit hex (with the plus sign `from_str_radix` accepts and
the panic of a slice off a character boundary), node ids, socket addresses.
-/
import Mathlib.Tactic

namespace NodeX

/-- `Vec<u8>` and `&[u8]`. -/
abbrev Bytes := List UInt8

/-- What a fallible function does: return, fail (with a text, if nothing else is said), or panic. -/
inductive Outcome (α : Type) (ε : Type := String) where
  | ok (a : α)
  | err (e : ε)
  | panic
deriving DecidableEq, Repr

namespace Outcome

variable {α β ε ε' : Type}

def map (f : α → β) : Outcome α ε → Outcome β ε
  | ok a => ok (f a)
  | err e => err e
  | panic => panic

def mapErr (f : ε → ε') : Outcome α ε → Outcome α ε'
  | ok a => ok a
  | err e => err (f e)
  | panic => panic

def bind (x : Outcome α ε) (f : α → Outcome β ε) : Outcome β ε :=
  match x with
  | ok a => f a
  | err e => err e
  | panic => panic

def isOk : Outcome α ε → Bool
  | ok _ => true
  | _ => false

theorem bind_eq_ok {x : Outcome α ε} {f : α → Outcome β ε} {b : β} :
    x.bind f = ok b ↔ ∃ a, x = ok a ∧ f a = ok b := by
  cases x <;> simp [bind]

theorem map_eq_ok {x : Outcome α ε} {f : α → β} {b : β} : x.map f = ok b ↔ ∃ a, x = ok a ∧ f a = b := by
  cases x <;> simp [map]

theorem mapErr_eq_ok {x : Outcome α ε} {f : ε → ε'} {a : α} : x.mapErr f = ok a ↔ x = ok a := by
  cases x <;> simp [mapErr]

theorem bind_eq_panic {x : Outcome α ε} {f : α → Outcome β ε} :
    x.bind f = panic ↔ x = panic ∨ ∃ a, x = ok a ∧ f a = panic := by
  cases x <;> simp [bind]

theorem map_eq_panic {x : Outcome α ε} {f : α → β} : x.map f = panic ↔ x = panic := by
  cases x <;> simp [map]

theorem mapErr_eq_panic {x : Outcome α ε} {f : ε → ε'} : x.mapErr f = panic ↔ x = panic := by
  cases x <;> simp [mapErr]

end Outcome

/-! ## Text -/

/-- `str::as_bytes`. -/
def utf8 (s : String) : Bytes := s.toList.flatMap String.utf8EncodeChar

theorem utf8_inj {s t : String} : utf8 s = utf8 t ↔ s = t := by
  constructor
  · intro h
    rw [← String.toByteArray_inj, ← String.utf8Encode_toList, ← String.utf8Encode_toList]
    exact congrArg List.toByteArray h
  · rintro rfl
    rfl

/-- `char::is_whitespace`: the Unicode property `White_Space`. -/
def isWhitespace (c : Char) : Bool :=
  let n := c.toNat
  (9 ≤ n && n ≤ 13) || n == 0x20 || n == 0x85 || n == 0xA0 || n == 0x1680 || (0x2000 ≤ n && n ≤ 0x200A) ||
    n == 0x2028 || n == 0x2029 || n == 0x202F || n == 0x205F || n == 0x3000

/-- `str::trim`. -/
def trim (s : String) : String :=
  String.ofList ((s.toList.dropWhile isWhitespace).reverse.dropWhile isWhitespace).reverse

/-- `u64::to_be_bytes`. -/
def beBytes (n : UInt64) : Bytes :=
  [56, 48, 40, 32, 24, 16, 8, 0].map fun (k : UInt64) => (n >>> k).toUInt8

theorem toNat_byte (n : UInt64) (k : UInt64) : (n >>> k).toUInt8.toNat = n.toNat / 2 ^ (k.toNat % 64) % 256 := by
  rw [UInt64.toNat_toUInt8, UInt64.toNat_shiftRight, Nat.shiftRight_eq_div_pow]

/-- Equal low bytes and equal rests. -/
theorem div_eq_of_byte {m n i j : Nat} (hij : j = i + 8) (hrest : m / 2 ^ j = n / 2 ^ j)
    (hbyte : m / 2 ^ i % 256 = n / 2 ^ i % 256) : m / 2 ^ i = n / 2 ^ i := by
  subst hij
  rw [Nat.pow_add, ← Nat.div_div_eq_div_mul, ← Nat.div_div_eq_div_mul] at hrest
  omega

theorem beBytes_inj {m n : UInt64} (h : beBytes m = beBytes n) : m = n := by
  have hbyte : ∀ k ∈ [56, 48, 40, 32, 24, 16, 8, 0], m.toNat / 2 ^ ((k : UInt64).toNat % 64) % 256 =
      n.toNat / 2 ^ (k.toNat % 64) % 256 := by
    intro k hk
    have hk := List.map_inj_left.1 h k hk
    rw [← toNat_byte, ← toNat_byte, hk]
  simp only [List.forall_mem_cons, List.not_mem_nil, false_imp_iff, implies_true, and_true,
    UInt64.reduceToNat, Nat.reduceMod] at hbyte
  obtain ⟨h7, h6, h5, h4, h3, h2, h1, h0⟩ := hbyte
  have htop : m.toNat / 2 ^ 64 = n.toNat / 2 ^ 64 := by
    rw [Nat.div_eq_of_lt m.toNat_lt, Nat.div_eq_of_lt n.toNat_lt]
  -- from the highest byte down
  have h7 := div_eq_of_byte rfl htop h7
  have h6 := div_eq_of_byte rfl h7 h6
  have h5 := div_eq_of_byte rfl h6 h5
  have h4 := div_eq_of_byte rfl h5 h4
  have h3 := div_eq_of_byte rfl h4 h3
  have h2 := div_eq_of_byte rfl h3 h2
  have h1 := div_eq_of_byte rfl h2 h1
  have h0 := div_eq_of_byte rfl h1 h0
  rw [Nat.pow_zero, Nat.div_one, Nat.div_one] at h0
  exact UInt64.toNat_inj.1 h0

/-! ## Hex -/

def hexDigit (n : UInt8) : Char :=
  if n < 10 then Char.ofNat (48 + n.toNat) else Char.ofNat (87 + n.toNat)

/-- `format!("{:02x}")` of every byte. -/
def hexString (bs : Bytes) : String :=
  String.ofList (bs.flatMap fun (b : UInt8) => [hexDigit (b >>> 4), hexDigit (b &&& 15)])

def hexValue (b : UInt8) : Option UInt8 :=
  if 48 ≤ b && b ≤ 57 then some (b - 48)
  else if 97 ≤ b && b ≤ 102 then some (b - 87)
  else if 65 ≤ b && b ≤ 70 then some (b - 55)
  else none

/-- `u8::from_str_radix(s, 16)` on the two bytes of `s`: one leading plus sign is accepted. -/
def hexPair (a b : UInt8) : Option UInt8 :=
  if a == 43 then hexValue b
  else match hexValue a, hexValue b with
    | some x, some y => some (x * 16 + y)
    | _, _ => none

/-- The next byte starts a character, or the string is at its end. -/
def startsChar : Bytes → Bool
  | [] => true
  | b :: _ => b &&& 0xC0 != 0x80

/-- The pairs `&s[i..i + 2]` of `s`, decoded in order; a slice off a character boundary panics. -/
def hexPairs : Bytes → Outcome Bytes
  | [] => .ok []
  | [_] => .panic
  | a :: b :: rest =>
    if startsChar (a :: b :: rest) && startsChar rest then
      match hexPair a b with
      | none => .err "invalid digit found in string"
      | some v => (hexPairs rest).map (v :: ·)
    else .panic

/-- `messenger::hex_decode`. -/
def hexDecode (s : String) : Outcome (Option Bytes) :=
  let bs := utf8 (trim s)
  if bs.isEmpty || bs.length % 2 != 0 then .ok none
  else match hexPairs bs with
    | .ok v => .ok (some v)
    | .err _ => .ok none
    | .panic => .panic

theorem hexDecode_ne_err (s e : String) : hexDecode s ≠ .err e := by
  unfold hexDecode
  dsimp only
  split
  · exact fun h => by cases h
  · split <;> exact fun h => by cases h

/-! ## Hex that is printed is read back -/

/-- The byte of a hex digit. -/
def hexByte (n : UInt8) : UInt8 := if n < 10 then 48 + n else 87 + n

theorem forall_uint8 {p : UInt8 → Prop} (h : ∀ n : Fin 256, p (UInt8.ofNat n)) (b : UInt8) : p b := by
  have hb : UInt8.ofNat b.toNat = b := by simp
  rw [← hb]
  exact h ⟨b.toNat, b.toNat_lt⟩

/-- The two digits of a byte are read back as that byte. -/
theorem hexPair_hexByte (b : UInt8) : hexPair (hexByte (b >>> 4)) (hexByte (b &&& 15)) = some b :=
  forall_uint8 (p := fun b => hexPair (hexByte (b >>> 4)) (hexByte (b &&& 15)) = some b) (by decide +kernel) b

theorem utf8EncodeChar_hexDigit (b : UInt8) :
    String.utf8EncodeChar (hexDigit (b >>> 4)) = [hexByte (b >>> 4)] ∧
      String.utf8EncodeChar (hexDigit (b &&& 15)) = [hexByte (b &&& 15)] ∧
      startsChar [hexByte (b >>> 4)] = true :=
  forall_uint8 (p := fun b => String.utf8EncodeChar (hexDigit (b >>> 4)) = [hexByte (b >>> 4)] ∧
      String.utf8EncodeChar (hexDigit (b &&& 15)) = [hexByte (b &&& 15)] ∧
      startsChar [hexByte (b >>> 4)] = true) (by decide +kernel) b

theorem utf8_hexString : ∀ bs : Bytes,
    utf8 (hexString bs) = bs.flatMap fun (b : UInt8) => [hexByte (b >>> 4), hexByte (b &&& 15)] := by
  intro bs
  unfold utf8 hexString
  rw [String.toList_ofList]
  induction bs with
  | nil => rfl
  | cons b bs ih =>
    obtain ⟨hhigh, hlow, -⟩ := utf8EncodeChar_hexDigit b
    simp only [List.flatMap_cons, hhigh, hlow, ih, List.cons_append, List.nil_append]

theorem startsChar_hexString : ∀ bs : Bytes, startsChar (utf8 (hexString bs)) = true
  | [] => rfl
  | b :: bs => by
    rw [utf8_hexString, List.flatMap_cons]
    exact (utf8EncodeChar_hexDigit b).2.2

/-- What is printed in hex is read back. -/
theorem hexPairs_hexString : ∀ bs : Bytes, hexPairs (utf8 (hexString bs)) = .ok bs
  | [] => rfl
  | b :: bs => by
    have hstart := startsChar_hexString (b :: bs)
    have hrest := startsChar_hexString bs
    have hih := hexPairs_hexString bs
    rw [utf8_hexString] at hstart hrest hih ⊢
    rw [List.flatMap_cons] at hstart ⊢
    simp only [List.cons_append, List.nil_append] at hstart ⊢
    rw [hexPairs, hstart, hrest]
    simp only [Bool.and_self, if_true, hexPair_hexByte, hih, Outcome.map]

theorem hexString_inj {bs cs : Bytes} : hexString bs = hexString cs ↔ bs = cs := by
  constructor
  · intro h
    have hpairs := hexPairs_hexString bs
    rw [h, hexPairs_hexString] at hpairs
    exact (Outcome.ok.inj hpairs).symm
  · rintro rfl
    rfl

theorem trim_eq_self {s : String} (h : ∀ c ∈ s.toList, isWhitespace c = false) : trim s = s := by
  have hdrop : ∀ l : List Char, (∀ c ∈ l, isWhitespace c = false) → l.dropWhile isWhitespace = l := by
    intro l hl
    cases l with
    | nil => rfl
    | cons c l => rw [List.dropWhile_cons_of_neg (by rw [hl c List.mem_cons_self]; decide)]
  unfold trim
  rw [hdrop s.toList h, hdrop _ (fun c hc => h c (List.mem_reverse.1 hc)), List.reverse_reverse, String.ofList_toList]

theorem isWhitespace_hexDigit (b : UInt8) :
    isWhitespace (hexDigit (b >>> 4)) = false ∧ isWhitespace (hexDigit (b &&& 15)) = false :=
  forall_uint8 (p := fun b => isWhitespace (hexDigit (b >>> 4)) = false ∧ isWhitespace (hexDigit (b &&& 15)) = false)
    (by decide +kernel) b

theorem trim_hexString (bs : Bytes) : trim (hexString bs) = hexString bs := by
  refine trim_eq_self fun c hc => ?_
  unfold hexString at hc
  rw [String.toList_ofList] at hc
  obtain ⟨b, -, hcb⟩ := List.mem_flatMap.1 hc
  rcases List.mem_cons.1 hcb with rfl | hcb
  · exact (isWhitespace_hexDigit b).1
  · obtain rfl := List.mem_singleton.1 hcb
    exact (isWhitespace_hexDigit b).2

/-! ## Node ids -/

/-- A node or user id: 20 bytes. -/
structure NodeId where
  bytes : Bytes
  size : bytes.length = 20
deriving DecidableEq

namespace NodeId

theorem eq_of_bytes {a b : NodeId} (h : a.bytes = b.bytes) : a = b := by
  cases a
  cases b
  cases h
  rfl

def toHex (id : NodeId) : String := hexString id.bytes

theorem hexPairs_length : ∀ {bs v : Bytes}, hexPairs bs = .ok v → bs.length = 2 * v.length
  | [], v, h => by cases h; rfl
  | [_], v, h => by cases h
  | a :: b :: rest, v, h => by
    unfold hexPairs at h
    split at h
    · split at h
      · cases h
      · cases hr : hexPairs rest with
        | ok w =>
          rw [hr] at h
          cases h
          have := hexPairs_length hr
          simp only [List.length_cons]
          omega
        | err e => rw [hr] at h; cases h
        | panic => rw [hr] at h; cases h
    · cases h

/-- `NodeId::from_hex`. -/
def fromHex (s : String) : Outcome NodeId :=
  let bs := utf8 (trim s)
  if h : bs.length = 40 then
    match hv : hexPairs bs with
    | .ok v => .ok ⟨v, by have := hexPairs_length hv; omega⟩
    | .err e => .err ("Invalid hex: " ++ e)
    | .panic => .panic
  else .err ("Expected 40 hex chars, got " ++ toString bs.length)

theorem fromHex_eq_ok {s : String} {id : NodeId} :
    fromHex s = .ok id ↔ hexPairs (utf8 (trim s)) = .ok id.bytes := by
  unfold fromHex
  dsimp only
  constructor
  · intro h
    split at h
    · split at h
      · rename_i v hv
        cases h
        exact hv
      · cases h
      · cases h
    · cases h
  · intro h
    have hlen : (utf8 (trim s)).length = 40 := by rw [hexPairs_length h, id.size]
    rw [dif_pos hlen]
    split
    · rename_i v hv
      rw [h] at hv
      cases hv
      rfl
    · rename_i hv
      rw [h] at hv
      cases hv
    · rename_i hv
      rw [h] at hv
      cases hv

theorem fromHex_toHex (id : NodeId) : fromHex id.toHex = .ok id := by
  rw [fromHex_eq_ok, toHex, trim_hexString, hexPairs_hexString]

theorem toHex_inj {a b : NodeId} : a.toHex = b.toHex ↔ a = b := by
  unfold toHex
  rw [hexString_inj]
  constructor
  · intro h
    exact eq_of_bytes h
  · rintro rfl
    rfl

end NodeId

/-- A key that is printed is decoded again. -/
theorem hexDecode_hexString {bs : Bytes} (h : bs ≠ []) : hexDecode (hexString bs) = .ok (some bs) := by
  have hread := hexPairs_hexString bs
  have hlen := NodeId.hexPairs_length hread
  have hpos : 0 < bs.length := List.length_pos_of_ne_nil h
  unfold hexDecode
  dsimp only
  rw [trim_hexString, if_neg, hread]
  rw [Bool.or_eq_true, not_or]
  constructor
  · rw [List.isEmpty_iff_length_eq_zero]
    omega
  · rw [bne_iff_ne, not_not]
    omega

/-! ## Socket addresses -/

inductive IpAddr where
  | v4 (octets : Vector UInt8 4)
  | v6 (octets : Vector UInt8 16)
deriving DecidableEq

namespace IpAddr

def isUnspecified : IpAddr → Bool
  | v4 o => o.all (· == 0)
  | v6 o => o.all (· == 0)

def isMulticast : IpAddr → Bool
  | v4 o => (224 : UInt8) ≤ o[0] && o[0] ≤ (239 : UInt8)
  | v6 o => o[0] == 255

def isLoopback : IpAddr → Bool
  | v4 o => o[0] == 127
  | v6 o => o.pop.all (· == 0) && o[15] == 1

end IpAddr

structure SocketAddr where
  ip : IpAddr
  port : UInt16
deriving DecidableEq

end NodeX
