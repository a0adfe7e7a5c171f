/-
What the wire formats share: big-endian numbers, slices of a buffer that may end too early, and
addresses as the standard library prints them.
-/
import NodeX.Core.Bytes

namespace NodeX

/-! ## Buffers -/

/-- `uN::from_be_bytes`. -/
def beNat (bs : Bytes) : Nat := bs.foldl (fun n b => n * 256 + b.toNat) 0

/-- The `width` big-endian bytes of a number. -/
def toBe : Nat → Nat → Bytes
  | 0, _ => []
  | width + 1, n => UInt8.ofNat (n / 256 ^ width) :: toBe width n

/-- `buf[i..i + n]`, where the buffer reaches that far. -/
def slice? (buf : Bytes) (i n : Nat) : Option Bytes :=
  if i + n ≤ buf.length then some ((buf.drop i).take n) else none

theorem slice?_eq_some {buf s : Bytes} {i n : Nat} :
    slice? buf i n = some s ↔ i + n ≤ buf.length ∧ (buf.drop i).take n = s := by
  unfold slice?
  split
  · rename_i h
    exact ⟨fun hs => ⟨h, Option.some.inj hs⟩, fun hs => congrArg some hs.2⟩
  · rename_i h
    exact ⟨(fun hs => by cases hs), fun hs => absurd hs.1 h⟩

theorem length_of_slice? {buf s : Bytes} {i n : Nat} (h : slice? buf i n = some s) : s.length = n := by
  obtain ⟨hlen, rfl⟩ := slice?_eq_some.1 h
  rw [List.length_take, List.length_drop]
  omega

def u8? (buf : Bytes) (i : Nat) : Option UInt8 := buf[i]?

def u16? (buf : Bytes) (i : Nat) : Option UInt16 := (slice? buf i 2).map fun s => UInt16.ofNat (beNat s)

def u32? (buf : Bytes) (i : Nat) : Option UInt32 := (slice? buf i 4).map fun s => UInt32.ofNat (beNat s)

def u64? (buf : Bytes) (i : Nat) : Option UInt64 := (slice? buf i 8).map fun s => UInt64.ofNat (beNat s)

/-- The 20 bytes of an id. -/
def id? (buf : Bytes) (i : Nat) : Option NodeId :=
  match h : slice? buf i 20 with
  | some s => some ⟨s, length_of_slice? h⟩
  | none => none

/-- The bytes of a fixed-size array. -/
def array? (n : Nat) (buf : Bytes) (i : Nat) : Option (Vector UInt8 n) :=
  match h : slice? buf i n with
  | some s => some ⟨s.toArray, by rw [List.size_toArray, length_of_slice? h]⟩
  | none => none

/-! ## Addresses as text -/

namespace IpAddr

/-- `IpAddr::V4(Ipv4Addr::LOCALHOST)`. -/
def localhost : IpAddr := v4 #v[127, 0, 0, 1]

def isBroadcast : IpAddr → Bool
  | v4 o => o.all (· == 255)
  | v6 _ => false

def dotted (o : Vector UInt8 4) : String := ".".intercalate (o.toList.map fun b => toString b.toNat)

/-- The eight groups of an IPv6 address. -/
def segments (o : Vector UInt8 16) : List Nat :=
  (List.range 8).map fun i => (o[2 * i]?.getD 0).toNat * 256 + (o[2 * i + 1]?.getD 0).toNat

/-- Start and length of the first of the longest runs of zero groups: `run` and `best` are the run that
ends before group `i` and the longest so far. -/
def zeroSpan : List Nat → (i : Nat) → (run best : Nat × Nat) → Nat × Nat
  | [], _, _, best => best
  | 0 :: rest, i, run, best =>
    let run := if run.2 = 0 then (i, 1) else (run.1, run.2 + 1)
    zeroSpan rest (i + 1) run (if run.2 > best.2 then run else best)
  | _ :: rest, i, _, best => zeroSpan rest (i + 1) (0, 0) best

def groupsText (groups : List Nat) : String :=
  ":".intercalate (groups.map fun g => String.ofList (Nat.toDigits 16 g))

/-- `Display` of an address. -/
def display : IpAddr → String
  | v4 o => dotted o
  | v6 o =>
    let groups := segments o
    if groups.take 6 = [0, 0, 0, 0, 0, 0xffff] then
      "::ffff:" ++ dotted (o.drop 12)
    else
      let zeros := zeroSpan groups 0 (0, 0) (0, 0)
      if zeros.2 > 1 then groupsText (groups.take zeros.1) ++ "::" ++ groupsText (groups.drop (zeros.1 + zeros.2))
      else groupsText groups

end IpAddr

namespace SocketAddr

def display (a : SocketAddr) : String :=
  match a.ip with
  | .v4 _ => a.ip.display ++ ":" ++ toString a.port.toNat
  | .v6 _ => "[" ++ a.ip.display ++ "]:" ++ toString a.port.toNat

/-- A target on an unspecified address is meant to be this host. -/
def routable (a : SocketAddr) : SocketAddr :=
  if a.ip.isUnspecified then { a with ip := .localhost } else a

end SocketAddr

end NodeX
