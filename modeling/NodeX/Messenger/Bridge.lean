/-
The TCP bridge of `messenger.rs`: it takes a STORE frame apart by hand and puts the value into the storage as it is,
where the UDP handler merges it into the mailbox.
-/
import NodeX.Kad.Mailbox

namespace NodeX.Messenger

open NodeX.Lib NodeX.Kad

/-- What the bridge does with the bytes of one read: the storage after it, and what it writes back. -/
def tcpBridge (st : Storage) (buf : Bytes) (now : Nat) : Storage × Option Bytes :=
  if buf.length ≥ 53 ∧ u8? buf 0 = some 3 then
    match id? buf 29, u32? buf 49 with
    | some keyId, some valLen =>
      match slice? buf 53 valLen.toNat with
      | some val => (st.put keyId val (fromSecs 86400) now, some [4, 0])
      | none => (st, none)
    | _, _ => (st, none)
  else (st, none)

/-- The acknowledgement of a STORE that was carried out. -/
def tcpAck : Bytes := [4, 0]

variable {J : ValueJson} {st : Storage} {key : NodeId} {value buf : Bytes} {now : Nat}

/-- The bridge finds the key and the value where the decoder does, and stores the value. -/
theorem tcpBridge_of_decode {requestId : UInt64} {senderId : NodeId}
    (hdec : RpcMessage.decode buf = .ok ⟨requestId, senderId, .store key value⟩) (st : Storage) (now : Nat) :
    tcpBridge st buf now = (st.put key value defaultTtl now, some tcpAck) := by
  obtain ⟨htype, hkey, vlen, hlen, hval⟩ := RpcMessage.decode_store hdec
  have hsize : 53 ≤ buf.length := by
    obtain ⟨s, hs, -⟩ := Option.map_eq_some_iff.1 hlen
    exact (slice?_eq_some.1 hs).1
  have hkey : id? buf 29 = some key := hkey
  have hlen : u32? buf 49 = some vlen := hlen
  have hval : slice? buf 53 vlen.toNat = some value := hval
  unfold tcpBridge
  rw [if_pos ⟨hsize, htype⟩, hkey, hlen]
  dsimp only
  rw [hval]
  rfl

theorem length_of_decode_store {requestId : UInt64} {senderId : NodeId}
    (hdec : RpcMessage.decode buf = .ok ⟨requestId, senderId, .store key value⟩) : 53 + value.length ≤ buf.length := by
  obtain ⟨-, -, vlen, -, hval⟩ := RpcMessage.decode_store hdec
  rw [length_of_slice? hval]
  exact (slice?_eq_some.1 hval).1

/-- Two values put under one key give one storage only if they are equal. -/
theorem put_eq_put_iff {merged : Bytes} (hvalue : value.length ≤ maxStorageBytes)
    (hmerged : merged.length ≤ maxStorageBytes) :
    st.put key value defaultTtl now = st.put key merged defaultTtl now ↔ value = merged := by
  constructor
  · intro h
    have hrec := congrArg (·.record? key) h
    rw [st.record?_put_self key _ _ hvalue, st.record?_put_self key _ _ hmerged] at hrec
    exact congrArg Record.value (Option.some.inj hrec)
  · rintro rfl
    rfl

section Sample

open Kad.Sample

/-- A STORE of an array of texts as it is sent. -/
def storeFrame (texts : List Nat) : Bytes :=
  ((RpcMessage.mk 7 mailboxKey (.store mailboxKey (textJson.printValues texts))).encode.toOption).getD []

end Sample

end NodeX.Messenger
