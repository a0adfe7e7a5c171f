/-
Mailbox records as JSON: what the DHT reads and writes (arrays of untyped values) and what the
messenger reads and writes (envelopes), with what `serde_json` guarantees about the two.
-/
import NodeX.Kad.Merge
import NodeX.Lib.Codec
import NodeX.Messenger.Envelope

namespace NodeX.Messenger

open NodeX.Lib

/-- `serde_json` on mailbox records: untyped values, and typed envelopes. -/
structure MailboxJson extends Kad.ValueJson where
  /-- `from_value::<EncryptedEnvelope>`: which values are well-formed envelopes -/
  asEnvelope : Value → Option EncryptedEnvelope
  /-- `from_slice::<Vec<EncryptedEnvelope>>` -/
  parseEnvelopes : Bytes → Option (List EncryptedEnvelope)
  /-- `from_slice::<EncryptedEnvelope>` -/
  parseEnvelope : Bytes → Option EncryptedEnvelope
  /-- `to_vec` of a list of envelopes -/
  printEnvelopes : List EncryptedEnvelope → Bytes

namespace MailboxJson

variable (J : MailboxJson)

/-- How the messenger reads a record: as a list of envelopes, else as one envelope, else as nothing. -/
def readEnvelopes (bytes : Bytes) : List EncryptedEnvelope :=
  match J.parseEnvelopes bytes with
  | some list => list
  | none =>
    match J.parseEnvelope bytes with
    | some single => [single]
    | none => []

/-- The envelopes a value holds: the elements of an array that are one, or the value itself. -/
def envelopesIn (bytes : Bytes) : List EncryptedEnvelope :=
  match J.parseValues bytes with
  | some values => values.filterMap J.asEnvelope
  | none => (J.parseEnvelope bytes).toList

/-- What the code relies on: a written array reads back with the same envelopes in the same places;
an array is read as envelopes exactly if every element is one; and an array that reads as one
envelope (its fields in order) has no envelope among its elements. -/
structure Lawful : Prop where
  values_printValues : ∀ values, ∃ values', J.parseValues (J.printValues values) = some values' ∧
    values'.map J.asEnvelope = values.map J.asEnvelope
  values_printEnvelopes : ∀ envelopes, ∃ values, J.parseValues (J.printEnvelopes envelopes) = some values ∧
    values.map J.asEnvelope = envelopes.map some
  envelopes_printValues : ∀ values, J.parseEnvelopes (J.printValues values) = values.mapM J.asEnvelope
  envelopes_printEnvelopes : ∀ envelopes, J.parseEnvelopes (J.printEnvelopes envelopes) = some envelopes
  envelope_printValues : ∀ values e, J.parseEnvelope (J.printValues values) = some e →
    ∀ v ∈ values, J.asEnvelope v = none

variable {J}

theorem envelopesIn_printValues (hJ : J.Lawful) (values : List J.Value) :
    J.envelopesIn (J.printValues values) = values.filterMap J.asEnvelope := by
  obtain ⟨values', hp, hm⟩ := hJ.values_printValues values
  have hf := congrArg (List.filterMap id) hm
  rw [List.filterMap_map, List.filterMap_map] at hf
  unfold envelopesIn
  rw [hp]
  exact hf

theorem envelopesIn_printEnvelopes (hJ : J.Lawful) (envelopes : List EncryptedEnvelope) :
    J.envelopesIn (J.printEnvelopes envelopes) = envelopes := by
  obtain ⟨values, hp, hm⟩ := hJ.values_printEnvelopes envelopes
  have hf := congrArg (List.filterMap id) hm
  rw [List.filterMap_map, List.filterMap_map] at hf
  unfold envelopesIn
  rw [hp]
  refine hf.trans ?_
  exact List.filterMap_some

theorem readEnvelopes_printEnvelopes (hJ : J.Lawful) (envelopes : List EncryptedEnvelope) :
    J.readEnvelopes (J.printEnvelopes envelopes) = envelopes := by
  unfold readEnvelopes
  rw [hJ.envelopes_printEnvelopes]

end MailboxJson

/-! ## An instance to evaluate runs with -/

namespace Sample

open Codec

theorem head?_uint8 (b : UInt8) (rest : Bytes) : (uint8.print b ++ rest).head? ≠ some 93 :=
  head?_natDigits b.toNat rest rfl

def bytesCodec : Codec Bytes := list uint8 head?_uint8

def nodeIdCodec : Codec NodeId :=
  bytesCodec.map (fun bs => if h : bs.length = 20 then some ⟨bs, h⟩ else none) NodeId.bytes fun id => by
    rw [dif_pos id.size]

variable {α β : Type}

/-- A comma, the quoted name with its colon, and the value. -/
def field (name : String) (c : Codec α) : Codec α := before (44 :: utf8 name) c

/-- A field, and the fields after it. -/
def fieldThen (name : String) (c : Codec α) (d : Codec β) (hd : ∀ b rest, Stops (d.print b ++ rest)) :
    Codec (α × β) := field name (pair c d hd)

theorem stops_fieldThen (name : String) (c : Codec α) (d : Codec β) (hd : ∀ b rest, Stops (d.print b ++ rest))
    (p : α × β) (rest : Bytes) : Stops ((fieldThen name c d hd).print p ++ rest) := stops_cons _ rfl

/-- The last field and the closing brace. -/
def lastField (name : String) (c : Codec α) : Codec α :=
  (field name c).after [125] fun rest => stops_cons rest rfl

theorem stops_lastField (name : String) (c : Codec α) (a : α) (rest : Bytes) :
    Stops ((lastField name c).print a ++ rest) := stops_cons _ rfl

/-- The fields from `recipient_id` on, in the order of the declaration. -/
def declaredTail : Codec (NodeId × Bytes × Bytes × Bytes × UInt64) :=
  fieldThen "\"recipient_id\":" nodeIdCodec
    (fieldThen "\"nonce\":" bytesCodec
      (fieldThen "\"ciphertext\":" bytesCodec
        (fieldThen "\"signature\":" bytesCodec (lastField "\"timestamp\":" uint64) (stops_lastField _ _))
        (stops_fieldThen _ _ _ _)) (stops_fieldThen _ _ _ _)) (stops_fieldThen _ _ _ _)

/-- The fields from `nonce` on, in alphabetical order. -/
def sortedTail : Codec (Bytes × NodeId × Bytes × NodeId × Bytes × Bytes × UInt64 × UInt8) :=
  fieldThen "\"nonce\":" bytesCodec
    (fieldThen "\"recipient_id\":" nodeIdCodec
      (fieldThen "\"sender_ed25519_pub\":" bytesCodec
        (fieldThen "\"sender_id\":" nodeIdCodec
          (fieldThen "\"sender_x25519_pub\":" bytesCodec
            (fieldThen "\"signature\":" bytesCodec
              (fieldThen "\"timestamp\":" uint64 (lastField "\"version\":" uint8) (stops_lastField _ _))
              (stops_fieldThen _ _ _ _)) (stops_fieldThen _ _ _ _)) (stops_fieldThen _ _ _ _))
        (stops_fieldThen _ _ _ _)) (stops_fieldThen _ _ _ _)) (stops_fieldThen _ _ _ _)

/-- The optional ephemeral key, and the fields after it. -/
def ephemeralThen (d : Codec β) (hd : ∀ b rest, Stops (d.print b ++ rest))
    (hne : ∀ b rest, (fieldThen "\"ephemeral_x25519_pub\":" bytesCodec d hd).parse (d.print b ++ rest) = none) :
    Codec (Option Bytes × β) :=
  (Codec.sum (fieldThen "\"ephemeral_x25519_pub\":" bytesCodec d hd) d hne).map
    (fun
      | .inl (eph, b) => some (some eph, b)
      | .inr b => some (none, b))
    (fun
      | (some eph, b) => .inl (eph, b)
      | (none, b) => .inr b)
    fun
      | (some _, _) => rfl
      | (none, _) => rfl

theorem stops_ephemeralThen (d : Codec β) (hd : ∀ b rest, Stops (d.print b ++ rest))
    (hne : ∀ b rest, (fieldThen "\"ephemeral_x25519_pub\":" bytesCodec d hd).parse (d.print b ++ rest) = none) :
    ∀ p rest, Stops ((ephemeralThen d hd hne).print p ++ rest)
  | (some _, _), _ => stops_cons _ rfl
  | (none, b), rest => hd b rest

def declaredEph : Codec (Option Bytes × NodeId × Bytes × Bytes × Bytes × UInt64) :=
  ephemeralThen declaredTail (stops_fieldThen _ _ _ _) fun _ _ => rfl

def sortedEph : Codec (Option Bytes × Bytes × NodeId × Bytes × NodeId × Bytes × Bytes × UInt64 × UInt8) :=
  ephemeralThen sortedTail (stops_fieldThen _ _ _ _) fun _ _ => rfl

/-- An envelope as a struct is written: the fields in the order of the declaration. -/
def declaredEnvelope : Codec EncryptedEnvelope :=
  (before (utf8 "\x7b\"version\":")
    (pair uint8
      (fieldThen "\"sender_id\":" nodeIdCodec
        (fieldThen "\"sender_ed25519_pub\":" bytesCodec
          (fieldThen "\"sender_x25519_pub\":" bytesCodec declaredEph (stops_ephemeralThen _ _ _))
          (stops_fieldThen _ _ _ _)) (stops_fieldThen _ _ _ _)) (stops_fieldThen _ _ _ _))).map
    (fun (version, senderId, ed, x, eph, recipientId, nonce, ciphertext, signature, timestamp) =>
      some ⟨version, senderId, ed, x, eph, recipientId, nonce, ciphertext, signature, timestamp⟩)
    (fun e => (e.version, e.senderId, e.senderEd25519Pub, e.senderX25519Pub, e.ephemeralX25519Pub, e.recipientId,
      e.nonce, e.ciphertext, e.signature, e.timestamp))
    fun _ => rfl

/-- An envelope as an untyped value is written: the fields in alphabetical order. -/
def sortedEnvelope : Codec EncryptedEnvelope :=
  (before (utf8 "\x7b\"ciphertext\":") (pair bytesCodec sortedEph (stops_ephemeralThen _ _ _))).map
    (fun (ciphertext, eph, nonce, recipientId, ed, senderId, x, signature, timestamp, version) =>
      some ⟨version, senderId, ed, x, eph, recipientId, nonce, ciphertext, signature, timestamp⟩)
    (fun e => (e.ciphertext, e.ephemeralX25519Pub, e.nonce, e.recipientId, e.senderEd25519Pub, e.senderId,
      e.senderX25519Pub, e.signature, e.timestamp, e.version))
    fun _ => rfl

/-- No number starts with a brace. -/
theorem parse_brace_natDigits (lit : Bytes) (c : Codec α) (n : Nat) (rest : Bytes) :
    (before (123 :: lit) c).parse (natDigits n ++ rest) = none := by
  have hhead := head?_natDigits n rest (b := 123) rfl
  cases hs : natDigits n ++ rest with
  | nil => rfl
  | cons b s =>
    rw [hs] at hhead
    have hne : ¬(123 : UInt8) = b := fun h => hhead (by rw [h]; rfl)
    change (dropLit (123 :: lit) (b :: s)).bind c.parse = none
    rw [dropLit, if_neg hne]
    rfl

/-- An envelope with its fields in alphabetical order, or a number. -/
def sortedItem : Codec (EncryptedEnvelope ⊕ Nat) :=
  Codec.sum sortedEnvelope Codec.nat fun n rest => by
    change ((before (123 :: utf8 "\"ciphertext\":") _).parse (natDigits n ++ rest)).bind _ = none
    rw [parse_brace_natDigits]
    rfl

/-- The items a reader takes: envelopes in either order of the fields, and numbers. -/
def anyItem : Codec (EncryptedEnvelope ⊕ (EncryptedEnvelope ⊕ Nat)) :=
  Codec.sum declaredEnvelope sortedItem fun
    | .inl _, _ => rfl
    | .inr n, rest => by
      change ((before (123 :: utf8 "\"version\":") _).parse (natDigits n ++ rest)).bind _ = none
      rw [parse_brace_natDigits]
      rfl

/-- The items as they are read, with a choice of how they are written. -/
def itemCodec (order : EncryptedEnvelope ⊕ Nat → EncryptedEnvelope ⊕ (EncryptedEnvelope ⊕ Nat))
    (h : ∀ v, Sum.elim Sum.inl id (order v) = v) : Codec (EncryptedEnvelope ⊕ Nat) :=
  anyItem.map (fun v => some (Sum.elim Sum.inl id v)) order fun v => congrArg some (h v)

theorem head?_anyItem : ∀ v rest, (anyItem.print v ++ rest).head? ≠ some 93
  | .inl _, _, h => absurd (Option.some.inj h) (by decide)
  | .inr (.inl _), _, h => absurd (Option.some.inj h) (by decide)
  | .inr (.inr n), rest, h => head?_natDigits n rest rfl h

/-- Arrays of untyped values as they are written. -/
def valuesCodec : Codec (List (EncryptedEnvelope ⊕ Nat)) :=
  list (itemCodec .inr fun _ => rfl) fun v => head?_anyItem (.inr v)

/-- Envelopes stand in the order of the declaration. -/
def declaredOrder : EncryptedEnvelope ⊕ Nat → EncryptedEnvelope ⊕ (EncryptedEnvelope ⊕ Nat)
  | .inl e => .inl e
  | .inr n => .inr (.inr n)

theorem declaredOrder_read : ∀ v, Sum.elim Sum.inl id (declaredOrder v) = v
  | .inl _ => rfl
  | .inr _ => rfl

/-- The same arrays, read the same way and written with the other order of the fields. -/
def declaredCodec : Codec (List (EncryptedEnvelope ⊕ Nat)) :=
  list (itemCodec declaredOrder declaredOrder_read) fun v => head?_anyItem (declaredOrder v)

/-- A list of envelopes: every element has to be one. -/
def readList (bytes : Bytes) : Option (List EncryptedEnvelope) :=
  match valuesCodec.parseAll bytes with
  | some values => values.mapM Sum.getLeft?
  | none => none

def readSingle (bytes : Bytes) : Option EncryptedEnvelope :=
  match anyItem.parseAll bytes with
  | some v => (Sum.elim Sum.inl id v).getLeft?
  | none => none

/-- JSON for envelopes and numbers. -/
def mailboxJson : MailboxJson where
  Value := EncryptedEnvelope ⊕ Nat
  parseValues := valuesCodec.parseAll
  printValue := sortedItem.print
  printValues := valuesCodec.print
  asEnvelope := Sum.getLeft?
  parseEnvelopes := readList
  parseEnvelope := readSingle
  printEnvelopes envelopes := declaredCodec.print (envelopes.map .inl)

theorem mapM_getLeft? : ∀ envelopes : List EncryptedEnvelope,
    (envelopes.map (Sum.inl (β := Nat))).mapM Sum.getLeft? = some envelopes
  | [] => rfl
  | e :: envelopes => by
    rw [List.map_cons, List.mapM_cons, mapM_getLeft? envelopes]
    rfl

theorem readList_values (values : List (EncryptedEnvelope ⊕ Nat)) :
    readList (valuesCodec.print values) = values.mapM Sum.getLeft? := by
  unfold readList
  rw [valuesCodec.parseAll_print]

/-- Both writers' arrays read the same. -/
theorem readList_declared (envelopes : List EncryptedEnvelope) :
    readList (declaredCodec.print (envelopes.map .inl)) = some envelopes := by
  have h : valuesCodec.parseAll (declaredCodec.print (envelopes.map .inl)) = some (envelopes.map .inl) :=
    declaredCodec.parseAll_print (envelopes.map .inl)
  unfold readList
  rw [h]
  exact mapM_getLeft? envelopes

/-- An array starts with a bracket, which no item does. -/
theorem readSingle_values (values : List (EncryptedEnvelope ⊕ Nat)) :
    readSingle (valuesCodec.print values) = none := by
  have hb : anyItem.parse (valuesCodec.print values) = none := rfl
  unfold readSingle parseAll
  rw [hb]

theorem mailboxJson_lawful : mailboxJson.Lawful where
  values_printValues values := ⟨values, valuesCodec.parseAll_print values, rfl⟩
  values_printEnvelopes envelopes :=
    ⟨envelopes.map .inl, declaredCodec.parseAll_print (envelopes.map .inl), List.map_map⟩
  envelopes_printValues := readList_values
  envelopes_printEnvelopes := readList_declared
  envelope_printValues values e h := by
    have hnone : mailboxJson.parseEnvelope (mailboxJson.printValues values) = none := readSingle_values values
    rw [hnone] at h
    cases h

end Sample

end NodeX.Messenger
