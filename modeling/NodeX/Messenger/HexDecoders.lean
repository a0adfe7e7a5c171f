/-
Hex text: `NodeId::from_hex`, `hex_decode` of `messenger.rs`, `hex::decode` of `invite.rs` and `hex_decode` of
`attachments.rs` take a text two bytes at a time. A piece that ends inside a character is a panic, and one that is a
plus and a digit is taken as well. So a text is read as it should be exactly when no plus is in it that is taken, and
the first piece that cannot be read, if there is one, ends where a character does.
-/
import NodeX.Core.HexText
import NodeX.Messenger.ContactCards
import NodeX.Messenger.FileAssembly

namespace NodeX

open NodeX.Messenger

/-! ## The four decoders -/

/-- The copies of the code. -/
inductive HexDecoder where
  | nodeId
  | messenger
  | invite
  | attachment
deriving DecidableEq

namespace HexDecoder

/-- A copy that returns an `Option` says no more than that. -/
def noReason : Outcome (Option Bytes) → Outcome Bytes
  | .ok (some bs) => .ok bs
  | .ok none => .err ""
  | .err e => .err e
  | .panic => .panic

def decode : HexDecoder → String → Outcome Bytes
  | nodeId, s => (NodeId.fromHex s).map NodeId.bytes
  | messenger, s => noReason (hexDecode s)
  | invite, s => inviteHexDecode s
  | attachment, s => noReason (attachmentHexDecode s)

/-- The text that is taken apart: two of the copies trim it. -/
def text : HexDecoder → String → String
  | nodeId, s | messenger, s => trim s
  | invite, s | attachment, s => s

/-- The check of the length that is made before. -/
def lengthOk : HexDecoder → Bytes → Bool
  | nodeId, bs => bs.length == 40
  | messenger, bs => !bs.isEmpty && bs.length % 2 == 0
  | invite, bs | attachment, bs => bs.length % 2 == 0

/-- Whether these bytes are what a text is to stand for; a node id has twenty. -/
def fits : HexDecoder → Bytes → Bool
  | nodeId, bs => bs.length == 20
  | _, _ => true

variable (d : HexDecoder) (s : String)

/-- The decoder returns; it takes nothing but pairs of hex digits, and forty digits for a node id; and what is printed
in hex is read back. -/
structure Exact : Prop where
  returns : d.decode s ≠ .panic
  digits : ∀ bs, d.decode s = .ok bs → (∀ b ∈ utf8 (d.text s), IsHexDigit b) ∧
    (utf8 (d.text s)).length = 2 * bs.length ∧ d.fits bs = true
  reads : ∀ bs, d.fits bs = true → s = hexString bs → d.decode s = .ok bs

/-- A text of a length that is let through, if its pieces can all be read, has no plus, and otherwise is split where a
character ends. The decoder of `messenger.rs` is not to be given the empty text, which it refuses. -/
structure Regular : Prop where
  plain : d.lengthOk (utf8 (d.text s)) = true → Readable (utf8 (d.text s)) → 43 ∉ utf8 (d.text s)
  whole : d.lengthOk (utf8 (d.text s)) = true → ¬Splits (utf8 (d.text s))
  given : d = messenger → s ≠ ""

variable {d s}

theorem even_of_lengthOk (h : d.lengthOk bs = true) : bs.length % 2 = 0 := by
  cases d with
  | nodeId =>
    have hlen : bs.length = 40 := by simpa [lengthOk] using h
    omega
  | messenger =>
    rw [lengthOk, Bool.and_eq_true, beq_iff_eq] at h
    exact h.2
  | invite | attachment => exact beq_iff_eq.1 h

/-- What a decoder does with its text: it is taken apart where the length is let through. -/
structure Takes (d : HexDecoder) (s : String) : Prop where
  ok_iff : ∀ bs, d.decode s = .ok bs ↔ d.lengthOk (utf8 (d.text s)) = true ∧ hexPairs (utf8 (d.text s)) = .ok bs
  panic_iff : d.decode s = .panic ↔ d.lengthOk (utf8 (d.text s)) = true ∧ hexPairs (utf8 (d.text s)) = .panic

theorem takes_nodeId (s : String) : Takes .nodeId s where
  ok_iff bs := by
    rw [decode, Outcome.map_eq_ok]
    constructor
    · rintro ⟨id, hid, rfl⟩
      have hpairs := NodeId.fromHex_eq_ok.1 hid
      refine ⟨beq_iff_eq.2 ?_, hpairs⟩
      exact (NodeId.hexPairs_length hpairs).trans (by rw [id.size])
    · rintro ⟨hlen, hpairs⟩
      have hlen : (utf8 (trim s)).length = 40 := beq_iff_eq.1 hlen
      have hsize : bs.length = 20 := by
        have hpairs := NodeId.hexPairs_length hpairs
        rw [show utf8 (text nodeId s) = utf8 (trim s) from rfl, hlen] at hpairs
        omega
      exact ⟨⟨bs, hsize⟩, NodeId.fromHex_eq_ok.2 hpairs, rfl⟩
  panic_iff := by
    have hmap : (NodeId.fromHex s).map NodeId.bytes = .panic ↔ NodeId.fromHex s = .panic := by
      cases NodeId.fromHex s <;> simp [Outcome.map]
    rw [decode, hmap, NodeId.fromHex_eq_panic_iff, lengthOk, text, beq_iff_eq]

theorem takes_messenger (s : String) : Takes .messenger s := by
  constructor
  all_goals
    unfold decode hexDecode text lengthOk
    dsimp only
    cases (utf8 (trim s)).isEmpty <;> cases heven : (utf8 (trim s)).length % 2 == 0 <;>
      cases hexPairs (utf8 (trim s)) <;> simp [noReason, bne, heven]

theorem takes_invite (s : String) : Takes .invite s := by
  constructor
  all_goals
    unfold decode inviteHexDecode text lengthOk
    dsimp only
    by_cases heven : (utf8 s).length % 2 = 0 <;> simp [heven]

theorem takes_attachment (s : String) : Takes .attachment s := by
  constructor
  all_goals
    unfold decode attachmentHexDecode text lengthOk
    dsimp only
    by_cases heven : (utf8 s).length % 2 = 0 <;> cases hexPairs (utf8 s) <;> simp [heven, noReason]

theorem takes (d : HexDecoder) (s : String) : Takes d s := by
  cases d with
  | nodeId => exact takes_nodeId s
  | messenger => exact takes_messenger s
  | invite => exact takes_invite s
  | attachment => exact takes_attachment s

/-- What can be read is digits, where there is no plus in it. -/
theorem forall_isHexDigit_iff (h : Readable bs) : (∀ b ∈ bs, IsHexDigit b) ↔ 43 ∉ bs := by
  constructor
  · intro hall hmem
    exact absurd (hall 43 hmem) (by unfold IsHexDigit; decide)
  · induction h with
    | nil => simp
    | @cons a b v rest hpair _ ih =>
      intro hnot
      simp only [List.mem_cons, not_or] at hnot
      obtain ⟨ha, -, hrest⟩ := hnot
      have hfirst : IsHexDigit a := by
        unfold hexPair at hpair
        rw [if_neg (by simpa using Ne.symm ha)] at hpair
        split at hpair
        · rename_i hx _
          rw [IsHexDigit, hx]
          rfl
        · cases hpair
      exact List.forall_mem_cons.2 ⟨hfirst, List.forall_mem_cons.2 ⟨isHexDigit_of_hexPair hpair, ih hrest⟩⟩

theorem length_of_lengthOk (h : d.lengthOk (utf8 (d.text s)) = true) {bs : Bytes}
    (hpairs : hexPairs (utf8 (d.text s)) = .ok bs) : d.fits bs = true := by
  have hlen := NodeId.hexPairs_length hpairs
  cases d with
  | nodeId =>
    have hforty : (utf8 (text nodeId s)).length = 40 := beq_iff_eq.1 h
    exact beq_iff_eq.2 (by omega)
  | messenger | invite | attachment => rfl

/-- What is printed in hex is read back, but for the empty text where it is refused. -/
theorem decode_hexString {bs : Bytes} (hfits : d.fits bs = true) (hne : d = messenger → hexString bs ≠ "") :
    d.decode (hexString bs) = .ok bs := by
  have htext : d.text (hexString bs) = hexString bs := by
    cases d with
    | nodeId | messenger => exact trim_hexString bs
    | invite | attachment => rfl
  have hlen := NodeId.hexPairs_length (hexPairs_hexString bs)
  refine ((takes d _).ok_iff bs).2 ?_
  rw [htext]
  refine ⟨?_, hexPairs_hexString bs⟩
  cases d with
  | nodeId =>
    have htwenty : bs.length = 20 := beq_iff_eq.1 hfits
    exact beq_iff_eq.2 (by omega)
  | messenger =>
    have hnil : utf8 (hexString bs) ≠ [] := fun h => hne rfl (utf8_inj.1 h)
    rw [lengthOk, Bool.and_eq_true, beq_iff_eq, Bool.not_eq_true', List.isEmpty_eq_false_iff]
    exact ⟨hnil, by omega⟩
  | invite | attachment => exact beq_iff_eq.2 (by omega)

/-- A decoder is exact at a text exactly when the text is regular. -/
theorem exact_iff (d : HexDecoder) (s : String) : d.Exact s ↔ d.Regular s := by
  obtain ⟨hstart, haligned⟩ := aligned_utf8 (d.text s)
  constructor
  · intro h
    refine ⟨?_, ?_, ?_⟩
    · intro hlen hreadable
      obtain ⟨bs, hbs⟩ := (hexPairs_ok_iff hstart haligned).2 hreadable
      exact (forall_isHexDigit_iff hreadable).1 (h.digits bs (((takes d s).ok_iff bs).2 ⟨hlen, hbs⟩)).1
    · intro hlen hsplits
      refine h.returns ((takes d s).panic_iff.2 ⟨hlen, ?_⟩)
      exact (hexPairs_panic_iff hstart haligned (even_of_lengthOk hlen)).2 hsplits
    · rintro rfl rfl
      have hempty := h.reads [] rfl rfl
      exact absurd hempty (by decide)
  · intro h
    refine ⟨?_, ?_, ?_⟩
    · intro hpanic
      obtain ⟨hlen, hpairs⟩ := (takes d s).panic_iff.1 hpanic
      exact h.whole hlen ((hexPairs_panic_iff hstart haligned (even_of_lengthOk hlen)).1 hpairs)
    · intro bs hok
      obtain ⟨hlen, hpairs⟩ := ((takes d s).ok_iff bs).1 hok
      have hreadable := (hexPairs_ok_iff hstart haligned).1 ⟨bs, hpairs⟩
      refine ⟨(forall_isHexDigit_iff hreadable).2 (h.plain hlen hreadable), ?_, length_of_lengthOk hlen hpairs⟩
      exact NodeId.hexPairs_length hpairs
    · rintro bs hfits rfl
      exact decode_hexString hfits h.given

/-- A letter and a character of three bytes, in the key of an invite. -/
theorem exact_invite : ¬Exact invite "a€" := by
  intro h
  exact h.returns (by decide)

end HexDecoder

end NodeX
