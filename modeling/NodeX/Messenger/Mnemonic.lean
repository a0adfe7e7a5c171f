/-
`MnemonicHelper.kt` and the recovery phrase on both platforms. Android packs entropy and checksum into bit strings and
cuts those into groups of eleven; the phrase of BIP-39 is stated here with numbers, and the two are one text. A phrase
is valid exactly if its words, in lower case and one blank apart, are one that can be generated.
-/
import NodeX.Core.Net
import NodeX.Lib.Bits
import NodeX.Lib.Text
import NodeX.Messenger.Android
import NodeX.Messenger.Start
import NodeX.Messenger.WordList

namespace NodeX

open NodeX.Lib

/-! ## BIP-39 -/

/-- The phrase of BIP-39: the entropy, followed by the first bits of its hash, in base 2048. -/
def bip39Phrase (C : Crypto) (words : List String) (entropy : Bytes) : String :=
  let checksumBits := entropy.length * 8 / 32
  let count := (entropy.length * 8 + checksumBits) / 11
  let n := beNat entropy * 2 ^ checksumBits + beNat (C.sha256 entropy) / 2 ^ (256 - checksumBits)
  " ".intercalate ((List.range count).map fun i => words.getD (n / 2 ^ (11 * (count - 1 - i)) % 2 ^ 11) "")

/-- PBKDF2 with HMAC-SHA512 of a password, a salt, a number of rounds and a length in bits. -/
abbrev Pbkdf2 := String → Bytes → Nat → Nat → Bytes

/-- What the package documents: the phrase of an entropy is parsed, and its seed is the one of BIP-39. -/
structure Bip39.Follows (B : Bip39) (C : Crypto) (words : List String) (pbkdf2 : Pbkdf2) : Prop where
  parseToSeed : ∀ entropy : Bytes, entropy.length ∈ [16, 20, 24, 28, 32] →
    B.parseToSeed (bip39Phrase C words entropy) =
      .ok (pbkdf2 (bip39Phrase C words entropy) (utf8 "mnemonic") 2048 512)

/-- `ffi_mnemonic_to_node_id` -/
def mnemonicToNodeId (C : Crypto) (B : Bip39) (mnemonic : String) : Except String NodeId :=
  (mnemonicToSeed B mnemonic).map fun seed =>
    C.hashNodeId (C.edPublic (C.hkdf none seed (utf8 "NodeX-Ed25519-Sign-v1")))

/-- `ffi_mnemonic_validate` -/
def mnemonicValidate (B : Bip39) (mnemonic : String) : Bool := (B.parseToSeed (trim mnemonic)).toBool

end NodeX

namespace NodeX.Messenger.MnemonicHelper

open NodeX.Lib

/-! ## Words -/

/-- `Char.isWhitespace` of Kotlin. -/
def isKotlinSpace (c : Char) : Bool :=
  let n := c.toNat
  (9 ≤ n && n ≤ 13) || (28 ≤ n && n ≤ 32) || n == 0xA0 || n == 0x1680 || (0x2000 ≤ n && n ≤ 0x200A) || n == 0x2028 ||
    n == 0x2029 || n == 0x202F || n == 0x205F || n == 0x3000

/-- `String.trim` of Kotlin. -/
def kotlinTrim (s : String) : String :=
  String.ofList ((s.toList.dropWhile isKotlinSpace).reverse.dropWhile isKotlinSpace).reverse

theorem kotlinTrim_eq_self {s : String} (h : ∀ c ∈ s.toList, isKotlinSpace c = false) :
    kotlinTrim s = s := by
  have hdrop : ∀ l : List Char, (∀ c ∈ l, isKotlinSpace c = false) →
      l.dropWhile isKotlinSpace = l := by
    intro l hl
    cases l with
    | nil => rfl
    | cons c l => rw [List.dropWhile_cons_of_neg (by simp [hl c List.mem_cons_self])]
  unfold kotlinTrim
  rw [hdrop _ h, hdrop _ fun c hc => h c (List.mem_reverse.1 hc), List.reverse_reverse, String.ofList_toList]

/-- The class `\s` of a Java regular expression. -/
def isRegexSpace (c : Char) : Bool := (9 ≤ c.toNat && c.toNat ≤ 13) || c.toNat == 32

/-- The parts between single separators, without the empty ones inside. -/
def mergeRuns : List (List Char) → List (List Char)
  | first :: second :: rest =>
    first :: ((second :: rest).dropLast.filter (· ≠ []) ++ [(second :: rest).getLast (by simp)])
  | parts => parts

/-- `split("\\s+".toRegex())` -/
def splitSpaces (s : String) : List String := (mergeRuns (s.toList.splitOnP isRegexSpace)).map String.ofList

/-- What the phrase needs of the platform: lower case, and the seed of a phrase. -/
structure Platform where
  lowercase : String → String
  pbkdf2 : Pbkdf2

section Model

variable (C : Crypto) (P : Platform)

/-- Letters that are in lower case stay as they are, and blanks do. -/
def Platform.KeepsLower : Prop := ∀ s : String, (∀ c ∈ s.toList, isLower c = true ∨ c = ' ') → P.lowercase s = s

def words (mnemonic : String) : List String := splitSpaces (P.lowercase (kotlinTrim mnemonic))

/-- `toString(2).padStart(8, '0')` of every byte. -/
def byteBits (bs : Bytes) : List Bool := bs.flatMap fun b => bitsOf 8 b.toNat

/-- The words `generateMnemonic` picks for the entropy it drew. -/
def phraseWords (entropy : Bytes) : List String :=
  let entropyBits := byteBits entropy
  let checksumBits := byteBits (C.sha256 entropy)
  let checksumLength := entropyBits.length / 32
  let allBits := entropyBits ++ checksumBits.take checksumLength
  (chunked 11 allBits).map fun bits => wordList.getD (ofBits bits) ""

def phraseOf (entropy : Bytes) : String := " ".intercalate (phraseWords C entropy)

/-- `generateMnemonic`, with what the random generator draws. -/
def generateMnemonic (wordCount : Nat) (nextBytes : (n : Nat) → { bs : Bytes // bs.length = n }) :
    Except AndroidMessageCrypto.Thrown String :=
  if wordCount = 12 ∨ wordCount = 24 then .ok (phraseOf C (nextBytes (if wordCount = 12 then 16 else 32)).1)
  else .error (.illegal "BIP-39 phrases must contain 12 or 24 words")

/-- The entropy in the bits of a phrase. -/
def entropyOf (bitStream : List Bool) : Bytes :=
  (chunked 8 (bitStream.take (bitStream.length * 32 / 33))).map fun bits => UInt8.ofNat (ofBits bits)

/-- The checksum of a phrase is that of its entropy. -/
def checksumHolds (bitStream : List Bool) : Bool :=
  let checksumBits := bitStream.drop (bitStream.length * 32 / 33)
  checksumBits = (byteBits (C.sha256 (entropyOf bitStream))).take checksumBits.length

def isValidMnemonic (mnemonic : String) : Bool :=
  let words := words P mnemonic
  if words.length ≠ 12 ∧ words.length ≠ 24 then false
  else
    match words.mapM fun word => wordList.idxOf? word with
    | none => false
    | some indexes => checksumHolds C (indexes.flatMap (bitsOf 11))

/-- The seed of a phrase: the first half of what PBKDF2 makes of its words. -/
def seedOf (mnemonic : String) : Bytes :=
  (P.pbkdf2 (" ".intercalate (words P mnemonic)) (utf8 "mnemonic") 2048 512).take 32

def deriveNodeId (mnemonic : String) : Except AndroidMessageCrypto.Thrown String :=
  if isValidMnemonic C P mnemonic then .ok (AndroidMessageCrypto.deriveNodeId C (seedOf P mnemonic))
  else .error (.illegal "Invalid BIP-39 recovery phrase")

/-- `AndroidMessageCrypto.identityKeys` -/
def identityKeys (mnemonic : String) : Except AndroidMessageCrypto.Thrown AndroidMessageCrypto.IdentityKeys :=
  if isValidMnemonic C P mnemonic then .ok (AndroidMessageCrypto.identityKeys C (seedOf P mnemonic))
  else .error (.illegal "Invalid BIP-39 recovery phrase")

end Model

/-! ## Bits of a phrase -/

theorem length_byteBits (bs : Bytes) : (byteBits bs).length = 8 * bs.length := by
  unfold byteBits
  rw [List.length_flatMap]
  simp [Nat.mul_comm]

theorem ofBits_byteBits (bs : Bytes) : ofBits (byteBits bs) = beNat bs := by
  induction bs using List.reverseRecOn with
  | nil => rfl
  | append_singleton bs b ih =>
    have hb : b.toNat < 2 ^ 8 := b.toNat_lt
    unfold byteBits at ih ⊢
    rw [List.flatMap_append, ofBits_append, ih]
    simp [ofBits_bitsOf 8 b.toNat hb, beNat]

/-- The bytes cut from the bits of bytes are these bytes. -/
theorem map_pieces_byteBits (bs : Bytes) :
    (chunked 8 (byteBits bs)).map (fun bits => UInt8.ofNat (ofBits bits)) = bs := by
  have hcut : chunked 8 (byteBits bs) = bs.map fun b => bitsOf 8 b.toNat := by
    rw [chunked_eq_pieces (by decide) (length_byteBits bs)]
    have hflat : byteBits bs = (bs.map fun b => bitsOf 8 b.toNat).flatten := List.flatMap_def ..
    have hpieces := pieces_flatten (n := 8) (l := bs.map fun b => bitsOf 8 b.toNat) (by simp)
    rwa [List.length_map, ← hflat] at hpieces
  rw [hcut, List.map_map]
  refine (List.map_congr_left fun b _ => ?_).trans (List.map_id bs)
  rw [Function.comp_apply, ofBits_bitsOf 8 b.toNat b.toNat_lt, UInt8.ofNat_toNat, id]

/-- The bits of the bytes cut from a bit string are that bit string. -/
theorem byteBits_pieces {bits : List Bool} {count : Nat} (h : bits.length = 8 * count) :
    byteBits ((chunked 8 bits).map fun c => UInt8.ofNat (ofBits c)) = bits := by
  rw [chunked_eq_pieces (by decide) h]
  unfold byteBits
  rw [List.flatMap_map]
  have hpiece : ∀ c ∈ pieces 8 count bits, bitsOf 8 (UInt8.ofNat (ofBits c)).toNat = c := by
    intro c hc
    have hlen := length_of_mem_pieces h c hc
    have hlt := ofBits_lt c
    rw [hlen] at hlt
    rw [UInt8.toNat_ofNat', Nat.mod_eq_of_lt hlt, ← hlen, bitsOf_ofBits]
  rw [List.flatMap_def, List.map_congr_left hpiece, List.map_id', flatten_pieces h]

/-! ## Words and their numbers -/

theorem idxOf?_eq_some {w : String} {i : Nat} : wordList.idxOf? w = some i ↔ i < 2048 ∧ wordList.getD i "" = w := by
  rw [List.idxOf?_eq_some_iff]
  constructor
  · rintro ⟨hi, hw, -⟩
    refine ⟨length_wordList ▸ hi, ?_⟩
    rw [List.getD_eq_getElem?_getD, List.getElem?_eq_getElem hi, Option.getD_some, hw]
  · rintro ⟨hi, hw⟩
    have hi' : i < wordList.length := by rwa [length_wordList]
    rw [List.getD_eq_getElem?_getD, List.getElem?_eq_getElem hi', Option.getD_some] at hw
    refine ⟨hi', hw, fun j hj heq => ?_⟩
    -- a word stands at one place only
    have hj' : j < wordList.length := Nat.lt_trans hj hi'
    have hsame : j = i := (nodup_wordList.getElem_inj_iff).1 (heq.trans hw.symm)
    omega

theorem mapM_idxOf?_eq_some {ws : List String} {indexes : List Nat} :
    ws.mapM (fun w => wordList.idxOf? w) = some indexes ↔
      (∀ i ∈ indexes, i < 2048) ∧ ws = indexes.map fun i => wordList.getD i "" := by
  induction ws generalizing indexes with
  | nil =>
    rw [List.mapM_nil]
    constructor
    · intro h
      obtain rfl := Option.some.inj h
      simp
    · rintro ⟨-, h⟩
      rw [List.map_eq_nil_iff.1 h.symm]
      rfl
  | cons w ws ih =>
    rw [List.mapM_cons, Option.bind_eq_bind, Option.bind_eq_some_iff]
    constructor
    · rintro ⟨i, hi, h⟩
      obtain ⟨rest, hrest, h⟩ := Option.bind_eq_some_iff.1 h
      obtain rfl := Option.some.inj h
      obtain ⟨hlt, rfl⟩ := idxOf?_eq_some.1 hi
      obtain ⟨hall, rfl⟩ := ih.1 hrest
      exact ⟨List.forall_mem_cons.2 ⟨hlt, hall⟩, rfl⟩
    · rintro ⟨hall, h⟩
      cases indexes with
      | nil => cases h
      | cons i rest =>
        obtain ⟨hlt, hall⟩ := List.forall_mem_cons.1 hall
        rw [List.map_cons, List.cons.injEq] at h
        exact ⟨i, idxOf?_eq_some.2 ⟨hlt, h.1.symm⟩, Option.bind_eq_some_iff.2 ⟨rest, ih.2 ⟨hall, h.2⟩, rfl⟩⟩

/-! ## The bits of a generated phrase -/

/-- The entropy is that of 12 or of 24 words. -/
def Sized (entropy : Bytes) : Prop := entropy.length = 16 ∨ entropy.length = 32

/-- The primitives of the phrase give a hash of 32 bytes. -/
def HashSized (C : Crypto) : Prop := ∀ bs, (C.sha256 bs).length = 32

section Bits

variable {C : Crypto} {P : Platform}

/-- The bits `generateMnemonic` cuts into words. -/
def allBits (C : Crypto) (entropy : Bytes) : List Bool :=
  byteBits entropy ++ (byteBits (C.sha256 entropy)).take ((byteBits entropy).length / 32)

theorem length_allBits (hC : HashSized C) (entropy : Bytes) (h : Sized entropy) :
    (allBits C entropy).length = 11 * (entropy.length * 3 / 4) := by
  unfold allBits
  rw [List.length_append, List.length_take, length_byteBits, length_byteBits, hC]
  rcases h with h | h <;> rw [h] <;> decide

theorem phraseWords_eq (hC : HashSized C) {entropy : Bytes} (h : Sized entropy) :
    phraseWords C entropy =
      ((pieces 11 (entropy.length * 3 / 4) (allBits C entropy)).map ofBits).map fun i => wordList.getD i "" := by
  rw [List.map_map, ← chunked_eq_pieces (by decide) (length_allBits hC entropy h)]
  rfl

/-- The numbers of the words give the bits back. -/
theorem flatMap_bitsOf_pieces {bits : List Bool} {count : Nat} (h : bits.length = 11 * count) :
    ((pieces 11 count bits).map ofBits).flatMap (bitsOf 11) = bits := by
  rw [List.flatMap_map, List.flatMap_def]
  have hpiece : ∀ c ∈ pieces 11 count bits, bitsOf 11 (ofBits c) = c := by
    intro c hc
    rw [← length_of_mem_pieces h c hc, bitsOf_ofBits]
  rw [List.map_congr_left hpiece, List.map_id', flatten_pieces h]

theorem ofBits_lt_of_mem_pieces {bits : List Bool} {count : Nat} (h : bits.length = 11 * count) :
    ∀ i ∈ (pieces 11 count bits).map ofBits, i < 2048 := by
  intro i hi
  obtain ⟨c, hc, rfl⟩ := List.mem_map.1 hi
  have hlt := ofBits_lt c
  rwa [length_of_mem_pieces h c hc] at hlt

/-- The bits are the entropy, and its checksum holds. -/
theorem take_allBits {entropy : Bytes} (hC : HashSized C) (h : Sized entropy) :
    (allBits C entropy).take ((allBits C entropy).length * 32 / 33) = byteBits entropy ∧
      (allBits C entropy).drop ((allBits C entropy).length * 32 / 33) =
        (byteBits (C.sha256 entropy)).take ((byteBits entropy).length / 32) := by
  have hlen : (allBits C entropy).length * 32 / 33 = (byteBits entropy).length := by
    rw [length_allBits hC entropy h, length_byteBits]
    rcases h with h | h <;> rw [h]
  rw [hlen]
  exact ⟨List.take_left, List.drop_left⟩

theorem entropyOf_allBits {entropy : Bytes} (hC : HashSized C) (h : Sized entropy) :
    entropyOf (allBits C entropy) = entropy := by
  unfold entropyOf
  rw [(take_allBits hC h).1, map_pieces_byteBits]

theorem checksumHolds_allBits {entropy : Bytes} (hC : HashSized C) (h : Sized entropy) :
    checksumHolds C (allBits C entropy) = true := by
  unfold checksumHolds
  dsimp only
  rw [entropyOf_allBits hC h, (take_allBits hC h).2, List.length_take, decide_eq_true_eq]
  rw [Nat.min_eq_left]
  rw [length_byteBits, length_byteBits, hC]
  rcases h with h | h <;> rw [h] <;> decide

/-- Bits whose checksum holds are those of their entropy. -/
theorem allBits_entropyOf {bitStream : List Bool} {count : Nat} (hcount : count = 12 ∨ count = 24)
    (hlen : bitStream.length = 11 * count) (h : checksumHolds C bitStream = true) :
    Sized (entropyOf bitStream) ∧ allBits C (entropyOf bitStream) = bitStream := by
  have htake : (bitStream.take (bitStream.length * 32 / 33)).length = 8 * (count * 4 / 3) := by
    rw [List.length_take, hlen]
    rcases hcount with rfl | rfl <;> decide
  have hbits : byteBits (entropyOf bitStream) = bitStream.take (bitStream.length * 32 / 33) := byteBits_pieces htake
  have hsized : (entropyOf bitStream).length = count * 4 / 3 := by
    have hlength := length_byteBits (entropyOf bitStream)
    rw [hbits, htake] at hlength
    omega
  constructor
  · rcases hcount with rfl | rfl
    · exact .inl hsized
    · exact .inr hsized
  · have hdrop : (bitStream.drop (bitStream.length * 32 / 33)).length =
    (byteBits (entropyOf bitStream)).length / 32 := by
      rw [hbits, htake, List.length_drop, hlen]
      rcases hcount with rfl | rfl <;> decide
    unfold checksumHolds at h
    rw [decide_eq_true_eq, hdrop] at h
    unfold allBits
    rw [← h, hbits, List.take_append_drop]

/-- The words are those of a generated phrase. -/
theorem isValidMnemonic_iff_words (hC : HashSized C) {p : String} :
    isValidMnemonic C P p = true ↔ ∃ entropy, Sized entropy ∧ words P p = phraseWords C entropy := by
  unfold isValidMnemonic
  dsimp only
  constructor
  · intro h
    split at h
    · cases h
    · rename_i hcount
      split at h
      · cases h
      · rename_i indexes hindexes
        obtain ⟨hall, hwords⟩ := mapM_idxOf?_eq_some.1 hindexes
        have hlength : (words P p).length = indexes.length := by rw [hwords, List.length_map]
        have hcount' : indexes.length = 12 ∨ indexes.length = 24 := by
          rw [← hlength]
          tauto
        have hlen : (indexes.flatMap (bitsOf 11)).length = 11 * indexes.length := by
          simp [List.length_flatMap, Nat.mul_comm]
        obtain ⟨hsized, hbits⟩ := allBits_entropyOf hcount' hlen h
        refine ⟨_, hsized, ?_⟩
        have hpieces : pieces 11 indexes.length (indexes.flatMap (bitsOf 11)) = indexes.map (bitsOf 11) := by
          have hcut := pieces_flatten (n := 11) (l := indexes.map (bitsOf 11)) (by simp)
          rwa [List.length_map, ← List.flatMap_def] at hcut
        have hentropy : (entropyOf (indexes.flatMap (bitsOf 11))).length * 3 / 4 = indexes.length := by
          have hcut := length_allBits hC _ hsized
          rw [hbits, hlen] at hcut
          omega
        have hnumbers : (indexes.map (bitsOf 11)).map ofBits = indexes := by
          rw [List.map_map]
          refine (List.map_congr_left fun i hi => ?_).trans (List.map_id indexes)
          exact ofBits_bitsOf 11 i (hall i hi)
        rw [phraseWords_eq hC hsized, hbits, hentropy, hpieces, hnumbers, hwords]
  · rintro ⟨entropy, hsized, hwords⟩
    have hlen := length_allBits hC entropy hsized
    have hindexes := mapM_idxOf?_eq_some.2 ⟨ofBits_lt_of_mem_pieces hlen, phraseWords_eq hC hsized⟩
    have hcount : ¬((words P p).length ≠ 12 ∧ (words P p).length ≠ 24) := by
      rw [hwords, phraseWords_eq hC hsized, List.length_map, List.length_map, length_pieces]
      rcases hsized with h | h <;> rw [h] <;> decide
    rw [if_neg hcount, hwords, hindexes]
    dsimp only
    rw [flatMap_bitsOf_pieces hlen]
    exact checksumHolds_allBits hC hsized

end Bits

/-! ## The text of a phrase -/

section Text

variable {C : Crypto} {P : Platform}

theorem mem_wordList_of_mem_phraseWords (hC : HashSized C) {entropy : Bytes} (h : Sized entropy) {w : String}
    (hw : w ∈ phraseWords C entropy) : w ∈ wordList := by
  rw [phraseWords_eq hC h] at hw
  obtain ⟨i, hi, rfl⟩ := List.mem_map.1 hw
  have hlt := ofBits_lt_of_mem_pieces (length_allBits hC entropy h) i hi
  have hlt' : i < wordList.length := by rwa [length_wordList]
  rw [List.getD_eq_getElem?_getD, List.getElem?_eq_getElem hlt', Option.getD_some]
  exact List.getElem_mem hlt'

theorem phraseWords_ne_nil (hC : HashSized C) {entropy : Bytes} (h : Sized entropy) : phraseWords C entropy ≠ [] := by
  intro hnil
  have hlen := congrArg List.length hnil
  rw [phraseWords_eq hC h, List.length_map, List.length_map, length_pieces] at hlen
  rcases h with h | h <;> rw [h] at hlen <;> cases hlen

theorem toList_phraseOf (entropy : Bytes) :
    (phraseOf C entropy).toList = [' '].intercalate ((phraseWords C entropy).map String.toList) := by
  unfold phraseOf
  rw [String.toList_intercalate]
  rfl

theorem not_space_of_isLower {c : Char} (h : isLower c = true) :
    isKotlinSpace c = false ∧ isRegexSpace c = false ∧ isWhitespace c = false := by
  unfold isLower at h
  simp only [Bool.and_eq_true, decide_eq_true_eq] at h
  refine ⟨?_, ?_, ?_⟩
  · unfold isKotlinSpace
    simp
    omega
  · unfold isRegexSpace
    simp
    omega
  · unfold isWhitespace
    simp
    omega

/-- Neither platform strips a generated phrase. -/
theorem strip_phraseOf (hC : HashSized C) {entropy : Bytes} (h : Sized entropy) {space : Char → Bool}
    (hspace : ∀ c, isLower c = true → space c = false) :
    String.ofList (((phraseOf C entropy).toList.dropWhile space).reverse.dropWhile space).reverse =
      phraseOf C entropy := by
  have hletters : ∀ s ∈ (phraseWords C entropy).map String.toList, s ≠ [] ∧ ∀ c ∈ s, isLower c = true := by
    intro s hs
    obtain ⟨w, hw, rfl⟩ := List.mem_map.1 hs
    exact wordList_letters (mem_wordList_of_mem_phraseWords hC h hw)
  have hne : (phraseWords C entropy).map String.toList ≠ [] := by simpa using phraseWords_ne_nil hC h
  obtain ⟨⟨s, hs, x, hx, tail, hhead⟩, ⟨t, ht, y, hy, front, hlast⟩⟩ :=
    exists_ends_intercalate (c := ' ') hne fun s hs => (hletters s hs).1
  rw [← toList_phraseOf] at hhead hlast
  rw [strip_eq_self ⟨x, tail, hhead, hspace x ((hletters s hs).2 x hx)⟩
    ⟨y, front, hlast, hspace y ((hletters t ht).2 y hy)⟩, String.ofList_toList]

theorem mergeRuns_eq_self {l : List (List Char)} (h : ∀ s ∈ l, s ≠ []) : mergeRuns l = l := by
  unfold mergeRuns
  split
  · rename_i first second rest
    have hkeep : (second :: rest).dropLast.filter (· ≠ []) = (second :: rest).dropLast := by
      refine List.filter_eq_self.2 fun s hs => decide_eq_true (h s ?_)
      exact List.mem_cons_of_mem _ (List.mem_of_mem_dropLast hs)
    rw [hkeep, List.dropLast_append_getLast]
  · rfl

/-- The words of a generated phrase are read back from it. -/
theorem words_phraseOf (hC : HashSized C)
    (hlower : P.KeepsLower) {entropy : Bytes} (h : Sized entropy) : words P (phraseOf C entropy) =
      phraseWords C entropy := by
  have hletters : ∀ s ∈ (phraseWords C entropy).map String.toList, s ≠ [] ∧ ∀ c ∈ s, isLower c = true := by
    intro s hs
    obtain ⟨w, hw, rfl⟩ := List.mem_map.1 hs
    exact wordList_letters (mem_wordList_of_mem_phraseWords hC h hw)
  have hne : (phraseWords C entropy).map String.toList ≠ [] := by simpa using phraseWords_ne_nil hC h
  have htrim : kotlinTrim (phraseOf C entropy) = phraseOf C entropy :=
    strip_phraseOf hC h fun c hc => (not_space_of_isLower hc).1
  have hcase : P.lowercase (phraseOf C entropy) = phraseOf C entropy := by
    refine hlower _ fun c hc => ?_
    rw [toList_phraseOf] at hc
    rcases mem_intercalate hc with rfl | ⟨s, hs, hc⟩
    · exact .inr rfl
    · exact .inl ((hletters s hs).2 c hc)
  unfold words splitSpaces
  rw [htrim, hcase, toList_phraseOf, splitOnP_intercalate (by decide) (fun s hs c hc =>
    (not_space_of_isLower ((hletters s hs).2 c hc)).2.1) hne, mergeRuns_eq_self fun s hs => (hletters s hs).1,
    List.map_map]
  exact (List.map_congr_left fun w _ => String.ofList_toList).trans (List.map_id _)

/-- The words of any text have no blank in them. -/
theorem blank_not_mem_words {p w : String} (hw : w ∈ words P p) : ' ' ∉ w.toList := by
  have hsplit := not_of_mem_splitOnP (p := isRegexSpace) (l := (P.lowercase (kotlinTrim p)).toList)
  have hmerge : ∀ {l : List (List Char)}, ∀ s ∈ mergeRuns l, s ∈ l := by
    intro l s hs
    unfold mergeRuns at hs
    split at hs
    · rcases List.mem_cons.1 hs with rfl | hs
      · exact List.mem_cons_self
      · rcases List.mem_append.1 hs with hs | hs
        · exact List.mem_cons_of_mem _ (List.mem_of_mem_dropLast (List.mem_of_mem_filter hs))
        · rw [List.mem_singleton.1 hs]
          exact List.mem_cons_of_mem _ (List.getLast_mem _)
    · exact hs
  obtain ⟨s, hs, rfl⟩ := List.mem_map.1 hw
  rw [String.toList_ofList]
  intro hblank
  exact absurd (hsplit s (hmerge s hs) ' ' hblank) (by decide)

theorem words_ne_nil (p : String) : words P p ≠ [] := by
  unfold words splitSpaces mergeRuns
  split <;> simp

/-- The words of a text, one blank apart, are a generated phrase exactly if they are its words. -/
theorem intercalate_words_eq_iff (hC : HashSized C) {p : String} {entropy : Bytes} (h : Sized entropy) :
    " ".intercalate (words P p) = phraseOf C entropy ↔ words P p = phraseWords C entropy := by
  constructor
  · intro heq
    have hchars := congrArg String.toList heq
    rw [String.toList_intercalate, toList_phraseOf] at hchars
    have hblank : ∀ s ∈ (words P p).map String.toList, ' ' ∉ s := by
      intro s hs
      obtain ⟨w, hw, rfl⟩ := List.mem_map.1 hs
      exact blank_not_mem_words hw
    have hblank' : ∀ s ∈ (phraseWords C entropy).map String.toList, ' ' ∉ s := by
      intro s hs hmem
      obtain ⟨w, hw, rfl⟩ := List.mem_map.1 hs
      exact absurd ((wordList_letters (mem_wordList_of_mem_phraseWords hC h hw)).2 ' ' hmem) (by decide)
    have hlists := intercalate_inj hblank hblank' (by simpa using words_ne_nil p)
      (by simpa using phraseWords_ne_nil hC h) hchars
    exact List.map_injective_iff.2 (fun _ _ hw => String.toList_inj.1 hw) hlists
  · intro heq
    rw [heq]
    rfl

end Text

/-! ## One phrase on every platform -/

section Agreement

variable {C : Crypto} {P : Platform} {B : Bip39}

theorem ofBits_allBits (hC : HashSized C) {entropy : Bytes} (h : Sized entropy) : ofBits (allBits C entropy) =
    beNat entropy * 2 ^ (entropy.length * 8 / 32) +
      beNat (C.sha256 entropy) / 2 ^ (256 - entropy.length * 8 / 32) := by
  have hlen : min (8 * entropy.length / 32) (8 * 32) = entropy.length * 8 / 32 := by
    rcases h with h | h <;> rw [h] <;> decide
  have hcomm : 8 * entropy.length / 32 = entropy.length * 8 / 32 := by rw [Nat.mul_comm]
  unfold allBits
  rw [ofBits_append, ofBits_take, ofBits_byteBits, ofBits_byteBits, List.length_take, length_byteBits,
    length_byteBits, hC, hlen, hcomm]

/-- What is packed bit by bit is the phrase of BIP-39. -/
theorem phraseOf_eq_bip39Phrase (hC : HashSized C) {entropy : Bytes} (h : Sized entropy) :
    phraseOf C entropy = bip39Phrase C wordList entropy := by
  have hcount : (entropy.length * 8 + entropy.length * 8 / 32) / 11 = entropy.length * 3 / 4 := by
    rcases h with h | h <;> rw [h]
  unfold phraseOf bip39Phrase
  rw [phraseWords_eq hC h, map_ofBits_pieces (length_allBits hC entropy h), List.map_map, ofBits_allBits hC h]
  dsimp only
  rw [hcount]
  rfl

theorem parseToSeed_phraseOf (hC : HashSized C) (hB : B.Follows C wordList P.pbkdf2) {entropy : Bytes}
    (h : Sized entropy) : B.parseToSeed (trim (phraseOf C entropy)) =
      .ok (P.pbkdf2 (phraseOf C entropy) (utf8 "mnemonic") 2048 512) := by
  have htrim : trim (phraseOf C entropy) = phraseOf C entropy :=
    strip_phraseOf hC h fun c hc => (not_space_of_isLower hc).2.2
  have hlen : entropy.length ∈ [16, 20, 24, 28, 32] := by
    rcases h with h | h <;> rw [h] <;> decide
  rw [htrim, phraseOf_eq_bip39Phrase hC h]
  exact hB.parseToSeed entropy hlen

theorem exists_generateMnemonic_iff {phrase : String} :
    (∃ wordCount nextBytes, generateMnemonic C wordCount nextBytes = .ok phrase) ↔
      ∃ entropy, Sized entropy ∧ phrase = phraseOf C entropy := by
  constructor
  · rintro ⟨wordCount, nextBytes, h⟩
    unfold generateMnemonic at h
    split at h
    · rename_i hcount
      refine ⟨_, ?_, (Except.ok.inj h).symm⟩
      unfold Sized
      rw [(nextBytes _).2]
      split
      · exact .inl rfl
      · exact .inr rfl
    · cases h
  · rintro ⟨entropy, h, rfl⟩
    -- the generator draws the entropy where it is asked for that many bytes
    have hdraw : ∀ n, entropy.length = n → ∃ nextBytes : (n : Nat) → { bs : Bytes // bs.length = n },
        (nextBytes n).1 = entropy := by
      intro n hn
      refine ⟨fun k => if hk : k = n then ⟨entropy, hn.trans hk.symm⟩ else ⟨.replicate k 0, List.length_replicate⟩, ?_⟩
      simp
    rcases h with h | h
    · obtain ⟨nextBytes, hnext⟩ := hdraw 16 h
      refine ⟨12, nextBytes, ?_⟩
      simp [generateMnemonic, hnext]
    · obtain ⟨nextBytes, hnext⟩ := hdraw 32 h
      refine ⟨24, nextBytes, ?_⟩
      simp [generateMnemonic, hnext]

/-- A generated phrase is accepted on both platforms and gives the same keys and the same id on each, whichever of the
derivations makes them; and the phrases Android accepts are those whose words, one blank apart and in lower case, are a
phrase it can generate. -/
theorem mnemonic_agrees (hC : HashSized C) (hlower : P.KeepsLower) (hB : B.Follows C wordList P.pbkdf2) :
    (∀ wordCount nextBytes phrase, generateMnemonic C wordCount nextBytes = .ok phrase →
      isValidMnemonic C P phrase = true ∧ mnemonicValidate B phrase = true ∧ ∃ id : UserIdentity C,
        UserIdentity.fromMnemonic C B phrase = .ok id ∧ mnemonicToNodeId C B phrase = .ok id.userId ∧
          deriveNodeId C P phrase = .ok id.userIdHex ∧
            identityKeys C P phrase =
              .ok ⟨id.userId.bytes, id.signingKey, id.verifyingKey, id.x25519Secret, id.x25519Public⟩) ∧
    ∀ p, isValidMnemonic C P p = true ↔
      ∃ wordCount nextBytes, generateMnemonic C wordCount nextBytes = .ok (" ".intercalate (words P p)) := by
  constructor
  · intro wordCount nextBytes phrase hphrase
    obtain ⟨entropy, hsized, rfl⟩ := exists_generateMnemonic_iff.1 ⟨wordCount, nextBytes, hphrase⟩
    have hwords := words_phraseOf hC hlower hsized
    have hvalid : isValidMnemonic C P (phraseOf C entropy) = true :=
      (isValidMnemonic_iff_words hC).2 ⟨entropy, hsized, hwords⟩
    have hseed := parseToSeed_phraseOf hC hB hsized
    have hsame : seedOf P (phraseOf C entropy) =
        (P.pbkdf2 (phraseOf C entropy) (utf8 "mnemonic") 2048 512).take 32 := by
      unfold seedOf
      rw [hwords]
      rfl
    have hrust : mnemonicToSeed B (phraseOf C entropy) = .ok (seedOf P (phraseOf C entropy)) := by
      unfold mnemonicToSeed
      rw [hseed, hsame]
      rfl
    refine ⟨hvalid, ?_, UserIdentity.fromSeed C (seedOf P (phraseOf C entropy)), ?_, ?_, ?_, ?_⟩
    · unfold mnemonicValidate
      rw [hseed]
      rfl
    · unfold UserIdentity.fromMnemonic
      rw [hrust]
      rfl
    · unfold mnemonicToNodeId
      rw [hrust]
      rfl
    · unfold deriveNodeId
      rw [if_pos hvalid]
      rfl
    · unfold identityKeys
      rw [if_pos hvalid]
      rfl
  · intro p
    rw [isValidMnemonic_iff_words hC, exists_generateMnemonic_iff]
    constructor
    · rintro ⟨entropy, hsized, hwords⟩
      exact ⟨entropy, hsized, (intercalate_words_eq_iff hC hsized).2 hwords⟩
    · rintro ⟨entropy, hsized, hwords⟩
      exact ⟨entropy, hsized, (intercalate_words_eq_iff hC hsized).1 hwords⟩

end Agreement

namespace OnePhrase

/-- Lower case as far as ASCII goes, and a seed that depends on the whole password. -/
def platform : Platform where
  lowercase s := String.ofList (s.toList.map Char.toLower)
  pbkdf2 password salt rounds bits := mixBytes (bits / 8) (utf8 password ++ salt ++ beBytes (UInt64.ofNat rounds))

/-- The package, on phrases it accepts. -/
def bip39 : Bip39 where
  fromEntropy entropy := .ok (bip39Phrase .transparent wordList entropy.1)
  parseToSeed phrase := .ok (platform.pbkdf2 phrase (utf8 "mnemonic") 2048 512)

theorem keepsLower_platform : platform.KeepsLower := by
  intro s hs
  have hmap : s.toList.map Char.toLower = s.toList := by
    refine (List.map_congr_left fun c hc => ?_).trans (List.map_id _)
    rcases hs c hc with hlower | rfl
    · unfold isLower at hlower
      simp only [Bool.and_eq_true, decide_eq_true_eq] at hlower
      have hval : c.val.toNat = c.toNat := rfl
      have hupper : ¬(c.val ≥ 'A'.val ∧ c.val ≤ 'Z'.val) := by
        rintro ⟨-, hle⟩
        rw [UInt32.le_iff_toNat_le, hval, show 'Z'.val.toNat = 90 from rfl] at hle
        omega
      exact dif_neg hupper
    · rfl
  show String.ofList (s.toList.map Char.toLower) = s
  rw [hmap, String.ofList_toList]

end OnePhrase

open OnePhrase in
/-- The phrase of sixteen zero bytes is accepted by both, and gives one id. -/
theorem mnemonic_agrees_zeros : ∃ phrase, isValidMnemonic .transparent platform phrase = true ∧
    ∃ id, UserIdentity.fromMnemonic .transparent bip39 phrase = .ok id ∧
      deriveNodeId .transparent platform phrase = .ok id.userIdHex := by
  have h := mnemonic_agrees (C := .transparent) (B := bip39) (fun bs => leBytes_length 32 _) keepsLower_platform
    ⟨fun _ _ => rfl⟩
  obtain ⟨hvalid, -, id, hid, -, hderived, -⟩ :=
    h.1 12 (fun n => ⟨List.replicate n 0, List.length_replicate⟩) _ (if_pos (.inl rfl))
  exact ⟨_, hvalid, id, hid, hderived⟩

end NodeX.Messenger.MnemonicHelper
