/-
The two encrypted file formats: the database file read with every slice checked, and the backup with its two headers.
What reads as a database is what was sealed under the same key or password, and nothing else.
-/
import NodeX.Messenger.DbFile

namespace NodeX

/-- A `Result` of a function that cannot panic. -/
def Outcome.ofExcept {α : Type} : Except String α → Outcome α
  | .ok a => .ok a
  | .error e => .err e

namespace Messenger

/-! ## Slices -/

/-- `&data[i..j]`. -/
def slice (data : Bytes) (i j : Nat) : Outcome Bytes :=
  if i ≤ j ∧ j ≤ data.length then .ok ((data.drop i).take (j - i)) else .panic

/-- `&data[i..]`. -/
def sliceFrom (data : Bytes) (i : Nat) : Outcome Bytes := slice data i data.length

/-- `copy_from_slice` and `from_slice` into an array of `n` bytes. -/
def toArray (n : Nat) (bs : Bytes) : Outcome { s : Bytes // s.length = n } :=
  if h : bs.length = n then .ok ⟨bs, h⟩ else .panic

theorem slice_append {as bs cs : Bytes} {i j : Nat} (hi : as.length = i) (hj : i + bs.length = j) :
    slice (as ++ (bs ++ cs)) i j = .ok bs := by
  subst hi hj
  unfold slice
  rw [if_pos (by simp), List.drop_left, Nat.add_sub_cancel_left, List.take_left]

theorem sliceFrom_append {as bs : Bytes} {i : Nat} (hi : as.length = i) : sliceFrom (as ++ bs) i = .ok bs := by
  subst hi
  unfold sliceFrom slice
  rw [if_pos (by simp), List.drop_left, List.length_append, Nat.add_sub_cancel_left, List.take_length]

theorem toArray_val {n : Nat} (s : { s : Bytes // s.length = n }) : toArray n s.1 = .ok s := by
  unfold toArray
  rw [dif_pos s.2]

/-! ## Keys -/

def backupMagic : Bytes := utf8 "NODEXBAK1"

def backupArgon2Marker : Bytes := utf8 "ARGON2ID"

/-- Argon2id of password and salt with the parameters of the crate. -/
abbrev Argon2 := Bytes → Salt → Except String MasterKey

variable (C : Crypto) (J : DbJson) (A : Argon2)

/-- `derive_backup_key_argon2`. -/
def deriveBackupKeyArgon2 (password : String) (salt : Salt) : Outcome Bytes :=
  match A (utf8 password) salt with
  | .ok key => .ok key.1
  | .error e => .err ("Backup key derivation failed: " ++ e)

/-- The key of a backup without the marker. -/
def legacyBackupKey (password : String) (salt : Salt) : Bytes :=
  C.sha256 (utf8 "NODEX_ENCRYPTED_BACKUP_V1" ++ utf8 password ++ salt.1)

/-- What a file is sealed under. -/
inductive KeySource where
  | db (masterKey : MasterKey) (salt : Salt)
  | backup (password : String) (salt : Salt)
  | legacyBackup (password : String) (salt : Salt)

def KeySource.key : KeySource → Outcome Bytes
  | .db masterKey salt => .ok (deriveCipherKey C masterKey salt.1)
  | .backup password salt => deriveBackupKeyArgon2 A password salt
  | .legacyBackup password salt => .ok (legacyBackupKey C password salt)

/-! ## Writing -/

/-- Header, salt, nonce and ciphertext. -/
def frame (header : Bytes) (salt : Salt) (nonce : AeadNonce) (ciphertext : Bytes) : Bytes :=
  header ++ (salt.1 ++ (nonce.1 ++ ciphertext))

/-- The bytes `export_encrypted_backup` writes. -/
def sealBackup (key : Bytes) (salt : Salt) (nonce : AeadNonce) (db : MessengerDb) : Bytes :=
  backupMagic ++ backupArgon2Marker ++ salt.1 ++ nonce.1 ++ C.aeadEncrypt key nonce.1 [] (J.print db)

/-- `export_encrypted_backup` over a file, with what it draws and how its write ends. -/
def exportEncryptedBackup (file : Option Bytes) (db : MessengerDb) (password : String) (salt : Salt)
    (nonce : AeadNonce) (write : WriteResult) : Option Bytes × Outcome Unit :=
  match deriveBackupKeyArgon2 A password salt with
  | .ok key =>
    (write.file file (sealBackup C J key salt nonce db),
      match write with
      | .done => .ok ()
      | .failed _ => .err "Write backup failed")
  | .err e => (file, .err e)
  | .panic => (file, .panic)

/-! ## Reading -/

/-- Salt, nonce and ciphertext from an offset on, opened under a key made of the salt. -/
def openAt (headerOffset : Nat) (key : Salt → Outcome Bytes) (failed parseFailed : String) (data : Bytes) :
    Outcome MessengerDb :=
  (slice data headerOffset (headerOffset + 16)).bind fun s =>
    (toArray 16 s).bind fun salt =>
      (slice data (headerOffset + 16) (headerOffset + 28)).bind fun n =>
        (toArray 12 n).bind fun nonce =>
          (sliceFrom data (headerOffset + 28)).bind fun ciphertext =>
            (key salt).bind fun key =>
              match C.aeadDecrypt key nonce.1 [] ciphertext with
              | none => .err failed
              | some plaintext => .ofExcept ((J.parse plaintext).mapError (parseFailed ++ ·))

/-- The part of `load_from_file` after the key, with its slices. -/
def readDb (masterKey : MasterKey) (data : Bytes) : Outcome MessengerDb :=
  if dbMagicV2.isPrefixOf data then
    if data.length < 9 + 16 + 12 then .err "Corrupted encrypted DB file header"
    else
      openAt C J 9 (fun salt => .ok (deriveCipherKey C masterKey salt.1))
        "Failed to decrypt local messenger database (integrity check failed or key mismatch)"
        "Parse decrypted DB failed: " data
  else .err "Unencrypted or legacy database format is rejected for security. Database must use NODEXENC2 format."

/-- `import_encrypted_backup` of a file that was read. -/
def readBackup (password : String) (data : Bytes) : Outcome MessengerDb :=
  if !backupMagic.isPrefixOf data || data.length < backupMagic.length + 16 + 12 then
    .err "Invalid or corrupted encrypted backup file"
  else
    (sliceFrom data backupMagic.length).bind fun rest =>
      let isArgon2 := backupArgon2Marker.isPrefixOf rest
      let headerOffset := if isArgon2 then backupMagic.length + backupArgon2Marker.length else backupMagic.length
      if data.length < headerOffset + 16 + 12 then .err "Invalid or corrupted encrypted backup header"
      else
        openAt C J headerOffset
          (fun salt =>
            if isArgon2 then deriveBackupKeyArgon2 A password salt else .ok (legacyBackupKey C password salt))
          "Backup decryption failed (incorrect password or corrupted file)" "Parse backup failed: " data

/-- `import_encrypted_backup`. -/
def importEncryptedBackup (file : Option Bytes) (password : String) : Outcome MessengerDb :=
  match file with
  | none => .err "Read backup file failed"
  | some data => readBackup C J A password data

/-! ## Frames -/

section Frames

variable {C J A} {header : Bytes} {salt salt' : Salt} {nonce nonce' : AeadNonce} {ct ct' data : Bytes}

theorem sealDb_eq_frame (key : MasterKey) (db : MessengerDb) : sealDb C J key salt nonce db =
    frame dbMagicV2 salt nonce (C.aeadEncrypt (deriveCipherKey C key salt.1) nonce.1 [] (J.print db)) := by
  simp [sealDb, frame, List.append_assoc]

theorem sealBackup_eq_frame (key : Bytes) (db : MessengerDb) : sealBackup C J key salt nonce db =
    frame (backupMagic ++ backupArgon2Marker) salt nonce (C.aeadEncrypt key nonce.1 [] (J.print db)) := by
  simp [sealBackup, frame, List.append_assoc]

theorem length_frame : (frame header salt nonce ct).length = header.length + 28 + ct.length := by
  have hsalt := salt.2
  have hnonce := nonce.2
  unfold frame
  simp only [List.length_append]
  omega

theorem prefix_frame : header <+: frame header salt nonce ct := List.prefix_append _ _

theorem frame_inj (h : frame header salt nonce ct = frame header salt' nonce' ct') :
    salt = salt' ∧ nonce = nonce' ∧ ct = ct' := by
  obtain ⟨hsalt, hrest⟩ := List.append_inj (List.append_cancel_left h) (salt.2.trans salt'.2.symm)
  obtain ⟨hnonce, hct⟩ := List.append_inj hrest (nonce.2.trans nonce'.2.symm)
  exact ⟨Subtype.ext hsalt, Subtype.ext hnonce, hct⟩

/-- Whatever has the header and is long enough is a frame. -/
theorem exists_frame (hheader : header <+: data) (hlen : header.length + 28 ≤ data.length) :
    ∃ salt nonce ct, data = frame header salt nonce ct := by
  obtain ⟨rest, rfl⟩ := hheader
  rw [List.length_append] at hlen
  refine ⟨⟨rest.take 16, by simp; omega⟩, ⟨(rest.drop 16).take 12, by simp; omega⟩, (rest.drop 16).drop 12, ?_⟩
  unfold frame
  rw [List.take_append_drop, List.take_append_drop]

/-- No slice of a frame is out of range. -/
theorem openAt_frame {offset : Nat} (hoffset : header.length = offset) (key : Salt → Outcome Bytes)
    (failed parseFailed : String) : openAt C J offset key failed parseFailed (frame header salt nonce ct) =
      (key salt).bind fun key =>
        match C.aeadDecrypt key nonce.1 [] ct with
        | none => .err failed
        | some plaintext => .ofExcept ((J.parse plaintext).mapError (parseFailed ++ ·)) := by
  have hsalt : slice (frame header salt nonce ct) offset (offset + 16) = .ok salt.1 :=
    slice_append hoffset (by rw [salt.2])
  have hnonce : slice (frame header salt nonce ct) (offset + 16) (offset + 28) = .ok nonce.1 := by
    unfold frame
    rw [← List.append_assoc]
    refine slice_append ?_ ?_
    · rw [List.length_append, hoffset, salt.2]
    · rw [nonce.2]
  have hct : sliceFrom (frame header salt nonce ct) (offset + 28) = .ok ct := by
    unfold frame
    rw [← List.append_assoc, ← List.append_assoc]
    refine sliceFrom_append ?_
    rw [List.length_append, List.length_append, hoffset, salt.2, nonce.2]
  unfold openAt
  rw [hsalt]
  show (toArray 16 salt.1).bind _ = _
  rw [toArray_val]
  show (slice _ _ _).bind _ = _
  rw [hnonce]
  show (toArray 12 nonce.1).bind _ = _
  rw [toArray_val]
  show (sliceFrom _ _).bind _ = _
  rw [hct]
  rfl

end Frames

/-! ## What was sealed -/

/-- What has been sealed so far: under what, with which nonce, and which database. -/
abbrev Sealed := KeySource → AeadNonce → MessengerDb → Prop

variable (W : Sealed)

/-- The ideal cipher, hash and Argon2, and JSON that reads back: the key of a source opens with a nonce what was sealed
under that source and nonce and nothing else, and no two sealings make one ciphertext. -/
structure IdealSealing : Prop where
  opens : ∀ source key (nonce : AeadNonce) ct plaintext, KeySource.key C A source = .ok key →
    (C.aeadDecrypt key nonce.1 [] ct = some plaintext ↔
      ∃ db, W source nonce db ∧ plaintext = J.print db ∧ ct = C.aeadEncrypt key nonce.1 [] plaintext)
  apart : ∀ source source' key key' nonce nonce' db db', W source nonce db → W source' nonce' db' →
    KeySource.key C A source = .ok key → KeySource.key C A source' = .ok key' →
    C.aeadEncrypt key nonce.1 [] (J.print db) = C.aeadEncrypt key' nonce'.1 [] (J.print db') →
      source = source' ∧ nonce = nonce'
  reads : ∀ source nonce db, W source nonce db → J.parse (J.print db) = .ok db

/-- A file with a header that holds a database sealed under a source with the salt of the file. -/
def Holds (header : Bytes) (source : Salt → KeySource) (db : MessengerDb) (data : Bytes) : Prop :=
  ∃ salt nonce key, (source salt).key C A = .ok key ∧ W (source salt) nonce db ∧
    data = frame header salt nonce (C.aeadEncrypt key nonce.1 [] (J.print db))

/-- What `import_encrypted_backup` takes for a backup without the marker. -/
def HoldsLegacy (password : String) (db : MessengerDb) (data : Bytes) : Prop :=
  Holds C J A W backupMagic (.legacyBackup password) db data ∧ ¬backupArgon2Marker <+: data.drop backupMagic.length

/-- An error, and no panic. -/
def Rejected (x : Outcome MessengerDb) : Prop := ∃ e, x = .err e

/-- A reader that returns the database of every file that holds one and an error for all other data. -/
structure Authentic (read : Bytes → Outcome MessengerDb) (holds : MessengerDb → Bytes → Prop) : Prop where
  reads : ∀ db data, holds db data → read data = .ok db
  rejects : ∀ data, (∀ db, ¬holds db data) → Rejected (read data)

/-- A file cut short, or with one byte another. -/
def Damaged (file data : Bytes) : Prop := data ≠ file ∧ (data <+: file ∨ ∃ i b, data = file.set i b)


section Formats

variable {C J A W} {header data : Bytes} {source : Salt → KeySource}

theorem key_ne_panic (source : KeySource) : source.key C A ≠ .panic := by
  intro h
  cases source with
  | db masterKey salt => cases h
  | backup password salt =>
    change deriveBackupKeyArgon2 A password salt = .panic at h
    unfold deriveBackupKeyArgon2 at h
    split at h
    · cases h
    · cases h
  | legacyBackup password salt => cases h

/-- What is opened behind a header of the right length is what was sealed under the source. -/
theorem openAt_authentic (hI : IdealSealing C J A W) (source : Salt → KeySource) {offset : Nat}
    (hoffset : header.length = offset) (failed parseFailed : String) (hheader : header <+: data)
    (hlen : offset + 28 ≤ data.length) :
    (∀ db, Holds C J A W header source db data →
        openAt C J offset (fun salt => (source salt).key C A) failed parseFailed data = .ok db) ∧
      ((∀ db, ¬Holds C J A W header source db data) →
        Rejected (openAt C J offset (fun salt => (source salt).key C A) failed parseFailed data)) := by
  obtain ⟨salt, nonce, ct, rfl⟩ := exists_frame hheader (hoffset ▸ hlen)
  rw [openAt_frame hoffset]
  cases hkey : (source salt).key C A with
  | panic => exact absurd hkey (key_ne_panic _)
  | err e =>
    refine ⟨?_, fun _ => ⟨e, rfl⟩⟩
    rintro db ⟨salt', nonce', key, hkey', -, hframe⟩
    obtain ⟨rfl, -, -⟩ := frame_inj hframe
    rw [hkey] at hkey'
    cases hkey'
  | ok key =>
    constructor
    · rintro db ⟨salt', nonce', key', hkey', hsealed, hframe⟩
      obtain ⟨rfl, rfl, rfl⟩ := frame_inj hframe
      obtain rfl : key = key' := Outcome.ok.inj (hkey.symm.trans hkey')
      have hopen := (hI.opens _ key nonce _ (J.print db) hkey).2 ⟨db, hsealed, rfl, rfl⟩
      dsimp only [Outcome.bind]
      rw [hopen]
      dsimp only
      rw [hI.reads _ _ _ hsealed]
      rfl
    · intro hnone
      dsimp only [Outcome.bind]
      cases hopen : C.aeadDecrypt key nonce.1 [] ct with
      | none => exact ⟨failed, rfl⟩
      | some plaintext =>
        obtain ⟨db, hsealed, rfl, rfl⟩ := (hI.opens _ key nonce ct plaintext hkey).1 hopen
        exact absurd ⟨salt, nonce, key, hkey, hsealed, rfl⟩ (hnone db)

theorem Holds.prefix_length {db : MessengerDb} (h : Holds C J A W header source db data) :
    header <+: data ∧ header.length + 28 ≤ data.length := by
  obtain ⟨salt, nonce, key, -, -, rfl⟩ := h
  rw [length_frame]
  exact ⟨prefix_frame, by omega⟩

theorem readDb_authentic (hI : IdealSealing C J A W) (masterKey : MasterKey) :
    Authentic (readDb C J masterKey) (Holds C J A W dbMagicV2 (.db masterKey)) := by
  have hmagic : dbMagicV2.length = 9 := by decide
  have hopen : ∀ data : Bytes, dbMagicV2 <+: data → 37 ≤ data.length → _ := fun data hheader hlen =>
    openAt_authentic hI (.db masterKey) hmagic
      "Failed to decrypt local messenger database (integrity check failed or key mismatch)"
      "Parse decrypted DB failed: " hheader hlen
  constructor
  · intro db data h
    obtain ⟨hheader, hlen⟩ := h.prefix_length
    unfold readDb
    rw [if_pos (List.isPrefixOf_iff_prefix.2 hheader), if_neg (by omega)]
    exact (hopen data hheader (by omega)).1 db h
  · intro data hnone
    unfold readDb
    split
    · rename_i hheader
      split
      · exact ⟨_, rfl⟩
      · rename_i hlen
        exact (hopen data (List.isPrefixOf_iff_prefix.1 hheader) (by omega)).2 hnone
    · exact ⟨_, rfl⟩

/-- The database of a backup with or without the marker. -/
def HoldsBackup (C : Crypto) (J : DbJson) (A : Argon2) (W : Sealed) (password : String) (db : MessengerDb)
    (data : Bytes) : Prop :=
  Holds C J A W (backupMagic ++ backupArgon2Marker) (.backup password) db data ∨ HoldsLegacy C J A W password db data

theorem sliceFrom_of_le {i : Nat} (h : i ≤ data.length) : sliceFrom data i = .ok (data.drop i) := by
  have hsplit : sliceFrom (data.take i ++ data.drop i) i = .ok (data.drop i) :=
    sliceFrom_append (List.length_take_of_le h)
  rwa [List.take_append_drop] at hsplit

theorem readBackup_of_marker (password : String) (hmagic : backupMagic <+: data) (hlen : 37 ≤ data.length)
    (hmarker : backupArgon2Marker <+: data.drop backupMagic.length) :
    readBackup C J A password data =
      if data.length < 45 then .err "Invalid or corrupted encrypted backup header"
      else openAt C J 17 (fun salt => (KeySource.backup password salt).key C A)
        "Backup decryption failed (incorrect password or corrupted file)" "Parse backup failed: " data := by
  have h9 : backupMagic.length = 9 := by decide
  have h8 : backupArgon2Marker.length = 8 := by decide
  unfold readBackup
  rw [List.isPrefixOf_iff_prefix.2 hmagic, if_neg (by simp [h9]; omega), sliceFrom_of_le (by omega)]
  show (if data.length < _ then _ else openAt C J _ _ _ _ data) = _
  rw [List.isPrefixOf_iff_prefix.2 hmarker, if_pos rfl, h9, h8]
  rfl

theorem readBackup_of_not_marker (password : String) (hmagic : backupMagic <+: data) (hlen : 37 ≤ data.length)
    (hmarker : ¬backupArgon2Marker <+: data.drop backupMagic.length) :
    readBackup C J A password data =
      openAt C J 9 (fun salt => (KeySource.legacyBackup password salt).key C A)
        "Backup decryption failed (incorrect password or corrupted file)" "Parse backup failed: " data := by
  have h9 : backupMagic.length = 9 := by decide
  have hnot : backupArgon2Marker.isPrefixOf (data.drop backupMagic.length) = false := by
    rw [Bool.eq_false_iff]
    exact fun h => hmarker (List.isPrefixOf_iff_prefix.1 h)
  unfold readBackup
  rw [List.isPrefixOf_iff_prefix.2 hmagic, if_neg (by simp [h9]; omega), sliceFrom_of_le (by omega)]
  show (if data.length < _ then _ else openAt C J _ _ _ _ data) = _
  rw [hnot, if_neg Bool.false_ne_true, h9, if_neg (by omega)]
  rfl

theorem readBackup_of_invalid (password : String) (h : ¬(backupMagic <+: data ∧ 37 ≤ data.length)) :
    readBackup C J A password data = .err "Invalid or corrupted encrypted backup file" := by
  have h9 : backupMagic.length = 9 := by decide
  unfold readBackup
  rw [if_pos]
  rw [Bool.or_eq_true, Bool.not_eq_true', decide_eq_true_eq, h9]
  by_cases hmagic : backupMagic <+: data
  · right
    have hlen := not_and.1 h hmagic
    omega
  · left
    rw [Bool.eq_false_iff]
    exact fun hprefix => hmagic (List.isPrefixOf_iff_prefix.1 hprefix)

theorem starts_backup (h : backupMagic ++ backupArgon2Marker <+: data) :
    backupMagic <+: data ∧ backupArgon2Marker <+: data.drop backupMagic.length := by
  obtain ⟨rest, rfl⟩ := h
  rw [List.append_assoc, List.drop_left]
  exact ⟨List.prefix_append _ _, List.prefix_append _ _⟩

theorem header_of_starts (hmagic : backupMagic <+: data)
    (hmarker : backupArgon2Marker <+: data.drop backupMagic.length) :
    backupMagic ++ backupArgon2Marker <+: data := by
  obtain ⟨rest, rfl⟩ := hmagic
  rw [List.drop_left] at hmarker
  exact (List.prefix_append_right_inj _).2 hmarker

theorem readBackup_authentic (hI : IdealSealing C J A W) (password : String) :
    Authentic (readBackup C J A password) (HoldsBackup C J A W password) := by
  have h9 : backupMagic.length = 9 := by decide
  have h17 : (backupMagic ++ backupArgon2Marker).length = 17 := by decide
  have hopen : ∀ {header data : Bytes} {offset : Nat} (source : Salt → KeySource), header.length = offset →
      header <+: data → offset + 28 ≤ data.length → _ := fun {_ _ _} source hoffset hheader hlen =>
    openAt_authentic hI source hoffset
      "Backup decryption failed (incorrect password or corrupted file)" "Parse backup failed: " hheader hlen
  constructor
  · rintro db data (h | ⟨h, hnot⟩)
    · obtain ⟨hheader, hlen⟩ := h.prefix_length
      obtain ⟨hmagic, hmarker⟩ := starts_backup hheader
      rw [h17] at hlen
      rw [readBackup_of_marker password hmagic (by omega) hmarker, if_neg (by omega)]
      exact (hopen (.backup password) h17 hheader hlen).1 db h
    · obtain ⟨hheader, hlen⟩ := h.prefix_length
      rw [h9] at hlen
      rw [readBackup_of_not_marker password hheader hlen hnot]
      exact (hopen (.legacyBackup password) h9 hheader hlen).1 db h
  · intro data hnone
    by_cases hvalid : backupMagic <+: data ∧ 37 ≤ data.length
    · obtain ⟨hmagic, hlen⟩ := hvalid
      by_cases hmarker : backupArgon2Marker <+: data.drop backupMagic.length
      · rw [readBackup_of_marker password hmagic hlen hmarker]
        split
        · exact ⟨_, rfl⟩
        · rename_i hlong
          exact (hopen (.backup password) h17 (header_of_starts hmagic hmarker) (by omega)).2
            fun db h => hnone db (.inl h)
      · rw [readBackup_of_not_marker password hmagic hlen hmarker]
        exact (hopen (.legacyBackup password) h9 hmagic hlen).2 fun db h => hnone db (.inr ⟨h, hmarker⟩)
    · exact ⟨_, readBackup_of_invalid password hvalid⟩

/-- A file is sealed under one source. -/
theorem source_of_holds (hI : IdealSealing C J A W) {source' : Salt → KeySource} {db db' : MessengerDb}
    (h : Holds C J A W header source db data) (h' : Holds C J A W header source' db' data) :
    ∃ salt, source salt = source' salt := by
  obtain ⟨salt, nonce, key, hkey, hsealed, rfl⟩ := h
  obtain ⟨salt', nonce', key', hkey', hsealed', hframe⟩ := h'
  obtain ⟨rfl, rfl, hct⟩ := frame_inj hframe
  exact ⟨salt, (hI.apart _ _ _ _ _ _ _ _ hsealed hsealed' hkey hkey' hct).1⟩

/-- Damage leaves salt and nonce as they are, or the ciphertext. -/
theorem damaged_frame {salt salt' : Salt} {nonce nonce' : AeadNonce} {ct ct' : Bytes}
    (h : Damaged (frame header salt nonce ct) (frame header salt' nonce' ct')) :
    salt' = salt ∧ nonce' = nonce ∨ ct' = ct := by
  have hframe : ∀ (salt : Salt) (nonce : AeadNonce) (ct : Bytes),
      frame header salt nonce ct = (header ++ salt.1 ++ nonce.1) ++ ct := by
    intro salt nonce ct
    simp [frame, List.append_assoc]
  have hlen : ∀ (salt : Salt) (nonce : AeadNonce), (header ++ salt.1 ++ nonce.1).length = header.length + 28 := by
    intro salt nonce
    rw [List.length_append, List.length_append, salt.2, nonce.2]
  have hsame : ∀ {ct ct' : Bytes}, frame header salt' nonce' ct' = (header ++ salt.1 ++ nonce.1) ++ ct →
      salt' = salt ∧ nonce' = nonce := by
    intro ct ct' heq
    rw [← hframe salt nonce ct] at heq
    obtain ⟨hsalt, hnonce, -⟩ := frame_inj heq
    exact ⟨hsalt, hnonce⟩
  rcases h.2 with ⟨rest, hprefix⟩ | ⟨i, b, hset⟩
  · left
    refine @hsame ct (ct' ++ rest) ?_
    rw [← hframe, ← hprefix]
    simp [frame, List.append_assoc]
  · rw [hframe salt nonce ct, List.set_append] at hset
    split at hset
    · right
      rw [hframe salt' nonce' ct'] at hset
      exact (List.append_inj hset (by rw [List.length_set, hlen, hlen])).2
    · left
      exact hsame hset

/-- A damaged file holds nothing, if its nonce was not used twice under its key. -/
theorem not_holds_of_damaged (hI : IdealSealing C J A W)
    (hsource : ∀ salt salt', source salt = source salt' → salt = salt')
    {salt : Salt} {nonce : AeadNonce} {key : Bytes} {db : MessengerDb} (hkey : (source salt).key C A = .ok key)
    (hsealed : W (source salt) nonce db) (honce : ∀ db', W (source salt) nonce db' → db' = db)
    (hdamaged : Damaged (frame header salt nonce (C.aeadEncrypt key nonce.1 [] (J.print db))) data)
    (db' : MessengerDb) : ¬Holds C J A W header source db' data := by
  rintro ⟨salt', nonce', key', hkey', hsealed', rfl⟩
  have hsame : salt' = salt ∧ nonce' = nonce := by
    rcases damaged_frame hdamaged with h | hct
    · exact h
    · obtain ⟨hsource', hnonce⟩ := hI.apart _ _ _ _ _ _ _ _ hsealed' hsealed hkey' hkey hct
      exact ⟨hsource _ _ hsource', hnonce⟩
  obtain ⟨rfl, rfl⟩ := hsame
  obtain rfl := honce db' hsealed'
  obtain rfl : key' = key := Outcome.ok.inj (hkey'.symm.trans hkey)
  exact hdamaged.1 rfl

/-- `load_from_file` reads what the slices give. -/
theorem readDb_eq_openDb (masterKey : MasterKey) (data : Bytes) :
    readDb C J masterKey data = .ofExcept (openDb C J masterKey data) := by
  have hmagic : dbMagicV2.length = 9 := by decide
  unfold readDb openDb
  by_cases hheader : dbMagicV2 <+: data
  · rw [if_pos (List.isPrefixOf_iff_prefix.2 hheader), if_pos (List.isPrefixOf_iff_prefix.2 hheader)]
    by_cases hlen : data.length < 9 + 16 + 12
    · rw [if_pos hlen, if_pos hlen]
      rfl
    · rw [if_neg hlen, if_neg hlen]
      obtain ⟨salt, nonce, ct, rfl⟩ := exists_frame hheader (by omega)
      have h9 : (frame dbMagicV2 salt nonce ct).drop 9 = salt.1 ++ (nonce.1 ++ ct) := List.drop_left' hmagic
      have h25 : (frame dbMagicV2 salt nonce ct).drop 25 = nonce.1 ++ ct := by
        rw [show 25 = 9 + 16 from rfl, ← List.drop_drop, h9, List.drop_left' salt.2]
      have h37 : (frame dbMagicV2 salt nonce ct).drop 37 = ct := by
        rw [show 37 = 25 + 12 from rfl, ← List.drop_drop, h25, List.drop_left' nonce.2]
      rw [openAt_frame hmagic, h9, h25, h37, List.take_left' salt.2, List.take_left' nonce.2]
      dsimp only [Outcome.bind]
      cases C.aeadDecrypt (deriveCipherKey C masterKey salt.1) nonce.1 [] ct with
      | none => rfl
      | some plaintext => rfl
  · have hnot : ¬dbMagicV2.isPrefixOf data = true := fun h => hheader (List.isPrefixOf_iff_prefix.1 h)
    rw [if_neg hnot, if_neg hnot]
    rfl

theorem loadFromFile_eq {P : DbPath} {w : World} {fresh : MasterKey} {write : WriteResult}
    (hfile : w.dbFile = some data) (hdata : data ≠ []) : (∀ key, (getOrCreateInstanceKey P w fresh write).2 = .ok key →
        .ofExcept (loadFromFile C J P w fresh write).2 = readDb C J key data) ∧
      ∀ e, (getOrCreateInstanceKey P w fresh write).2 = .error e → (loadFromFile C J P w fresh write).2 = .error e := by
  unfold loadFromFile
  rw [hfile]
  dsimp only
  rw [if_neg (by simpa using hdata)]
  rcases getOrCreateInstanceKey P w fresh write with ⟨w', e | key⟩
  · refine ⟨?_, ?_⟩
    · rintro key ⟨⟩
    · rintro e ⟨⟩
      rfl
  · refine ⟨?_, ?_⟩
    · rintro key ⟨⟩
      exact (readDb_eq_openDb key data).symm
    · rintro e ⟨⟩

theorem saveToFile_ok {P : DbPath} {w : World} {db : MessengerDb} {draw : SaveDraw}
    (h : (saveToFile C J P w db draw).2 = .ok ()) :
    ∃ key, (getOrCreateInstanceKey P w draw.key draw.keyWrite).2 = .ok key ∧
      (saveToFile C J P w db draw).1.dbFile = some (sealDb C J key draw.salt draw.nonce db) := by
  unfold saveToFile at h ⊢
  rcases hkey : getOrCreateInstanceKey P w draw.key draw.keyWrite with ⟨w', e | key⟩
  · rw [hkey] at h
    cases h
  · rw [hkey] at h
    refine ⟨key, rfl, ?_⟩
    dsimp only at h ⊢
    cases hwrite : draw.dbWrite with
    | done => rfl
    | failed left =>
      rw [hwrite] at h
      cases h

theorem exportEncryptedBackup_ok {file : Option Bytes} {db : MessengerDb} {password : String} {salt : Salt}
    {nonce : AeadNonce} {write : WriteResult}
    (h : (exportEncryptedBackup C J A file db password salt nonce write).2 = .ok ()) :
    ∃ key, (KeySource.backup password salt).key C A = .ok key ∧
      (exportEncryptedBackup C J A file db password salt nonce write).1 = some (sealBackup C J key salt nonce db) := by
  unfold exportEncryptedBackup at h ⊢
  cases hkey : deriveBackupKeyArgon2 A password salt with
  | ok key =>
    refine ⟨key, hkey, ?_⟩
    cases write with
    | done => rfl
    | failed left =>
      rw [hkey] at h
      cases h
  | err e =>
    rw [hkey] at h
    cases h
  | panic =>
    rw [hkey] at h
    cases h

end Formats

/-! ## Both formats -/

/-- What the two formats come to: what was written reads back, a backup without the marker too, and all else is an
error; no slice is out of range. -/
structure FormatsAuthentic : Prop where
  save : ∀ P w db draw, (saveToFile C J P w db draw).2 = .ok () →
    ∃ key, (getOrCreateInstanceKey P w draw.key draw.keyWrite).2 = .ok key ∧
      (W (.db key draw.salt) draw.nonce db →
        ∃ data, (saveToFile C J P w db draw).1.dbFile = some data ∧ Holds C J A W dbMagicV2 (.db key) db data)
  load : ∀ P w fresh write data, w.dbFile = some data → data ≠ [] →
    (∀ key, (getOrCreateInstanceKey P w fresh write).2 = .ok key →
      .ofExcept (loadFromFile C J P w fresh write).2 = readDb C J key data) ∧
    ∀ e, (getOrCreateInstanceKey P w fresh write).2 = .error e → (loadFromFile C J P w fresh write).2 = .error e
  db : ∀ key, Authentic (readDb C J key) (Holds C J A W dbMagicV2 (.db key))
  otherKey : ∀ key key' db data, key ≠ key' → Holds C J A W dbMagicV2 (.db key') db data →
    Rejected (readDb C J key data)
  damagedDb : ∀ key salt nonce db, W (.db key salt) nonce db → (∀ db', W (.db key salt) nonce db' → db' = db) →
    ∀ data, Damaged (sealDb C J key salt nonce db) data → Rejected (readDb C J key data)
  exported : ∀ file db password salt nonce write,
    (exportEncryptedBackup C J A file db password salt nonce write).2 = .ok () → W (.backup password salt) nonce db →
      ∃ data, (exportEncryptedBackup C J A file db password salt nonce write).1 = some data ∧
        Holds C J A W (backupMagic ++ backupArgon2Marker) (.backup password) db data
  backup : ∀ password, Authentic (fun data => importEncryptedBackup C J A (some data) password)
    (HoldsBackup C J A W password)
  otherPassword : ∀ password password' db data, password ≠ password' →
    Holds C J A W (backupMagic ++ backupArgon2Marker) (.backup password') db data →
      Rejected (importEncryptedBackup C J A (some data) password)
  damagedBackup : ∀ password salt nonce db key, A (utf8 password) salt = .ok key → W (.backup password salt) nonce db →
    (∀ db', W (.backup password salt) nonce db' → db' = db) →
      ∀ data, Damaged (sealBackup C J key.1 salt nonce db) data → (∀ db', ¬HoldsLegacy C J A W password db' data) →
        Rejected (importEncryptedBackup C J A (some data) password)

variable {C J A W} in
/-- Under an ideal cipher both formats read back exactly what was sealed under the same key or password. -/
theorem formats_authentic (hI : IdealSealing C J A W) : FormatsAuthentic C J A W where
  save P w db draw h := by
    obtain ⟨key, hkey, hfile⟩ := saveToFile_ok h
    refine ⟨key, hkey, fun hsealed => ⟨_, hfile, ?_⟩⟩
    exact ⟨draw.salt, draw.nonce, _, rfl, hsealed, sealDb_eq_frame key db⟩
  load P w fresh write data hfile hdata := loadFromFile_eq hfile hdata
  db := readDb_authentic hI
  otherKey key key' db data hne h := by
    refine (readDb_authentic hI key).rejects data fun db' h' => ?_
    obtain ⟨salt, hsource⟩ := source_of_holds hI h' h
    exact hne (KeySource.db.inj hsource).1
  damagedDb key salt nonce db hsealed honce data hdamaged := by
    refine (readDb_authentic hI key).rejects data (not_holds_of_damaged hI ?_ rfl hsealed honce ?_)
    · intro salt salt' h
      exact (KeySource.db.inj h).2
    · rwa [sealDb_eq_frame] at hdamaged
  exported file db password salt nonce write h hsealed := by
    obtain ⟨key, hkey, hfile⟩ := exportEncryptedBackup_ok h
    exact ⟨_, hfile, salt, nonce, key, hkey, hsealed, sealBackup_eq_frame key db⟩
  backup := readBackup_authentic hI
  otherPassword password password' db data hne h := by
    refine (readBackup_authentic hI password).rejects data ?_
    rintro db' (h' | ⟨-, hnot⟩)
    · obtain ⟨salt, hsource⟩ := source_of_holds hI h' h
      exact hne (KeySource.backup.inj hsource).1
    · exact hnot (starts_backup h.prefix_length.1).2
  damagedBackup password salt nonce db key hkey hsealed honce data hdamaged hlegacy := by
    have hsource : (KeySource.backup password salt).key C A = .ok key.1 := by
      show deriveBackupKeyArgon2 A password salt = .ok key.1
      unfold deriveBackupKeyArgon2
      rw [hkey]
    refine (readBackup_authentic hI password).rejects data ?_
    rintro db' (h' | h')
    · refine not_holds_of_damaged hI ?_ hsource hsealed honce ?_ db' h'
      · intro salt salt' h
        exact (KeySource.backup.inj h).2
      · rwa [sealBackup_eq_frame] at hdamaged
    · exact hlegacy db' h'

/-! ## Three files -/

namespace Files

def salt : Salt := ⟨List.replicate 16 3, by simp⟩

def masterKey : MasterKey := ⟨List.replicate 32 1, by simp⟩

def password : String := "correct horse"

theorem length_nonceAt (b : UInt8) : (List.replicate 12 b).length = 12 := List.length_replicate

def nonceAt (b : UInt8) : AeadNonce := ⟨List.replicate 12 b, length_nonceAt b⟩

/-- The database, a backup and a backup of before the marker. -/
def entries : List (KeySource × AeadNonce) :=
  [(.db masterKey salt, nonceAt 4), (.backup password salt, nonceAt 5), (.legacyBackup password salt, nonceAt 6)]

/-- One key for the password and the salt of the backup, another for all else. -/
def argon2 : Argon2 := fun pw s =>
  .ok (if pw = utf8 password ∧ s = salt then ⟨List.replicate 32 7, by simp⟩ else ⟨List.replicate 32 8, by simp⟩)

/-- The keys of the three files, with their nonces. -/
def made : List (Bytes × Bytes) :=
  [(utf8 "NODEX_DB_CIPHER_KEY_DERIVATION_V2" ++ masterKey.1 ++ salt.1, (nonceAt 4).1),
    (List.replicate 32 7, (nonceAt 5).1),
    (utf8 "NODEX_ENCRYPTED_BACKUP_V1" ++ utf8 password ++ salt.1, (nonceAt 6).1)]

/-- The primitives with a hash that keeps its input and a cipher that keeps key and nonce and opens what was sealed. -/
def crypto : Crypto :=
  { Crypto.transparent with
    sha256 := id
    aeadEncrypt := fun key nonce ad pt => key ++ (nonce ++ (ad ++ pt))
    aeadDecrypt := fun key nonce ad ct =>
      if (key, nonce) ∈ made ∧ ct = key ++ (nonce ++ (ad ++ StaleKey.emptyText)) then some StaleKey.emptyText
      else none }

def sealed : Sealed := fun source nonce db => (source, nonce) ∈ entries ∧ db = {}

def legacyKey : Bytes := legacyBackupKey crypto password salt

/-- The backup of before the marker. -/
def legacyFile : Bytes :=
  frame backupMagic salt (nonceAt 6) (crypto.aeadEncrypt legacyKey (nonceAt 6).1 [] StaleKey.emptyText)

theorem db_ne_legacy (xs ys : Bytes) :
    utf8 "NODEX_DB_CIPHER_KEY_DERIVATION_V2" ++ xs ≠ utf8 "NODEX_ENCRYPTED_BACKUP_V1" ++ ys := by
  intro h
  have hhead := congrArg (List.take 25) h
  rw [List.take_append_of_le_length (by decide), List.take_append_of_le_length (by decide)] at hhead
  exact absurd hhead (by decide)

theorem db_inj {mk : MasterKey} {s : Salt} :
    utf8 "NODEX_DB_CIPHER_KEY_DERIVATION_V2" ++ mk.1 ++ s.1 =
      utf8 "NODEX_DB_CIPHER_KEY_DERIVATION_V2" ++ masterKey.1 ++ salt.1 ↔ mk = masterKey ∧ s = salt := by
  rw [List.append_assoc, List.append_assoc, List.append_cancel_left_eq, Subtype.ext_iff, Subtype.ext_iff]
  constructor
  · intro h
    exact List.append_inj h (mk.2.trans masterKey.2.symm)
  · rintro ⟨hmk, hs⟩
    rw [hmk, hs]

theorem legacy_inj {pw : String} {s : Salt} :
    utf8 "NODEX_ENCRYPTED_BACKUP_V1" ++ utf8 pw ++ s.1 =
      utf8 "NODEX_ENCRYPTED_BACKUP_V1" ++ utf8 password ++ salt.1 ↔ pw = password ∧ s = salt := by
  rw [← utf8_inj, Subtype.ext_iff]
  constructor
  · intro h
    obtain ⟨hpw, hs⟩ := List.append_inj' h (s.2.trans salt.2.symm)
    exact ⟨List.append_cancel_left hpw, hs⟩
  · rintro ⟨hpw, hs⟩
    rw [hpw, hs]

theorem ne_replicate {key : Bytes} {n : Nat} {b : UInt8} (h : key.length ≠ n) : key ≠ List.replicate n b := by
  rintro rfl
  exact h List.length_replicate

/-- The key of a source is that of a file exactly when the source is. -/
theorem mem_made_iff {source : KeySource} {key : Bytes} {nonce : AeadNonce}
    (hkey : source.key crypto argon2 = .ok key) : (key, nonce.1) ∈ made ↔ (source, nonce) ∈ entries := by
  have hnonce : ∀ b : UInt8, nonce.1 = (nonceAt b).1 ↔ nonce = nonceAt b := fun b => Subtype.ext_iff.symm
  have hdb : (utf8 "NODEX_DB_CIPHER_KEY_DERIVATION_V2").length = 33 := by decide
  have hlegacy : (utf8 "NODEX_ENCRYPTED_BACKUP_V1").length = 25 := by decide
  cases source with
  | db mk s =>
    obtain rfl := Outcome.ok.inj hkey
    show (utf8 "NODEX_DB_CIPHER_KEY_DERIVATION_V2" ++ mk.1 ++ s.1, nonce.1) ∈ made ↔ _
    have hlen : (utf8 "NODEX_DB_CIPHER_KEY_DERIVATION_V2" ++ mk.1 ++ s.1).length ≠ 32 := by
      simp only [List.length_append]
      omega
    have hnot : utf8 "NODEX_DB_CIPHER_KEY_DERIVATION_V2" ++ mk.1 ++ s.1 ≠
        utf8 "NODEX_ENCRYPTED_BACKUP_V1" ++ utf8 password ++ salt.1 := by
      rw [List.append_assoc, List.append_assoc]
      exact db_ne_legacy _ _
    simp only [made, entries, List.mem_cons, Prod.mk.injEq, List.not_mem_nil, or_false, db_inj, ne_replicate hlen, hnot,
      hnonce, KeySource.db.injEq, reduceCtorEq, false_and]
  | backup pw s =>
    have hne : ∀ b : UInt8, ∀ tail : Bytes, 32 < tail.length → List.replicate 32 b ≠ tail :=
      fun b tail h heq => ne_replicate (by omega) heq.symm
    have hmaster := fun b => hne b (utf8 "NODEX_DB_CIPHER_KEY_DERIVATION_V2" ++ masterKey.1 ++ salt.1) (by decide)
    have hold := fun b => hne b (utf8 "NODEX_ENCRYPTED_BACKUP_V1" ++ utf8 password ++ salt.1) (by decide)
    obtain rfl := Outcome.ok.inj hkey
    by_cases h : pw = password ∧ s = salt
    · rw [if_pos (by rw [utf8_inj]; exact h)]
      simp only [made, entries, List.mem_cons, Prod.mk.injEq, List.not_mem_nil, or_false, hmaster, hold, hnonce,
        reduceCtorEq, false_and, false_or, h, true_and]
    · rw [if_neg (by rw [utf8_inj]; exact h)]
      have h87 : List.replicate 32 (8 : UInt8) ≠ List.replicate 32 7 := by decide
      simp only [made, entries, List.mem_cons, Prod.mk.injEq, List.not_mem_nil, or_false, hmaster, hold,
        KeySource.backup.injEq, reduceCtorEq, false_and, h, h87]
  | legacyBackup pw s =>
    obtain rfl := Outcome.ok.inj hkey
    show (utf8 "NODEX_ENCRYPTED_BACKUP_V1" ++ utf8 pw ++ s.1, nonce.1) ∈ made ↔ _
    have hlen : (utf8 "NODEX_ENCRYPTED_BACKUP_V1" ++ utf8 pw ++ s.1).length ≠ 32 := by
      simp only [List.length_append]
      omega
    have hnot : utf8 "NODEX_ENCRYPTED_BACKUP_V1" ++ utf8 pw ++ s.1 ≠
        utf8 "NODEX_DB_CIPHER_KEY_DERIVATION_V2" ++ masterKey.1 ++ salt.1 := by
      rw [List.append_assoc, List.append_assoc]
      exact (db_ne_legacy _ _).symm
    simp only [made, entries, List.mem_cons, Prod.mk.injEq, List.not_mem_nil, or_false, legacy_inj, ne_replicate hlen,
      hnot, hnonce, KeySource.legacyBackup.injEq, reduceCtorEq, false_and, false_or]

theorem ciphertexts_apart {source source' : KeySource} {nonce nonce' : AeadNonce} {key key' : Bytes}
    (h : (source, nonce) ∈ entries) (h' : (source', nonce') ∈ entries) (hkey : source.key crypto argon2 = .ok key)
    (hkey' : source'.key crypto argon2 = .ok key')
    (hct : key ++ (nonce.1 ++ ([] ++ StaleKey.emptyText)) = key' ++ (nonce'.1 ++ ([] ++ StaleKey.emptyText))) :
    source = source' ∧ nonce = nonce' := by
  have hlength : key.length = key'.length := by
    have hlen := congrArg List.length hct
    simp only [List.length_append, nonce.2, nonce'.2] at hlen
    omega
  simp only [entries, List.mem_cons, Prod.mk.injEq, List.not_mem_nil, or_false] at h h'
  rcases h with ⟨rfl, rfl⟩ | ⟨rfl, rfl⟩ | ⟨rfl, rfl⟩
  all_goals
    rcases h' with ⟨rfl, rfl⟩ | ⟨rfl, rfl⟩ | ⟨rfl, rfl⟩
    all_goals
      obtain rfl := Outcome.ok.inj hkey
      obtain rfl := Outcome.ok.inj hkey'
      first
      | exact ⟨rfl, rfl⟩
      | exact absurd hlength (by decide)

theorem idealSealing : IdealSealing crypto StaleKey.json argon2 sealed where
  opens source key nonce ct plaintext hkey := by
    show (if (key, nonce.1) ∈ made ∧ ct = key ++ (nonce.1 ++ ([] ++ StaleKey.emptyText)) then some StaleKey.emptyText
      else none) = some plaintext ↔ ∃ db : MessengerDb, ((source, nonce) ∈ entries ∧ db = {}) ∧
        plaintext = StaleKey.emptyText ∧ ct = key ++ (nonce.1 ++ ([] ++ plaintext))
    constructor
    · intro h
      split at h
      · rename_i hmade
        obtain rfl := Option.some.inj h
        exact ⟨{}, ⟨(mem_made_iff hkey).1 hmade.1, rfl⟩, rfl, hmade.2⟩
      · cases h
    · rintro ⟨db, ⟨hmem, -⟩, rfl, hct⟩
      rw [if_pos ⟨(mem_made_iff hkey).2 hmem, hct⟩]
  apart source source' key key' nonce nonce' db db' h h' hkey hkey' hct :=
    ciphertexts_apart h.1 h'.1 hkey hkey' hct
  reads source nonce db h := by
    obtain rfl := h.2
    simp [StaleKey.json]

end Files

open Files in
/-- With three files written, under a database key, a password and, before the marker, the same password. -/
theorem formats_authentic_files : FormatsAuthentic crypto StaleKey.json argon2 sealed :=
  formats_authentic idealSealing

open Files in
/-- A backup of before the marker reads back, and `export_encrypted_backup` did not write it: not everything but what it
wrote is an error. -/
theorem formats_authentic_legacy : IdealSealing crypto StaleKey.json argon2 sealed ∧
    importEncryptedBackup crypto StaleKey.json argon2 (some legacyFile) password = .ok {} ∧
      ¬Authentic (fun data => importEncryptedBackup crypto StaleKey.json argon2 (some data) password)
        (Holds crypto StaleKey.json argon2 sealed (backupMagic ++ backupArgon2Marker) (.backup password)) := by
  have hread : importEncryptedBackup crypto StaleKey.json argon2 (some legacyFile) password = .ok {} := by
    have hnot : ¬backupArgon2Marker <+: legacyFile.drop backupMagic.length := by
      decide
    have hholds : Holds crypto StaleKey.json argon2 sealed backupMagic (.legacyBackup password) {} legacyFile :=
      ⟨salt, nonceAt 6, legacyKey, rfl, ⟨by simp [entries], rfl⟩, rfl⟩
    exact (readBackup_authentic idealSealing password).reads {} legacyFile (.inr ⟨hholds, hnot⟩)
  refine ⟨idealSealing, hread, ?_⟩
  intro h
  obtain ⟨e, he⟩ := h.rejects legacyFile fun db hdb => absurd hdb.prefix_length.1 (by decide)
  rw [hread] at he
  cases he

end Messenger

end NodeX
