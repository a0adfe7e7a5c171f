/-
The database on disk and its key: `save_to_file`, `load_from_file`, the key file next to the
database, the process-wide key cache with its two path forms, and the wipe. The cache is read under
the canonical form of the path while the database file exists and under the path as given while it
does not; an installation is followed over any order of saves, loads, wipes and restarts.
-/
import NodeX.Lib.Runs
import NodeX.Messenger.Db

namespace NodeX.Messenger

open NodeX.Lib

/-! ## Keys, paths and the file system -/

/-- A 32-byte master key. -/
abbrev MasterKey := { k : Bytes // k.length = 32 }

abbrev Salt := { s : Bytes // s.length = 16 }

abbrev AeadNonce := { n : Bytes // n.length = 12 }

/-- The database path: as given, as `canonicalize` resolves it, and the key file's (`db_key_path`). -/
structure DbPath where
  given : String
  canonical : String
  keyPath : String

/-- The two files and `INSTANCE_KEY_CACHE`. -/
structure World where
  dbFile : Option Bytes := none
  keyFile : Option Bytes := none
  cache : Finmap fun _ : String => MasterKey := ∅

/-- How a file write ends: done, or failed with the file as it was or cut. -/
inductive WriteResult where
  | done
  | failed (left : Option Bytes)

def WriteResult.file (r : WriteResult) (old : Option Bytes) (new : Bytes) : Option Bytes :=
  match r with
  | done => some new
  | failed left => left.or old

/-- The JSON text of a database, and its parse. -/
structure DbJson where
  print : MessengerDb → Bytes
  parse : Bytes → Except String MessengerDb

variable (C : Crypto) (J : DbJson) (P : DbPath)

/-! ## The instance key -/

/-- `fs::canonicalize(p).unwrap_or_else(..)`: the canonical form while the file exists. -/
def World.absPath (w : World) : String := if w.dbFile.isSome then P.canonical else P.given

/-- `forget_instance_key`. -/
def forgetInstanceKey (w : World) : World :=
  { w with cache := (w.cache.erase (w.absPath P)).erase P.given }

/-- The key file's content, when it is a key. -/
def World.storedKey (w : World) : Option MasterKey :=
  w.keyFile.bind fun data => if h : data.length = 32 then some ⟨data, h⟩ else none

/-- `get_or_create_instance_key`, with the key it draws and how a write of the key file ends. -/
def getOrCreateInstanceKey (w : World) (fresh : MasterKey) (write : WriteResult) : World × Except String MasterKey :=
  match w.cache.lookup (w.absPath P) with
  | some cached =>
    -- a missing key file is written again; the write may fail unnoticed
    (if w.keyFile.isNone then { w with keyFile := write.file none cached.1 } else w, .ok cached)
  | none =>
    match w.storedKey with
    | some key => ({ w with cache := w.cache.insert (w.absPath P) key }, .ok key)
    | none =>
      if w.dbFile.any (fun data => 0 < data.length) then
        (w, .error ("CRITICAL: Database file '" ++ P.given ++ "' exists, but encryption key '" ++ P.keyPath ++
          "' is missing or corrupted. Halting to prevent data loss."))
      else
        let w' := { w with keyFile := write.file w.keyFile fresh.1 }
        match write with
        | .failed _ => (w', .error ("Failed to write encryption key to '" ++ P.keyPath ++ "'"))
        | .done => ({ w' with cache := w.cache.insert (w.absPath P) fresh }, .ok fresh)

/-! ## The database file -/

def dbMagicV2 : Bytes := utf8 "NODEXENC2"

/-- `derive_cipher_key`. -/
def deriveCipherKey (masterKey : MasterKey) (salt : Bytes) : Bytes :=
  C.sha256 (utf8 "NODEX_DB_CIPHER_KEY_DERIVATION_V2" ++ masterKey.1 ++ salt)

/-- The bytes `save_to_file` writes. -/
def sealDb (masterKey : MasterKey) (salt : Salt) (nonce : AeadNonce) (db : MessengerDb) : Bytes :=
  dbMagicV2 ++ salt.1 ++ nonce.1 ++ C.aeadEncrypt (deriveCipherKey C masterKey salt.1) nonce.1 [] (J.print db)

/-- The part of `load_from_file` after the key. -/
def openDb (masterKey : MasterKey) (data : Bytes) : Except String MessengerDb :=
  if dbMagicV2.isPrefixOf data then
    if data.length < 9 + 16 + 12 then .error "Corrupted encrypted DB file header"
    else
      let salt := (data.drop 9).take 16
      let nonce := (data.drop 25).take 12
      match C.aeadDecrypt (deriveCipherKey C masterKey salt) nonce [] (data.drop 37) with
      | none => .error "Failed to decrypt local messenger database (integrity check failed or key mismatch)"
      | some plaintext => (J.parse plaintext).mapError ("Parse decrypted DB failed: " ++ ·)
  else .error "Unencrypted or legacy database format is rejected for security. Database must use NODEXENC2 format."

/-- `load_from_file`. -/
def loadFromFile (w : World) (fresh : MasterKey) (write : WriteResult) : World × Except String MessengerDb :=
  match w.dbFile with
  | none => (w, .ok {})
  | some data =>
    if data.isEmpty then (w, .ok {})
    else match getOrCreateInstanceKey P w fresh write with
      | (w', .error e) => (w', .error e)
      | (w', .ok key) => (w', openDb C J key data)

/-- What `save_to_file` draws, and how its writes end. -/
structure SaveDraw where
  key : MasterKey
  salt : Salt
  nonce : AeadNonce
  keyWrite : WriteResult
  dbWrite : WriteResult

/-- `save_to_file`. -/
def saveToFile (w : World) (db : MessengerDb) (d : SaveDraw) : World × Except String Unit :=
  match getOrCreateInstanceKey P w d.key d.keyWrite with
  | (w', .error e) => (w', .error e)
  | (w', .ok key) =>
    let out := sealDb C J key d.salt d.nonce db
    let w'' := { w' with dbFile := d.dbWrite.file w'.dbFile out }
    match d.dbWrite with
    | .done => (w'', .ok ())
    | .failed _ => (w'', .error "Write temporary DB failed")

/-- The files part of `wipe_local_data`: both files removed, then the key forgotten. -/
def wipeFiles (w : World) : World := forgetInstanceKey P { w with dbFile := none, keyFile := none }

/-! ## An installation over time -/

/-- The files and the cache, with what the last successful save wrote (while the file is still that
one), and whether this process wiped the path while its cache had the key under the canonical form. -/
structure Install where
  world : World := {}
  saved : Option MessengerDb := none
  stale : Bool := false

inductive FileOp where
  | save (db : MessengerDb) (draw : SaveDraw)
  | load (fresh : MasterKey) (write : WriteResult)
  | wipe
  | restart

/-- The cache lives as long as the process. -/
def World.restart (w : World) : World := { w with cache := ∅ }

def Install.step (s : Install) : FileOp → Install
  | .save db draw =>
    match saveToFile C J P s.world db draw with
    | (w, .ok ()) => { s with world := w, saved := some db }
    | (w, .error _) => { s with world := w, saved := if w.dbFile = s.world.dbFile then s.saved else none }
  | .load fresh write => { s with world := (loadFromFile C J P s.world fresh write).1 }
  | .wipe =>
    { world := wipeFiles P s.world
      saved := none
      stale := s.stale || (P.given != P.canonical && (s.world.cache.lookup P.canonical).isSome) }
  | .restart => { s with world := s.world.restart, stale := false }

/-- The key in the key file encrypts the database file, and a fresh process loads what was saved last. -/
def Install.Recoverable (s : Install) : Prop :=
  ∀ db, s.saved = some db → ∃ key salt nonce,
    s.world.storedKey = some key ∧ s.world.dbFile = some (sealDb C J key salt nonce db) ∧
      ∀ fresh write, (loadFromFile C J P s.world.restart fresh write).2 = .ok db

/-- Not a save over an existing file by a process that wiped the path while it was cached under its
canonical form. -/
def Install.NotAfterStaleWipe (s : Install) : FileOp → Prop
  | .save _ _ => s.world.dbFile.isSome → s.stale = false
  | _ => True

instance (s : Install) : ∀ op : FileOp, Decidable (s.NotAfterStaleWipe op)
  | .save _ _ => inferInstanceAs (Decidable (_ → _))
  | .load _ _ | .wipe | .restart => isTrue trivial

/-! ## Cached keys agree with the key file -/

/-- Every cached key is the key in the key file, but for the canonical entry a wipe left behind. -/
structure World.KeysAgree (w : World) (stale : Bool) : Prop where
  given : ∀ k, w.cache.lookup P.given = some k → w.storedKey = some k
  canonical : stale = false → ∀ k, w.cache.lookup P.canonical = some k → w.storedKey = some k
  file : stale = true → w.dbFile.isSome → w.keyFile.isSome

variable {P}

theorem World.KeysAgree.abs {w : World} {stale : Bool} (h : w.KeysAgree P stale)
    (hs : stale = false ∨ w.dbFile = none) {k : MasterKey} (hk : w.cache.lookup (w.absPath P) = some k) :
    w.storedKey = some k := by
  by_cases hd : w.dbFile.isSome
  · rw [show w.absPath P = P.canonical from if_pos hd] at hk
    rcases hs with hs | hs
    · exact h.canonical hs k hk
    · rw [hs] at hd; cases hd
  · rw [show w.absPath P = P.given from if_neg hd] at hk
    exact h.given k hk

theorem World.keyFile_of_storedKey {w : World} {k : MasterKey} (h : w.storedKey = some k) : w.keyFile = some k.1 := by
  unfold World.storedKey at h
  cases hf : w.keyFile with
  | none => rw [hf] at h; cases h
  | some data =>
    rw [hf, Option.bind_some] at h
    split at h
    · cases h; rfl
    · cases h

theorem World.storedKey_of_keyFile {w : World} {k : MasterKey} (h : w.keyFile = some k.1) : w.storedKey = some k := by
  unfold World.storedKey
  rw [h, Option.bind_some, dif_pos k.2]

/-- Putting the stored key into the cache, under either form, keeps the agreement. -/
theorem World.KeysAgree.insert {w : World} {stale : Bool} (h : w.KeysAgree P stale) {q : String} {k : MasterKey}
    (hk : w.storedKey = some k) : World.KeysAgree P { w with cache := w.cache.insert q k } stale := by
  refine ⟨fun k' hk' => ?_, fun hs k' hk' => ?_, h.file⟩
  · by_cases hq : P.given = q
    · subst hq
      rw [Finmap.lookup_insert] at hk'
      cases hk'
      exact hk
    · rw [Finmap.lookup_insert_of_ne _ hq] at hk'
      exact h.given k' hk'
  · by_cases hq : P.canonical = q
    · subst hq
      rw [Finmap.lookup_insert] at hk'
      cases hk'
      exact hk
    · rw [Finmap.lookup_insert_of_ne _ hq] at hk'
      exact h.canonical hs k' hk'

/-- Where a key is cached there is a key file. -/
theorem World.KeysAgree.keyFile_isSome {w : World} {stale : Bool} (h : w.KeysAgree P stale) {k : MasterKey}
    (hk : w.cache.lookup (w.absPath P) = some k) : w.keyFile.isSome := by
  cases hst : stale with
  | false =>
    rw [World.keyFile_of_storedKey (h.abs (.inl hst) hk)]
    rfl
  | true =>
    cases hd : w.dbFile with
    | none =>
      rw [World.keyFile_of_storedKey (h.abs (.inr hd) hk)]
      rfl
    | some data => exact h.file hst (by rw [hd]; rfl)

/-- Without a stored key nothing is cached that has to agree, so that any key file will do. -/
theorem World.KeysAgree.write {w : World} {stale : Bool} (h : w.KeysAgree P stale) (hk : w.storedKey = none)
    (hdb : stale = true → w.dbFile = none) (file : Option Bytes) :
    World.KeysAgree P { w with keyFile := file } stale := by
  have hgiven : w.cache.lookup P.given = none := by
    cases hg : w.cache.lookup P.given with
    | none => rfl
    | some k =>
      rw [h.given k hg] at hk
      cases hk
  have hcanon : stale = false → w.cache.lookup P.canonical = none := fun hst => by
    cases hg : w.cache.lookup P.canonical with
    | none => rfl
    | some k =>
      rw [h.canonical hst k hg] at hk
      cases hk
  refine ⟨fun k hk' => ?_, fun hst k hk' => ?_, fun hst hd => ?_⟩
  · rw [hgiven] at hk'
    cases hk'
  · rw [hcanon hst] at hk'
    cases hk'
  · rw [hdb hst] at hd
    cases hd

/-- What `get_or_create_instance_key` does to an agreeing world. A stale entry does no harm while
there is no database file, or when the file's key is only looked up. -/
theorem getOrCreateInstanceKey_spec {w w' : World} {stale : Bool} {fresh : MasterKey} {write : WriteResult}
    {r : Except String MasterKey} (h : w.KeysAgree P stale)
    (hs : stale = true → ∀ data, w.dbFile = some data → data ≠ [])
    (hr : getOrCreateInstanceKey P w fresh write = (w', r)) :
    w'.dbFile = w.dbFile ∧ w'.KeysAgree P stale ∧ (∀ k, w.storedKey = some k → w'.storedKey = some k) ∧
      (∀ k, r = .ok k → stale = false ∨ w.dbFile = none → w'.storedKey = some k) := by
  unfold getOrCreateInstanceKey at hr
  cases hc : w.cache.lookup (w.absPath P) with
  | some cached =>
    rw [hc] at hr
    cases hr
    -- the key file is there, so the cached key is not written again
    have hsame : (if w.keyFile.isNone then { w with keyFile := write.file none cached.1 } else w) = w := by
      rw [if_neg]
      simpa using Option.isSome_iff_ne_none.1 (h.keyFile_isSome hc)
    rw [hsame]
    refine ⟨rfl, h, fun _ hk => hk, ?_⟩
    rintro k hk hs'
    cases hk
    exact h.abs hs' hc
  | none =>
    cases hk : w.storedKey with
    | some key =>
      rw [hc, hk] at hr
      cases hr
      refine ⟨rfl, h.insert hk, fun k hk' => hk ▸ hk', ?_⟩
      rintro k hk' -
      cases hk'
      exact hk
    | none =>
      rw [hc, hk] at hr
      dsimp only at hr
      split at hr
      · -- there is data and no key: the call fails closed
        cases hr
        exact ⟨rfl, h, fun k hk' => hk ▸ hk', fun k hk' => by cases hk'⟩
      · -- there is no data, and a key is drawn
        rename_i hempty
        have hdb : stale = true → w.dbFile = none := fun hst => by
          cases hd : w.dbFile with
          | none => rfl
          | some data =>
            rw [hd, Option.any_some, decide_eq_true_eq, Nat.not_lt, Nat.le_zero, List.length_eq_zero_iff] at hempty
            exact absurd hempty (hs hst data hd)
        have hagree := h.write hk hdb
        cases write with
        | failed left =>
          cases hr
          refine ⟨rfl, hagree _, ?_, ?_⟩
          · intro k hk'
            cases hk'
          · intro k hk'
            cases hk'
        | done =>
          cases hr
          have hnew : World.storedKey { w with keyFile := some fresh.1 } = some fresh :=
            World.storedKey_of_keyFile rfl
          refine ⟨rfl, (hagree _).insert hnew, ?_, ?_⟩
          · intro k hk'
            cases hk'
          · rintro k hk' -
            cases hk'
            exact hnew

/-! ## What was saved can be loaded -/

variable {C J}

theorem sealDb_parts (key : MasterKey) (salt : Salt) (nonce : AeadNonce) (db : MessengerDb) :
    let data := sealDb C J key salt nonce db
    let ct := C.aeadEncrypt (deriveCipherKey C key salt.1) nonce.1 [] (J.print db)
    dbMagicV2.isPrefixOf data = true ∧ data.length = 37 + ct.length ∧ (data.drop 9).take 16 = salt.1 ∧
      (data.drop 25).take 12 = nonce.1 ∧ data.drop 37 = ct := by
  obtain ⟨salt, hs⟩ := salt
  obtain ⟨nonce, hn⟩ := nonce
  have hm : dbMagicV2.length = 9 := by decide
  intro data ct
  have hdata : data = dbMagicV2 ++ (salt ++ (nonce ++ ct)) := by
    simp only [data, ct, sealDb, List.append_assoc]
  have h9 : data.drop 9 = salt ++ (nonce ++ ct) := by rw [hdata, List.drop_left' hm]
  have h25 : data.drop 25 = nonce ++ ct := by
    rw [show 25 = 9 + 16 from rfl, ← List.drop_drop, h9, List.drop_left' hs]
  have h37 : data.drop 37 = ct := by
    rw [show 37 = 25 + 12 from rfl, ← List.drop_drop, h25, List.drop_left' hn]
  refine ⟨?_, ?_, ?_, ?_, h37⟩
  · rw [hdata]
    exact List.isPrefixOf_iff_prefix.2 (List.prefix_append _ _)
  · rw [hdata]
    simp only [List.length_append, hm, hs, hn]
    omega
  · rw [h9, List.take_left' hs]
  · rw [h25, List.take_left' hn]

theorem isEmpty_sealDb (key : MasterKey) (salt : Salt) (nonce : AeadNonce) (db : MessengerDb) :
    (sealDb C J key salt nonce db).isEmpty = false := by
  have hl := (sealDb_parts (C := C) (J := J) key salt nonce db).2.1
  rw [List.isEmpty_eq_false_iff_exists_mem]
  exact List.exists_mem_of_length_pos (by omega)

/-- The key that sealed a database opens it. -/
theorem openDb_sealDb (haead : ∀ key nonce ad pt, C.aeadDecrypt key nonce ad (C.aeadEncrypt key nonce ad pt) = some pt)
    {db : MessengerDb} (hj : J.parse (J.print db) = .ok db) (key : MasterKey) (salt : Salt) (nonce : AeadNonce) :
    openDb C J key (sealDb C J key salt nonce db) = .ok db := by
  obtain ⟨hp, hl, hsalt, hnonce, hct⟩ := sealDb_parts (C := C) (J := J) key salt nonce db
  unfold openDb
  rw [if_pos hp, if_neg (by omega), hsalt, hnonce, hct]
  dsimp only
  rw [haead]
  dsimp only
  rw [hj]
  rfl

/-- The invariant of an installation: cached keys agree with the file, and what was saved is sealed
under the key of the key file. -/
structure Install.Inv (C : Crypto) (J : DbJson) (P : DbPath) (s : Install) : Prop where
  agree : s.world.KeysAgree P s.stale
  sealed : ∀ db, s.saved = some db → J.parse (J.print db) = .ok db ∧
    ∃ key salt nonce, s.world.storedKey = some key ∧ s.world.dbFile = some (sealDb C J key salt nonce db)

theorem Install.Inv.recoverable
    (haead : ∀ key nonce ad pt, C.aeadDecrypt key nonce ad (C.aeadEncrypt key nonce ad pt) = some pt)
    {s : Install} (h : s.Inv C J P) : s.Recoverable C J P := by
  intro db hdb
  obtain ⟨hj, key, salt, nonce, hkey, hfile⟩ := h.sealed db hdb
  refine ⟨key, salt, nonce, hkey, hfile, fun fresh write => ?_⟩
  have hkey' : s.world.restart.storedKey = some key := hkey
  have hnone : s.world.restart.cache.lookup (s.world.restart.absPath P) = none := Finmap.lookup_empty _
  have hget : (getOrCreateInstanceKey P s.world.restart fresh write).2 = .ok key := by
    unfold getOrCreateInstanceKey
    rw [hnone, hkey']
  unfold loadFromFile
  rw [show s.world.restart.dbFile = some (sealDb C J key salt nonce db) from hfile]
  dsimp only
  rw [isEmpty_sealDb]
  revert hget
  rcases getOrCreateInstanceKey P s.world.restart fresh write with ⟨w', r⟩
  rintro rfl
  exact openDb_sealDb haead hj key salt nonce

/-- The text of the database survives the round through JSON. -/
def FileOp.Encodes (J : DbJson) : FileOp → Prop
  | .save db _ => J.parse (J.print db) = .ok db
  | _ => True

theorem Install.Inv.save {s : Install} (h : s.Inv C J P) {db : MessengerDb} {d : SaveDraw}
    (hok : s.NotAfterStaleWipe (.save db d)) (hj : J.parse (J.print db) = .ok db) :
    (s.step C J P (.save db d)).Inv C J P := by
  have hs : s.stale = true → s.world.dbFile = none := fun hst => by
    cases hd : s.world.dbFile with
    | none => rfl
    | some data => rw [hok (by rw [hd]; rfl)] at hst; cases hst
  have hfree : s.stale = false ∨ s.world.dbFile = none := by
    cases hst : s.stale with
    | false => exact .inl rfl
    | true => exact .inr (hs hst)
  rcases hg : getOrCreateInstanceKey P s.world d.key d.keyWrite with ⟨w', r⟩
  obtain ⟨hdb, hagree, hkeep, hget⟩ := getOrCreateInstanceKey_spec h.agree
    (fun hst data hd => by rw [hs hst] at hd; cases hd) hg
  -- a failed write leaves what was saved, or nothing that counts as saved
  have hfailed : ∀ w'' : World, w''.KeysAgree P s.stale → w''.storedKey = w'.storedKey → Install.Inv C J P
      { s with world := w'', saved := if w''.dbFile = s.world.dbFile then s.saved else none } := by
    refine fun w'' hw'' hk => ⟨hw'', fun db' hdb' => ?_⟩
    split at hdb'
    · rename_i hsame
      obtain ⟨hj', key, salt, nonce, hkey, hfile⟩ := h.sealed db' hdb'
      exact ⟨hj', key, salt, nonce, hk.trans (hkeep key hkey), hsame.trans hfile⟩
    · cases hdb'
  unfold Install.step saveToFile
  dsimp only
  rw [hg]
  cases r with
  | error e => exact hfailed w' hagree rfl
  | ok key =>
    have hkey := hget key rfl hfree
    have hfile : s.stale = true → w'.keyFile.isSome := fun _ => by
      rw [World.keyFile_of_storedKey hkey]; rfl
    have hw'' : ∀ file, World.KeysAgree P { w' with dbFile := file } s.stale :=
      fun _ => ⟨hagree.given, hagree.canonical, fun hst _ => hfile hst⟩
    cases hdw : d.dbWrite with
    | failed left => exact hfailed _ (hw'' _) rfl
    | done =>
      refine ⟨hw'' _, fun db' hdb' => ?_⟩
      cases hdb'
      exact ⟨hj, key, d.salt, d.nonce, hkey, rfl⟩

theorem Install.Inv.load {s : Install} (h : s.Inv C J P) (fresh : MasterKey) (write : WriteResult) :
    (s.step C J P (.load fresh write)).Inv C J P := by
  unfold Install.step loadFromFile
  cases hd : s.world.dbFile with
  | none => exact ⟨h.agree, h.sealed⟩
  | some data =>
    dsimp only
    split
    · exact ⟨h.agree, h.sealed⟩
    · rename_i hne
      rcases hg : getOrCreateInstanceKey P s.world fresh write with ⟨w', r⟩
      obtain ⟨hdb, hagree, hkeep, -⟩ := getOrCreateInstanceKey_spec h.agree
        (fun _ data' hd' => by rw [hd] at hd'; cases hd'; simpa using hne) hg
      have hw' : Install.Inv C J P { s with world := w' } := by
        refine ⟨hagree, fun db hsaved => ?_⟩
        obtain ⟨hj, key, salt, nonce, hkey, hfile⟩ := h.sealed db hsaved
        exact ⟨hj, key, salt, nonce, hkeep key hkey, hdb.trans hfile⟩
      cases r with
      | error e => exact hw'
      | ok key => exact hw'

theorem Install.inv_wipe (s : Install) : (s.step C J P .wipe).Inv C J P := by
  refine ⟨⟨fun k hk => ?_, fun hst k hk => ?_, fun _ hd => by cases hd⟩, fun db hdb => by cases hdb⟩
  · rw [show (s.step C J P .wipe).world.cache = (s.world.cache.erase P.given).erase P.given from rfl,
      Finmap.lookup_erase] at hk
    cases hk
  · rw [show (s.step C J P .wipe).world.cache = (s.world.cache.erase P.given).erase P.given from rfl] at hk
    simp only [Install.step, Bool.or_eq_false_iff, Bool.and_eq_false_iff, bne_eq_false_iff_eq] at hst
    rcases hst.2 with heq | hnone
    · rw [← heq, Finmap.lookup_erase] at hk
      cases hk
    · by_cases heq : P.canonical = P.given
      · rw [heq, Finmap.lookup_erase] at hk
        cases hk
      · rw [Finmap.lookup_erase_ne heq, Finmap.lookup_erase_ne heq] at hk
        rw [hk] at hnone
        cases hnone

theorem Install.Inv.restart {s : Install} (h : s.Inv C J P) : (s.step C J P .restart).Inv C J P := by
  refine ⟨⟨fun k hk => ?_, fun _ k hk => ?_, fun hst _ => by cases hst⟩, h.sealed⟩
  all_goals
    rw [show (s.step C J P .restart).world.cache = ∅ from rfl, Finmap.lookup_empty] at hk
    cases hk

theorem Install.Inv.step {s : Install} (h : s.Inv C J P) : ∀ op : FileOp,
    s.NotAfterStaleWipe op ∧ op.Encodes J → (s.step C J P op).Inv C J P
  | .save _ _, hok => h.save hok.1 hok.2
  | .load fresh write, _ => h.load fresh write
  | .wipe, _ => s.inv_wipe
  | .restart, _ => h.restart

/-- A process that starts on whatever files are there, with nothing cached and nothing saved yet. -/
def Install.start (dbFile keyFile : Option Bytes) : Install := { world := { dbFile, keyFile } }

theorem Install.Inv.start (dbFile keyFile : Option Bytes) : (Install.start dbFile keyFile).Inv C J P := by
  refine ⟨⟨fun k hk => ?_, fun _ k hk => ?_, fun hst _ => by cases hst⟩, fun db hdb => by cases hdb⟩
  all_goals
    rw [show (Install.start dbFile keyFile).world.cache = ∅ from rfl, Finmap.lookup_empty] at hk
    cases hk

/-- After every run of saves, loads, wipes and restarts in which no save over an existing file
follows, in one process, a wipe made while the key was cached under the canonical form: the database
file is sealed with the key in the key file, and a fresh process loads what was saved last. -/
theorem save_recoverable
    (haead : ∀ key nonce ad pt, C.aeadDecrypt key nonce ad (C.aeadEncrypt key nonce ad pt) = some pt)
    (dbFile keyFile : Option Bytes) (ops : List FileOp) (hjson : ∀ op ∈ ops, op.Encodes J)
    (hops : Steps (Install.step C J P) Install.NotAfterStaleWipe (Install.start dbFile keyFile) ops) :
    (run (Install.step C J P) (Install.start dbFile keyFile) ops).Recoverable C J P :=
  Install.Inv.recoverable haead <| run_invariant (I := Install.Inv C J P) (fun _ a h hok => h.step a hok)
    (Install.Inv.start dbFile keyFile) (hops.and (steps_of_mem hjson))

/-! ## The stale entry -/

namespace StaleKey

/-- The text of the empty database. -/
def emptyText : Bytes :=
  utf8 "\x7b\"user_seed\":[0,0,0,0,0,0,0,0,0,0,0,0,0,0,0,0,0,0,0,0,0,0,0,0,0,0,0,0,0,0,0,0]," ++
  utf8 "\"mnemonic\":\"\",\"display_name\":\"\",\"bio\":\"\",\"contacts\":\x7b\x7d,\"messages\":[],\"groups\":\x7b\x7d,"
  ++
  utf8 "\"pinned_message_ids\":[],\"deleted_message_ids\":[],\"blocked_user_ids\":[],\"pending_tombstones\":[]\x7d"

/-- JSON as far as the empty database goes. -/
def json : DbJson where
  print _ := emptyText
  parse bs := if bs = emptyText then .ok {} else .error "expected value"

/-- The relative path the command line uses, and its canonical form. -/
def path : DbPath := ⟨"messenger_db_9000.json", "/home/u/messenger_db_9000.json", "messenger_db_9000.json.key"⟩

def draw (b : UInt8) : SaveDraw :=
  ⟨⟨List.replicate 32 b, by simp⟩, ⟨List.replicate 16 b, by simp⟩, ⟨List.replicate 12 b, by simp⟩, .done, .done⟩

/-- Two saves and a wipe, which leaves the first key cached under the canonical path, then two saves. -/
def ops : List FileOp := [.save {} (draw 1), .save {} (draw 2), .wipe, .save {} (draw 3), .save {} (draw 4)]

def final : Install := run (Install.step .transparent json path) (Install.start none none) ops

end StaleKey

/-- The last save succeeds, the key file holds the key drawn by the save before it, and a fresh process
cannot load the database. -/
theorem save_recoverable_stale : StaleKey.final.saved = some {} ∧
    StaleKey.final.world.storedKey = some (StaleKey.draw 3).key ∧
    (loadFromFile .transparent StaleKey.json StaleKey.path StaleKey.final.world.restart (StaleKey.draw 5).key .done).2 =
      .error "Failed to decrypt local messenger database (integrity check failed or key mismatch)" ∧
    ¬ StaleKey.final.Recoverable .transparent StaleKey.json StaleKey.path := by
  obtain ⟨hsaved, hkey, hload⟩ : StaleKey.final.saved = some {} ∧
      StaleKey.final.world.storedKey = some (StaleKey.draw 3).key ∧
      (loadFromFile .transparent StaleKey.json StaleKey.path StaleKey.final.world.restart (StaleKey.draw 5).key
          .done).2 =
        .error "Failed to decrypt local messenger database (integrity check failed or key mismatch)" := by
    decide +kernel
  refine ⟨hsaved, hkey, hload, fun h => ?_⟩
  obtain ⟨_, _, _, -, -, hall⟩ := h {} hsaved
  rw [hall] at hload
  cases hload

/-- Restarting after the wipe drops the stale entry; then the same saves are recoverable. -/
theorem save_recoverable_restarted :
    (run (Install.step .transparent StaleKey.json StaleKey.path) (Install.start none none)
      [.save {} (StaleKey.draw 1), .save {} (StaleKey.draw 2), .wipe, .restart, .save {} (StaleKey.draw 3),
        .save {} (StaleKey.draw 4)]).Recoverable .transparent StaleKey.json StaleKey.path :=
  save_recoverable Crypto.transparent_aeadDecrypt none none _
    (by simp [FileOp.Encodes, StaleKey.json]) (by decide)

end NodeX.Messenger
