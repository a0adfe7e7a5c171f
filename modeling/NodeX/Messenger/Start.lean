/-
The identity a messenger starts with: `KadMessenger::start` takes it from the stored mnemonic, or from the stored
seed, or makes a new one, and writes the signing key where the seed was. Keys are derived from the mnemonic again at
every start, and from the seed only at the first.
-/
import NodeX.Messenger.DbFile

namespace NodeX

/-! ## Mnemonics -/

/-- The 16 bytes a new mnemonic is drawn from. -/
abbrev Entropy := { e : Bytes // e.length = 16 }

/-- A 32-byte seed. -/
abbrev Seed := { s : Bytes // s.length = 32 }

/-- The package `bip39`. -/
structure Bip39 where
  /-- `Mnemonic::from_entropy`, as text -/
  fromEntropy : Entropy → Except String String
  /-- `Mnemonic::parse`, then the 64 bytes of `to_seed` -/
  parseToSeed : String → Except String Bytes

variable (C : Crypto) (B : Bip39)

/-- `ffi_mnemonic_generate_12`. -/
def mnemonicGenerate12 (entropy : Entropy) : Except String String :=
  (B.fromEntropy entropy).mapError ("BIP39 error: " ++ ·)

/-- `ffi_mnemonic_to_seed`. -/
def mnemonicToSeed (mnemonic : String) : Except String Bytes :=
  ((B.parseToSeed (trim mnemonic)).mapError ("Invalid mnemonic phrase: " ++ ·)).map (·.take 32)

namespace UserIdentity

/-- `UserIdentity::from_mnemonic`. -/
def fromMnemonic (mnemonic : String) : Except String (UserIdentity C) :=
  (mnemonicToSeed B mnemonic).map (fromSeed C)

/-- `UserIdentity::generate_mnemonic`. -/
def generateMnemonic (entropy : Entropy) : Except String (String × UserIdentity C) :=
  (mnemonicGenerate12 B entropy).bind fun mn => (mnemonicToSeed B mn).map fun seed => (mn, fromSeed C seed)

end UserIdentity

end NodeX

namespace NodeX.Messenger

open NodeX.Lib

variable (C : Crypto) (B : Bip39)

/-! ## The start -/

/-- The seed field when there is none. -/
def noSeed : Bytes := List.replicate 32 0

/-- What a start draws for a new user. -/
structure NewUser where
  entropy : Entropy
  seed : Seed

/-- A new user, with a mnemonic if one can be made. -/
def newIdentity (u : NewUser) : String × UserIdentity C :=
  match UserIdentity.generateMnemonic C B u.entropy with
  | .ok p => p
  | .error _ => ("", .fromSeed C u.seed.1)

/-- The identity of a database, with the mnemonic of a new user. -/
def chooseIdentity (db : MessengerDb) (u : NewUser) : Except String (UserIdentity C × Option String) :=
  if db.mnemonic ≠ "" then
    ((UserIdentity.fromMnemonic C B db.mnemonic).mapError
      ("Stored database mnemonic is invalid, refusing to overwrite identity: " ++ ·)).map fun id => (id, none)
  else if db.userSeed ≠ noSeed then .ok (.fromSeed C db.userSeed, none)
  else
    let (mn, id) := newIdentity C B u
    .ok (id, some mn)

/-- A name given at the start replaces the stored one, unless it is one of the defaults. -/
def overrideName (db : MessengerDb) (displayName : String) : MessengerDb :=
  if displayName ≠ "" ∧ displayName ≠ "UserNode" ∧ displayName ≠ "NodeX User" then { db with displayName } else db

/-- What `start` makes of the loaded database: the identity, and the database it saves. -/
def startDb (db : MessengerDb) (displayName : String) (u : NewUser) : Except String (UserIdentity C × MessengerDb) :=
  let db := overrideName db displayName
  (chooseIdentity C B db u).map fun (id, mn) =>
    (id, { db with userSeed := id.signingKey, mnemonic := mn.getD db.mnemonic })

/-- What a start is given and draws, and how its writes end. -/
structure StartDraw where
  displayName : String
  user : NewUser
  loadKey : MasterKey
  loadWrite : WriteResult
  save : SaveDraw

variable (J : DbJson) (P : DbPath)

/-- `start` up to the identity; whether the database could be saved is not asked for. -/
def start (w : World) (d : StartDraw) : World × Except String (UserIdentity C × MessengerDb) :=
  match loadFromFile C J P w d.loadKey d.loadWrite with
  | (w', .error e) => (w', .error ("Failed to load messenger database: " ++ e))
  | (w', .ok db) =>
    match startDb C B db d.displayName d.user with
    | .error e => (w', .error e)
    | .ok (id, db') => ((saveToFile C J P w' db' d.save).1, .ok (id, db'))

/-- A start in a new process. -/
def relaunch (w : World) (d : StartDraw) : World × Except String (UserIdentity C × MessengerDb) :=
  start C B J P w.restart d

/-- The start saves its database, as a text that can be read again. -/
def Saves (w : World) (d : StartDraw) : Prop :=
  d.save.dbWrite = .done ∧ ∀ id db, (relaunch C B J P w d).2 = .ok (id, db) → J.parse (J.print db) = .ok db

/-- Every start, after any number of starts that saved, has one and the same identity. -/
def IdentityStable (w : World) : Prop :=
  ∃ id, ∀ ds d, Steps (fun w d => (relaunch C B J P w d).1) (Saves C B J P) w ds →
    (relaunch C B J P (run (fun w d => (relaunch C B J P w d).1) w ds) d).2.map Prod.fst = .ok id

/-- Deriving keys from the signing key gives the same keys; where that key is all zeros, every new user has them. -/
def DerivesItself (id : UserIdentity C) : Prop :=
  if id.signingKey = noSeed then ∀ u, (newIdentity C B u).2 = id else UserIdentity.fromSeed C id.signingKey = id

/-! ## One start -/

variable {C B J P}

@[simp] theorem mnemonic_overrideName (db : MessengerDb) (name : String) :
    (overrideName db name).mnemonic = db.mnemonic := by
  unfold overrideName
  split <;> rfl

@[simp] theorem userSeed_overrideName (db : MessengerDb) (name : String) :
    (overrideName db name).userSeed = db.userSeed := by
  unfold overrideName
  split <;> rfl

@[simp] theorem overrideName_empty (db : MessengerDb) : overrideName db "" = db := if_neg fun h => h.1 rfl

/-- A new user's mnemonic is one of its identity. -/
theorem fromMnemonic_newIdentity {u : NewUser} (h : (newIdentity C B u).1 ≠ "") :
    UserIdentity.fromMnemonic C B (newIdentity C B u).1 = .ok (newIdentity C B u).2 := by
  unfold newIdentity UserIdentity.generateMnemonic at h ⊢
  unfold UserIdentity.fromMnemonic
  cases hg : mnemonicGenerate12 B u.entropy with
  | error e =>
    rw [hg] at h
    exact absurd rfl h
  | ok mn =>
    rw [hg, Except.bind] at h
    rw [Except.bind]
    cases hs : mnemonicToSeed B mn with
    | error e =>
      rw [hs] at h
      exact absurd rfl h
    | ok seed =>
      simp only [Except.map, hs]

/-- The identity chosen goes into the database. -/
theorem startDb_eq {db : MessengerDb} {name : String} {u : NewUser} {id : UserIdentity C} {mn : Option String}
    (h : chooseIdentity C B (overrideName db name) u = .ok (id, mn)) :
    startDb C B db name u =
      .ok (id, { overrideName db name with userSeed := id.signingKey, mnemonic := mn.getD db.mnemonic }) := by
  unfold startDb
  dsimp only
  rw [h, mnemonic_overrideName]
  rfl

/-- A start changes the name and the secrets of the database, no more. -/
theorem startDb_frame {db db' : MessengerDb} {name : String} {u : NewUser} {id : UserIdentity C}
    (h : startDb C B db name u = .ok (id, db')) : db'.userSeed = id.signingKey ∧ db'.messages = db.messages ∧
      db'.groups = db.groups ∧ db'.pinnedMessageIds = db.pinnedMessageIds ∧
      db'.pendingTombstones = db.pendingTombstones := by
  have hname : (overrideName db name).messages = db.messages ∧ (overrideName db name).groups = db.groups ∧
      (overrideName db name).pinnedMessageIds = db.pinnedMessageIds ∧
      (overrideName db name).pendingTombstones = db.pendingTombstones := by
    unfold overrideName
    split <;> exact ⟨rfl, rfl, rfl, rfl⟩
  cases hchoose : chooseIdentity C B (overrideName db name) u with
  | error e =>
    rw [startDb, hchoose] at h
    cases h
  | ok p =>
    cases (startDb_eq hchoose).symm.trans h
    exact ⟨rfl, hname⟩

/-- Starting on the database has this identity, whatever is drawn: by its mnemonic, by its seed, or because keys
derived again are the same. -/
inductive Yields (C : Crypto) (B : Bip39) (id : UserIdentity C) (db : MessengerDb) : Prop
  | mnemonic (hmn : db.mnemonic ≠ "") (hid : UserIdentity.fromMnemonic C B db.mnemonic = .ok id)
  | seed (hmn : db.mnemonic = "") (hseed : db.userSeed ≠ noSeed) (hid : UserIdentity.fromSeed C db.userSeed = id)
    (hself : DerivesItself C B id)
  | derived (hmn : db.mnemonic = "") (hkey : db.userSeed = id.signingKey) (hself : DerivesItself C B id)

/-- What a start saves yields its identity again. -/
theorem Yields.startDb {id : UserIdentity C} {db : MessengerDb} (h : Yields C B id db) (name : String) (u : NewUser) :
    ∃ db', Messenger.startDb C B db name u = .ok (id, db') ∧ Yields C B id db' := by
  have hmn' := mnemonic_overrideName db name
  have hseed' := userSeed_overrideName db name
  cases h with
  | mnemonic hmn hid =>
    have hchoose : chooseIdentity C B (overrideName db name) u = .ok (id, none) := by
      unfold chooseIdentity
      rw [hmn', if_pos hmn, hid]
      rfl
    exact ⟨_, startDb_eq hchoose, .mnemonic hmn hid⟩
  | seed hmn hseed hid hself =>
    have hchoose : chooseIdentity C B (overrideName db name) u = .ok (id, none) := by
      unfold chooseIdentity
      rw [hmn', hseed', if_neg (not_not.2 hmn), if_pos hseed, hid]
    exact ⟨_, startDb_eq hchoose, .derived hmn rfl hself⟩
  | derived hmn hkey hself =>
    by_cases hzero : id.signingKey = noSeed
    · -- the key reads as no key, and a new user is made
      have hall : ∀ u, (newIdentity C B u).2 = id := by
        unfold DerivesItself at hself
        rwa [if_pos hzero] at hself
      have hchoose : chooseIdentity C B (overrideName db name) u = .ok (id, some (newIdentity C B u).1) := by
        unfold chooseIdentity
        rw [hmn', hseed', if_neg (not_not.2 hmn), if_neg (not_not.2 (hkey.trans hzero)),
        show newIdentity C B u = ((newIdentity C B u).1, id) from Prod.ext rfl (hall u)]
      refine ⟨_, startDb_eq hchoose, ?_⟩
      by_cases hnew : (newIdentity C B u).1 = ""
      · exact .derived hnew rfl hself
      · refine .mnemonic hnew ?_
        rw [← hall u]
        exact fromMnemonic_newIdentity hnew
    · have hagain : UserIdentity.fromSeed C id.signingKey = id := by
        unfold DerivesItself at hself
        rwa [if_neg hzero] at hself
      have hchoose : chooseIdentity C B (overrideName db name) u = .ok (id, none) := by
        unfold chooseIdentity
        rw [hmn', hseed', if_neg (not_not.2 hmn), hkey, if_pos hzero, hagain]
      exact ⟨_, startDb_eq hchoose, .derived hmn rfl hself⟩

/-- With only a seed, the database saved has the signing key in its place. -/
theorem startDb_of_seed {db : MessengerDb} (hmn : db.mnemonic = "") (hseed : db.userSeed ≠ noSeed) (u : NewUser) :
    startDb C B db "" u = .ok (.fromSeed C db.userSeed,
      { db with userSeed := (UserIdentity.fromSeed C db.userSeed).signingKey }) := by
  have hchoose : chooseIdentity C B (overrideName db "") u = .ok (.fromSeed C db.userSeed, none) := by
    unfold chooseIdentity
    rw [overrideName_empty, if_neg (not_not.2 hmn), if_pos hseed]
  rw [startDb_eq hchoose, overrideName_empty]
  rfl

/-! ## Starts in a row -/

/-- The file holds the database, sealed with the key next to it. -/
def World.Stores (C : Crypto) (J : DbJson) (w : World) (db : MessengerDb) : Prop :=
  J.parse (J.print db) = .ok db ∧
    ∃ key salt nonce, w.storedKey = some key ∧ w.dbFile = some (sealDb C J key salt nonce db)

section Relaunch

variable (haead : ∀ key nonce ad pt, C.aeadDecrypt key nonce ad (C.aeadEncrypt key nonce ad pt) = some pt)
include haead

/-- A new process loads what is stored, and has its key then. -/
theorem World.Stores.load {w : World} {db : MessengerDb} (h : w.Stores C J db) (fresh : MasterKey)
    (write : WriteResult) : ∃ w', loadFromFile C J P w.restart fresh write = (w', .ok db) ∧
      w'.dbFile = w.dbFile ∧ w'.keyFile = w.keyFile ∧ w'.cache.lookup P.canonical = w.storedKey := by
  obtain ⟨hj, key, salt, nonce, hkey, hfile⟩ := h
  have hkey' : w.restart.storedKey = some key := hkey
  have hfile' : w.restart.dbFile = some (sealDb C J key salt nonce db) := hfile
  have habs : w.restart.absPath P = P.canonical := by
    unfold World.absPath
    rw [hfile']
    rfl
  have hget : getOrCreateInstanceKey P w.restart fresh write =
      ({ w.restart with cache := w.restart.cache.insert P.canonical key }, .ok key) := by
    unfold getOrCreateInstanceKey
    rw [habs, show w.restart.cache.lookup P.canonical = none from Finmap.lookup_empty _, hkey']
  refine ⟨{ w.restart with cache := w.restart.cache.insert P.canonical key }, ?_, rfl, rfl,
    (Finmap.lookup_insert _).trans hkey.symm⟩
  unfold loadFromFile
  rw [hfile']
  dsimp only
  rw [isEmpty_sealDb, if_neg Bool.false_ne_true, hget]
  exact Prod.ext rfl (openDb_sealDb haead hj key salt nonce)

/-- The start of a new process on a stored database. -/
theorem World.Stores.relaunch {w : World} {db db' : MessengerDb} {id : UserIdentity C} (h : w.Stores C J db)
    (d : StartDraw) (hstart : startDb C B db d.displayName d.user = .ok (id, db')) :
    (relaunch C B J P w d).2 = .ok (id, db') ∧
      (Saves C B J P w d → (relaunch C B J P w d).1.Stores C J db') := by
  obtain ⟨w', hload, hdb, hkeyFile, hcache⟩ := h.load (P := P) haead d.loadKey d.loadWrite
  obtain ⟨-, key, salt, nonce, hkey, hfile⟩ := h
  have hrelaunch : Messenger.relaunch C B J P w d = ((saveToFile C J P w' db' d.save).1, .ok (id, db')) := by
    unfold Messenger.relaunch start
    rw [hload]
    dsimp only
    rw [hstart]
  refine ⟨by rw [hrelaunch], fun ⟨hdone, hj⟩ => ?_⟩
  have habs : w'.absPath P = P.canonical := by
    unfold World.absPath
    rw [hdb, hfile]
    rfl
  have hpresent : w'.keyFile.isNone = false := by
    rw [hkeyFile, World.keyFile_of_storedKey hkey]
    rfl
  -- the key the load has put into the cache seals the file
  have hget : getOrCreateInstanceKey P w' d.save.key d.save.keyWrite = (w', .ok key) := by
    unfold getOrCreateInstanceKey
    rw [habs, hcache, hkey]
    dsimp only
    rw [hpresent, if_neg Bool.false_ne_true]
  have hstored : w'.storedKey = some key := by
    unfold World.storedKey at hkey ⊢
    rw [hkeyFile]
    exact hkey
  refine ⟨hj id db' (by rw [hrelaunch]), key, d.save.salt, d.save.nonce, ?_, ?_⟩
  · rw [hrelaunch, saveToFile, hget]
    dsimp only
    rw [hdone]
    exact hstored
  · rw [hrelaunch, saveToFile, hget]
    dsimp only
    rw [hdone]
    rfl

/-- A start on a database that yields an identity has it, and stores such a database. -/
theorem World.Stores.yields {w : World} {db : MessengerDb} {id : UserIdentity C} (h : w.Stores C J db)
    (hy : Yields C B id db) (d : StartDraw) :
    (Messenger.relaunch C B J P w d).2.map Prod.fst = .ok id ∧
      (Saves C B J P w d → ∃ db', (Messenger.relaunch C B J P w d).1.Stores C J db' ∧ Yields C B id db') := by
  obtain ⟨db', hstart, hy'⟩ := hy.startDb d.displayName d.user
  obtain ⟨hok, hsaved⟩ := h.relaunch (P := P) haead d hstart
  exact ⟨by rw [hok]; rfl, fun hs => ⟨db', hsaved hs, hy'⟩⟩

theorem identityStable_of_yields {w : World} {db : MessengerDb} {id : UserIdentity C} (h : w.Stores C J db)
    (hy : Yields C B id db) : IdentityStable C B J P w := by
  refine ⟨id, fun ds d hds => ?_⟩
  obtain ⟨db', hstores, hy'⟩ : ∃ db', (run (fun w d => (Messenger.relaunch C B J P w d).1) w ds).Stores C J db' ∧
      Yields C B id db' :=
    run_invariant (I := fun w => ∃ db, w.Stores C J db ∧ Yields C B id db)
      (fun w d ⟨db, hw, hydb⟩ hs => (hw.yields haead hydb d).2 hs) ⟨db, h, hy⟩ hds
  exact (hstores.yields haead hy' d).1

/-- A stored mnemonic that a start accepts is one of an identity. -/
theorem World.Stores.fromMnemonic {w : World} {db : MessengerDb} (h : w.Stores C J db) (hmn : db.mnemonic ≠ "")
    {d : StartDraw} {p : UserIdentity C × MessengerDb} (hok : (Messenger.relaunch C B J P w d).2 = .ok p) :
    ∃ id, UserIdentity.fromMnemonic C B db.mnemonic = .ok id := by
  cases hid : UserIdentity.fromMnemonic C B db.mnemonic with
  | ok id => exact ⟨id, rfl⟩
  | error e =>
    obtain ⟨w', hload, -⟩ := h.load (P := P) haead d.loadKey d.loadWrite
    have hstart : startDb C B db d.displayName d.user =
        .error ("Stored database mnemonic is invalid, refusing to overwrite identity: " ++ e) := by
      unfold Messenger.startDb chooseIdentity
      dsimp only
      rw [mnemonic_overrideName, if_pos hmn, hid]
      rfl
    rw [Messenger.relaunch, start, hload] at hok
    dsimp only at hok
    rw [hstart] at hok
    cases hok

/-- With only a seed, a stable identity derives itself: the second start has nothing but the signing key. -/
theorem derivesItself_of_identityStable {w : World} {db : MessengerDb} (h : w.Stores C J db) (hmn : db.mnemonic = "")
    (hseed : db.userSeed ≠ noSeed)
    (hj : J.parse (J.print { db with userSeed := (UserIdentity.fromSeed C db.userSeed).signingKey }) =
      .ok { db with userSeed := (UserIdentity.fromSeed C db.userSeed).signingKey }) (d : StartDraw)
    (hstable : IdentityStable C B J P w) : DerivesItself C B (.fromSeed C db.userSeed) := by
  obtain ⟨id, hall⟩ := hstable
  let d₁ : StartDraw := { d with displayName := "", save := { d.save with dbWrite := .done } }
  have hstart := startDb_of_seed (C := C) (B := B) hmn hseed d₁.user
  obtain ⟨hfirst, hstores⟩ := h.relaunch (P := P) haead d₁ hstart
  have hsaves : Saves C B J P w d₁ := by
    refine ⟨rfl, fun id db' hok => ?_⟩
    obtain ⟨-, rfl⟩ := Prod.mk.inj (Except.ok.inj (hfirst.symm.trans hok))
    exact hj
  have hid : UserIdentity.fromSeed C db.userSeed = id := by
    have h0 := hall [] d₁ trivial
    rw [run_nil, hfirst] at h0
    exact Except.ok.inj h0
  have hsecond : ∀ u id' mn, chooseIdentity C B (overrideName
      { db with userSeed := (UserIdentity.fromSeed C db.userSeed).signingKey } "") u = .ok (id', mn) → id' = id := by
    intro u id' mn hchoose
    have hrelaunch := ((hstores hsaves).relaunch (P := P) haead { d₁ with user := u } (startDb_eq hchoose)).1
    have h1 := hall [d₁] { d₁ with user := u } ⟨hsaves, trivial⟩
    rw [run_cons, run_nil, hrelaunch] at h1
    exact Except.ok.inj h1
  unfold DerivesItself
  rw [hid] at hsecond ⊢
  split
  · rename_i hzero
    intro u
    refine hsecond u _ (some (newIdentity C B u).1) ?_
    unfold chooseIdentity
    rw [overrideName_empty, if_neg (not_not.2 hmn), if_neg (not_not.2 hzero)]
  · rename_i hkey
    refine hsecond d.user _ none ?_
    unfold chooseIdentity
    rw [overrideName_empty, if_neg (not_not.2 hmn), if_pos hkey]

end Relaunch

/-! ## A database with a seed, and one with a mnemonic -/

namespace Restarted

open NodeX.Sample

/-- JSON of databases that hold no more than an identity and a name. -/
def print (db : MessengerDb) : Bytes :=
  jsonObject [
    ("user_seed", jsonBytes db.userSeed), ("mnemonic", jsonString db.mnemonic),
    ("display_name", jsonString db.displayName), ("bio", jsonString db.bio), ("contacts", jsonObject []),
    ("messages", jsonArray []), ("groups", jsonObject []), ("pinned_message_ids", jsonArray []),
    ("deleted_message_ids", jsonArray []), ("blocked_user_ids", jsonArray []), ("pending_tombstones", jsonArray [])]

/-- JSON as far as these databases go. -/
def json (dbs : List MessengerDb) : DbJson where
  print
  parse bs := (dbs.find? (print · = bs)).elim (.error "expected value") .ok

/-- Twelve words, and a seed for them. -/
def phrase : String := "legal winner thank year wave sausage worth useful legal winner thank yellow"

def bip39 : Bip39 where
  fromEntropy _ := .ok phrase
  parseToSeed mn := if mn = phrase then .ok (mixBytes 64 (utf8 mn)) else .error "mnemonic contains an unknown word"

/-- A user from before there were mnemonics. -/
def seedOnly : MessengerDb := { userSeed := List.replicate 32 1 }

/-- What the first start makes of it. -/
def derived : MessengerDb := { userSeed := (UserIdentity.fromSeed .transparent seedOnly.userSeed).signingKey }

def withPhrase : MessengerDb := { userSeed := List.replicate 32 1, mnemonic := phrase }

def rekeyed : MessengerDb := { withPhrase with userSeed := derived.userSeed }

def texts : DbJson := json [seedOnly, derived, withPhrase, rekeyed]

def path : DbPath := ⟨"/home/u/messenger.json", "/home/u/messenger.json", "/home/u/messenger.json.key"⟩

/-- The files of a database. -/
def files (db : MessengerDb) : World where
  dbFile := some (sealDb .transparent texts (StaleKey.draw 1).key (StaleKey.draw 1).salt (StaleKey.draw 1).nonce db)
  keyFile := some (StaleKey.draw 1).key.1

def draw : StartDraw where
  displayName := "NodeX User"
  user := ⟨⟨List.replicate 16 0x7F, by simp⟩, ⟨List.replicate 32 3, by simp⟩⟩
  loadKey := (StaleKey.draw 2).key
  loadWrite := .done
  save := StaleKey.draw 3

/-- The signing keys of two starts, the second on what the first saved. -/
def keys (w : World) : List (Except String Bytes) :=
  let first := relaunch .transparent bip39 texts path w draw
  let second := relaunch .transparent bip39 texts path first.1 draw
  [first.2.map (·.1.signingKey), second.2.map (·.1.signingKey)]

theorem stores_files {db : MessengerDb} (h : texts.parse (texts.print db) = .ok db) :
    (files db).Stores .transparent texts db :=
  ⟨h, (StaleKey.draw 1).key, (StaleKey.draw 1).salt, (StaleKey.draw 1).nonce,
    World.storedKey_of_keyFile rfl, rfl⟩

end Restarted

end NodeX.Messenger
