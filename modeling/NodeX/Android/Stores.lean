/-
The stores of the Android client: messages, contacts and the queue of deliveries, each one encrypted file. A save writes
a new file beside the old one, deletes the old one and renames the new one; the messages are renamed before they are
encrypted, so that theirs is deleted twice. What is read at a start is empty where there is no file or none that opens.
-/
import NodeX.Android.MessageStore

namespace NodeX.Android

open NodeX.Lib Messenger AndroidMessageCrypto

/-! ## Sealed files -/

/-- AES-GCM under the key of the key store. -/
structure StoreCipher where
  encrypt (aad iv plain : Bytes) : Bytes
  decrypt (aad iv data : Bytes) : Option Bytes

/-- What was encrypted is decrypted again, and has a tag. -/
structure StoreCipher.Correct (C : StoreCipher) : Prop where
  decrypt_encrypt : ∀ aad iv plain, C.decrypt aad iv (C.encrypt aad iv plain) = some plain
  tag : ∀ aad iv plain, 16 ≤ (C.encrypt aad iv plain).length

/-- `NXS1` -/
def storeMagic : Bytes := [78, 88, 83, 49]

def isSealed (data : Bytes) : Bool := data.take 4 == storeMagic

section Sealed

variable (C : StoreCipher) (aad : Bytes)

def sealedJson (iv plain : Bytes) : Bytes := storeMagic ++ iv ++ C.encrypt aad iv plain

def openJson (data : Bytes) : Option Bytes :=
  if 32 ≤ data.length ∧ isSealed data then C.decrypt aad ((data.drop 4).take 12) (data.drop 16) else none

/-- The text in a store file, encrypted or from before stores were. -/
def storeText (data : Bytes) : Option Bytes := if isSealed data then openJson C aad data else some data

variable {C aad}

theorem isSealed_sealedJson (iv plain : Bytes) : isSealed (sealedJson C aad iv plain) = true := by
  rfl

theorem storeText_sealedJson (hC : C.Correct) {iv : Bytes} (hiv : iv.length = 12) (plain : Bytes) :
    storeText C aad (sealedJson C aad iv plain) = some plain := by
  have hlen : 32 ≤ (sealedJson C aad iv plain).length := by
    have htag := hC.tag aad iv plain
    unfold sealedJson storeMagic
    simp only [List.length_append, List.length_cons, List.length_nil]
    omega
  have hdrop : (sealedJson C aad iv plain).drop 4 = iv ++ C.encrypt aad iv plain := by
    unfold sealedJson
    rw [List.append_assoc]
    exact List.drop_left' rfl
  have hdata : (sealedJson C aad iv plain).drop 16 = C.encrypt aad iv plain := by
    have hdrop16 : (sealedJson C aad iv plain).drop 16 = ((sealedJson C aad iv plain).drop 4).drop 12 := by
      rw [List.drop_drop]
    rw [hdrop16, hdrop]
    exact List.drop_left' hiv
  unfold storeText openJson
  rw [if_pos (isSealed_sealedJson iv plain), if_pos ⟨hlen, isSealed_sealedJson iv plain⟩, hdrop, hdata,
    List.take_left' hiv]
  exact hC.decrypt_encrypt aad iv plain

end Sealed

/-! ## Saves -/

inductive StoreFile where
  | file
  | tmp
  | tmpTmp
deriving DecidableEq

/-- The files that there are. -/
abbrev Volume := StoreFile → Option Bytes

inductive VolumeOp where
  | write (name : StoreFile) (bytes : Bytes)
  | delete (name : StoreFile)
  | rename (name target : StoreFile)
deriving DecidableEq

/-- Where a sequence of operations is cut short, as the process dies or one of them fails: so many are done, and of the
next one, if it is a write, so many bytes. -/
structure Cut where
  done : Nat
  written : Option Nat := none
deriving DecidableEq

namespace VolumeOp

def apply (v : Volume) : VolumeOp → Volume
  | write name bytes => Function.update v name (some bytes)
  | delete name => Function.update v name none
  | rename name target => Function.update (Function.update v target (v name)) name none

/-- A write that is cut short leaves any of its bytes; a deletion or a renaming happens or does not. -/
def cutShort (v : Volume) (op : VolumeOp) (written : Option Nat) : Volume :=
  match op, written with
  | write name bytes, some n => Function.update v name (some (bytes.take n))
  | _, _ => v

/-- What is there after the operations, as far as they came. -/
def perform (v : Volume) (ops : List VolumeOp) : Option Cut → Volume
  | none => ops.foldl apply v
  | some cut =>
    let v := (ops.take cut.done).foldl apply v
    match ops[cut.done]? with
    | some op => op.cutShort v cut.written
    | none => v

end VolumeOp

inductive Store where
  | messages
  | contacts
  | deliveryQueue
deriving DecidableEq

namespace Store

def aad : Store → Bytes
  | messages => utf8 "messages"
  | contacts => utf8 "contacts"
  | deliveryQueue => utf8 "delivery_queue"

variable (C : StoreCipher)

/-- What `sealJsonFile` does to a file of this text. -/
def sealJsonFile (aad : Bytes) (plain temporary : StoreFile) (iv text : Bytes) : List VolumeOp :=
  [.write temporary (sealedJson C aad iv text), .delete plain, .rename temporary plain]

def saveMessages (iv text : Bytes) : List VolumeOp :=
  [.write .tmp text, .delete .file, .rename .tmp .file] ++ sealJsonFile C messages.aad .file .tmp iv text

/-- The new file is encrypted before the old one goes. -/
def replaceSealed (aad iv text : Bytes) : List VolumeOp :=
  [.write .tmp text] ++ sealJsonFile C aad .tmp .tmpTmp iv text ++ [.delete .file, .rename .tmp .file]

def saveContacts : (iv text : Bytes) → List VolumeOp := replaceSealed C contacts.aad

def persistQueue : (iv text : Bytes) → List VolumeOp := replaceSealed C deliveryQueue.aad

/-- The operations of a save; a file that is not there is not deleted, which comes to the same. -/
def saveOps : Store → (iv text : Bytes) → List VolumeOp
  | messages => saveMessages C
  | contacts => saveContacts C
  | deliveryQueue => persistQueue C

end Store

/-! ## Starts -/

/-- What a start makes of a text: its content, or what it has read when it throws. -/
structure StoreFormat (σ : Type) where
  empty : σ
  parse : Bytes → Except σ σ

section Start

variable {σ : Type} (C : StoreCipher) (aad : Bytes) (F : StoreFormat σ)

/-- What is in memory after a start. -/
def StoreFormat.load (file : Option Bytes) : σ :=
  match file.bind (storeText C aad) with
  | none => F.empty
  | some text =>
    match F.parse text with
    | .ok content => content
    | .error read => read

/-- The file is opened and parsed. -/
def StoreFormat.Readable (data : Bytes) : Prop :=
  ∃ text content, storeText C aad data = some text ∧ F.parse text = .ok content

/-- The file of messages, as `loadMessages` reads it. -/
def messagesFormat (P : Account) (legacyId : Option String) : StoreFormat (KeyedMap String (List ChatMessage)) where
  empty := ∅
  parse text :=
    match P.O.parse text with
    | some (.object fields) =>
      match fields.mapM (conversationOf P legacyId) with
      | .ok conversations => .ok (putAll conversations)
      | .error _ => .error ∅
    | _ => .error ∅

theorem load_messagesFormat (P : Account) (legacyId : Option String) (file : Option Bytes) :
    (messagesFormat P legacyId).load C aad file = loadMessages P legacyId (file.bind (storeText C aad)) := by
  unfold StoreFormat.load loadMessages messagesFormat
  cases file.bind (storeText C aad) with
  | none => rfl
  | some text =>
    dsimp only [Option.bind_some]
    cases P.O.parse text with
    | none => rfl
    | some v =>
      cases v with
      | object fields =>
        dsimp only
        cases fields.mapM (conversationOf P legacyId) <;> rfl
      | _ => rfl

end Start

/-! ## Runs of saves -/

/-- A save of a content that is read back from its text, and how far it comes. -/
structure Save {σ : Type} (F : StoreFormat σ) where
  text : Bytes
  iv : Bytes
  content : σ
  cut : Option Cut := none
  parse_text : F.parse text = .ok content
  unsealed : isSealed text = false
  size_iv : iv.length = 12

namespace Save

variable {σ : Type} (C : StoreCipher) (F : StoreFormat σ) (store : Store)

def ops (a : Save F) : List VolumeOp := store.saveOps C a.iv a.text

/-- The files after a save, complete or not. -/
def step (files : Volume) (a : Save F) : Volume := VolumeOp.perform files (a.ops C F store) a.cut

/-- A start after the save finds the content before it or the one saved, and the latter if nothing cut it short. A file
that cannot be read stays as it is. -/
structure Safe (files : Volume) (a : Save F) : Prop where
  either : F.load C store.aad (step C F store files a .file) = F.load C store.aad (files .file) ∨
    F.load C store.aad (step C F store files a .file) = a.content
  complete : a.cut = none → F.load C store.aad (step C F store files a .file) = a.content
  spared : ∀ data, files .file = some data → ¬F.Readable C store.aad data → step C F store files a .file = some data

/-- The last thing that was done is the deletion of the file. -/
def InGap (a : Save F) : Prop :=
  ∃ cut, a.cut = some cut ∧ ((a.ops C F store).take cut.done).getLast? = some (.delete .file)

/-- The file was deleted. -/
def Deletes (a : Save F) : Prop := ∀ cut, a.cut = some cut → .delete .file ∈ (a.ops C F store).take cut.done

/-- The save is not cut short between the deletion of the file and the renaming, unless there is nothing to lose or to
save; and the file can be read, or the save does not come to its deletion. -/
structure Guarded (files : Volume) (a : Save F) : Prop where
  gap : a.InGap C F store → F.load C store.aad (files .file) = F.empty ∨ a.content = F.empty
  readable : ∀ data, files .file = some data → ¬F.Readable C store.aad data → ¬a.Deletes C F store

variable {C F store} {files : Volume} {a : Save F}

/-- What becomes of the file when operations are cut short: it is not touched, or it is deleted, or it is there anew. -/
structure Outcome (files : Volume) (ops : List VolumeOp) (cut : Cut) (texts : List Bytes) :
    Prop where
  untouched : .delete .file ∉ ops.take cut.done → VolumeOp.perform files ops (some cut) .file = files .file ∧
    (ops.take cut.done).getLast? ≠ some (.delete .file)
  gap : (ops.take cut.done).getLast? = some (.delete .file) → VolumeOp.perform files ops (some cut) .file = none
  anew : .delete .file ∈ ops.take cut.done → (ops.take cut.done).getLast? ≠ some (.delete .file) →
    ∃ text ∈ texts, VolumeOp.perform files ops (some cut) .file = some text

theorem outcome_saveMessages (C : StoreCipher) (files : Volume) (iv text : Bytes) (cut : Cut) :
    Outcome files (Store.saveMessages C iv text) cut [text, sealedJson C Store.messages.aad iv text] := by
  obtain ⟨done, written⟩ := cut
  constructor
  all_goals
    unfold Store.saveMessages Store.sealJsonFile VolumeOp.perform VolumeOp.cutShort
    rcases done with _ | _ | _ | _ | _ | _ | n
    all_goals
      cases written <;> simp [VolumeOp.apply]

theorem outcome_replaceSealed (C : StoreCipher) (aad : Bytes) (files : Volume) (iv text : Bytes) (cut : Cut) :
    Outcome files (Store.replaceSealed C aad iv text) cut [text, sealedJson C aad iv text] := by
  obtain ⟨done, written⟩ := cut
  constructor
  all_goals
    unfold Store.replaceSealed Store.sealJsonFile VolumeOp.perform VolumeOp.cutShort
    rcases done with _ | _ | _ | _ | _ | _ | n
    all_goals
      cases written <;> simp [VolumeOp.apply]

theorem outcome_saveOps (C : StoreCipher) (store : Store) (files : Volume) (iv text : Bytes) (cut : Cut) :
    Outcome files (store.saveOps C iv text) cut [text, sealedJson C store.aad iv text] := by
  cases store with
  | messages => exact outcome_saveMessages C files iv text cut
  | contacts => exact outcome_replaceSealed C _ files iv text cut
  | deliveryQueue => exact outcome_replaceSealed C _ files iv text cut

theorem perform_saveOps (C : StoreCipher) (store : Store) (files : Volume) (iv text : Bytes) :
    VolumeOp.perform files (store.saveOps C iv text) none .file = some (sealedJson C store.aad iv text) := by
  cases store <;> rfl

theorem storeText_text (aad : Bytes) (a : Save F) : storeText C aad a.text = some a.text := by
  unfold storeText
  rw [a.unsealed, if_neg Bool.false_ne_true]

theorem load_of_storeText {aad data : Bytes} (a : Save F) (h : storeText C aad data = some a.text) :
    F.load C aad (some data) = a.content := by
  unfold StoreFormat.load
  rw [Option.bind_some, h]
  dsimp only
  rw [a.parse_text]

theorem readable_of_storeText {aad data : Bytes} (a : Save F) (h : storeText C aad data = some a.text) :
    F.Readable C aad data := ⟨a.text, a.content, h, a.parse_text⟩

theorem deletes_of_inGap (h : a.InGap C F store) : a.Deletes C F store := by
  obtain ⟨cut, hcut, hlast⟩ := h
  rintro cut' hcut'
  obtain rfl := Option.some.inj (hcut.symm.trans hcut')
  exact List.mem_of_getLast? hlast

/-- What becomes of the file in a save. -/
theorem step_cases (hC : C.Correct) (files : Volume) (a : Save F) :
    (¬a.Deletes C F store ∧ step C F store files a .file = files .file) ∨
    (a.InGap C F store ∧ step C F store files a .file = none) ∨
    (a.Deletes C F store ∧ ¬a.InGap C F store ∧
      ∃ data, step C F store files a .file = some data ∧ storeText C store.aad data = some a.text) := by
  cases hcut : a.cut with
  | none =>
    refine .inr (.inr ⟨fun cut h => ?_, ?_, _, ?_, storeText_sealedJson hC a.size_iv a.text⟩)
    · rw [hcut] at h
      cases h
    · rintro ⟨cut, h, -⟩
      rw [hcut] at h
      cases h
    · unfold step ops
      rw [hcut]
      exact perform_saveOps C store files a.iv a.text
  | some cut =>
    have houtcome := outcome_saveOps C store files a.iv a.text cut
    have hstep : step C F store files a = VolumeOp.perform files (a.ops C F store) (some cut) := by
      unfold step
      rw [hcut]
    rw [hstep]
    by_cases hdelete : .delete .file ∈ (a.ops C F store).take cut.done
    · by_cases hlast : ((a.ops C F store).take cut.done).getLast? = some (.delete .file)
      · exact .inr (.inl ⟨⟨cut, hcut, hlast⟩, houtcome.gap hlast⟩)
      · obtain ⟨data, hdata, hfile⟩ := houtcome.anew hdelete hlast
        refine .inr (.inr ⟨fun cut' h => ?_, ?_, data, hfile, ?_⟩)
        · obtain rfl := Option.some.inj (hcut.symm.trans h)
          exact hdelete
        · rintro ⟨cut', h, hlast'⟩
          obtain rfl := Option.some.inj (hcut.symm.trans h)
          exact hlast hlast'
        · rcases List.mem_pair.1 hdata with rfl | rfl
          · exact storeText_text store.aad a
          · exact storeText_sealedJson hC a.size_iv a.text
    · exact .inl ⟨fun h => hdelete (h cut hcut), (houtcome.untouched hdelete).1⟩

theorem safe_iff (hC : C.Correct) (files : Volume) (a : Save F) :
    Safe C F store files a ↔ Guarded C F store files a := by
  have hnone : F.load C store.aad none = F.empty := rfl
  have hcases : _ ∨ _ ∨ _ := @step_cases _ C F store hC files a
  rcases hcases with
    ⟨hkept, hfile⟩ | ⟨hgap, hfile⟩ | ⟨hdeletes, hnot, data, hfile, htext⟩
  · constructor
    · exact fun _ => ⟨fun hgap => absurd (deletes_of_inGap hgap) hkept, fun _ _ _ => hkept⟩
    · intro _
      refine ⟨.inl (by rw [hfile]), fun hcut => ?_, fun data hdata _ => by rw [hfile, hdata]⟩
      exact absurd (fun cut h => by rw [hcut] at h; cases h) hkept
  · constructor
    · intro h
      refine ⟨fun _ => ?_, fun data hdata hunread => ?_⟩
      · have heither := h.either
        rw [hfile, hnone] at heither
        exact heither.imp Eq.symm Eq.symm
      · have hspared := h.spared data hdata hunread
        rw [hfile] at hspared
        cases hspared
    · intro h
      have hreadable := fun data hdata hunread => h.readable data hdata hunread (deletes_of_inGap hgap)
      refine ⟨?_, fun hcut => ?_, fun data hdata hunread => (hreadable data hdata hunread).elim⟩
      · rw [hfile, hnone]
        exact (h.gap hgap).imp Eq.symm Eq.symm
      · obtain ⟨cut, hsome, -⟩ := hgap
        rw [hcut] at hsome
        cases hsome
  · have hload := load_of_storeText a htext
    constructor
    · intro h
      refine ⟨fun hgap => absurd hgap hnot, fun data' hdata hunread _ => hunread ?_⟩
      have hspared := h.spared data' hdata hunread
      rw [hfile] at hspared
      obtain rfl := Option.some.inj hspared
      exact readable_of_storeText a htext
    · intro h
      refine ⟨.inr (by rw [hfile, hload]), fun _ => by rw [hfile, hload], fun data' hdata hunread => ?_⟩
      exact absurd hdeletes (h.readable data' hdata hunread)

/-- In a run of saves of a store, each may be cut short anywhere: a start finds the content before or after each of them
and no unreadable file is overwritten, exactly if no save that has something to lose is cut short right after it deleted
the file, and none deletes a file that cannot be read. -/
theorem run_crashSafe_iff (hC : C.Correct) (store : Store) (files : Volume) (saves : List (Save F)) :
    Steps (step C F store) (Safe C F store) files saves ↔ Steps (step C F store) (Guarded C F store) files saves :=
  steps_congr (safe_iff hC) files saves

end Save

/-! ## A save that is cut short -/

namespace BobsStores

/-- A tag of zeros. -/
def cipher : StoreCipher where
  encrypt _ _ plain := plain ++ List.replicate 16 0
  decrypt _ _ data := some (data.take (data.length - 16))

theorem correct_cipher : cipher.Correct where
  decrypt_encrypt aad iv plain := by
    have hlen : (plain ++ List.replicate 16 (0 : UInt8)).length - 16 = plain.length := by
      rw [List.length_append, List.length_replicate, Nat.add_sub_cancel]
    show some ((plain ++ List.replicate 16 0).take ((plain ++ List.replicate 16 (0 : UInt8)).length - 16)) = some plain
    rw [hlen, List.take_left]
  tag aad iv plain := by
    show 16 ≤ (plain ++ List.replicate 16 0).length
    rw [List.length_append, List.length_replicate]
    exact Nat.le_add_left ..

/-- Texts that begin with a brace. -/
def format : StoreFormat Bytes where
  empty := []
  parse text := if text.head? = some 123 then .ok text else .error []

/-- A save of `{n`. -/
def save (n : UInt8) (cut : Option Cut) : Save format where
  text := [123, n]
  iv := List.replicate 12 0
  content := [123, n]
  cut
  parse_text := rfl
  unsealed := rfl
  size_iv := rfl

end BobsStores

open BobsStores in
/-- The second save is cut short before it deletes anything. -/
theorem Save.run_crashSafe_twice : Steps (step cipher format .messages) (Safe cipher format .messages) (fun _ => none)
    [save 1 none, save 2 (some { done := 1 })] := by
  refine (run_crashSafe_iff correct_cipher .messages (fun _ => none) _).2 ⟨?_, ?_, trivial⟩
  · exact ⟨fun ⟨_, hcut, _⟩ => (by cases hcut), fun _ hdata => (by cases hdata)⟩
  · refine ⟨fun ⟨cut, hcut, hlast⟩ => ?_, fun data _ _ hdeletes => ?_⟩
    · obtain rfl := Option.some.inj hcut
      exact absurd hlast (by decide)
    · exact absurd (hdeletes _ rfl) (by decide)

open BobsStores in
/-- The process dies between the deletion of the old messages and the renaming of the new ones: a start finds none. -/
theorem Save.run_crashSafe_deleted :
    ¬∀ (C : StoreCipher) (F : StoreFormat Bytes) (store : Store) (files : Volume) (saves : List (Save F)),
      C.Correct → Steps (step C F store) (Safe C F store) files saves := by
  intro h
  have hsteps := h cipher format .messages (fun _ => none) [save 1 none, save 2 (some { done := 2 })] correct_cipher
  have heither := hsteps.2.1.either
  exact absurd heither (by decide)

end NodeX.Android
