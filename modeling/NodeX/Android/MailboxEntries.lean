/-
A mailbox record is one array that any stranger may append to. Its entries are handled one after another until one of
them throws, and none of them if the text of one looks like that of a drained record.
-/
import NodeX.Android.Envelopes

namespace NodeX.Android

open NodeX.Lib Messenger AndroidMessageCrypto MnemonicHelper Phone

variable (P : Account) (senderHex senderEndpoint : String)

/-! ## Entries that throw -/

/-- The entry is no object, or names a sender that cannot be read. -/
def BreaksOff (entry : Json) : Prop :=
  (∀ fields, entry ≠ .object fields) ∨
    3 ≤ optInt P.O entry "version" 0 ∧ ∃ e, claimedSender P entry senderHex senderEndpoint = .error e

variable {P senderHex senderEndpoint} {s : Phone} {xs : Nat → Surroundings}

theorem openedBy_error_iff {entry : Json} {clock : Clock} :
    (∃ e, openedBy P entry senderHex senderEndpoint clock = .error e) ↔
      3 ≤ optInt P.O entry "version" 0 ∧ ∃ e, claimedSender P entry senderHex senderEndpoint = .error e := by
  unfold openedBy
  by_cases hversion : optInt P.O entry "version" 0 < 3
  · rw [if_pos hversion]
    constructor
    · rintro ⟨e, he⟩
      cases he
    · rintro ⟨hle, -⟩
      omega
  · rw [if_neg hversion]
    cases hsender : claimedSender P entry senderHex senderEndpoint with
    | error e => exact ⟨fun _ => ⟨by omega, e, rfl⟩, fun _ => ⟨e, rfl⟩⟩
    | ok actual =>
      constructor
      · rintro ⟨e, he⟩
        simp only [bind, Except.bind, pure, Except.pure] at he
        repeat' split at he
        all_goals cases he
      · rintro ⟨-, e, he⟩
        cases he

namespace Phone

theorem handleEnvelopeObject_error_iff {entry : Json} {x : Surroundings} :
    (∃ e, s.handleEnvelopeObject P entry senderHex senderEndpoint x = .error e) ↔
      ∃ e, openedBy P entry senderHex senderEndpoint x.clock = .error e := by
  unfold handleEnvelopeObject
  cases openedBy P entry senderHex senderEndpoint x.clock with
  | error e => simp
  | ok opened =>
    cases opened with
    | none => simp
    | some m => simp

/-- An entry that does not throw is an object, and it is handled. -/
theorem handled_of_not_breaksOff {entry : Json} (h : ¬BreaksOff P senderHex senderEndpoint entry) (s : Phone)
    (x : Surroundings) :
    ∃ fields s', entry = .object fields ∧ s.handleEnvelopeObject P entry senderHex senderEndpoint x = .ok s' := by
  unfold BreaksOff at h
  rw [not_or] at h
  obtain ⟨hobject, hthrow⟩ := h
  rw [not_forall] at hobject
  obtain ⟨fields, hfields⟩ := hobject
  cases hs' : s.handleEnvelopeObject P entry senderHex senderEndpoint x with
  | error e => exact absurd (openedBy_error_iff.1 (handleEnvelopeObject_error_iff.1 ⟨e, hs'⟩)) hthrow
  | ok s' => exact ⟨fields, s', not_not.1 hfields, rfl⟩

/-! ## The calls of the loop -/

/-- A call that is made comes after entries none of which throws. -/
theorem not_breaksOff_of_entryCalls {call : Phone × Json} : ∀ (es : List Json) (s : Phone) (n i : Nat),
    (s.entryCalls P senderHex senderEndpoint xs n es)[i]? = some call →
      ∀ e ∈ es.take i, ¬BreaksOff P senderHex senderEndpoint e
  | [], s, n, i, h => by simp
  | entry :: rest, s, n, 0, h => by simp
  | entry :: rest, s, n, i + 1, h => by
    cases entry with
    | object fields =>
      simp only [entryCalls, List.getElem?_cons_succ] at h
      cases hs' : s.handleEnvelopeObject P (.object fields) senderHex senderEndpoint (xs n) with
      | error e =>
        rw [hs'] at h
        cases h
      | ok s' =>
        rw [hs'] at h
        rw [List.take_succ_cons]
        refine List.forall_mem_cons.2 ⟨?_, not_breaksOff_of_entryCalls rest s' (n + 1) i h⟩
        rintro (hobject | hthrow)
        · exact hobject fields rfl
        · obtain ⟨e, he⟩ := handleEnvelopeObject_error_iff.2 (openedBy_error_iff.2 hthrow)
          rw [hs'] at he
          cases he
    | _ => cases h

/-- After entries none of which throws, an object is handled in the state they leave. -/
theorem entryCalls_getElem? : ∀ (es : List Json) (s : Phone) (n i : Nat) {fields : List (String × Json)},
    es[i]? = some (.object fields) → (∀ e ∈ es.take i, ¬BreaksOff P senderHex senderEndpoint e) →
      (s.entryCalls P senderHex senderEndpoint xs n es)[i]? =
        some (s.handleEntries P senderHex senderEndpoint xs n (es.take i), .object fields)
  | [], s, n, i, fields, hi, h => by cases hi
  | entry :: rest, s, n, 0, fields, hi, h => by
    rw [List.getElem?_cons_zero, Option.some.injEq] at hi
    rw [hi]
    rfl
  | entry :: rest, s, n, i + 1, fields, hi, h => by
    rw [List.take_succ_cons] at h ⊢
    obtain ⟨hentry, hrest⟩ := List.forall_mem_cons.1 h
    obtain ⟨own, s', rfl, hs'⟩ := handled_of_not_breaksOff hentry s (xs n)
    rw [List.getElem?_cons_succ] at hi
    simp only [entryCalls, handleEntries, hs', List.getElem?_cons_succ]
    exact entryCalls_getElem? rest s' (n + 1) i hi hrest

end Phone

/-! ## Records and their entries -/

/-- The text of a record. -/
def jsonStrOf (P : Account) (valueBytes : Bytes) : String := kotlinTrim (P.K.decodeText valueBytes)

/-- The record with one entry. -/
def aloneText (entryText : String) : String := "[" ++ entryText ++ "]"

/-- A value that is an array with these entries, each with its text; an object can be read alone by its own text. -/
structure IsRecord (P : Account) (valueBytes : Bytes) (entries : List (String × Json)) : Prop where
  isArray : startsWith (jsonStrOf P valueBytes) "[" = true
  parsed : P.K.parseArray (jsonStrOf P valueBytes) = some (entries.map Prod.snd)
  part : ∀ t fields, (t, .object fields) ∈ entries → t.toList <:+: (jsonStrOf P valueBytes).toList
  parsedAlone : ∀ t fields, (t, .object fields) ∈ entries → P.K.parseArray (aloneText t) = some [.object fields]

variable {valueBytes : Bytes} {entries : List (String × Json)} {t : String} {fields : List (String × Json)}

theorem isEmpty_of_startsWith {text : String} (h : startsWith text "[" = true) : text.isEmpty = false := by
  unfold startsWith at h
  cases hempty : text.isEmpty with
  | false => rfl
  | true =>
    rw [String.isEmpty_iff.1 hempty] at h
    cases h

theorem entriesOf_eq (h : IsRecord P valueBytes entries) :
    entriesOf P valueBytes = if isDrained (jsonStrOf P valueBytes) then [] else entries.map Prod.snd := by
  have hempty := isEmpty_of_startsWith h.isArray
  have harray := h.isArray
  have hparsed := h.parsed
  unfold jsonStrOf at hempty harray hparsed ⊢
  unfold entriesOf
  simp only [hempty, harray, hparsed, Bool.false_or, if_true, Option.getD_some]

/-- `String(bytes, UTF_8)` undoes `toByteArray(UTF_8)`. -/
def DecodesUtf8 (P : Account) : Prop := ∀ text : String, P.K.decodeText (utf8 text) = text

theorem kotlinTrim_aloneText (t : String) : kotlinTrim (aloneText t) = aloneText t := by
  have hlist : (aloneText t).toList = '[' :: (t.toList ++ [']']) := by simp [aloneText]
  unfold kotlinTrim
  rw [hlist, strip_eq_self (l := '[' :: (t.toList ++ [']'])) ⟨'[', _, rfl, by decide⟩
    ⟨']', '[' :: t.toList, rfl, by decide⟩, ← hlist, String.ofList_toList]

/-- What is read of an entry that comes alone. -/
theorem entriesOf_alone (hutf : DecodesUtf8 P) (h : IsRecord P valueBytes entries)
    (hmem : (t, .object fields) ∈ entries) :
    entriesOf P (utf8 (aloneText t)) = if isDrained (aloneText t) then [] else [.object fields] := by
  have hjson : jsonStrOf P (utf8 (aloneText t)) = aloneText t := by
    unfold jsonStrOf
    rw [hutf, kotlinTrim_aloneText]
  have halone : IsRecord P (utf8 (aloneText t)) [(t, .object fields)] := by
    refine ⟨?_, ?_, ?_, ?_⟩
    · rw [hjson]
      simp [startsWith, aloneText]
    · rw [hjson]
      exact h.parsedAlone t fields hmem
    · intro t' fields' hmem'
      cases List.mem_singleton.1 hmem'
      rw [hjson]
      exact ⟨['['], [']'], by simp [aloneText]⟩
    · intro t' fields' hmem'
      cases List.mem_singleton.1 hmem'
      exact h.parsedAlone t fields hmem
  rw [entriesOf_eq halone, hjson]
  rfl

/-- A record with an entry that looks drained looks drained. -/
theorem isDrained_of_alone (h : IsRecord P valueBytes entries) (hmem : (t, .object fields) ∈ entries)
    (hdrained : isDrained (aloneText t) = true) : isDrained (jsonStrOf P valueBytes) = true := by
  unfold isDrained containsText at hdrained ⊢
  rw [decide_eq_true_eq] at hdrained ⊢
  have hlist : (aloneText t).toList = '[' :: (t.toList ++ [']']) := by simp [aloneText]
  rw [hlist] at hdrained
  exact (infix_of_infix_enclosed (by decide) (by decide) hdrained).trans (h.part t fields hmem)

/-! ## A record against its entries alone -/

namespace Phone

/-- The calls that a value leads to. -/
def recordCalls (P : Account) (senderHex senderEndpoint : String) (s : Phone) (valueBytes : Bytes)
    (xs : Nat → Surroundings) : List (Phone × Json) :=
  s.entryCalls P senderHex senderEndpoint xs 0 (entriesOf P valueBytes)

/-- The entries come alone, each in a record of its own. -/
def receiveEach (P : Account) (senderHex senderEndpoint : String) (xs : Nat → Surroundings) :
    Nat → Phone → List (String × Json) → Phone
  | _, s, [] => s
  | i, s, (t, _) :: rest =>
    receiveEach P senderHex senderEndpoint xs (i + 1)
      (s.processStorePayload P (utf8 (aloneText t)) senderHex senderEndpoint fun _ => xs i) rest

/-- Every entry that is a valid envelope for the user is handled as if it had come alone, after those before it. -/
def EntriesIndependent (P : Account) (senderHex senderEndpoint : String) (s : Phone) (valueBytes : Bytes)
    (entries : List (String × Json)) (xs : Nat → Surroundings) : Prop :=
  ∀ i t env, entries[i]? = some (t, env) → (∃ m, openedBy P env senderHex senderEndpoint (xs i).clock = .ok (some m)) →
    (s.recordCalls P senderHex senderEndpoint valueBytes xs)[i]? =
      ((receiveEach P senderHex senderEndpoint xs 0 s (entries.take i)).recordCalls P senderHex senderEndpoint
        (utf8 (aloneText t)) fun _ => xs i)[0]?

/-- Where nothing throws and nothing looks drained, the loop does what the entries do alone. -/
theorem handleEntries_eq_receiveEach (hutf : DecodesUtf8 P) (h : IsRecord P valueBytes entries)
    (hdrained : isDrained (jsonStrOf P valueBytes) = false) : ∀ (part : List (String × Json)) (n : Nat) (s : Phone),
    part ⊆ entries → (∀ e ∈ part, ¬BreaksOff P senderHex senderEndpoint e.2) →
      s.handleEntries P senderHex senderEndpoint xs n (part.map Prod.snd) =
        receiveEach P senderHex senderEndpoint xs n s part
  | [], n, s, hpart, hbreaks => rfl
  | (t, entry) :: rest, n, s, hpart, hbreaks => by
    obtain ⟨hmem, hrest⟩ := List.cons_subset.1 hpart
    obtain ⟨hentry, hlater⟩ := List.forall_mem_cons.1 hbreaks
    obtain ⟨fields, s', hobject, hs'⟩ := handled_of_not_breaksOff hentry s (xs n)
    change entry = .object fields at hobject
    subst hobject
    have halone : isDrained (aloneText t) = false := by
      cases hcase : isDrained (aloneText t) with
      | false => rfl
      | true => rw [isDrained_of_alone h hmem hcase] at hdrained; cases hdrained
    have hreceived : s.processStorePayload P (utf8 (aloneText t)) senderHex senderEndpoint (fun _ => xs n) = s' := by
      unfold processStorePayload
      rw [entriesOf_alone hutf h hmem, halone]
      simp only [Bool.false_eq_true, if_false, handleEntries, hs']
    rw [List.map_cons, receiveEach, hreceived]
    simp only [handleEntries, hs']
    exact handleEntries_eq_receiveEach hutf h hdrained rest (n + 1) s' hrest hlater

/-- A record of entries that do not throw and do not look drained is its entries alone, one after another. -/
theorem processStorePayload_eq_receiveEach (hutf : DecodesUtf8 P) (h : IsRecord P valueBytes entries)
    (hdrained : isDrained (jsonStrOf P valueBytes) = false)
    (hbreaks : ∀ e ∈ entries, ¬BreaksOff P senderHex senderEndpoint e.2) (s : Phone) :
    s.processStorePayload P valueBytes senderHex senderEndpoint xs =
      receiveEach P senderHex senderEndpoint xs 0 s entries := by
  unfold processStorePayload
  rw [entriesOf_eq h, if_neg (by simp [hdrained])]
  exact handleEntries_eq_receiveEach hutf h hdrained entries 0 s (List.Subset.refl _) hbreaks

/-- An entry that comes alone is handled unless it looks drained. -/
theorem recordCalls_alone (hutf : DecodesUtf8 P) (h : IsRecord P valueBytes entries)
    (hmem : (t, .object fields) ∈ entries) (s : Phone) (x : Surroundings) :
    (s.recordCalls P senderHex senderEndpoint (utf8 (aloneText t)) fun _ => x)[0]? =
      if isDrained (aloneText t) then none else some (s, .object fields) := by
  unfold recordCalls
  rw [entriesOf_alone hutf h hmem]
  split
  · rfl
  · rfl

theorem isObject_of_openedBy {env : Json} {clock : Clock} {m : String × Json}
    (h : openedBy P env senderHex senderEndpoint clock = .ok (some m)) : ∃ fields, env = .object fields := by
  cases env with
  | object fields => exact ⟨fields, rfl⟩
  | _ => cases h

/-- The entries of a record are independent exactly if no valid one is behind an entry that throws or in a record that
another one makes look drained. -/
theorem entriesIndependent_iff (hutf : DecodesUtf8 P) (h : IsRecord P valueBytes entries) (s : Phone)
    (xs : Nat → Surroundings) :
    s.EntriesIndependent P senderHex senderEndpoint valueBytes entries xs ↔
      ∀ i t env, entries[i]? = some (t, env) →
        (∃ m, openedBy P env senderHex senderEndpoint (xs i).clock = .ok (some m)) →
          isDrained (aloneText t) = true ∨
            isDrained (jsonStrOf P valueBytes) = false ∧
              ∀ e ∈ entries.take i, ¬BreaksOff P senderHex senderEndpoint e.2 := by
  have hcalls : s.recordCalls P senderHex senderEndpoint valueBytes xs =
      if isDrained (jsonStrOf P valueBytes) then []
      else s.entryCalls P senderHex senderEndpoint xs 0 (entries.map Prod.snd) := by
    unfold recordCalls
    rw [entriesOf_eq h]
    split
    · rfl
    · rfl
  constructor
  · intro hindependent i t env hi hopened
    obtain ⟨fields, rfl⟩ := isObject_of_openedBy hopened.choose_spec
    have hsame := hindependent i t _ hi hopened
    rw [recordCalls_alone hutf h (List.mem_of_getElem? hi), hcalls] at hsame
    by_cases halone : isDrained (aloneText t) = true
    · exact .inl halone
    · rw [if_neg halone] at hsame
      by_cases hdrained : isDrained (jsonStrOf P valueBytes) = true
      · rw [if_pos hdrained] at hsame
        cases hsame
      · rw [if_neg hdrained] at hsame
        refine .inr ⟨by simpa using hdrained, ?_⟩
        have hbefore := not_breaksOff_of_entryCalls _ s 0 i hsame
        rw [← List.map_take, List.forall_mem_map] at hbefore
        exact hbefore
  · intro hcondition i t env hi hopened
    obtain ⟨fields, rfl⟩ := isObject_of_openedBy hopened.choose_spec
    have hmem := List.mem_of_getElem? hi
    rw [recordCalls_alone hutf h hmem, hcalls]
    rcases hcondition i t _ hi hopened with halone | ⟨hdrained, hbefore⟩
    · rw [if_pos halone, if_pos (isDrained_of_alone h hmem halone)]
      rfl
    · have halone : ¬isDrained (aloneText t) = true := by
        intro hcase
        rw [isDrained_of_alone h hmem hcase] at hdrained
        cases hdrained
      have hobject : (entries.map Prod.snd)[i]? = some (.object fields) := by simp [hi]
      have hmapped : ∀ e ∈ (entries.map Prod.snd).take i, ¬BreaksOff P senderHex senderEndpoint e := by
        rw [← List.map_take, List.forall_mem_map]
        exact hbefore
      rw [if_neg halone, if_neg (by simp [hdrained]), entryCalls_getElem? _ s 0 i hobject hmapped, ← List.map_take,
        handleEntries_eq_receiveEach hutf h hdrained _ 0 s (List.take_subset i entries) hbefore]

end Phone

/-! ## A number before an envelope -/

namespace BobsPhone

open NodeX.Sample Messenger.Sample

/-- A number in front of an entry. -/
def spoiledText (t : String) : String := aloneText ("0," ++ t)

def spoiled (t : String) (env : Json) : List (String × Json) := [("0", .nat 0), (t, env)]

def parseSpoiled (t : String) (env : Json) (text : String) : Option (List Json) :=
  if text = spoiledText t then some [.nat 0, env] else if text = aloneText t then some [env] else none

theorem isRecord_spoiled (t : String) (env : Json) :
    IsRecord (account (parseSpoiled t env)) (utf8 (spoiledText t)) (spoiled t env) := by
  have hjson : jsonStrOf (account (parseSpoiled t env)) (utf8 (spoiledText t)) = spoiledText t := by
    unfold jsonStrOf
    rw [decodeText_utf8]
    exact kotlinTrim_aloneText _
  have hmem : ∀ {t' : String} {fields : List (String × Json)}, (t', .object fields) ∈ spoiled t env →
      t' = t ∧ .object fields = env := by
    intro t' fields hmem
    unfold spoiled at hmem
    rw [List.mem_cons, List.mem_singleton, Prod.mk.injEq, Prod.mk.injEq] at hmem
    rcases hmem with ⟨-, hobject⟩ | hmem
    · cases hobject
    · exact hmem
  refine ⟨?_, ?_, ?_, ?_⟩
  · rw [hjson]
    simp [startsWith, spoiledText, aloneText]
  · rw [hjson]
    exact if_pos rfl
  · intro t' fields h
    obtain ⟨rfl, -⟩ := hmem h
    rw [hjson]
    exact ⟨['[', '0', ','], [']'], by simp [spoiledText, aloneText]⟩
  · intro t' fields h
    obtain ⟨rfl, rfl⟩ := hmem h
    have hne : aloneText t' ≠ spoiledText t' := by
      intro heq
      have hlengths := congrArg (fun text => text.toList.length) heq
      simp [spoiledText, aloneText] at hlengths
    exact (if_neg hne).trans (if_pos rfl)

/-- No entry behind the number is handled. -/
theorem not_entriesIndependent_spoiled {t : String} {env : Json} (hdrained : isDrained (aloneText t) = false)
    {x : Surroundings} (hopened : ∃ m, openedBy (account (parseSpoiled t env)) env "" "" x.clock = .ok (some m))
    (s : Phone) :
    ¬s.EntriesIndependent (account (parseSpoiled t env)) "" "" (utf8 (spoiledText t)) (spoiled t env) fun _ => x := by
  intro hindependent
  obtain ⟨fields, rfl⟩ := isObject_of_openedBy hopened.choose_spec
  have hsame := hindependent 1 t (.object fields) rfl hopened
  have hmem : (t, .object fields) ∈ spoiled t (.object fields) := List.mem_cons_of_mem _ List.mem_cons_self
  have hnone :
      s.recordCalls (account (parseSpoiled t (.object fields))) "" "" (utf8 (spoiledText t)) (fun _ => x) = [] := by
    unfold recordCalls
    rw [entriesOf_eq (isRecord_spoiled t (.object fields))]
    split
    · rfl
    · rfl
  rw [hnone, recordCalls_alone (decodeText_utf8 _) (isRecord_spoiled t (.object fields)) hmem, hdrained] at hsame
  cases hsame

def envelope : EncryptedEnvelope := fromAlice [123, 125]

/-- An ASCII text. -/
def charsOf (bs : Bytes) : List Char := bs.map fun b => Char.ofNat b.toNat

def envelopeChars : List Char :=
  charsOf (jsonObject [("version", utf8 "3"), ("sender_id", jsonBytes envelope.senderId.bytes),
    ("sender_ed25519_pub", jsonBytes envelope.senderEd25519Pub),
    ("sender_x25519_pub", jsonBytes envelope.senderX25519Pub),
    ("ephemeral_x25519_pub", jsonBytes (envelope.ephemeralX25519Pub.getD [])),
    ("recipient_id", jsonBytes envelope.recipientId.bytes), ("nonce", jsonBytes envelope.nonce),
    ("ciphertext", jsonBytes envelope.ciphertext), ("signature", jsonBytes envelope.signature),
    ("timestamp", utf8 "100")])

/-- Alice's envelope to Bob, as it is written. -/
def fromAliceText : String := String.ofList envelopeChars

theorem arrival_lt : 1 < 2 ^ 40 := by decide

def arrival : Surroundings := { clock := clockAfter 1 arrival_lt }

theorem isDrained_fromAlice : isDrained (aloneText fromAliceText) = false := by
  have hlist : (aloneText fromAliceText).toList = '[' :: (envelopeChars ++ [']']) := by
    simp [aloneText, fromAliceText]
  unfold isDrained containsText
  rw [hlist]
  decide +kernel

theorem openedBy_fromAlice :
    ∃ m, openedBy (account (parseSpoiled fromAliceText envelope.toJson)) envelope.toJson "" "" arrival.clock =
      .ok (some m) := by
  have hopened : (openedBy (account (parseSpoiled fromAliceText envelope.toJson)) envelope.toJson "" ""
      arrival.clock).toOption.join.isSome := by decide +kernel
  cases hcase : openedBy (account (parseSpoiled fromAliceText envelope.toJson)) envelope.toJson "" ""
      arrival.clock with
  | error e =>
    rw [hcase] at hopened
    cases hopened
  | ok opened =>
    cases opened with
    | none =>
      rw [hcase] at hopened
      cases hopened
    | some m => exact ⟨m, rfl⟩

end BobsPhone

open BobsPhone in
/-- A number in front of Alice's envelope keeps it from Bob. -/
theorem Phone.entriesIndependent_spoiled :
    DecodesUtf8 (account (parseSpoiled fromAliceText envelope.toJson)) ∧
      IsRecord (account (parseSpoiled fromAliceText envelope.toJson)) (utf8 (spoiledText fromAliceText))
        (spoiled fromAliceText envelope.toJson) ∧
      ¬({} : Phone).EntriesIndependent (account (parseSpoiled fromAliceText envelope.toJson)) "" ""
        (utf8 (spoiledText fromAliceText)) (spoiled fromAliceText envelope.toJson) fun _ => arrival :=
  ⟨decodeText_utf8 _, isRecord_spoiled _ _,
    not_entriesIndependent_spoiled isDrained_fromAlice openedBy_fromAlice {}⟩

open BobsPhone in
theorem Phone.entriesIndependent_iff_spoiled :
    ({} : Phone).EntriesIndependent (account (parseSpoiled fromAliceText envelope.toJson)) "" ""
        (utf8 (spoiledText fromAliceText)) (spoiled fromAliceText envelope.toJson) (fun _ => arrival) ↔
      ∀ i t env, (spoiled fromAliceText envelope.toJson)[i]? = some (t, env) →
        (∃ m, openedBy (account (parseSpoiled fromAliceText envelope.toJson)) env "" "" arrival.clock = .ok (some m)) →
          isDrained (aloneText t) = true ∨
            isDrained (jsonStrOf (account (parseSpoiled fromAliceText envelope.toJson))
              (utf8 (spoiledText fromAliceText))) = false ∧
              ∀ e ∈ (spoiled fromAliceText envelope.toJson).take i,
                ¬BreaksOff (account (parseSpoiled fromAliceText envelope.toJson)) "" "" e.2 :=
  entriesIndependent_iff (decodeText_utf8 _) (isRecord_spoiled _ _) {} fun _ => arrival

end NodeX.Android
