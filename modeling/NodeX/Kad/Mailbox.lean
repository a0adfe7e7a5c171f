/-
A record as a mailbox: a list of entries that takes new ones at its end, each once, and drops the oldest until the
rest fits the two caps. `merge_store_value` computes this for arrays; any other value it lets replace the record.
-/
import NodeX.Kad.Node
import NodeX.Lib.Suffix
import NodeX.Lib.Codec
import NodeX.Lib.Runs

namespace NodeX.Kad

open NodeX.Lib

/-- What `serde_json` documents of arrays: what is written reads back, and is written without spaces. -/
structure ValueJson.Faithful (J : ValueJson) : Prop where
  parseValues_printValues : ∀ vs, J.parseValues (J.printValues vs) = some vs
  printValues_eq : ∀ vs, J.printValues vs = 91 :: (Codec.joinCommas (vs.map J.printValue) ++ [93])

variable (J : ValueJson)

/-! ## Mailboxes -/

/-- The array is within both caps. -/
def Fits (vs : List J.Value) : Prop :=
  vs.length ≤ maxMailboxEnvelopes ∧ (J.printValues vs).length ≤ maxMailboxValueBytes

instance : DecidablePred (Fits J) := fun _ => inferInstanceAs (Decidable (_ ∧ _))

/-- An envelope that passes the check on its own size. -/
def isSmall (v : J.Value) : Bool := (J.printValue v).length ≤ maxMailboxValueBytes

/-- The entries of a mailbox once others came. -/
def mergeEntries (entries new : List J.Value) : List J.Value :=
  longestSuffix (Fits J) (entries ++ unseen entries new)

variable {J}

namespace ValueJson.Faithful

variable (hJ : J.Faithful)

include hJ

theorem printValues_nil : J.printValues [] = [91, 93] := hJ.printValues_eq []

theorem printValues_eq_iff {vs ws : List J.Value} : J.printValues vs = J.printValues ws ↔ vs = ws := by
  constructor
  · intro h
    have hread := hJ.parseValues_printValues vs
    rw [h, hJ.parseValues_printValues ws] at hread
    exact (Option.some.inj hread).symm
  · rintro rfl
    rfl

theorem length_printValues_singleton (v : J.Value) : (J.printValues [v]).length = (J.printValue v).length + 2 := by
  rw [hJ.printValues_eq]
  simp [Codec.joinCommas]

theorem length_printValues_cons (v w : J.Value) (vs : List J.Value) :
    (J.printValues (v :: w :: vs)).length = (J.printValue v).length + 1 + (J.printValues (w :: vs)).length := by
  rw [hJ.printValues_eq, hJ.printValues_eq]
  simp only [List.map_cons, Codec.joinCommas, List.length_cons, List.length_append, List.length_nil]
  omega

theorem length_printValues_le_cons (v : J.Value) : ∀ vs : List J.Value,
    (J.printValues vs).length ≤ (J.printValues (v :: vs)).length
  | [] => by
    rw [hJ.printValues_nil, hJ.length_printValues_singleton]
    simp
  | w :: vs => by
    rw [hJ.length_printValues_cons]
    omega

theorem length_printValue_of_mem {v : J.Value} : ∀ {vs : List J.Value}, v ∈ vs →
    (J.printValue v).length ≤ (J.printValues vs).length
  | [], h => by cases h
  | w :: vs, h => by
    rcases List.mem_cons.1 h with rfl | h
    · cases vs with
      | nil =>
        rw [hJ.length_printValues_singleton]
        omega
      | cons w vs =>
        rw [hJ.length_printValues_cons]
        omega
    · exact (length_printValue_of_mem h).trans (hJ.length_printValues_le_cons w vs)

theorem length_printValues_of_sublist {us vs : List J.Value} (h : List.Sublist us vs) :
    (J.printValues us).length ≤ (J.printValues vs).length := by
  induction h with
  | slnil => exact le_rfl
  | cons v _ ih => exact ih.trans (hJ.length_printValues_le_cons v _)
  | @cons_cons us vs v hsub ih =>
    cases us with
    | nil =>
      cases vs with
      | nil => exact le_rfl
      | cons w vs =>
        rw [hJ.length_printValues_cons, hJ.length_printValues_singleton]
        rw [hJ.printValues_nil] at ih
        simp only [List.length_cons, List.length_nil] at ih
        omega
    | cons u us =>
      cases vs with
      | nil => cases hsub
      | cons w vs =>
        rw [hJ.length_printValues_cons, hJ.length_printValues_cons]
        omega

theorem fits_nil : Fits J [] := by
  refine ⟨Nat.zero_le _, ?_⟩
  rw [hJ.printValues_nil]
  decide

theorem fits_of_sublist {us vs : List J.Value} (h : Fits J vs) (hsub : List.Sublist us vs) : Fits J us :=
  ⟨hsub.length_le.trans h.1, (hJ.length_printValues_of_sublist hsub).trans h.2⟩

theorem suffixClosed_fits : SuffixClosed (Fits J) := fun v vs h => hJ.fits_of_sublist h (List.sublist_cons_self v vs)

/-- Every entry of an array within the caps is small. -/
theorem isSmall_of_fits {vs : List J.Value} (h : Fits J vs) {v : J.Value} (hv : v ∈ vs) : isSmall J v = true :=
  decide_eq_true ((hJ.length_printValue_of_mem hv).trans h.2)

theorem fits_mergeEntries (entries new : List J.Value) : Fits J (mergeEntries J entries new) :=
  prop_longestSuffix hJ.fits_nil _

/-- An entry is in the merged mailbox if all from it on fits. -/
theorem mem_mergeEntries {entries new : List J.Value} {v : J.Value} :
    v ∈ mergeEntries J entries new ↔ ∃ q, v :: q <:+ entries ++ unseen entries new ∧ Fits J (v :: q) :=
  hJ.suffixClosed_fits.mem_longestSuffix_iff hJ.fits_nil

end ValueJson.Faithful

theorem mergeEntries_suffix (entries new : List J.Value) :
    mergeEntries J entries new <:+ entries ++ unseen entries new := longestSuffix_suffix _

theorem nodup_mergeEntries {entries : List J.Value} (h : entries.Nodup) (new : List J.Value) :
    (mergeEntries J entries new).Nodup := (mergeEntries_suffix entries new).sublist.nodup (nodup_append_unseen h)

/-! ## What `merge_store_value` computes -/

theorem appendNew_eq : ∀ (new entries : List J.Value), appendNew J entries new =
    (entries ++ unseen entries (new.filter (isSmall J)), !new.all (isSmall J))
  | [], entries => by simp [appendNew]
  | v :: new, entries => by
    unfold appendNew
    by_cases hv : isSmall J v = true
    · rw [if_neg (by simpa [isSmall] using hv), List.filter_cons_of_pos hv, List.all_cons, hv, Bool.true_and]
      by_cases hmem : v ∈ entries
      · rw [if_pos hmem, unseen_cons_of_mem hmem, appendNew_eq new entries]
      · rw [if_neg hmem, unseen_cons_of_not_mem hmem, appendNew_eq new (entries ++ [v]), List.append_assoc,
          List.singleton_append]
    · rw [if_pos (by simpa [isSmall] using hv), List.filter_cons_of_neg hv, appendNew_eq new entries]
      simp [hv]

theorem prune_eq (vs : List J.Value) :
    (prune J vs).1 = longestSuffix (fun ws => (J.printValues ws).length ≤ maxMailboxValueBytes) vs := by
  induction vs with
  | nil => rfl
  | cons v vs ih =>
    unfold prune longestSuffix
    by_cases h : (J.printValues (v :: vs)).length ≤ maxMailboxValueBytes
    · rw [if_neg (by omega), if_pos h]
    · rw [if_pos (by omega), if_neg h, ih]

/-- Dropping by the count and then by the size is dropping by both. -/
theorem capArray_eq (vs : List J.Value) : (capArray J vs).1 = longestSuffix (Fits J) vs := by
  unfold capArray
  rw [prune_eq, longestSuffix_drop (P := Fits J) fun ws h => h.1]
  -- of what is left, no suffix is too long
  have hlen : (vs.drop (vs.length - maxMailboxEnvelopes)).length ≤ maxMailboxEnvelopes := by
    rw [List.length_drop]
    omega
  generalize vs.drop (vs.length - maxMailboxEnvelopes) = ws at hlen
  induction ws with
  | nil => rfl
  | cons w ws ih =>
    have hws : ws.length ≤ maxMailboxEnvelopes := (Nat.le_succ _).trans hlen
    unfold longestSuffix
    by_cases h : (J.printValues (w :: ws)).length ≤ maxMailboxValueBytes
    · rw [if_pos h, if_pos ⟨hlen, h⟩]
    · rw [if_neg h, if_neg fun hfits => h hfits.2, ih hws]

/-- An array is merged, and accepted if every entry is small. -/
theorem mergeStoreValue_of_array (hJ : J.Faithful) (existing : Option Bytes) {incoming : Bytes} {new : List J.Value}
    (hnew : J.parseValues incoming = some new) :
    (mergeStoreValue J existing incoming).1 =
        J.printValues (mergeEntries J (elementsOf J existing) (new.filter (isSmall J))) ∧
      (mergeStoreValue J existing incoming).2.1 = new.all (isSmall J) := by
  have hkept : (capArray J (appendNew J (elementsOf J existing) new).1).1 =
      mergeEntries J (elementsOf J existing) (new.filter (isSmall J)) := by
    rw [capArray_eq, appendNew_eq]
    rfl
  unfold mergeStoreValue
  simp only [hnew, hkept]
  have hfits := (hJ.fits_mergeEntries (elementsOf J existing) (new.filter (isSmall J))).2
  rw [if_neg (by omega)]
  refine ⟨rfl, ?_⟩
  rw [appendNew_eq]
  exact Bool.not_not _

theorem mergeStoreValue_of_other {existing : Option Bytes} {incoming : Bytes} (hnew : J.parseValues incoming = none) :
    mergeStoreValue J existing incoming =
      if incoming.length ≤ maxValueSize then (incoming, true, 0) else (existing.getD [], false, 0) := by
  unfold mergeStoreValue
  simp only [hnew]
  by_cases h : incoming.length ≤ maxValueSize
  · rw [if_neg (by omega), if_pos h]
  · rw [if_pos (by omega), if_neg h]

theorem elementsOf_printValues (hJ : J.Faithful) (vs : List J.Value) : elementsOf J (some (J.printValues vs)) = vs := by
  unfold elementsOf
  rw [Option.bind_some, hJ.parseValues_printValues, Option.getD_some]

/-! ## JSON of texts, to evaluate runs with -/

namespace Sample

/-- The text of so many letters a, quoted. -/
def textCodec : Codec Nat where
  print n := 34 :: (List.replicate n 97 ++ [34])
  parse
    | 34 :: s =>
      match s.dropWhile (· == 97) with
      | 34 :: rest => some ((s.takeWhile (· == 97)).length, rest)
      | _ => none
    | _ => none
  parse_print n rest _ := by
    have htext : 34 :: (List.replicate n 97 ++ [34]) ++ rest = 34 :: (List.replicate n 97 ++ 34 :: rest) := by simp
    have hdrop : (List.replicate n (97 : UInt8) ++ 34 :: rest).dropWhile (· == 97) = 34 :: rest := by
      rw [List.dropWhile_append_of_pos fun b hb => by simp [List.eq_of_mem_replicate hb]]
      rfl
    have htake : (List.replicate n (97 : UInt8) ++ 34 :: rest).takeWhile (· == 97) = List.replicate n 97 := by
      rw [List.takeWhile_append_of_pos fun b hb => by simp [List.eq_of_mem_replicate hb]]
      exact List.append_nil _
    rw [htext]
    simp only [hdrop, htake, List.length_replicate]

def textsCodec : Codec (List Nat) := Codec.list textCodec fun n rest h => by cases h

/-- JSON whose values are texts, known by their lengths. -/
abbrev textJson : ValueJson where
  Value := Nat
  parseValues := textsCodec.parseAll
  printValue := textCodec.print
  printValues := textsCodec.print

theorem textJson_faithful : textJson.Faithful where
  parseValues_printValues := textsCodec.parseAll_print
  printValues_eq _ := rfl

theorem length_printValue_textJson (n : Nat) : (textJson.printValue n).length = n + 2 := by
  change (34 :: (List.replicate n 97 ++ [34])).length = n + 2
  rw [List.length_cons, List.length_append, List.length_replicate]
  rfl

def mailboxKey : NodeId := ⟨List.replicate 20 1, List.length_replicate⟩

/-- A storage with one array of texts. -/
def holding (texts : List Nat) (now : Nat) : Storage :=
  Storage.put {} mailboxKey (textJson.printValues texts) defaultTtl now

end Sample

/-! ## A STORE on a mailbox -/

section Store

variable {st : Storage} {key : NodeId} {value : Bytes} {now : Nat} {new : List J.Value}

theorem handleStore_snd : (handleStore J st key value now).2 = (mergeStoreValue J (st.get key now) value).2.1 := rfl

/-- What was just stored is live. -/
theorem get_handleStore (hok : (handleStore J st key value now).2 = true) :
    (handleStore J st key value now).1.get key now = some (mergeStoreValue J (st.get key now) value).1 := by
  refine Storage.get_of_fresh (record?_handleStore hok) ?_
  simp [Record.isExpired, Record.new]

theorem filter_isSmall (h : new.all (isSmall J) = true) : new.filter (isSmall J) = new :=
  List.filter_eq_self.2 (List.all_eq_true.1 h)

/-- What the handler does with an array. -/
theorem handleStore_of_array (hJ : J.Faithful) (st : Storage) (key : NodeId) (now : Nat)
    (hnew : J.parseValues value = some new) :
    handleStore J st key value now =
      if new.all (isSmall J) then
        (st.put key (J.printValues (mergeEntries J (elementsOf J (st.get key now)) new)) defaultTtl now, true)
      else (st, false) := by
  obtain ⟨hmerged, hall⟩ := mergeStoreValue_of_array hJ (st.get key now) hnew
  unfold handleStore
  simp only [hall]
  split
  · rename_i h
    rw [hmerged, filter_isSmall h, h]
  · rename_i h
    rw [Bool.eq_false_of_not_eq_true h]

/-- The live entries after an array was accepted. -/
theorem elementsOf_handleStore (hJ : J.Faithful) (hnew : J.parseValues value = some new)
    (hok : (handleStore J st key value now).2 = true) :
    elementsOf J ((handleStore J st key value now).1.get key now) =
      mergeEntries J (elementsOf J (st.get key now)) new := by
  obtain ⟨hmerged, hall⟩ := mergeStoreValue_of_array hJ (st.get key now) hnew
  rw [handleStore_snd, hall] at hok
  rw [get_handleStore (hall.trans hok), hmerged, elementsOf_printValues hJ, filter_isSmall hok]

end Store

/-- The record after a STORE. -/
def storedAfter (J : ValueJson) (existing : Option Bytes) (incoming : Bytes) : Option Bytes :=
  match mergeStoreValue J existing incoming with
  | (merged, true, _) => some merged
  | (_, false, _) => existing

theorem storedAfter_eq {existing : Option Bytes} {incoming : Bytes} : storedAfter J existing incoming =
    if (mergeStoreValue J existing incoming).2.1 then some (mergeStoreValue J existing incoming).1 else existing := by
  unfold storedAfter
  split
  · rename_i heq
    rw [heq]
    rfl
  · rename_i heq
    rw [heq]
    rfl

/-- The loop on the count: the oldest go one by one, and are counted. -/
def removeExcess : List J.Value → List J.Value × Nat
  | [] => ([], 0)
  | e :: rest =>
    if (e :: rest).length > maxMailboxEnvelopes then ((removeExcess rest).1, (removeExcess rest).2 + 1)
    else (e :: rest, 0)

/-- `bounded_mailbox_merge` of the deployed node. -/
def boundedMailboxMerge (J : ValueJson) (existing : Option Bytes) (incoming : Bytes) : Bytes × Bool × Nat :=
  match J.parseValues incoming with
  | none => if incoming.length ≤ maxValueSize then (incoming, true, 0) else (existing.getD [], false, 0)
  | some newEnvelopes =>
    let (envelopes, rejected) := appendNew J (elementsOf J existing) newEnvelopes
    let (counted, excess) := removeExcess envelopes
    let (kept, pruned) := prune J counted
    let encoded := J.printValues kept
    if encoded.length > maxMailboxValueBytes then (existing.getD [], false, excess + pruned)
    else (encoded, !rejected, excess + pruned)

theorem removeExcess_eq (envelopes : List J.Value) :
    removeExcess envelopes = (envelopes.drop (envelopes.length - maxMailboxEnvelopes),
      envelopes.length - maxMailboxEnvelopes) := by
  induction envelopes with
  | nil => rfl
  | cons e rest ih =>
    unfold removeExcess
    by_cases h : (e :: rest).length > maxMailboxEnvelopes
    · have hsub : (e :: rest).length - maxMailboxEnvelopes = rest.length - maxMailboxEnvelopes + 1 := by
        rw [List.length_cons] at h ⊢
        omega
      rw [if_pos h, ih, hsub, List.drop_succ_cons]
    · rw [if_neg h, Nat.sub_eq_zero_of_le (by omega), List.drop_zero]

/-- Both nodes store the same bytes and give the same answer; the bootstrap node counts what goes by the count among
the pruned, too. -/
theorem boundedMailboxMerge_eq (J : ValueJson) (existing : Option Bytes) (incoming : Bytes) :
    (boundedMailboxMerge J existing incoming).1 = (mergeStoreValue J existing incoming).1 ∧
      (boundedMailboxMerge J existing incoming).2.1 = (mergeStoreValue J existing incoming).2.1 := by
  cases hnew : J.parseValues incoming with
  | none =>
    rw [mergeStoreValue_of_other hnew]
    unfold boundedMailboxMerge
    rw [hnew]
    exact ⟨rfl, rfl⟩
  | some new =>
    unfold boundedMailboxMerge mergeStoreValue capArray
    simp only [hnew, removeExcess_eq]
    split <;> exact ⟨rfl, rfl⟩

/-! ## Runs of STOREs under one key -/

structure StoreRequest where
  value : Bytes
  now : Nat
deriving DecidableEq

/-- The storage, and what came into the record so far: each entry where it first came, and again where it came back
after it had gone. -/
structure MailboxLog (J : ValueJson) where
  storage : Storage
  arrived : List J.Value

namespace MailboxLog

variable (key : NodeId)

/-- The entries of the record. -/
def entries (s : MailboxLog J) : List J.Value := elementsOf J ((s.storage.record? key).map Record.value)

/-- The entries a STORE finds: those of the record, unless that is expired. -/
def live (s : MailboxLog J) (now : Nat) : List J.Value := elementsOf J (s.storage.get key now)

/-- The entries of the request that are not there yet. -/
def coming (s : MailboxLog J) (a : StoreRequest) : List J.Value :=
  unseen (s.live key a.now) ((J.parseValues a.value).getD [])

def step (s : MailboxLog J) (a : StoreRequest) : MailboxLog J :=
  match handleStore J s.storage key a.value a.now with
  | (storage, true) => { storage, arrived := s.arrived ++ s.coming key a }
  | (storage, false) => { s with storage }

/-- The record is an array within both caps, without repeated entries, in the order they came. -/
structure WellFormed (s : MailboxLog J) : Prop where
  array : ∃ r, s.storage.record? key = some r ∧ (J.parseValues r.value).isSome ∧ r.value.length ≤ maxMailboxValueBytes
  count : (s.entries key).length ≤ maxMailboxEnvelopes
  nodup : (s.entries key).Nodup
  order : s.entries key <:+ s.arrived

/-- What a STORE should do to the record: keep it well formed, drop entries as the oldest while a cap is exceeded only,
and change nothing when it is rejected. -/
structure LosesOldest (s : MailboxLog J) (a : StoreRequest) : Prop where
  wellFormed : (s.step key a).WellFormed key
  oldest : ∀ e ∈ s.live key a.now, e ∉ (s.step key a).entries key →
    ∃ q, e :: q <:+ s.live key a.now ++ s.coming key a ∧ (s.step key a).entries key <:+ q ∧ ¬Fits J (e :: q)
  rejected : (handleStore J s.storage key a.value a.now).2 = false → (s.step key a).storage = s.storage

variable {key} {s : MailboxLog J} {a : StoreRequest} {now : Nat}

theorem entries_of_record {r : Record} (h : s.storage.record? key = some r) :
    s.entries key = elementsOf J (some r.value) := by
  unfold entries
  rw [h]
  rfl

/-- What a STORE finds is the record or nothing. -/
theorem live_eq (s : MailboxLog J) (key : NodeId) (now : Nat) :
    s.live key now = s.entries key ∨ s.live key now = [] := by
  unfold live
  cases hget : s.storage.get key now with
  | none => exact .inr rfl
  | some value =>
    obtain ⟨r, hr, -, rfl⟩ := Storage.get_eq_some.1 hget
    exact .inl (entries_of_record hr).symm

theorem step_rejected (h : (handleStore J s.storage key a.value a.now).2 = false) : s.step key a = s := by
  have hsame := handleStore_rejected h
  unfold step
  split
  · rename_i heq
    rw [heq] at h
    cases h
  · rename_i storage heq
    rw [heq] at hsame
    simp only at hsame
    rw [hsame]

theorem step_accepted (h : (handleStore J s.storage key a.value a.now).2 = true) :
    s.step key a = ⟨(handleStore J s.storage key a.value a.now).1, s.arrived ++ s.coming key a⟩ := by
  unfold step
  split
  · rename_i heq
    rw [heq]
  · rename_i heq
    rw [heq] at h
    cases h

theorem LosesOldest.of_rejected (hs : s.WellFormed key) (h : (handleStore J s.storage key a.value a.now).2 = false) :
    s.LosesOldest key a := by
  have hsame := step_rejected h
  refine ⟨by rwa [hsame], fun e he hgone => ?_, fun _ => by rw [hsame]⟩
  rw [hsame] at hgone
  rcases s.live_eq key a.now with hlive | hlive
  · exact absurd (hlive ▸ he) hgone
  · rw [hlive] at he
    cases he

theorem LosesOldest.of_array (hJ : J.Faithful) (hs : s.WellFormed key) {new : List J.Value}
    (hnew : J.parseValues a.value = some new) (h : (handleStore J s.storage key a.value a.now).2 = true) :
    s.LosesOldest key a := by
  obtain ⟨hmerged, hall⟩ := mergeStoreValue_of_array hJ (s.storage.get key a.now) hnew
  have hsmall : new.all (isSmall J) = true := hall.symm.trans h
  have hrec := record?_handleStore h
  rw [hmerged, filter_isSmall hsmall] at hrec
  -- the record is what is left of the live entries and the new ones
  have hcoming : s.coming key a = unseen (s.live key a.now) new := by
    unfold coming
    rw [hnew, Option.getD_some]
  have hentries : (s.step key a).entries key = mergeEntries J (s.live key a.now) new := by
    rw [step_accepted h, entries_of_record hrec]
    exact elementsOf_printValues hJ _
  have hfits := hJ.fits_mergeEntries (s.live key a.now) new
  have hlive : (s.live key a.now).Nodup ∧ s.live key a.now <:+ s.arrived := by
    rcases s.live_eq key a.now with hlive | hlive <;> rw [hlive]
    · exact ⟨hs.nodup, hs.order⟩
    · exact ⟨List.nodup_nil, List.nil_suffix⟩
  refine ⟨⟨?_, ?_, ?_, ?_⟩, ?_, fun hrej => ?_⟩
  · rw [step_accepted h]
    exact ⟨_, hrec, Option.isSome_of_eq_some (hJ.parseValues_printValues _), hfits.2⟩
  · rw [hentries]
    exact hfits.1
  · rw [hentries]
    exact nodup_mergeEntries hlive.1 new
  · rw [hentries, step_accepted h, hcoming]
    exact (mergeEntries_suffix _ _).trans (List.suffix_append_self_iff.2 hlive.2)
  · intro e he hgone
    rw [hentries] at hgone ⊢
    rw [hcoming]
    exact exists_of_dropped (List.mem_append_left _ he) hgone
  · rw [h] at hrej
    cases hrej

/-- A STORE does what it should exactly if it brings an array, or something too large. -/
theorem losesOldest_iff (hJ : J.Faithful) (hs : s.WellFormed key) :
    s.LosesOldest key a ↔ (J.parseValues a.value).isSome ∨ maxValueSize < a.value.length := by
  cases hnew : J.parseValues a.value with
  | some new =>
    refine iff_of_true ?_ (.inl rfl)
    cases h : (handleStore J s.storage key a.value a.now).2 with
    | false => exact .of_rejected hs h
    | true => exact .of_array hJ hs hnew h
  | none =>
    have hok : (handleStore J s.storage key a.value a.now).2 =
        (if a.value.length ≤ maxValueSize then (a.value, true, 0)
          else ((s.storage.get key a.now).getD [], false, 0)).2.1 := by
      rw [handleStore_snd, mergeStoreValue_of_other hnew]
    by_cases hlen : a.value.length ≤ maxValueSize
    · rw [if_pos hlen] at hok
      refine iff_of_false (fun h => ?_) (by simpa using hlen)
      -- the record is the value itself
      have hrec := record?_handleStore hok
      obtain ⟨r, hr, hparse, -⟩ := h.wellFormed.array
      rw [step_accepted hok, hrec, Option.some.injEq] at hr
      rw [← hr, mergeStoreValue_of_other hnew, if_pos hlen] at hparse
      change (J.parseValues a.value).isSome at hparse
      rw [hnew] at hparse
      cases hparse
    · rw [if_neg hlen] at hok
      exact iff_of_true (.of_rejected hs hok) (.inr (by omega))

open Kad.Sample in
theorem wellFormed_holding : WellFormed mailboxKey (⟨holding [1, 2] 0, [1, 2]⟩ : MailboxLog textJson) := by
  refine ⟨⟨Record.new (textJson.printValues [1, 2]) defaultTtl 0, ?_, ?_, ?_⟩, ?_, ?_, ?_⟩ <;> decide

end MailboxLog

end NodeX.Kad
