/-
Values read back: what FIND_VALUE answers for a value that a local put wrote, or a STORE on a key without a record.
The branch runs the stored value through the merge of the mailboxes and keeps the result where that is shorter.
-/
import NodeX.Kad.Mailbox

namespace NodeX.Kad

open NodeX.Lib

structure FindRequest where
  key : NodeId
  now : Nat
deriving DecidableEq

variable (J : ValueJson)

def findStep (st : Storage) (a : FindRequest) : Storage := (handleFindValue J st a.key a.now).1

/-- A request for the key is answered with these bytes and leaves the record as it is. -/
def AnswersExactly (key : NodeId) (value : Bytes) (st : Storage) (a : FindRequest) : Prop :=
  a.key = key → (handleFindValue J st a.key a.now).2 = some value ∧ (findStep J st a).record? key = st.record? key

/-- Any requests that follow, those for the key up to its expiry, are answered with these bytes. -/
def ReadsBack (key : NodeId) (value : Bytes) (expiry : Nat) (st : Storage) : Prop :=
  ∀ as : List FindRequest, (∀ a ∈ as, a.key = key → a.now ≤ expiry) →
    Steps (findStep J) (AnswersExactly J key value) st as

variable {J} {st : Storage} {key : NodeId} {value stored : Bytes} {ttl now : Nat}

/-! ## Requests -/

/-- A request for another key does nothing to the record: what it may write is shorter than what was there. -/
theorem record?_findStep_other (hst : st.Accounted) {a : FindRequest} (hk : a.key ≠ key) :
    (findStep J st a).record? key = st.record? key := by
  unfold findStep
  cases hget : st.get a.key a.now with
  | none => rw [handleFindValue_of_none hget]
  | some v =>
    rw [handleFindValue_of_some hget]
    split
    · rename_i hlen
      obtain ⟨r, hr, -, rfl⟩ := Storage.get_eq_some.1 hget
      exact Storage.record?_put_shrinking hst hr hlen.le defaultTtl a.now hk
    · rfl

theorem accounted_findStep (hst : st.Accounted) (a : FindRequest) : (findStep J st a).Accounted := by
  unfold findStep
  cases hget : st.get a.key a.now with
  | none => rwa [handleFindValue_of_none hget]
  | some v =>
    rw [handleFindValue_of_some hget]
    split
    · exact hst.put a.key _ defaultTtl a.now
    · exact hst

theorem get_of_new (hrec : st.record? key = some (Record.new stored ttl now)) {now' : Nat} (h : now' ≤ now + ttl) :
    st.get key now' = some stored := by
  refine Storage.get_of_fresh hrec (decide_eq_false ?_)
  change ¬ttl < now' - now
  omega

/-- The answer, while the record lasts. -/
theorem handleFindValue_of_new (hrec : st.record? key = some (Record.new stored ttl now)) {now' : Nat}
    (h : now' ≤ now + ttl) (hlen : stored.length ≤ (mergeStoreValue J none stored).1.length) :
    handleFindValue J st key now' = (st, some stored) := by
  rw [handleFindValue_of_some (get_of_new hrec h), if_neg (by omega)]

/-- A record that the merge shortens is another one after the first request. -/
theorem record?_findStep_ne (hst : st.Accounted) (hrec : st.record? key = some (Record.new stored ttl now)) {now' : Nat}
    (h : now' ≤ now + ttl) (hlen : (mergeStoreValue J none stored).1.length < stored.length) :
    (findStep J st ⟨key, now'⟩).record? key ≠ st.record? key := by
  have hstored : stored.length ≤ maxStorageBytes := hst.length_le hrec
  unfold findStep
  rw [handleFindValue_of_some (get_of_new hrec h), if_pos hlen, st.record?_put_self key _ _ (by omega), hrec]
  intro heq
  have hvalue : (mergeStoreValue J none stored).1 = stored := congrArg Record.value (Option.some.inj heq)
  rw [hvalue] at hlen
  omega

/-- A record reads back as a value exactly if it is that value and the merge does not shorten it. -/
theorem readsBack_iff (hst : st.Accounted) (hrec : st.record? key = some (Record.new stored ttl now)) :
    ReadsBack J key value (now + ttl) st ↔
      stored = value ∧ stored.length ≤ (mergeStoreValue J none stored).1.length := by
  constructor
  · intro h
    -- the request at the moment of the write
    have hone : Steps (findStep J) (AnswersExactly J key value) st [⟨key, now⟩] := by
      refine h _ fun a ha _ => ?_
      rw [List.mem_singleton.1 ha]
      exact Nat.le_add_right now ttl
    obtain ⟨hanswer, hsame⟩ := hone.1 rfl
    have hlen : stored.length ≤ (mergeStoreValue J none stored).1.length := by
      by_contra hlen
      exact record?_findStep_ne hst hrec (Nat.le_add_right now ttl) (by omega) hsame
    rw [handleFindValue_of_new hrec (Nat.le_add_right now ttl) hlen] at hanswer
    exact ⟨Option.some.inj hanswer, hlen⟩
  · rintro ⟨rfl, hlen⟩ as has
    have hown : ∀ u : Storage, u.record? key = some (Record.new stored ttl now) → ∀ a : FindRequest, a.key = key →
        (a.key = key → a.now ≤ now + ttl) → handleFindValue J u a.key a.now = (u, some stored) := by
      intro u hu a hk ha
      rw [hk]
      exact handleFindValue_of_new hu (ha hk) hlen
    have hbefore : Steps (findStep J) (fun _ a => a.key = key → a.now ≤ now + ttl) st as := steps_of_mem has
    refine steps_of_invariant (I := fun u => u.Accounted ∧ u.record? key = some (Record.new stored ttl now)) ?_ ?_
      ⟨hst, hrec⟩ hbefore
    · rintro u a ⟨hacc, hu⟩ ha
      refine ⟨accounted_findStep hacc a, ?_⟩
      by_cases hk : a.key = key
      · unfold findStep
        rw [hown u hu a hk ha]
        exact hu
      · rw [record?_findStep_other hacc hk, hu]
    · rintro u a ⟨-, hu⟩ ha hk
      unfold findStep
      rw [hown u hu a hk ha]
      exact ⟨rfl, rfl⟩

/-! ## What is written -/

theorem accounted_handleStore (hst : st.Accounted) (key : NodeId) (value : Bytes) (now : Nat) :
    (handleStore J st key value now).1.Accounted := by
  unfold handleStore
  simp only
  split
  · exact hst.put key _ defaultTtl now
  · exact hst

/-- An array within the caps is read through the merge without its repetitions and its spaces. -/
theorem mergeStoreValue_none_of_fits (hJ : J.Faithful) {vs : List J.Value} (hvs : J.parseValues value = some vs)
    (hfits : Fits J vs) : (mergeStoreValue J none value).1 = J.printValues vs.eraseDups := by
  have hall : vs.filter (isSmall J) = vs := List.filter_eq_self.2 fun v hv => hJ.isSmall_of_fits hfits hv
  rw [(mergeStoreValue_of_array hJ none hvs).1, hall]
  change J.printValues (longestSuffix (Fits J) ([] ++ unseen [] vs)) = _
  rw [List.nil_append, unseen_nil_left, longestSuffix_of_prop (hJ.fits_of_sublist hfits (eraseDups_sublist vs))]

theorem readsBack_put_iff (hJ : J.Faithful) (hst : st.Accounted) (key : NodeId) (ttl now : Nat)
    (hcaps : ∀ vs, J.parseValues value = some vs → Fits J vs) (hsize : value.length ≤ maxStorageBytes) :
    ReadsBack J key value (now + ttl) (st.put key value ttl now) ↔
      (J.parseValues value = none → value.length ≤ maxValueSize) ∧
        ∀ vs, J.parseValues value = some vs → value.length ≤ (J.printValues vs.eraseDups).length := by
  rw [readsBack_iff (hst.put key value ttl now) (st.record?_put_self key ttl now hsize), eq_self, true_and]
  cases hvs : J.parseValues value with
  | none =>
    rw [mergeStoreValue_of_other hvs]
    by_cases hlen : value.length ≤ maxValueSize
    · rw [if_pos hlen]
      exact iff_of_true le_rfl ⟨fun _ => hlen, fun vs h => (by cases h)⟩
    · rw [if_neg hlen]
      refine iff_of_false (fun h => ?_) fun h => hlen (h.1 rfl)
      rw [Option.getD_none, List.length_nil] at h
      omega
  | some vs =>
    rw [mergeStoreValue_none_of_fits hJ hvs (hcaps vs hvs)]
    constructor
    · intro h
      constructor
      · intro hnone
        cases hnone
      · intro ws hws
        rwa [← Option.some.inj hws]
    · rintro ⟨-, h⟩
      exact h vs rfl

theorem readsBack_store_iff (hJ : J.Faithful) (hst : st.Accounted) {key : NodeId} {now : Nat}
    (hcaps : ∀ vs, J.parseValues value = some vs → Fits J vs) (hfree : st.get key now = none)
    (hok : (handleStore J st key value now).2 = true) :
    ReadsBack J key value (now + defaultTtl) (handleStore J st key value now).1 ↔
      ∀ vs, J.parseValues value = some vs → value = J.printValues vs ∧ vs.Nodup := by
  rw [readsBack_iff (accounted_handleStore hst key value now) (record?_handleStore hok), hfree]
  cases hvs : J.parseValues value with
  | none =>
    have hsame : (mergeStoreValue J none value).1 = value := by
      rw [mergeStoreValue_of_other hvs, if_pos (mergeStoreValue_other hvs hok).2]
    rw [hsame, hsame]
    exact iff_of_true ⟨rfl, le_rfl⟩ fun vs h => (by cases h)
  | some vs =>
    have hfits := hcaps vs hvs
    have hparse := hJ.parseValues_printValues vs.eraseDups
    -- what is stored is not shortened again
    have hagain : (mergeStoreValue J none (J.printValues vs.eraseDups)).1 = J.printValues vs.eraseDups := by
      rw [mergeStoreValue_none_of_fits hJ hparse (hJ.fits_of_sublist hfits (eraseDups_sublist vs)),
        eraseDups_of_nodup (nodup_eraseDups vs)]
    rw [mergeStoreValue_none_of_fits hJ hvs hfits, hagain, and_iff_left le_rfl]
    constructor
    · rintro hvalue ws hws
      obtain rfl := Option.some.inj hws
      rw [hvalue, hvs] at hparse
      have hself : vs = vs.eraseDups := Option.some.inj hparse
      exact ⟨by rw [hself, hvalue], hself ▸ nodup_eraseDups vs⟩
    · intro h
      obtain ⟨hvalue, hnodup⟩ := h vs rfl
      rw [eraseDups_of_nodup hnodup, hvalue]

end NodeX.Kad
