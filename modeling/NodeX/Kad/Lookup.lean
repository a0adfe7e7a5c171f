/-
`lookup_nodes` of `lookup.rs`: the shortlist of an iterative lookup, hop by hop. How the peers behave is in the results
of the calls, in the order in which they come in. The contacts a lookup learns are also handed to the routing table,
which it does not read again.
-/
import NodeX.Kad.TableInvariant

namespace NodeX.Kad

open NodeX.Lib

/-! ## The shortlist -/

/-- `ALPHA`. -/
def alpha : Nat := 3

inductive CandidateState where
  | unqueried
  | inFlight
  | queried
  | failed
deriving DecidableEq

structure Candidate where
  contact : Contact
  distance : NodeId
  state : CandidateState := .unqueried
deriving DecidableEq

/-- What a call to a contact returned. -/
abbrev CallResult := Contact × Except String RpcMessage

/-- A call to a contact with the id was answered. -/
def Answered (results : List CallResult) (id : NodeId) : Prop := ∃ r ∈ results, r.1.id = id ∧ r.2.isOk

def FailedToAnswer (results : List CallResult) (id : NodeId) : Prop := ∃ r ∈ results, r.1.id = id ∧ ¬r.2.isOk

instance (results : List CallResult) (id : NodeId) : Decidable (Answered results id) :=
  inferInstanceAs (Decidable (∃ r ∈ results, _))

/-- Who looks up what. -/
structure Lookup where
  localId : NodeId
  localAddr : SocketAddr
  target : NodeId
deriving DecidableEq

/-- A lookup between two hops: the shortlist, whether the stop test held, all contacts it learned and all results of its
calls so far. -/
structure LookupState where
  shortlist : List Candidate
  stopped : Bool := false
  learned : List Contact
  results : List CallResult := []
deriving DecidableEq

/-- Up to `n` unqueried candidates are marked, and their contacts are called. -/
def pick : Nat → List Candidate → List Candidate × List Contact
  | 0, shortlist => (shortlist, [])
  | _, [] => ([], [])
  | n + 1, c :: shortlist =>
    if c.state = .unqueried then
      let (rest, toQuery) := pick n shortlist
      ({ c with state := .inFlight } :: rest, c.contact :: toQuery)
    else
      let (rest, toQuery) := pick (n + 1) shortlist
      (c :: rest, toQuery)

/-- The first candidate with the id gets the state. -/
def mark (id : NodeId) (state : CandidateState) (shortlist : List Candidate) : List Candidate :=
  modifyKey (fun c => c.contact.id) id (fun c => { c with state }) shortlist

def topQueried (shortlist : List Candidate) : Bool :=
  let top := shortlist.take bucketSize
  top.all (fun c => c.state = .queried || c.state = .failed) && top.any fun c => c.state = .queried

namespace Lookup

variable (q : Lookup)

/-- Contacts with the node's own id or address are not taken. -/
def isOther (c : Contact) : Bool := c.id ≠ q.localId && c.addr ≠ q.localAddr

def candidate (c : Contact) : Candidate := { contact := c, distance := c.id.distance q.target }

def start (t : RoutingTable) : LookupState :=
  let known := (t.findClosest q.target bucketSize).filter q.isOther
  { shortlist := sortByKey Candidate.distance (known.map q.candidate), learned := known }

/-- The contacts of a FIND_NODE reply; any other reply has none. -/
def newContacts (reply : RpcMessage) : List Contact :=
  match reply.payload with
  | .findNodeResp contacts => contacts.filter q.isOther
  | _ => []

def handleResult (shortlist : List Candidate) (r : CallResult) : List Candidate :=
  match r.2 with
  | .ok _ => mark r.1.id .queried shortlist
  | .error _ => mark r.1.id .failed shortlist

def resultContacts (r : CallResult) : List Contact :=
  match r.2 with
  | .ok reply => q.newContacts reply
  | .error _ => []

def addContact (shortlist : List Candidate) (c : Contact) : List Candidate :=
  if shortlist.any fun k => k.contact.id = c.id then shortlist else shortlist ++ [q.candidate c]

/-- One hop, with the results of its calls. -/
def hop (s : LookupState) (results : List CallResult) : LookupState :=
  let marked := results.foldl handleResult (pick alpha s.shortlist).1
  let learned := results.flatMap q.resultContacts
  let shortlist := sortByKey Candidate.distance (learned.foldl q.addContact marked)
  { shortlist, stopped := topQueried shortlist, learned := s.learned ++ learned, results := s.results ++ results }

/-- One hop, with the contacts that are taken from a result. -/
def hopWith (contactsOf : CallResult → List Contact) (s : LookupState) (results : List CallResult) : LookupState :=
  let marked := results.foldl handleResult (pick alpha s.shortlist).1
  let learned := results.flatMap contactsOf
  let shortlist := sortByKey Candidate.distance (learned.foldl q.addContact marked)
  { shortlist, stopped := topQueried shortlist, learned := s.learned ++ learned, results := s.results ++ results }

theorem hop_eq (s : LookupState) (results : List CallResult) : q.hop s results = q.hopWith q.resultContacts s results :=
  rfl

end Lookup

namespace LookupState

/-- The loop is left: the stop test held, or nobody is left to query. -/
def returned (s : LookupState) : Bool := s.stopped || (pick alpha s.shortlist).2.isEmpty

def notFailed (c : Candidate) : Bool := c.state ≠ .failed

/-- What the lookup returns. -/
def result (s : LookupState) : List Contact := ((s.shortlist.filter notFailed).take bucketSize).map Candidate.contact

def step (q : Lookup) (s : LookupState) (results : List CallResult) : LookupState :=
  if s.returned then s else q.hop s results

/-- The results are those of the calls of this hop, in any order. -/
def Complete (s : LookupState) (results : List CallResult) : Prop :=
  s.returned ∨ (results.map Prod.fst).Perm (pick alpha s.shortlist).2

instance (s : LookupState) (results : List CallResult) : Decidable (s.Complete results) :=
  inferInstanceAs (Decidable (_ ∨ _))

/-- Whoever is returned has answered. -/
def AllAnswered (s : LookupState) : Prop := ∀ c ∈ s.result, Answered s.results c.id

instance (s : LookupState) : Decidable s.AllAnswered := inferInstanceAs (Decidable (∀ c ∈ s.result, _))

/-- Whoever is closer than somebody who is returned, is returned or failed to answer. -/
def NoneCloser (q : Lookup) (s : LookupState) : Prop :=
  ∀ c ∈ s.learned, (∃ r ∈ s.result, c.id.distance q.target < r.id.distance q.target) →
    c.id ∈ s.result.map Contact.id ∨ FailedToAnswer s.results c.id

/-- The contact was not asked; it stands behind the closest candidates, of which some failed. -/
def StandsIn (s : LookupState) (contact : Contact) : Prop :=
  ∃ i c, s.shortlist[i]? = some c ∧ c.contact = contact ∧ c.state = .unqueried ∧ bucketSize ≤ i ∧
    ∃ k ∈ s.shortlist.take bucketSize, k.state = .failed

def InFlight (s : LookupState) (contact : Contact) : Prop :=
  ∃ c ∈ s.shortlist, c.contact = contact ∧ c.state = .inFlight

/-- What the stop test does not ask for: in front of every unqueried candidate behind the closest ones stand as many
that have not failed as are returned. (A candidate stays in flight where its id is there twice, as the first one is
marked for both; it counts like an unqueried one unless its id has answered.) -/
def Covered (s : LookupState) : Prop :=
  ∀ i c, s.shortlist[i]? = some c → (bucketSize ≤ i ∧ c.state = .unqueried) ∨ c.state = .inFlight →
    ¬Answered s.results c.contact.id → bucketSize ≤ ((s.shortlist.take i).filter notFailed).length

end LookupState

/-! ## What the marks say -/

theorem Answered.mono {results results' : List CallResult} {id : NodeId} (h : Answered results id)
    (hsub : results ⊆ results') : Answered results' id := by
  obtain ⟨r, hr, hid⟩ := h
  exact ⟨r, hsub hr, hid⟩

theorem FailedToAnswer.mono {results results' : List CallResult} {id : NodeId} (h : FailedToAnswer results id)
    (hsub : results ⊆ results') : FailedToAnswer results' id := by
  obtain ⟨r, hr, hid⟩ := h
  exact ⟨r, hsub hr, hid⟩

/-- Whoever is marked as queried has answered, and whoever is marked as failed has not, some time. -/
structure Marked (q : Lookup) (results : List CallResult) (shortlist : List Candidate) : Prop where
  distance : ∀ c ∈ shortlist, c.distance = c.contact.id.distance q.target
  queried : ∀ c ∈ shortlist, c.state = .queried → Answered results c.contact.id
  failed : ∀ c ∈ shortlist, c.state = .failed → FailedToAnswer results c.contact.id

section Marked

variable {q : Lookup} {results results' : List CallResult} {shortlist shortlist' : List Candidate} {id : NodeId}
  {c : Candidate} {n : Nat}

theorem Marked.mono (h : Marked q results shortlist) (hsub : results ⊆ results') : Marked q results' shortlist where
  distance := h.distance
  queried c hc hstate := (h.queried c hc hstate).mono hsub
  failed c hc hstate := (h.failed c hc hstate).mono hsub

/-- A candidate that changed has only another state, and one that is right. -/
theorem Marked.of_mem (h : Marked q results shortlist)
    (hmem : ∀ c' ∈ shortlist', c' ∈ shortlist ∨ ∃ c ∈ shortlist, ∃ state, c' = { c with state } ∧
      (state = .queried → Answered results c.contact.id) ∧ (state = .failed → FailedToAnswer results c.contact.id)) :
    Marked q results shortlist' where
  distance c' hc' := by
    rcases hmem c' hc' with hc | ⟨c, hc, state, rfl, -⟩
    · exact h.distance c' hc
    · exact h.distance c hc
  queried c' hc' hstate := by
    rcases hmem c' hc' with hc | ⟨c, hc, state, rfl, hqueried, -⟩
    · exact h.queried c' hc hstate
    · exact hqueried hstate
  failed c' hc' hstate := by
    rcases hmem c' hc' with hc | ⟨c, hc, state, rfl, -, hfailed⟩
    · exact h.failed c' hc hstate
    · exact hfailed hstate

theorem pick_zero (shortlist : List Candidate) : pick 0 shortlist = (shortlist, []) := by
  rw [pick]

theorem mem_pick : ∀ {n : Nat} {shortlist : List Candidate} {c' : Candidate}, c' ∈ (pick n shortlist).1 →
    c' ∈ shortlist ∨ ∃ c ∈ shortlist, c' = { c with state := .inFlight }
  | 0, shortlist, c', h => by
    rw [pick_zero] at h
    exact .inl h
  | n + 1, [], c', h => absurd h List.not_mem_nil
  | n + 1, c :: shortlist, c', h => by
    unfold pick at h
    split at h
    · rcases List.mem_cons.1 h with rfl | h
      · exact .inr ⟨c, List.mem_cons_self, rfl⟩
      · rcases mem_pick h with h | ⟨k, hk, rfl⟩
        · exact .inl (List.mem_cons_of_mem _ h)
        · exact .inr ⟨k, List.mem_cons_of_mem _ hk, rfl⟩
    · rcases List.mem_cons.1 h with rfl | h
      · exact .inl List.mem_cons_self
      · rcases mem_pick h with h | ⟨k, hk, rfl⟩
        · exact .inl (List.mem_cons_of_mem _ h)
        · exact .inr ⟨k, List.mem_cons_of_mem _ hk, rfl⟩

theorem ids_pick : ∀ (n : Nat) (shortlist : List Candidate),
    (pick n shortlist).1.map (fun c => c.contact.id) = shortlist.map fun c => c.contact.id
  | 0, shortlist => by rw [pick_zero]
  | _ + 1, [] => rfl
  | n + 1, c :: shortlist => by
    unfold pick
    split
    · exact congrArg (c.contact.id :: ·) (ids_pick n shortlist)
    · exact congrArg (c.contact.id :: ·) (ids_pick (n + 1) shortlist)

/-- Nobody is left to query. -/
theorem not_unqueried_of_pick : ∀ {shortlist : List Candidate}, (pick (n + 1) shortlist).2 = [] →
    ∀ c ∈ shortlist, c.state ≠ .unqueried
  | [], _, _, hc => absurd hc List.not_mem_nil
  | k :: shortlist, h, c, hc => by
    unfold pick at h
    split at h
    · cases h
    · rename_i hk
      rcases List.mem_cons.1 hc with rfl | hc
      · exact hk
      · exact not_unqueried_of_pick h c hc

theorem mem_mark {state : CandidateState} : ∀ {shortlist : List Candidate} {c' : Candidate},
    c' ∈ mark id state shortlist → c' ∈ shortlist ∨ ∃ c ∈ shortlist, c.contact.id = id ∧ c' = { c with state }
  | [], _, h => .inl h
  | c :: shortlist, c', h => by
    unfold mark modifyKey at h
    split at h
    · rename_i hid
      rcases List.mem_cons.1 h with rfl | h
      · exact .inr ⟨c, List.mem_cons_self, hid, rfl⟩
      · exact .inl (List.mem_cons_of_mem _ h)
    · rcases List.mem_cons.1 h with rfl | h
      · exact .inl List.mem_cons_self
      · rcases mem_mark h with h | ⟨k, hk, hid, rfl⟩
        · exact .inl (List.mem_cons_of_mem _ h)
        · exact .inr ⟨k, List.mem_cons_of_mem _ hk, hid, rfl⟩

theorem ids_mark (id : NodeId) (state : CandidateState) (shortlist : List Candidate) :
    (mark id state shortlist).map (fun c => c.contact.id) = shortlist.map fun c => c.contact.id :=
  keys_modifyKey (fun c : Candidate => c.contact.id) (f := fun c => { c with state }) (fun _ => rfl) id shortlist

theorem Marked.pick (h : Marked q results shortlist) (n : Nat) : Marked q results (pick n shortlist).1 := by
  refine h.of_mem ?_
  intro c' hc'
  rcases mem_pick hc' with hc | ⟨c, hc, rfl⟩
  · exact .inl hc
  · exact .inr ⟨c, hc, .inFlight, rfl, fun h => absurd h (by decide), fun h => absurd h (by decide)⟩

theorem Marked.handleResult (h : Marked q results shortlist) {r : CallResult} (hr : r ∈ results) :
    Marked q results (Lookup.handleResult shortlist r) := by
  refine h.of_mem ?_
  intro c' hc'
  unfold Lookup.handleResult at hc'
  cases hres : r.2 with
  | ok reply =>
    rw [hres] at hc'
    rcases mem_mark hc' with hc | ⟨c, hc, hid, rfl⟩
    · exact .inl hc
    · refine .inr ⟨c, hc, .queried, rfl, fun _ => ⟨r, hr, hid.symm, ?_⟩, fun h => absurd h (by decide)⟩
      rw [hres]
      rfl
  | error e =>
    rw [hres] at hc'
    rcases mem_mark hc' with hc | ⟨c, hc, hid, rfl⟩
    · exact .inl hc
    · refine .inr ⟨c, hc, .failed, rfl, fun h => absurd h (by decide), fun _ => ⟨r, hr, hid.symm, ?_⟩⟩
      rw [hres]
      exact Bool.false_ne_true

theorem Marked.candidate (q : Lookup) (contact : Contact) : Marked q results [q.candidate contact] where
  distance c hc := by
    rw [List.mem_singleton.1 hc]
    rfl
  queried c hc hstate := by
    rw [List.mem_singleton.1 hc] at hstate
    cases hstate
  failed c hc hstate := by
    rw [List.mem_singleton.1 hc] at hstate
    cases hstate

theorem Marked.append (h : Marked q results shortlist) (h' : Marked q results shortlist') :
    Marked q results (shortlist ++ shortlist') where
  distance c hc := (List.mem_append.1 hc).elim (h.distance c) (h'.distance c)
  queried c hc := (List.mem_append.1 hc).elim (h.queried c) (h'.queried c)
  failed c hc := (List.mem_append.1 hc).elim (h.failed c) (h'.failed c)

theorem Marked.addContact (h : Marked q results shortlist) (contact : Contact) :
    Marked q results (q.addContact shortlist contact) := by
  unfold Lookup.addContact
  split
  · exact h
  · exact h.append (Marked.candidate q contact)

theorem Marked.perm (h : Marked q results shortlist) (hperm : shortlist'.Perm shortlist) :
    Marked q results shortlist' :=
  h.of_mem fun _ hc' => .inl (hperm.mem_iff.1 hc')

theorem Marked.foldl_handleResult : ∀ {rs : List CallResult} {shortlist : List Candidate}, rs ⊆ results →
    Marked q results shortlist → Marked q results (rs.foldl Lookup.handleResult shortlist)
  | [], _, _, h => h
  | r :: rs, _, hsub, h => by
    obtain ⟨hr, hrs⟩ := List.cons_subset.1 hsub
    rw [List.foldl_cons]
    exact foldl_handleResult hrs (h.handleResult hr)

theorem Marked.foldl_addContact : ∀ {contacts : List Contact} {shortlist : List Candidate},
    Marked q results shortlist → Marked q results (contacts.foldl q.addContact shortlist)
  | [], _, h => h
  | c :: _, _, h => by
    rw [List.foldl_cons]
    exact foldl_addContact (h.addContact c)

theorem ids_foldl_handleResult : ∀ (rs : List CallResult) (shortlist : List Candidate),
    (rs.foldl Lookup.handleResult shortlist).map (fun c => c.contact.id) = shortlist.map fun c => c.contact.id
  | [], _ => rfl
  | r :: rs, shortlist => by
    rw [List.foldl_cons, ids_foldl_handleResult rs]
    unfold Lookup.handleResult
    split <;> exact ids_mark _ _ _

/-- Every contact that is added is there afterwards, and whoever was there stays. -/
theorem mem_ids_foldl_addContact : ∀ {contacts : List Contact} {shortlist : List Candidate},
    id ∈ shortlist.map (fun c => c.contact.id) ∨ id ∈ contacts.map Contact.id →
      id ∈ (contacts.foldl q.addContact shortlist).map fun c => c.contact.id
  | [], _, h => h.resolve_right List.not_mem_nil
  | c :: contacts, shortlist, h => by
    rw [List.foldl_cons]
    refine mem_ids_foldl_addContact ?_
    have hadd : id ∈ shortlist.map (fun c => c.contact.id) ∨ id = c.id →
        id ∈ (q.addContact shortlist c).map fun c => c.contact.id := by
      intro hid
      unfold Lookup.addContact
      split
      · rename_i hany
        rcases hid with hid | rfl
        · exact hid
        · obtain ⟨k, hk, hkid⟩ := List.any_eq_true.1 hany
          exact List.mem_map.2 ⟨k, hk, of_decide_eq_true hkid⟩
      · rw [List.map_append, List.mem_append]
        exact hid.imp_right List.mem_singleton.2
    rw [List.map_cons, List.mem_cons] at h
    rcases h with h | h | h
    · exact .inl (hadd (.inl h))
    · exact .inl (hadd (.inr h))
    · exact .inr h

end Marked

/-! ## Runs -/

namespace LookupState

variable {q : Lookup} {s : LookupState}

/-- What holds between two hops. -/
structure Sound (q : Lookup) (s : LookupState) : Prop where
  marked : Marked q s.results s.shortlist
  sorted : s.shortlist.Pairwise fun a b => a.distance ≤ b.distance
  learned : ∀ c ∈ s.learned, c.id ∈ s.shortlist.map fun k => k.contact.id
  stop : s.stopped = true → topQueried s.shortlist = true

theorem sound_start (q : Lookup) (t : RoutingTable) : Sound q (q.start t) where
  marked := by
    refine Marked.perm ?_ (perm_sortByKey _ _)
    constructor
    · intro c hc
      obtain ⟨k, -, rfl⟩ := List.mem_map.1 hc
      rfl
    · intro c hc hstate
      obtain ⟨k, -, rfl⟩ := List.mem_map.1 hc
      cases hstate
    · intro c hc hstate
      obtain ⟨k, -, rfl⟩ := List.mem_map.1 hc
      cases hstate
  sorted := pairwise_sortByKey _ _
  learned c hc := by
    refine List.mem_map.2 ⟨q.candidate c, ?_, rfl⟩
    exact (mem_sortByKey _).2 (List.mem_map_of_mem hc)
  stop h := by cases h

theorem Sound.hopWith (h : Sound q s) (contactsOf : CallResult → List Contact) (results : List CallResult) :
    Sound q (q.hopWith contactsOf s results) where
  marked := by
    refine Marked.perm ?_ (perm_sortByKey _ _)
    refine Marked.foldl_addContact (Marked.foldl_handleResult (List.subset_append_right _ _) ?_)
    exact (h.marked.mono (List.subset_append_left _ _)).pick alpha
  sorted := pairwise_sortByKey _ _
  learned c hc := by
    have hperm := (perm_sortByKey Candidate.distance ((results.flatMap contactsOf).foldl q.addContact
      (results.foldl Lookup.handleResult (pick alpha s.shortlist).1))).map fun k => k.contact.id
    refine hperm.mem_iff.2 (mem_ids_foldl_addContact ?_)
    rw [ids_foldl_handleResult, ids_pick]
    rcases List.mem_append.1 hc with hc | hc
    · exact .inl (h.learned c hc)
    · exact .inr (List.mem_map_of_mem hc)
  stop h := h

theorem sound_run (q : Lookup) (t : RoutingTable) (hops : List (List CallResult)) :
    Sound q (run (step q) (q.start t) hops) := by
  refine run_induction ?_ hops (sound_start q t)
  intro s results h
  unfold step
  split
  · exact h
  · exact h.hopWith q.resultContacts results

/-- Whoever is unqueried when the loop is left stands behind the closest ones. -/
theorem Sound.behind (h : Sound q s) (hreturned : s.returned = true) {i : Nat} {c : Candidate}
    (hi : s.shortlist[i]? = some c) (hstate : c.state = .unqueried) : bucketSize ≤ i := by
  unfold returned at hreturned
  rcases Bool.or_eq_true_iff.1 hreturned with hstop | hempty
  · have htop := h.stop hstop
    unfold topQueried at htop
    by_contra hlt
    have hmem : c ∈ s.shortlist.take bucketSize :=
      List.mem_of_getElem? ((List.getElem?_take_of_lt (by omega)).trans hi)
    have hall := List.all_eq_true.1 (Bool.and_eq_true_iff.1 htop).1 c hmem
    rw [hstate] at hall
    exact absurd hall (by decide)
  · exact absurd hstate (not_unqueried_of_pick (List.isEmpty_iff.1 hempty) c (List.mem_of_getElem? hi))

theorem allAnswered_iff (h : Sound q s) (hreturned : s.returned = true) : s.AllAnswered ↔ s.Covered := by
  have hresult : s.AllAnswered ↔ ∀ c ∈ (s.shortlist.filter notFailed).take bucketSize,
      Answered s.results c.contact.id := by
    unfold AllAnswered result
    rw [List.forall_mem_map]
  rw [hresult, forall_mem_take_filter]
  constructor
  · intro hall i c hi hstate hnot
    by_contra hlt
    refine hnot (hall i c hi ?_ (by omega))
    unfold notFailed
    rcases hstate with ⟨-, hstate⟩ | hstate
    · rw [hstate]
      rfl
    · rw [hstate]
      rfl
  · intro hcovered i c hi hnotFailed hlt
    by_contra hnot
    have hmarked : (bucketSize ≤ i ∧ c.state = .unqueried) ∨ c.state = .inFlight := by
      cases hstate : c.state with
      | unqueried => exact .inl ⟨h.behind hreturned hi hstate, rfl⟩
      | inFlight => exact .inr rfl
      | queried => exact absurd (h.marked.queried c (List.mem_of_getElem? hi) hstate) hnot
      | failed =>
        unfold notFailed at hnotFailed
        rw [hstate] at hnotFailed
        cases hnotFailed
    have hfull := hcovered i c hi hmarked hnot
    omega

/-- Whoever has not failed and is closer than somebody who is returned is returned. -/
theorem noneCloser (h : Sound q s) : s.NoneCloser q := by
  rintro c hc ⟨r, hr, hcloser⟩
  obtain ⟨k, hk, hid⟩ := List.mem_map.1 (h.learned c hc)
  by_cases hfailed : k.state = .failed
  · right
    rw [← hid]
    exact h.marked.failed k hk hfailed
  · left
    obtain ⟨kr, hkr, rfl⟩ := List.mem_map.1 hr
    have hkr' := (List.mem_filter.1 (List.mem_of_mem_take hkr)).1
    have hlt : k.distance < kr.distance := by
      rw [h.marked.distance k hk, h.marked.distance kr hkr', hid]
      exact hcloser
    have hmem : k ∈ s.shortlist.filter notFailed := by
      refine List.mem_filter.2 ⟨hk, ?_⟩
      unfold notFailed
      exact decide_eq_true hfailed
    have hsorted : (s.shortlist.filter notFailed).Pairwise fun a b => a.distance ≤ b.distance :=
      h.sorted.sublist List.filter_sublist
    rw [← List.take_append_drop bucketSize (s.shortlist.filter notFailed)] at hmem hsorted
    rcases List.mem_append.1 hmem with hmem | hmem
    · rw [← hid]
      exact List.mem_map_of_mem (List.mem_map_of_mem hmem)
    · exact absurd ((List.pairwise_append.1 hsorted).2.2 kr hkr k hmem) (not_le.2 hlt)

/-! ## Distinct ids -/

/-- No id is twice on the shortlist, and nobody is in flight. -/
structure Tidy (shortlist : List Candidate) : Prop where
  nodup : (shortlist.map fun c => c.contact.id).Nodup
  landed : ∀ c ∈ shortlist, c.state ≠ .inFlight

theorem asked_pick : ∀ {n : Nat} {shortlist : List Candidate}, (∀ c ∈ shortlist, c.state ≠ .inFlight) →
    ∀ c ∈ (pick n shortlist).1, c.state = .inFlight → c.contact ∈ (pick n shortlist).2
  | 0, shortlist, h, c, hc, hstate => by
    rw [pick_zero] at hc
    exact absurd hstate (h c hc)
  | n + 1, [], _, c, hc, _ => absurd hc List.not_mem_nil
  | n + 1, k :: shortlist, h, c, hc, hstate => by
    obtain ⟨hk, h⟩ := List.forall_mem_cons.1 h
    unfold pick at hc ⊢
    split at hc
    · rename_i hunqueried
      rw [if_pos hunqueried]
      rcases List.mem_cons.1 hc with rfl | hc
      · exact List.mem_cons_self
      · exact List.mem_cons_of_mem _ (asked_pick h c hc hstate)
    · rename_i hqueried
      rw [if_neg hqueried]
      rcases List.mem_cons.1 hc with rfl | hc
      · exact absurd hstate hk
      · exact asked_pick h c hc hstate

theorem mem_mark_of_nodup {id : NodeId} {state : CandidateState} : ∀ {shortlist : List Candidate} {c : Candidate},
    (shortlist.map fun c => c.contact.id).Nodup → c ∈ mark id state shortlist →
      c.state = state ∨ (c ∈ shortlist ∧ c.contact.id ≠ id)
  | [], _, _, h => absurd h List.not_mem_nil
  | k :: shortlist, c, hnodup, h => by
    rw [List.map_cons, List.nodup_cons] at hnodup
    unfold mark modifyKey at h
    split at h
    · rename_i hid
      rcases List.mem_cons.1 h with rfl | h
      · exact .inl rfl
      · refine .inr ⟨List.mem_cons_of_mem _ h, fun hsame => hnodup.1 ?_⟩
        exact List.mem_map.2 ⟨c, h, hsame.trans hid.symm⟩
    · rename_i hid
      rcases List.mem_cons.1 h with rfl | h
      · exact .inr ⟨List.mem_cons_self, hid⟩
      · exact (mem_mark_of_nodup hnodup.2 h).imp_right fun hc => ⟨List.mem_cons_of_mem _ hc.1, hc.2⟩

/-- Whoever was called is marked; the others are as they were. -/
theorem mem_foldl_handleResult : ∀ {rs : List CallResult} {shortlist : List Candidate} {c : Candidate},
    (shortlist.map fun c => c.contact.id).Nodup → c ∈ rs.foldl Lookup.handleResult shortlist →
      (c.state = .queried ∨ c.state = .failed) ∨ (c ∈ shortlist ∧ c.contact.id ∉ rs.map fun r => r.1.id)
  | [], _, _, _, h => .inr ⟨h, List.not_mem_nil⟩
  | r :: rs, shortlist, c, hnodup, h => by
    have hids : ((Lookup.handleResult shortlist r).map fun c => c.contact.id) =
        shortlist.map fun c => c.contact.id := ids_foldl_handleResult [r] shortlist
    rw [List.foldl_cons] at h
    rcases mem_foldl_handleResult (hids ▸ hnodup) h with hdone | ⟨hc, hnot⟩
    · exact .inl hdone
    · unfold Lookup.handleResult at hc
      split at hc
      · rcases mem_mark_of_nodup hnodup hc with hstate | ⟨hc, hid⟩
        · exact .inl (.inl hstate)
        · exact .inr ⟨hc, List.not_mem_cons_of_ne_of_not_mem hid hnot⟩
      · rcases mem_mark_of_nodup hnodup hc with hstate | ⟨hc, hid⟩
        · exact .inl (.inr hstate)
        · exact .inr ⟨hc, List.not_mem_cons_of_ne_of_not_mem hid hnot⟩

theorem Tidy.addContact {shortlist : List Candidate} (h : Tidy shortlist) (q : Lookup) (contact : Contact) :
    Tidy (q.addContact shortlist contact) := by
  unfold Lookup.addContact
  split
  · exact h
  · rename_i hany
    constructor
    · rw [List.map_append, List.nodup_append]
      refine ⟨h.nodup, List.nodup_singleton _, ?_⟩
      rintro id hid id' hid' rfl
      obtain rfl : id = contact.id := List.mem_singleton.1 hid'
      obtain ⟨c, hc, hsame⟩ := List.mem_map.1 hid
      exact hany (List.any_eq_true.2 ⟨c, hc, decide_eq_true hsame⟩)
    · intro c hc
      rcases List.mem_append.1 hc with hc | hc
      · exact h.landed c hc
      · rw [List.mem_singleton.1 hc]
        exact CandidateState.noConfusion

theorem Tidy.perm {shortlist shortlist' : List Candidate} (h : Tidy shortlist) (hperm : shortlist'.Perm shortlist) :
    Tidy shortlist' where
  nodup := (hperm.map _).nodup_iff.2 h.nodup
  landed c hc := h.landed c (hperm.mem_iff.1 hc)

theorem Tidy.foldl_addContact {q : Lookup} : ∀ {contacts : List Contact} {shortlist : List Candidate},
    Tidy shortlist → Tidy (contacts.foldl q.addContact shortlist)
  | [], _, h => h
  | c :: _, _, h => by
    rw [List.foldl_cons]
    exact foldl_addContact (h.addContact q c)

/-- A hop whose calls all came to an end. -/
theorem Tidy.hopWith (h : Tidy s.shortlist) (contactsOf : CallResult → List Contact) {results : List CallResult}
    (hcomplete : (results.map Prod.fst).Perm (pick alpha s.shortlist).2) :
    Tidy (q.hopWith contactsOf s results).shortlist := by
  have hnodup : ((pick alpha s.shortlist).1.map fun c => c.contact.id).Nodup := by
    rw [ids_pick]
    exact h.nodup
  refine Tidy.perm (Tidy.foldl_addContact ?_) (perm_sortByKey _ _)
  constructor
  · rw [ids_foldl_handleResult]
    exact hnodup
  · intro c hc hstate
    rcases mem_foldl_handleResult hnodup hc with (hdone | hdone) | ⟨hpick, hnot⟩
    · rw [hstate] at hdone
      cases hdone
    · rw [hstate] at hdone
      cases hdone
    · have hasked := hcomplete.mem_iff.2 (asked_pick h.landed c hpick hstate)
      obtain ⟨r, hr, hcontact⟩ := List.mem_map.1 hasked
      exact hnot (List.mem_map.2 ⟨r, hr, congrArg Contact.id hcontact⟩)

/-- From a table that lists no id twice among the closest, nobody stays in flight. -/
theorem tidy_run {q : Lookup} {t : RoutingTable} {hops : List (List CallResult)}
    (hnodup : ((t.findClosest q.target bucketSize).map Contact.id).Nodup)
    (h : Steps (step q) Complete (q.start t) hops) : Tidy (run (step q) (q.start t) hops).shortlist := by
  refine run_invariant (I := fun s => Tidy s.shortlist) ?_ ?_ h
  · intro s results hs hcomplete
    unfold step
    split
    · exact hs
    · rename_i hnot
      exact hs.hopWith q.resultContacts (hcomplete.resolve_left hnot)
  · refine Tidy.perm ?_ (perm_sortByKey _ _)
    constructor
    · rw [List.map_map]
      exact hnodup.sublist (List.filter_sublist.map _)
    · intro c hc
      obtain ⟨k, -, rfl⟩ := List.mem_map.1 hc
      exact CandidateState.noConfusion

/-! ## The result -/

/-- Who moves up from behind the closest candidates has somebody failed among these to take the place of. -/
theorem failed_of_notFailed {i : Nat} {c : Candidate} (hi : s.shortlist[i]? = some c) (hbehind : bucketSize ≤ i)
    (hlt : ((s.shortlist.take i).filter notFailed).length < bucketSize) :
    ∃ k ∈ s.shortlist.take bucketSize, k.state = .failed := by
  by_contra hnone
  have hall : (s.shortlist.take bucketSize).filter notFailed = s.shortlist.take bucketSize := by
    refine List.filter_eq_self.2 fun k hk => decide_eq_true fun hstate => hnone ⟨k, hk, hstate⟩
  have hsub : (s.shortlist.take bucketSize).Sublist (s.shortlist.take i) := List.take_sublist_take_left hbehind
  have hle := (hsub.filter notFailed).length_le
  have hlen := (List.getElem?_eq_some_iff.1 hi).1
  rw [hall, List.length_take] at hle
  omega

/-- However the peers behave: when a lookup returns, whoever it returns has answered, or was not asked and takes the
place of one of the closest, who failed; or its id is twice among the contacts the lookup began with. Nobody closer was
left out. And all have answered exactly if whoever was not asked stands behind enough of those that have not failed. -/
theorem lookupNodes_answered (q : Lookup) (t : RoutingTable) (hops : List (List CallResult))
    (hcomplete : Steps (step q) Complete (q.start t) hops)
    (hreturned : (run (step q) (q.start t) hops).returned = true) :
    (∀ c ∈ (run (step q) (q.start t) hops).result, Answered (run (step q) (q.start t) hops).results c.id ∨
        (run (step q) (q.start t) hops).StandsIn c ∨
        ((run (step q) (q.start t) hops).InFlight c ∧ ¬((t.findClosest q.target bucketSize).map Contact.id).Nodup)) ∧
      (run (step q) (q.start t) hops).NoneCloser q ∧
      ((run (step q) (q.start t) hops).AllAnswered ↔ (run (step q) (q.start t) hops).Covered) := by
  have hsound := sound_run q t hops
  have htidy := fun hnodup => tidy_run hnodup hcomplete
  generalize run (step q) (q.start t) hops = s at hsound htidy hreturned ⊢
  refine ⟨?_, noneCloser hsound, allAnswered_iff hsound hreturned⟩
  unfold result
  rw [List.forall_mem_map, forall_mem_take_filter]
  intro i c hi hnotFailed hlt
  have hc := List.mem_of_getElem? hi
  cases hstate : c.state with
  | unqueried =>
    have hbehind := hsound.behind hreturned hi hstate
    exact .inr (.inl ⟨i, c, hi, rfl, hstate, hbehind, failed_of_notFailed hi hbehind hlt⟩)
  | inFlight => exact .inr (.inr ⟨⟨c, hc, rfl, hstate⟩, fun hnodup => (htidy hnodup).landed c hc hstate⟩)
  | queried => exact .inl (hsound.marked.queried c hc hstate)
  | failed =>
    unfold notFailed at hnotFailed
    rw [hstate] at hnotFailed
    cases hnotFailed

namespace Sample

open RoutingTable

def search : Lookup where
  localId := zeroId
  localAddr := { ip := .v4 #v[192, 168, 1, 9], port := 9000 }
  target := zeroId

/-- A table of the first `n` contacts. -/
def known (n : Nat) : RoutingTable :=
  (List.range n).foldl (fun t b => (t.update (farContact (UInt8.ofNat b))).1) { localId := zeroId }

/-- The second contact does not answer, the twentieth names one more, the others name nobody. -/
def call (c : Contact) : CallResult :=
  (c, if c = farContact 1 then .error "timed out"
    else .ok { requestId := 0, senderId := c.id
               payload := .findNodeResp (if c = farContact 19 then [farContact 20] else []) })

/-- The hops of a lookup whose calls return in order. -/
def hops : Nat → LookupState → List (List CallResult)
  | 0, _ => []
  | n + 1, s => (pick alpha s.shortlist).2.map call :: hops n (s.step search ((pick alpha s.shortlist).2.map call))

end Sample

open LookupState.Sample in
theorem lookupNodes_two :
    Answered (run (step search) (search.start (known 2)) (hops 1 (search.start (known 2)))).results
      (RoutingTable.farContact 0).id := by
  have hresult := lookupNodes_answered search (known 2) _ (by decide +kernel)
    (by decide +kernel : (run (step search) (search.start (known 2)) (hops 1 (search.start (known 2)))).returned = true)
  have hnone : ∀ c ∈ (run (step search) (search.start (known 2)) (hops 1 (search.start (known 2)))).shortlist,
      c.state ≠ .unqueried ∧ c.state ≠ .inFlight := by decide +kernel
  rcases hresult.1 (RoutingTable.farContact 0) (by decide +kernel) with
    h | ⟨i, c, hi, -, hstate, -⟩ | ⟨⟨c, hc, -, hstate⟩, -⟩
  · exact h
  · exact absurd hstate (hnone c (List.mem_of_getElem? hi)).1
  · exact absurd hstate (hnone c hc).2

open LookupState.Sample in
/-- The contact that was named last takes the place of the one that failed, and was not called. -/
theorem lookupNodes_standIn :
    Steps (step search) Complete (search.start (known 20)) (hops 7 (search.start (known 20))) ∧
      (run (step search) (search.start (known 20)) (hops 7 (search.start (known 20)))).returned = true ∧
      ¬(run (step search) (search.start (known 20)) (hops 7 (search.start (known 20)))).AllAnswered := by
  decide +kernel

end LookupState

end NodeX.Kad
