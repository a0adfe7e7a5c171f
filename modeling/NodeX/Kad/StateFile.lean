/-
`state.rs` and `config.rs`: the files a node is started from. Both are written as JSON by hand and read by searching for
keys, quotes and brackets. A list goes from the first opening bracket after its key to the first closing one, so that
the brackets of an IPv6 address end it, and a closing bracket that stands in front of the opening one is a panic.
-/
import Mathlib.Data.List.TakeWhile
import NodeX.Core.AddrParse
import NodeX.Core.HexText
import NodeX.Lib.Search

namespace NodeX.Kad

open NodeX.Lib

/-! ## Searching in JSON -/

def jsonPattern (key : String) : List Char := '"' :: (key.toList ++ ['"', ':'])

/-- `json_get_string`, which both files have. -/
def jsonGetString (json : List Char) (key : String) : Option String :=
  (after (jsonPattern key) json).bind fun rest =>
    (position '"' rest).bind fun q1 =>
      let valuePart := rest.drop (q1 + 1)
      (position '"' valuePart).map fun q2 => String.ofList (valuePart.take q2)

/-- `&rest[b1 + 1..b2]`. -/
def sliceBetween (rest : List Char) (b1 b2 : Nat) : Outcome (List Char) :=
  if b1 + 1 ≤ b2 then .ok ((rest.take b2).drop (b1 + 1)) else .panic

/-- What stands in brackets. -/
def inBrackets (rest : List Char) : Outcome (Option (List Char)) :=
  match position '[' rest with
  | none => .ok none
  | some b1 =>
    match position ']' rest with
    | none => .ok none
    | some b2 => (sliceBetween rest b1 b2).map some

def jsonGetInner (json : List Char) (key : String) : Outcome (Option (List Char)) :=
  match after (jsonPattern key) json with
  | none => .ok none
  | some rest => inBrackets rest

/-! ## The state file -/

/-- A contact as it is saved: the time it was seen is not. -/
structure StateContact where
  id : NodeId
  addr : StdSocketAddr
deriving DecidableEq

def contactFields (block : List Char) : Option (String × String) :=
  (jsonGetString block "id").bind fun id => (jsonGetString block "addr").map fun addr => (id, addr)

def jsonGetContactsArray (json : List Char) : Outcome (Option (List (String × String))) :=
  (jsonGetInner json "contacts").map fun inner =>
    inner.map fun inner => (inner.splitOnP (· = '\x7d')).filterMap contactFields

/-- The loop of `load_state`: what is no id or no address is left out. -/
def restoreContacts : List (String × String) → Outcome (List StateContact)
  | [] => .ok []
  | (idHex, addrStr) :: entries =>
    match NodeId.fromHex idHex with
    | .panic => .panic
    | .err _ => restoreContacts entries
    | .ok id =>
      match StdSocketAddr.parse addrStr with
      | none => restoreContacts entries
      | some addr => (restoreContacts entries).map (⟨id, addr⟩ :: ·)

/-- `load_state`, of what reading the file came to. -/
def loadState : Except String String → Outcome (NodeId × List StateContact)
  | .error e => .err ("Read state failed: " ++ e)
  | .ok content =>
    match jsonGetString content.toList "node_id" with
    | none => .err "Missing node_id in state file"
    | some nodeIdHex =>
      ((NodeId.fromHex nodeIdHex).mapErr ("Invalid node_id hex in state file: " ++ ·)).bind fun nodeId =>
        (jsonGetContactsArray content.toList).bind fun entries =>
          (restoreContacts (entries.getD [])).map fun contacts => (nodeId, contacts)

def contactJson (c : StateContact) : String :=
  "\x7b\"id\": \"" ++ c.id.toHex ++ "\", \"addr\": \"" ++ c.addr.display ++ "\"\x7d"

/-- What `save_state` writes. -/
def saveState (nodeId : NodeId) (contacts : List StateContact) : String :=
  "\x7b\n  \"node_id\": \"" ++ nodeId.toHex ++ "\",\n  \"contacts\": [\n    " ++
    (",\n    ".intercalate (contacts.map contactJson)) ++ "\n  ]\n\x7d"

/-- `load_or_create_identity`, with the file where there is one, and the id that is drawn. -/
def loadOrCreateIdentity (file : Option (Except String String)) (random : NodeId) :
    Outcome (NodeId × List StateContact) :=
  match file with
  | none => .ok (random, [])
  | some content =>
    match loadState content with
    | .ok restored => .ok restored
    | .err _ => .ok (random, [])
    | .panic => .panic

/-! ## The configuration -/

structure NodeConfig where
  ip : String := "0.0.0.0"
  port : UInt16 := 8443
  bootstrap : List StdSocketAddr := [.v4 #v[31, 77, 71, 122] 8443]
  stateFile : String := "node_state.json"
  ttlSecs : UInt64 := 86400
  republishSecs : UInt64 := 3600
  rpcTimeoutMs : UInt64 := 5000
  rpcMaxRetries : UInt64 := 2
  saveStateOnExit : Bool := true
deriving DecidableEq

/-- `parse::<u64>` of digits. -/
def parseU64 (digits : List Char) : Option UInt64 :=
  let value := digits.foldl (fun n c => n * 10 + (c.toNat - 48)) 0
  if digits ≠ [] ∧ value < 2 ^ 64 then some (UInt64.ofNat value) else none

def jsonGetU64 (json : List Char) (key : String) : Option UInt64 :=
  (after (jsonPattern key) json).bind fun rest =>
    parseU64 ((rest.dropWhile isWhitespace).takeWhile fun c => '0' ≤ c ∧ c ≤ '9')

/-- `trim_matches('"')`. -/
def trimQuotes (s : List Char) : List Char :=
  ((s.dropWhile (· = '"')).reverse.dropWhile (· = '"')).reverse

def jsonGetArrayStrings (json : List Char) (key : String) : Outcome (Option (List String)) :=
  (jsonGetInner json key).map fun inner =>
    inner.map fun inner =>
      (((inner.splitOnP (· = ',')).map fun s => String.ofList (trimQuotes (trim (String.ofList s)).toList)).filter
        (· ≠ ""))

/-- `from_json_str`: what is not found stays as it is by default. -/
def NodeConfig.fromJsonStr (s : String) : Outcome NodeConfig :=
  let json := s.toList
  let cfg : NodeConfig := {}
  (jsonGetArrayStrings json "bootstrap").map fun addrs =>
    { ip := (jsonGetString json "ip").getD cfg.ip
      port := ((jsonGetU64 json "port").map UInt64.toUInt16).getD cfg.port
      bootstrap := (addrs.map (List.filterMap StdSocketAddr.parse)).getD cfg.bootstrap
      stateFile := (jsonGetString json "state_file").getD cfg.stateFile
      ttlSecs := (jsonGetU64 json "ttl_secs").getD cfg.ttlSecs
      republishSecs := (jsonGetU64 json "republish_secs").getD cfg.republishSecs
      rpcTimeoutMs := (jsonGetU64 json "rpc_timeout_ms").getD cfg.rpcTimeoutMs
      rpcMaxRetries := (jsonGetU64 json "rpc_max_retries").getD cfg.rpcMaxRetries
      saveStateOnExit := cfg.saveStateOnExit }

/-! ## What the searches find -/

/-- The text in quotes after a key. -/
def Field (json : List Char) (key value : String) : Prop :=
  ∃ between back, Follows (jsonPattern key) json (between ++ '"' :: (value.toList ++ '"' :: back)) ∧
    '"' ∉ between ∧ '"' ∉ value.toList

/-- What stands in the first brackets of a text in which they are in order. -/
def Bracketed (rest inner : List Char) : Prop :=
  ∃ front back, rest = front ++ '[' :: (inner ++ ']' :: back) ∧ '[' ∉ front ∧ ']' ∉ front ∧ ']' ∉ inner

/-- No bracket is opened after one that is closed without being open. -/
def Ordered (rest : List Char) : Prop := ∀ front back, rest = front ++ ']' :: back → '[' ∉ front → '[' ∉ back

variable {json rest between back inner : List Char} {key value : String}

theorem jsonGetString_of_after (h : after (jsonPattern key) json = some (between ++ '"' :: (inner ++ '"' :: back)))
    (hbetween : '"' ∉ between) (hinner : '"' ∉ inner) : jsonGetString json key = some (String.ofList inner) := by
  have hdrop : (between ++ '"' :: (inner ++ '"' :: back)).drop (between.length + 1) = inner ++ '"' :: back := by
    rw [← List.singleton_append, ← List.append_assoc, ← List.length_singleton (a := '"'), ← List.length_append,
      List.drop_left]
  unfold jsonGetString
  rw [h, Option.bind_some, position_append hbetween, Option.bind_some]
  dsimp only
  rw [hdrop, position_append hinner, Option.map_some, List.take_left]

theorem jsonGetString_eq_some_iff : jsonGetString json key = some value ↔ Field json key value := by
  constructor
  · intro h
    obtain ⟨rest, hrest, h⟩ := Option.bind_eq_some_iff.1 h
    obtain ⟨q1, hq1, h⟩ := Option.bind_eq_some_iff.1 h
    obtain ⟨q2, hq2, rfl⟩ := Option.map_eq_some_iff.1 h
    obtain ⟨between, valuePart, rfl, hbetween, rfl⟩ := position_eq_some hq1
    have hdrop : (between ++ '"' :: valuePart).drop (between.length + 1) = valuePart := by
      rw [← List.singleton_append, ← List.append_assoc, ← List.length_singleton (a := '"'), ← List.length_append,
        List.drop_left]
    rw [hdrop] at hq2 ⊢
    obtain ⟨value, back, rfl, hvalue, rfl⟩ := position_eq_some hq2
    rw [List.take_left]
    refine ⟨between, back, ?_, hbetween, ?_⟩
    · rw [String.toList_ofList]
      exact after_eq_some_iff.1 hrest
    · rwa [String.toList_ofList]
  · rintro ⟨between, back, hfollows, hbetween, hvalue⟩
    rw [jsonGetString_of_after (after_eq_some_iff.2 hfollows) hbetween hvalue, String.ofList_toList]

/-- The first closing bracket stands in front of the first opening one. -/
def Crossed (rest : List Char) : Prop :=
  ∃ front between back, rest = front ++ ']' :: (between ++ '[' :: back) ∧ '[' ∉ front ∧ ']' ∉ front ∧ '[' ∉ between

/-- How brackets may stand. -/
theorem brackets_cases (rest : List Char) :
    ('[' ∉ rest ∨ ']' ∉ rest) ∨ (∃ inner, Bracketed rest inner) ∨ Crossed rest := by
  by_cases hopen : '[' ∈ rest
  swap
  · exact .inl (.inl hopen)
  by_cases hclose : ']' ∈ rest
  swap
  · exact .inl (.inr hclose)
  right
  obtain ⟨front, back, rfl, hfront⟩ := List.eq_append_cons_of_mem hclose
  by_cases hfirst : '[' ∈ front
  · obtain ⟨before, inner, rfl, hbefore⟩ := List.eq_append_cons_of_mem hfirst
    simp only [List.mem_append, List.mem_cons, not_or] at hfront
    exact .inl ⟨inner, before, back, by simp, hbefore, hfront.1, hfront.2.2⟩
  · have hback : '[' ∈ back := by simpa [hfirst] using hopen
    obtain ⟨between, back, rfl, hbetween⟩ := List.eq_append_cons_of_mem hback
    exact .inr ⟨front, between, back, rfl, hfirst, hfront, hbetween⟩

theorem inBrackets_of_missing (h : '[' ∉ rest ∨ ']' ∉ rest) : inBrackets rest = .ok none := by
  unfold inBrackets
  rcases h with h | h
  · rw [position_eq_none.2 h]
  · rw [position_eq_none.2 h]
    cases position '[' rest <;> rfl

theorem inBrackets_of_bracketed (h : Bracketed rest inner) : inBrackets rest = .ok (some inner) := by
  obtain ⟨front, back, rfl, hopen, hclose, hinner⟩ := h
  have hat : front ++ '[' :: (inner ++ ']' :: back) = (front ++ '[' :: inner) ++ ']' :: back := by simp
  have hclosed : ']' ∉ front ++ '[' :: inner := by simp [hclose, hinner]
  unfold inBrackets
  rw [position_append hopen, hat, position_append hclosed]
  dsimp only
  rw [sliceBetween, if_pos (by simp), List.take_left, ← List.singleton_append, ← List.append_assoc,
    ← List.length_singleton (a := '['), ← List.length_append, List.drop_left]
  rfl

theorem inBrackets_of_crossed (h : Crossed rest) : inBrackets rest = .panic := by
  obtain ⟨front, between, back, rfl, hopen, hclose, hbetween⟩ := h
  have hat : front ++ ']' :: (between ++ '[' :: back) = (front ++ ']' :: between) ++ '[' :: back := by simp
  unfold inBrackets
  rw [position_append hclose, hat, position_append (by simp [hopen, hbetween])]
  dsimp only
  rw [sliceBetween, if_neg (by simp)]
  rfl

/-- The slice panics where brackets are not in order. -/
theorem inBrackets_panic_iff : inBrackets rest = .panic ↔ ¬Ordered rest := by
  rcases brackets_cases rest with h | ⟨inner, h⟩ | h
  · rw [inBrackets_of_missing h]
    refine iff_of_false (by simp) (not_not.2 ?_)
    rintro front back rfl _ hback
    simp [hback] at h
  · rw [inBrackets_of_bracketed h]
    refine iff_of_false (by simp) (not_not.2 ?_)
    intro front' back' hsplit hopen' hback
    obtain ⟨front, back, rfl, hopen, hclose, -⟩ := h
    obtain ⟨between, back', rfl, hbetween⟩ := List.eq_append_cons_of_mem hback
    have hat : front' ++ ']' :: (between ++ '[' :: back') = (front' ++ ']' :: between) ++ '[' :: back' := by simp
    rw [hat] at hsplit
    obtain ⟨rfl, -⟩ := append_cons_inj hopen (by simp [hopen', hbetween]) hsplit
    simp at hclose
  · rw [inBrackets_of_crossed h]
    refine iff_of_true rfl ?_
    obtain ⟨front, between, back, rfl, hopen, -, -⟩ := h
    intro hordered
    exact hordered front _ rfl hopen (List.mem_append_right _ List.mem_cons_self)

theorem jsonGetInner_panic_iff :
    jsonGetInner json key = .panic ↔ ∃ rest, Follows (jsonPattern key) json rest ∧ ¬Ordered rest := by
  unfold jsonGetInner
  simp only [← after_eq_some_iff, ← inBrackets_panic_iff]
  cases after (jsonPattern key) json <;> simp

theorem jsonGetInner_eq_some_iff :
    jsonGetInner json key = .ok (some inner) ↔ ∃ rest, Follows (jsonPattern key) json rest ∧ Bracketed rest inner := by
  constructor
  · intro h
    unfold jsonGetInner at h
    split at h
    · cases h
    · rename_i rest hrest
      refine ⟨rest, after_eq_some_iff.1 hrest, ?_⟩
      rcases brackets_cases rest with hnone | ⟨found, hfound⟩ | hcrossed
      · rw [inBrackets_of_missing hnone] at h
        cases h
      · rw [inBrackets_of_bracketed hfound] at h
        cases h
        exact hfound
      · rw [inBrackets_of_crossed hcrossed] at h
        cases h
  · rintro ⟨rest, hfollows, hinner⟩
    rw [jsonGetInner, after_eq_some_iff.2 hfollows]
    exact inBrackets_of_bracketed hinner

/-! ## Damaged files -/

/-- Both files can be read without a panic: the id of the node is not cut inside a character; where it is one, the
brackets of the contacts are in order, and so is the id of each entry that has an address; and the brackets of the
nodes to start from are in order. -/
structure Undamaged (state config : String) : Prop where
  nodeId : ∀ hex, Field state.toList "node_id" hex → ¬CutsId hex
  contacts : ∀ hex id, Field state.toList "node_id" hex → NodeId.fromHex hex = .ok id → ∀ rest,
    Follows (jsonPattern "contacts") state.toList rest → Ordered rest ∧ ∀ inner, Bracketed rest inner →
      ∀ block ∈ inner.splitOnP (· = '\x7d'), ∀ idHex addr, Field block "id" idHex → Field block "addr" addr →
        ¬CutsId idHex
  bootstrap : ∀ rest, Follows (jsonPattern "bootstrap") config.toList rest → Ordered rest

/-- The node is started: both files are read, or reading them fails, and then there is a new id. -/
structure Survives (state config : String) : Prop where
  load : loadState (.ok state) ≠ .panic
  config : NodeConfig.fromJsonStr config ≠ .panic
  identity : ∀ random, ∃ restored, loadOrCreateIdentity (some (.ok state)) random = .ok restored ∧
    ∀ e, loadState (.ok state) = .err e → restored = (random, [])

theorem fromJsonStr_panic_iff {config : String} : NodeConfig.fromJsonStr config = .panic ↔
    ∃ rest, Follows (jsonPattern "bootstrap") config.toList rest ∧ ¬Ordered rest := by
  rw [← jsonGetInner_panic_iff]
  unfold NodeConfig.fromJsonStr jsonGetArrayStrings
  dsimp only
  rw [Outcome.map_eq_panic, Outcome.map_eq_panic]

theorem restoreContacts_panic_iff : ∀ {entries : List (String × String)},
    restoreContacts entries = .panic ↔ ∃ e ∈ entries, CutsId e.1
  | [] => by simp [restoreContacts]
  | (idHex, addrStr) :: entries => by
    have ih := @restoreContacts_panic_iff entries
    rw [restoreContacts, List.exists_mem_cons_iff, ← ih, ← NodeId.fromHex_eq_panic]
    cases NodeId.fromHex idHex with
    | panic => simp
    | err e => simp
    | ok id =>
      cases StdSocketAddr.parse addrStr with
      | none => simp
      | some addr => simp [Outcome.map_eq_panic]

theorem contactFields_eq_some {block : List Char} {e : String × String} :
    contactFields block = some e ↔ Field block "id" e.1 ∧ Field block "addr" e.2 := by
  obtain ⟨id, addr⟩ := e
  rw [← jsonGetString_eq_some_iff, ← jsonGetString_eq_some_iff]
  unfold contactFields
  cases jsonGetString block "id" <;> cases jsonGetString block "addr" <;> simp

/-- Reading the contacts panics at the brackets or at an id. -/
theorem contacts_panic_iff :
    ((jsonGetContactsArray json).bind fun entries => restoreContacts (entries.getD [])) = .panic ↔
      ∃ rest, Follows (jsonPattern "contacts") json rest ∧ (¬Ordered rest ∨ ∃ inner, Bracketed rest inner ∧
        ∃ block ∈ inner.splitOnP (· = '\x7d'), ∃ idHex addr, Field block "id" idHex ∧ Field block "addr" addr ∧
          CutsId idHex) := by
  unfold jsonGetContactsArray
  rw [Outcome.bind_eq_panic, Outcome.map_eq_panic, jsonGetInner_panic_iff]
  constructor
  · rintro (⟨rest, hfollows, hnot⟩ | ⟨entries, hentries, hpanic⟩)
    · exact ⟨rest, hfollows, .inl hnot⟩
    · obtain ⟨found, hfound, rfl⟩ := Outcome.map_eq_ok.1 hentries
      cases found with
      | none => cases hpanic
      | some inner =>
        obtain ⟨rest, hfollows, hinner⟩ := jsonGetInner_eq_some_iff.1 hfound
        obtain ⟨e, he, hcuts⟩ := restoreContacts_panic_iff.1 hpanic
        obtain ⟨block, hblock, hfields⟩ := List.mem_filterMap.1 he
        obtain ⟨hid, haddr⟩ := contactFields_eq_some.1 hfields
        exact ⟨rest, hfollows, .inr ⟨inner, hinner, block, hblock, e.1, e.2, hid, haddr, hcuts⟩⟩
  · rintro ⟨rest, hfollows, hnot | ⟨inner, hinner, block, hblock, idHex, addr, hid, haddr, hcuts⟩⟩
    · exact .inl ⟨rest, hfollows, hnot⟩
    · refine .inr ⟨_, Outcome.map_eq_ok.2 ⟨_, jsonGetInner_eq_some_iff.2 ⟨rest, hfollows, hinner⟩, rfl⟩, ?_⟩
      refine restoreContacts_panic_iff.2 ⟨(idHex, addr), ?_, hcuts⟩
      exact List.mem_filterMap.2 ⟨block, hblock, contactFields_eq_some.2 ⟨hid, haddr⟩⟩

theorem loadState_panic_iff {state : String} : loadState (.ok state) = .panic ↔
    ∃ hex, Field state.toList "node_id" hex ∧ (CutsId hex ∨ ∃ id, NodeId.fromHex hex = .ok id ∧
      ((jsonGetContactsArray state.toList).bind fun entries => restoreContacts (entries.getD [])) = .panic) := by
  simp only [← jsonGetString_eq_some_iff, ← NodeId.fromHex_eq_panic]
  unfold loadState
  dsimp only
  cases jsonGetString state.toList "node_id" with
  | none => simp
  | some hex =>
    simp only [Option.some.injEq, exists_eq_left', Outcome.bind_eq_panic, Outcome.mapErr_eq_panic,
      Outcome.mapErr_eq_ok, Outcome.map_eq_panic]

/-- A node survives its files exactly when they are not damaged in such a way. -/
theorem survives_iff (state config : String) : Survives state config ↔ Undamaged state config := by
  constructor
  · intro h
    have hload := mt loadState_panic_iff.2 h.load
    refine ⟨?_, ?_, ?_⟩
    · intro hex hfield hcuts
      exact hload ⟨hex, hfield, .inl hcuts⟩
    · intro hex id hfield hid rest hfollows
      have hcontacts := fun hpanic => hload ⟨hex, hfield, .inr ⟨id, hid, contacts_panic_iff.2 hpanic⟩⟩
      constructor
      · by_contra hnot
        exact hcontacts ⟨rest, hfollows, .inl hnot⟩
      · intro inner hinner block hblock idHex addr hidHex haddr hcuts
        exact hcontacts ⟨rest, hfollows, .inr ⟨inner, hinner, block, hblock, idHex, addr, hidHex, haddr, hcuts⟩⟩
    · intro rest hfollows
      by_contra hnot
      exact h.config (fromJsonStr_panic_iff.2 ⟨rest, hfollows, hnot⟩)
  · intro h
    have hload : loadState (.ok state) ≠ .panic := by
      rw [Ne, loadState_panic_iff]
      rintro ⟨hex, hfield, hcuts | ⟨id, hid, hpanic⟩⟩
      · exact h.nodeId hex hfield hcuts
      · obtain ⟨rest, hfollows, hrest⟩ := contacts_panic_iff.1 hpanic
        obtain ⟨hordered, hblocks⟩ := h.contacts hex id hfield hid rest hfollows
        rcases hrest with hnot | ⟨inner, hinner, block, hblock, idHex, addr, hidHex, haddr, hcuts⟩
        · exact hnot hordered
        · exact hblocks inner hinner block hblock idHex addr hidHex haddr hcuts
    refine ⟨hload, ?_, ?_⟩
    · rw [Ne, fromJsonStr_panic_iff]
      rintro ⟨rest, hfollows, hnot⟩
      exact hnot (h.bootstrap rest hfollows)
    · intro random
      unfold loadOrCreateIdentity
      dsimp only
      cases hread : loadState (.ok state) with
      | ok restored => exact ⟨restored, rfl, fun e h => by cases h⟩
      | err e => exact ⟨_, rfl, fun _ _ => rfl⟩
      | panic => exact absurd hread hload

/-- A state file in which the brackets of the contacts have changed places. -/
theorem survives_crossed : ¬Survives "\x7b\"node_id\":\"0000000000000000000000000000000000000000\",\"contacts\":]["
    "\x7b\x7d" := by
  intro h
  exact h.load (by decide +kernel)

/-! ## What is saved is loaded -/

def isV4 : StdSocketAddr → Bool
  | .v4 _ _ => true
  | .v6 _ _ _ _ => false

/-- What stands in front of a contact in the list. -/
structure Clear (front : List Char) : Prop where
  quote : '"' ∉ front
  colon : ':' ∉ front
  bracket : ']' ∉ front
  brace : '\x7d' ∉ front

/-- The text of a contact up to its address. -/
def blockText (front : List Char) (id : NodeId) (addr : List Char) : List Char :=
  front ++ ['\x7b', '"', 'i', 'd', '"', ':', ' ', '"'] ++ id.toHex.toList ++
    ['"', ',', ' ', '"', 'a', 'd', 'd', 'r', '"', ':', ' ', '"'] ++ addr

variable {front addr : List Char} {id : NodeId}

theorem hexDigit_ne {c : Char} (hc : ∀ n : Fin 256, hexDigit (UInt8.ofNat n >>> 4) ≠ c ∧
    hexDigit (UInt8.ofNat n &&& 15) ≠ c) (b : UInt8) : hexDigit (b >>> 4) ≠ c ∧ hexDigit (b &&& 15) ≠ c :=
  forall_uint8 (p := fun b => hexDigit (b >>> 4) ≠ c ∧ hexDigit (b &&& 15) ≠ c) hc b

/-- What is no hex digit stands in no id. -/
theorem not_mem_toHex {c : Char} (hc : ∀ n : Fin 256, hexDigit (UInt8.ofNat n >>> 4) ≠ c ∧
    hexDigit (UInt8.ofNat n &&& 15) ≠ c) (id : NodeId) : c ∉ id.toHex.toList := by
  unfold NodeId.toHex hexString
  rw [String.toList_ofList]
  intro h
  obtain ⟨b, -, hb⟩ := List.mem_flatMap.1 h
  simp only [List.mem_cons, List.not_mem_nil, or_false] at hb
  rcases hb with hb | hb
  · exact (hexDigit_ne hc b).1 hb.symm
  · exact (hexDigit_ne hc b).2 hb.symm

theorem clear_toHex (id : NodeId) : Clear id.toHex.toList where
  quote := not_mem_toHex (by decide +kernel) id
  colon := not_mem_toHex (by decide +kernel) id
  bracket := not_mem_toHex (by decide +kernel) id
  brace := not_mem_toHex (by decide +kernel) id

theorem jsonGetString_id (hfront : Clear front) (addr : List Char) :
    jsonGetString (blockText front id addr) "id" = some id.toHex := by
  have hquote : '"' ∉ front ++ ['\x7b'] := by simp [hfront.quote]
  have hafter : after (jsonPattern "id") (blockText front id addr) = some ([' '] ++ '"' :: (id.toHex.toList ++ '"' ::
      ([',', ' ', '"', 'a', 'd', 'd', 'r', '"', ':', ' ', '"'] ++ addr))) := by
    rw [← after_of_not_mem hquote]
    refine congrArg₂ _ rfl ?_
    simp [blockText]
  rw [jsonGetString_of_after hafter (by decide) (clear_toHex id).quote, String.ofList_toList]

/-- The key of the address is found behind the id. -/
theorem after_addr (hfront : Clear front) (id : NodeId) (addr : List Char) :
    after (jsonPattern "addr") (blockText front id addr) = some (' ' :: '"' :: addr) := by
  have hid : ':' ∉ front ++ ['\x7b', '"', 'i', 'd', '"'] := by simp [hfront.colon]
  have hhex : ':' ∉ [' ', '"'] ++ id.toHex.toList ++ ['"', ',', ' '] := by simp [(clear_toHex id).colon]
  have hnot : ¬['"', 'a', 'd', 'd', 'r', '"'] <:+ front ++ ['\x7b', '"', 'i', 'd', '"'] := by
    intro h
    have hrev := List.reverse_prefix.2 h
    simp at hrev
  have hafter := @after_concat _ _ ':' _ (' ' :: '"' :: addr) _ _ hid hhex (by decide) hnot
  rw [← hafter]
  refine congrArg₂ _ rfl ?_
  simp [blockText]

theorem jsonGetString_addr (hfront : Clear front) (haddr : '"' ∉ addr) (back : List Char) :
    jsonGetString (blockText front id (addr ++ '"' :: back)) "addr" = some (String.ofList addr) :=
  @jsonGetString_of_after _ [' '] _ _ _ (after_addr hfront id _) (by decide) haddr

/-- An address that is cut off has no end. -/
theorem jsonGetString_addr_cut (hfront : Clear front) (haddr : '"' ∉ addr) :
    jsonGetString (blockText front id addr) "addr" = none := by
  have hfirst : position '"' (' ' :: '"' :: addr) = some 1 :=
    @position_append _ _ _ [' '] _ (by decide)
  unfold jsonGetString
  rw [after_addr hfront, Option.bind_some, hfirst, Option.bind_some]
  dsimp only
  rw [List.drop_succ_cons, List.drop_succ_cons, List.drop_zero, position_eq_none.2 haddr]
  rfl

/-- An address as far as the list goes that it stands in: an IPv6 address ends it. -/
def shownAddr : StdSocketAddr → List Char
  | .v4 o port => (StdSocketAddr.v4 o port).display.toList ++ ['"']
  | .v6 o _ _ scopeId => '[' :: StdSocketAddr.host o scopeId

/-- What the reader makes of the list: the blocks that it is split into. -/
def blocks : List Char → List StateContact → List (List Char)
  | front, [] => [front ++ ['\n', ' ', ' ']]
  | front, c :: contacts =>
    if isV4 c.addr then
      blockText front c.id (shownAddr c.addr) ::
        blocks (if contacts = [] then [] else [',', '\n', ' ', ' ', ' ', ' ']) contacts
    else [blockText front c.id (shownAddr c.addr)]

/-- The list as it is written, up to the end of the file. -/
def listText (front : List Char) (contacts : List StateContact) : List Char :=
  front ++ [',', '\n', ' ', ' ', ' ', ' '].intercalate (contacts.map fun c => (contactJson c).toList) ++
    ['\n', ' ', ' ', ']', '\n', '\x7d']

theorem not_mem_display_v4 {c : Char} (hc : ∀ d : Fin 16, Nat.digitChar d ≠ c) (hdot : c ≠ '.') (hcolon : c ≠ ':')
    (o : Vector UInt8 4) (port : UInt16) : c ∉ (StdSocketAddr.v4 o port).display.toList := by
  rw [StdSocketAddr.toList_display_v4]
  intro h
  rcases List.mem_append.1 h with h | h
  · exact IpAddr.not_mem_dotted hc hdot o h
  · rcases List.mem_cons.1 h with h | h
    · exact hcolon h
    · exact not_mem_toString hc _ h

theorem toList_contactJson (front : List Char) (c : StateContact) : front ++ (contactJson c).toList =
    blockText front c.id (c.addr.display.toList ++ ['"', '\x7d']) := by
  simp [contactJson, blockText]

theorem blockText_append (front : List Char) (id : NodeId) (addr back : List Char) :
    blockText front id (addr ++ back) = blockText front id addr ++ back := by
  simp [blockText]

theorem blocks_ne_nil (front : List Char) (contacts : List StateContact) : blocks front contacts ≠ [] := by
  unfold blocks
  split
  · simp
  · split <;> simp

theorem listText_cons (front : List Char) (c : StateContact) (contacts : List StateContact) :
    listText front (c :: contacts) = blockText front c.id (c.addr.display.toList ++ ['"', '\x7d']) ++
      listText (if contacts = [] then [] else [',', '\n', ' ', ' ', ' ', ' ']) contacts := by
  rw [← toList_contactJson]
  cases contacts with
  | nil => simp [listText]
  | cons c' contacts => simp [listText, List.intercalate_cons_cons]

/-- What is written is joined of the blocks, up to the bracket that ends the list for the reader. -/
theorem listText_eq : ∀ (front : List Char) (contacts : List StateContact),
    ∃ back, listText front contacts = ['\x7d'].intercalate (blocks front contacts) ++ ']' :: back
  | front, [] => ⟨['\n', '\x7d'], by simp [listText, blocks]⟩
  | front, c :: contacts => by
    obtain ⟨back, hback⟩ := listText_eq (if contacts = [] then [] else [',', '\n', ' ', ' ', ' ', ' ']) contacts
    rw [listText_cons, blocks]
    cases haddr : c.addr with
    | v4 o port =>
      refine ⟨back, ?_⟩
      have hend : (StdSocketAddr.v4 o port).display.toList ++ ['"', '\x7d'] =
          shownAddr (.v4 o port) ++ ['\x7d'] := by simp [shownAddr]
      rw [if_pos (show isV4 (.v4 o port) = true from rfl), hend, blockText_append, hback,
        List.intercalate_cons_of_ne_nil (blocks_ne_nil _ _)]
      simp
    | v6 o port flowinfo scopeId =>
      have hend : (StdSocketAddr.v6 o port flowinfo scopeId).display.toList ++ ['"', '\x7d'] =
          shownAddr (.v6 o port flowinfo scopeId) ++ (']' :: ':' :: (toString port.toNat).toList ++ ['"', '\x7d']) := by
        rw [StdSocketAddr.toList_display_v6]
        simp [shownAddr]
      rw [if_neg (show ¬isV4 (.v6 o port flowinfo scopeId) = true by simp [isV4]), hend, blockText_append,
        List.intercalate_singleton, List.append_assoc]
      exact ⟨_, rfl⟩

theorem clear_separator (contacts : List StateContact) :
    Clear (if contacts = [] then [] else [',', '\n', ' ', ' ', ' ', ' ']) := by
  split
  · constructor <;> simp
  · constructor <;> decide

theorem not_mem_shownAddr : ∀ addr : StdSocketAddr, ']' ∉ shownAddr addr ∧ '\x7d' ∉ shownAddr addr
  | .v4 o port => by
    have hbracket : ']' ∉ (StdSocketAddr.v4 o port).display.toList :=
      not_mem_display_v4 (by decide) (by decide) (by decide) o port
    have hbrace : '\x7d' ∉ (StdSocketAddr.v4 o port).display.toList :=
      not_mem_display_v4 (by decide) (by decide) (by decide) o port
    simp [shownAddr, hbracket, hbrace]
  | .v6 o port flowinfo scopeId => by
    have hbracket : ']' ∉ StdSocketAddr.host o scopeId :=
      StdSocketAddr.not_mem_host (by decide) (by decide) (by decide) (by decide) o scopeId
    have hbrace : '\x7d' ∉ StdSocketAddr.host o scopeId :=
      StdSocketAddr.not_mem_host (by decide) (by decide) (by decide) (by decide) o scopeId
    simp [shownAddr, hbracket, hbrace]

/-- The blocks have neither the bracket nor the brace. -/
theorem not_mem_blocks : ∀ {front : List Char} (contacts : List StateContact), Clear front →
    ∀ block ∈ blocks front contacts, ']' ∉ block ∧ '\x7d' ∉ block
  | front, [], hfront, block, hblock => by
    rw [blocks, List.mem_singleton] at hblock
    rw [hblock]
    simp [hfront.bracket, hfront.brace]
  | front, c :: contacts, hfront, block, hblock => by
    have hhex := clear_toHex c.id
    have haddr := not_mem_shownAddr c.addr
    have hfirst : ']' ∉ blockText front c.id (shownAddr c.addr) ∧ '\x7d' ∉ blockText front c.id (shownAddr c.addr) := by
      unfold blockText
      simp [hfront.bracket, hfront.brace, hhex.bracket, hhex.brace, haddr]
    rw [blocks] at hblock
    split at hblock
    · rcases List.mem_cons.1 hblock with rfl | hblock
      · exact hfirst
      · exact not_mem_blocks contacts (clear_separator contacts) block hblock
    · rw [List.mem_singleton.1 hblock]
      exact hfirst

/-- The contacts that the blocks give. -/
theorem filterMap_blocks : ∀ {front : List Char} (contacts : List StateContact), Clear front →
    (blocks front contacts).filterMap contactFields =
      (contacts.takeWhile fun c => isV4 c.addr).map fun c => (c.id.toHex, c.addr.display)
  | front, [], hfront => by
    have hnone : contactFields (front ++ ['\n', ' ', ' ']) = none := by
      have hquote : '"' ∉ front ++ ['\n', ' ', ' '] := by simp [hfront.quote]
      unfold contactFields jsonGetString jsonPattern
      rw [after_eq_none hquote]
      rfl
    simp [blocks, hnone]
  | front, c :: contacts, hfront => by
    have hid := fun addr => @jsonGetString_id front c.id hfront addr
    cases haddr : c.addr with
    | v4 o port =>
      have hquote : '"' ∉ (StdSocketAddr.v4 o port).display.toList :=
        not_mem_display_v4 (by decide) (by decide) (by decide) o port
      have hfields : contactFields (blockText front c.id (shownAddr c.addr)) = some (c.id.toHex, c.addr.display) := by
        unfold contactFields
        rw [hid, haddr, shownAddr, jsonGetString_addr hfront hquote, String.ofList_toList]
        rfl
      have hv4 : isV4 c.addr = true := by rw [haddr]; rfl
      rw [blocks, if_pos hv4, List.filterMap_cons_some hfields, filterMap_blocks contacts (clear_separator contacts)]
      simp [hv4]
    | v6 o port flowinfo scopeId =>
      have hquote : '"' ∉ '[' :: StdSocketAddr.host o scopeId := by
        rw [List.mem_cons, not_or]
        exact ⟨by decide, StdSocketAddr.not_mem_host (by decide) (by decide) (by decide) (by decide) o scopeId⟩
      have hfields : contactFields (blockText front c.id (shownAddr c.addr)) = none := by
        unfold contactFields
        rw [haddr, shownAddr, jsonGetString_addr_cut hfront hquote]
        cases jsonGetString (blockText front c.id ('[' :: StdSocketAddr.host o scopeId)) "id" <;> rfl
      have hv6 : ¬isV4 c.addr = true := by rw [haddr]; simp [isV4]
      rw [blocks, if_neg hv6, List.filterMap_cons_none hfields]
      simp [hv6]

theorem restoreContacts_v4 : ∀ {contacts : List StateContact}, (∀ c ∈ contacts, isV4 c.addr = true) →
    restoreContacts (contacts.map fun c => (c.id.toHex, c.addr.display)) = .ok contacts
  | [], _ => rfl
  | c :: contacts, h => by
    obtain ⟨hc, hcontacts⟩ := List.forall_mem_cons.1 h
    have hparse : StdSocketAddr.parse c.addr.display = some c.addr := by
      cases haddr : c.addr with
      | v4 o port => exact StdSocketAddr.parse_display_v4 o port
      | v6 o port flowinfo scopeId =>
        rw [haddr] at hc
        cases hc
    rw [List.map_cons, restoreContacts, NodeId.fromHex_toHex]
    simp only [hparse, restoreContacts_v4 hcontacts, Outcome.map]

theorem toList_saveState (nodeId : NodeId) (contacts : List StateContact) : (saveState nodeId contacts).toList =
    ['\x7b', '\n', ' ', ' ', '"', 'n', 'o', 'd', 'e', '_', 'i', 'd', '"', ':', ' ', '"'] ++ nodeId.toHex.toList ++
      ['"', ',', '\n', ' ', ' ', '"', 'c', 'o', 'n', 't', 'a', 'c', 't', 's', '"', ':', ' ', '['] ++
        listText ['\n', ' ', ' ', ' ', ' '] contacts := by
  have hid : "\x7b\n  \"node_id\": \"".toList =
      ['\x7b', '\n', ' ', ' ', '"', 'n', 'o', 'd', 'e', '_', 'i', 'd', '"', ':', ' ', '"'] := rfl
  have hlist : "\",\n  \"contacts\": [\n    ".toList = ['"', ',', '\n', ' ', ' ', '"', 'c', 'o', 'n', 't', 'a', 'c',
      't', 's', '"', ':', ' ', '['] ++ ['\n', ' ', ' ', ' ', ' '] := rfl
  have hsep : ",\n    ".toList = [',', '\n', ' ', ' ', ' ', ' '] := rfl
  have hend : "\n  ]\n\x7d".toList = ['\n', ' ', ' ', ']', '\n', '\x7d'] := rfl
  have hmap : (contacts.map contactJson).map String.toList = contacts.map fun c => (contactJson c).toList :=
    List.map_map
  unfold saveState listText
  rw [String.toList_append, String.toList_append, String.toList_append, String.toList_append,
    String.toList_intercalate, hid, hlist, hsep, hend, hmap]
  simp only [List.append_assoc]

/-- The list of the contacts, as the reader sees it. -/
theorem jsonGetInner_saveState (nodeId : NodeId) (contacts : List StateContact) :
    jsonGetInner (saveState nodeId contacts).toList "contacts" =
      .ok (some (['\x7d'].intercalate (blocks ['\n', ' ', ' ', ' ', ' '] contacts))) := by
  have hclear : Clear ['\n', ' ', ' ', ' ', ' '] := by constructor <;> decide
  obtain ⟨back, hback⟩ := listText_eq ['\n', ' ', ' ', ' ', ' '] contacts
  have hid : ':' ∉ ['\x7b', '\n', ' ', ' ', '"', 'n', 'o', 'd', 'e', '_', 'i', 'd', '"'] := by decide
  have hhex : ':' ∉ [' ', '"'] ++ nodeId.toHex.toList ++ ['"', ',', '\n', ' ', ' '] := by
    simp [(clear_toHex nodeId).colon]
  have hnot : ¬['"', 'c', 'o', 'n', 't', 'a', 'c', 't', 's', '"'] <:+
      ['\x7b', '\n', ' ', ' ', '"', 'n', 'o', 'd', 'e', '_', 'i', 'd', '"'] := by decide
  have hafter : after (jsonPattern "contacts") (saveState nodeId contacts).toList =
      some (' ' :: '[' :: listText ['\n', ' ', ' ', ' ', ' '] contacts) := by
    have hconcat := @after_concat _ _ ':' _ (' ' :: '[' :: listText ['\n', ' ', ' ', ' ', ' '] contacts) _ _ hid hhex
      (by decide) hnot
    rw [← hconcat]
    refine congrArg₂ _ rfl ?_
    rw [toList_saveState]
    simp
  have hbracket : ']' ∉ ['\x7d'].intercalate (blocks ['\n', ' ', ' ', ' ', ' '] contacts) := by
    intro h
    rcases mem_intercalate h with h | ⟨block, hblock, h⟩
    · exact absurd h (by decide)
    · exact (not_mem_blocks contacts hclear block hblock).1 h
  unfold jsonGetInner
  rw [hafter]
  refine inBrackets_of_bracketed ⟨[' '], back, ?_, by decide, by decide, hbracket⟩
  rw [hback]
  rfl

theorem jsonGetString_saveState (nodeId : NodeId) (contacts : List StateContact) :
    jsonGetString (saveState nodeId contacts).toList "node_id" = some nodeId.toHex := by
  have hquote : '"' ∉ ['\x7b', '\n', ' ', ' '] := by decide
  have hafter : after (jsonPattern "node_id") (saveState nodeId contacts).toList =
      some ([' '] ++ '"' :: (nodeId.toHex.toList ++ '"' :: ([',', '\n', ' ', ' ', '"', 'c', 'o', 'n', 't', 'a', 'c',
        't', 's', '"', ':', ' ', '['] ++ listText ['\n', ' ', ' ', ' ', ' '] contacts))) := by
    rw [← after_of_not_mem hquote]
    refine congrArg₂ _ rfl ?_
    rw [toList_saveState]
    simp
  rw [jsonGetString_of_after hafter (by decide) (clear_toHex nodeId).quote, String.ofList_toList]

/-- What is loaded of a file that was saved: the contacts in front of the first with an IPv6 address. -/
theorem loadState_saved (nodeId : NodeId) (contacts : List StateContact) :
    loadState (.ok (saveState nodeId contacts)) = .ok (nodeId, contacts.takeWhile fun c => isV4 c.addr) := by
  have hclear : Clear ['\n', ' ', ' ', ' ', ' '] := by constructor <;> decide
  have hsplit : (['\x7d'].intercalate (blocks ['\n', ' ', ' ', ' ', ' '] contacts)).splitOnP (· = '\x7d') =
      blocks ['\n', ' ', ' ', ' ', ' '] contacts := by
    refine splitOnP_intercalate (by decide) (fun block hblock x hx => ?_) (blocks_ne_nil _ _)
    refine decide_eq_false fun hbrace => ?_
    exact (not_mem_blocks contacts hclear block hblock).2 (hbrace ▸ hx)
  have hfields : jsonGetContactsArray (saveState nodeId contacts).toList =
      .ok (some ((contacts.takeWhile fun c => isV4 c.addr).map fun c => (c.id.toHex, c.addr.display))) := by
    unfold jsonGetContactsArray
    rw [jsonGetInner_saveState, Outcome.map, Option.map_some, hsplit, filterMap_blocks contacts hclear]
  have hrestored := @restoreContacts_v4 (contacts.takeWhile fun c => isV4 c.addr) fun c hc =>
    List.mem_takeWhile_imp (p := fun c : StateContact => isV4 c.addr) hc
  unfold loadState
  dsimp only
  rw [jsonGetString_saveState]
  dsimp only
  rw [NodeId.fromHex_toHex, hfields]
  simp only [Outcome.mapErr, Outcome.bind, Outcome.map, Option.getD_some, hrestored]

/-- The state comes back from its file exactly when no contact has an IPv6 address. -/
theorem loadState_saveState_iff (nodeId : NodeId) (contacts : List StateContact) :
    loadState (.ok (saveState nodeId contacts)) = .ok (nodeId, contacts) ↔ ∀ c ∈ contacts, isV4 c.addr = true := by
  rw [loadState_saved, Outcome.ok.injEq, Prod.mk.injEq, and_iff_right rfl, List.takeWhile_eq_self_iff]

theorem length_zeros : (List.replicate 20 (0 : UInt8)).length = 20 := List.length_replicate

/-- A node seen at `[::1]:8001`. -/
def seenAtV6 : StateContact where
  id := ⟨List.replicate 20 0, length_zeros⟩
  addr := .v6 #v[0, 0, 0, 0, 0, 0, 0, 0, 0, 0, 0, 0, 0, 0, 0, 1] 8001 0 0

/-- It is saved, and no contact is loaded. -/
theorem loadState_seenAtV6 :
    loadState (.ok (saveState seenAtV6.id [seenAtV6])) ≠ .ok (seenAtV6.id, [seenAtV6]) := by
  rw [loadState_saved]
  intro h
  simp [seenAtV6, isV4] at h

end NodeX.Kad
