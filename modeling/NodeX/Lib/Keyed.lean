/-
Lists read through a key: the first entry with a key is the entry stored under it. Replacing in
place or appending (`upsert`), changing the first match (`modifyKey`), removing it (`eraseKey`)
and filtering, each with its effect on `lookupKey` and on the distinctness of the keys, and the
same operations through the place of the first match (`locate`).
-/
import Mathlib.Data.List.Nodup

namespace NodeX.Lib

variable {α κ : Type*} [DecidableEq κ] (key : α → κ)

/-! ## Definitions -/

/-- The first entry stored under `k`. -/
def lookupKey (k : κ) (l : List α) : Option α := l.find? fun x => key x = k

/-- Replace the first entry with `x`'s key by `x`, or append `x`. -/
def upsert (x : α) : List α → List α
  | [] => [x]
  | y :: l => if key y = key x then x :: l else y :: upsert x l

/-- Apply `f` to the first entry stored under `k`. -/
def modifyKey (k : κ) (f : α → α) : List α → List α
  | [] => []
  | y :: l => if key y = k then f y :: l else y :: modifyKey k f l

/-- Remove the first entry stored under `k`. -/
def eraseKey (k : κ) (l : List α) : List α := l.eraseP fun x => key x = k

/-- No key is stored twice. -/
def KeysNodup (l : List α) : Prop := (l.map key).Nodup

/-! ## Lookup -/

@[simp] theorem lookupKey_nil (k : κ) : lookupKey key k [] = none := rfl

theorem lookupKey_cons (k : κ) (y : α) (l : List α) :
    lookupKey key k (y :: l) = if key y = k then some y else lookupKey key k l := by
  unfold lookupKey
  rw [List.find?_cons]
  split <;> simp_all

theorem key_of_lookupKey {k : κ} {l : List α} {x : α} (h : lookupKey key k l = some x) : key x = k := by
  simpa using List.find?_some h

theorem mem_of_lookupKey {k : κ} {l : List α} {x : α} (h : lookupKey key k l = some x) : x ∈ l :=
  List.mem_of_find?_eq_some h

theorem lookupKey_eq_none {k : κ} {l : List α} : lookupKey key k l = none ↔ ∀ x ∈ l, key x ≠ k := by
  simp [lookupKey, List.find?_eq_none]

/-- With distinct keys, the entries are exactly what is stored under their keys. -/
theorem lookupKey_eq_some {k : κ} {l : List α} (hl : KeysNodup key l) {x : α} :
    lookupKey key k l = some x ↔ x ∈ l ∧ key x = k := by
  refine ⟨fun h => ⟨mem_of_lookupKey key h, key_of_lookupKey key h⟩, ?_⟩
  rintro ⟨hx, rfl⟩
  cases h : lookupKey key (key x) l with
  | none => exact absurd rfl ((lookupKey_eq_none key).1 h x hx)
  | some y =>
    have hy := List.inj_on_of_nodup_map hl (mem_of_lookupKey key h) hx (key_of_lookupKey key h)
    rw [hy]

/-! ## Upsert -/

theorem lookupKey_upsert (k : κ) (x : α) (l : List α) :
    lookupKey key k (upsert key x l) = if key x = k then some x else lookupKey key k l := by
  induction l with
  | nil => simp [upsert, lookupKey_cons]
  | cons y l ih =>
    unfold upsert
    split
    · rename_i hy
      simp only [lookupKey_cons, hy]
      split <;> rfl
    · rename_i hy
      simp only [lookupKey_cons, ih]
      split
      · rename_i hk
        rw [if_neg (fun hx => hy (hk.trans hx.symm))]
      · rfl

theorem mem_upsert {x z : α} {l : List α} (h : z ∈ upsert key x l) : z = x ∨ z ∈ l := by
  induction l with
  | nil => simpa [upsert] using h
  | cons y l ih =>
    unfold upsert at h
    split at h
    · rcases List.mem_cons.1 h with h | h
      · exact .inl h
      · exact .inr (List.mem_cons_of_mem _ h)
    · rcases List.mem_cons.1 h with rfl | h
      · exact .inr List.mem_cons_self
      · exact (ih h).imp id (List.mem_cons_of_mem _)

theorem keysNodup_upsert {l : List α} (hl : KeysNodup key l) (x : α) : KeysNodup key (upsert key x l) := by
  induction l with
  | nil => simp [KeysNodup, upsert]
  | cons y l ih =>
    obtain ⟨hy, hl⟩ := List.nodup_cons.1 hl
    unfold upsert
    split
    · rename_i hk
      exact List.nodup_cons.2 ⟨hk ▸ hy, hl⟩
    · rename_i hk
      refine List.nodup_cons.2 ⟨fun hm => ?_, ih hl⟩
      obtain ⟨z, hz, hzy⟩ := List.mem_map.1 hm
      rcases mem_upsert key hz with rfl | hz
      · exact hk hzy.symm
      · exact hy (List.mem_map.2 ⟨z, hz, hzy⟩)

theorem length_upsert_le (x : α) (l : List α) : (upsert key x l).length ≤ l.length + 1 := by
  induction l with
  | nil => simp [upsert]
  | cons y l ih =>
    unfold upsert
    split
    · simp
    · simpa using ih

/-- Storing under a key that is there keeps the keys. -/
theorem keys_upsert_of_some {x y : α} {l : List α} (h : lookupKey key (key x) l = some y) :
    (upsert key x l).map key = l.map key := by
  induction l with
  | nil => cases h
  | cons z l ih =>
    rw [lookupKey_cons] at h
    unfold upsert
    by_cases hz : key z = key x
    · rw [if_pos hz, List.map_cons, List.map_cons, hz]
    · rw [if_neg hz] at h ⊢
      rw [List.map_cons, List.map_cons, ih h]

/-- Storing under one key keeps the keys of two lists the same. -/
theorem map_upsert_congr {β : Type*} (key' : β → κ) {x : α} {y : β} (hxy : key x = key' y) :
    ∀ {l : List α} {m : List β}, l.map key = m.map key' → (upsert key x l).map key = (upsert key' y m).map key'
  | [], [], _ => by simp [upsert, hxy]
  | a :: l, b :: m, h => by
    obtain ⟨hab, hrest⟩ := List.cons.inj h
    unfold upsert
    rw [hab, hxy]
    split
    · simpa [hxy] using hrest
    · rw [List.map_cons, List.map_cons, hab, map_upsert_congr key' hxy hrest]

/-- Storing an entry changes nothing exactly if it is what is stored under its key. -/
theorem upsert_eq_self_iff (x : α) (l : List α) : upsert key x l = l ↔ lookupKey key (key x) l = some x := by
  induction l with
  | nil => simp [upsert]
  | cons y l ih =>
    unfold upsert
    rw [lookupKey_cons]
    split
    · rw [List.cons.injEq, and_iff_left rfl, Option.some_inj, eq_comm]
    · rw [List.cons.injEq, and_iff_right rfl, ih]

/-! ## Changing one entry -/

theorem lookupKey_modifyKey {f : α → α} (hf : ∀ x, key (f x) = key x) (k k' : κ) (l : List α) :
    lookupKey key k' (modifyKey key k f l) = if k = k' then (lookupKey key k' l).map f else lookupKey key k' l := by
  induction l with
  | nil => simp [modifyKey]
  | cons y l ih =>
    unfold modifyKey
    by_cases hk : key y = k
    · rw [if_pos hk, lookupKey_cons, lookupKey_cons, hf, hk]
      split <;> rfl
    · rw [if_neg hk, lookupKey_cons, lookupKey_cons, ih]
      by_cases hk' : key y = k'
      · rw [if_pos hk', if_pos hk', if_neg (fun h => hk (hk'.trans h.symm))]
      · rw [if_neg hk', if_neg hk']

theorem keys_modifyKey {f : α → α} (hf : ∀ x, key (f x) = key x) (k : κ) (l : List α) :
    (modifyKey key k f l).map key = l.map key := by
  induction l with
  | nil => rfl
  | cons y l ih =>
    unfold modifyKey
    split <;> simp [hf, ih]

theorem keysNodup_modifyKey {f : α → α} (hf : ∀ x, key (f x) = key x) (k : κ) {l : List α}
    (hl : KeysNodup key l) : KeysNodup key (modifyKey key k f l) := by
  unfold KeysNodup
  rw [keys_modifyKey key hf]
  exact hl

theorem lookupKey_map {f : α → α} (hf : ∀ x, key (f x) = key x) (k : κ) (l : List α) :
    lookupKey key k (l.map f) = (lookupKey key k l).map f := by
  induction l with
  | nil => rfl
  | cons y l ih =>
    rw [List.map_cons, lookupKey_cons, lookupKey_cons, hf, ih]
    split <;> rfl

omit [DecidableEq κ] in
theorem keysNodup_map {f : α → α} (hf : ∀ x, key (f x) = key x) {l : List α} (hl : KeysNodup key l) :
    KeysNodup key (l.map f) := by
  have hkeys : key ∘ f = key := funext hf
  unfold KeysNodup
  rw [List.map_map, hkeys]
  exact hl

theorem lookupKey_eraseKey {l : List α} (hl : KeysNodup key l) (k k' : κ) :
    lookupKey key k' (eraseKey key k l) = if k = k' then none else lookupKey key k' l := by
  induction l with
  | nil => simp [eraseKey]
  | cons y l ih =>
    obtain ⟨hy, hl⟩ := List.nodup_cons.1 hl
    unfold eraseKey at ih ⊢
    by_cases hk : key y = k
    · rw [List.eraseP_cons_of_pos (by simpa using hk), lookupKey_cons, hk]
      split
      · rename_i hkk
        rw [lookupKey_eq_none]
        intro x hx hxk
        exact hy (List.mem_map.2 ⟨x, hx, by rw [hxk, ← hkk, hk]⟩)
      · rfl
    · rw [List.eraseP_cons_of_neg (by simpa using hk), lookupKey_cons, lookupKey_cons, ih hl]
      by_cases hk' : key y = k'
      · rw [if_pos hk', if_pos hk', if_neg (fun h => hk (hk'.trans h.symm))]
      · rw [if_neg hk', if_neg hk']

theorem keysNodup_eraseKey {l : List α} (hl : KeysNodup key l) (k : κ) : KeysNodup key (eraseKey key k l) :=
  hl.sublist (List.eraseP_sublist.map key)

/-- Erasing takes one entry out. -/
theorem perm_eraseKey {k : κ} {l : List α} {x : α} (h : lookupKey key k l = some x) :
    l.Perm (x :: eraseKey key k l) := by
  induction l with
  | nil => cases h
  | cons y l ih =>
    rw [lookupKey_cons] at h
    unfold eraseKey at ih ⊢
    by_cases hk : key y = k
    · rw [if_pos hk] at h
      obtain rfl := Option.some.inj h
      rw [List.eraseP_cons_of_pos (by simpa using hk)]
    · rw [if_neg hk] at h
      rw [List.eraseP_cons_of_neg (by simpa using hk)]
      exact ((ih h).cons y).trans (List.Perm.swap x y _)

theorem lookupKey_filter {l : List α} (hl : KeysNodup key l) (p : α → Bool) (k : κ) :
    lookupKey key k (l.filter p) = (lookupKey key k l).filter p := by
  induction l with
  | nil => rfl
  | cons y l ih =>
    obtain ⟨hy, hl⟩ := List.nodup_cons.1 hl
    have hnone : key y = k → lookupKey key k l = none := fun hk =>
      (lookupKey_eq_none key).2 fun x hx hxk => hy (List.mem_map.2 ⟨x, hx, hxk.trans hk.symm⟩)
    by_cases hp : p y = true
    · rw [List.filter_cons_of_pos hp, lookupKey_cons, lookupKey_cons]
      split
      · rw [Option.filter_some_pos hp]
      · exact ih hl
    · rw [List.filter_cons_of_neg hp, lookupKey_cons, ih hl]
      split
      · rename_i hk
        rw [hnone hk, Option.filter_some_neg (eq_false_of_ne_true hp), Option.filter_none]
      · rfl

omit [DecidableEq κ] in
theorem keysNodup_filter {l : List α} (hl : KeysNodup key l) (p : α → Bool) : KeysNodup key (l.filter p) :=
  hl.sublist (List.filter_sublist.map key)

/-! ## The same by position -/

/-- The place of the first entry stored under `k`, and the entry there. -/
def locate (k : κ) (l : List α) : Option (ℕ × α) :=
  (l.findIdx? fun x => key x = k).bind fun i => l[i]?.map fun x => (i, x)

theorem locate_cons (k : κ) (y : α) (l : List α) :
    locate key k (y :: l) = if key y = k then some (0, y) else (locate key k l).map fun p => (p.1 + 1, p.2) := by
  unfold locate
  rw [List.findIdx?_cons]
  by_cases hk : key y = k
  · simp [hk]
  · simp only [hk, decide_false, Bool.false_eq_true, if_false]
    cases l.findIdx? fun x => key x = k with
    | none => rfl
    | some i =>
      simp only [Option.map_some, Option.bind_some, List.getElem?_cons_succ]
      cases l[i]? <;> rfl

theorem map_snd_locate (k : κ) (l : List α) : (locate key k l).map Prod.snd = lookupKey key k l := by
  induction l with
  | nil => rfl
  | cons y l ih =>
    rw [locate_cons, lookupKey_cons]
    split
    · rfl
    · rw [Option.map_map, ← ih]
      rfl

theorem locate_cons_eq_some {k : κ} {y x : α} {l : List α} {i : ℕ} : locate key k (y :: l) = some (i, x) ↔
    key y = k ∧ i = 0 ∧ y = x ∨ key y ≠ k ∧ ∃ j, locate key k l = some (j, x) ∧ j + 1 = i := by
  rw [locate_cons]
  by_cases hk : key y = k
  · simp [hk, eq_comm]
  · simp [hk]

theorem locate_cons_eq_none {k : κ} {y : α} {l : List α} :
    locate key k (y :: l) = none ↔ key y ≠ k ∧ locate key k l = none := by
  rw [locate_cons]
  by_cases hk : key y = k
  · simp [hk]
  · simp [hk]

theorem locate_set {k : κ} {l : List α} {i : ℕ} {x y : α} (h : locate key k l = some (i, x)) (hy : key y = key x) :
    locate key k (l.set i y) = some (i, y) := by
  induction l generalizing i with
  | nil => simp [locate] at h
  | cons z l ih =>
    obtain ⟨hk, rfl, rfl⟩ | ⟨hk, j, hj, rfl⟩ := (locate_cons_eq_some key).1 h
    · rw [List.set_cons_zero, locate_cons, if_pos (hy.trans hk)]
    · rw [List.set_cons_succ, locate_cons, if_neg hk, ih hj]
      rfl

/-- What is found at a place, replaced at that place. -/
theorem modifyKey_of_locate {k : κ} (f : α → α) {l : List α} {i : ℕ} {x : α} (h : locate key k l = some (i, x)) :
    modifyKey key k f l = l.set i (f x) := by
  induction l generalizing i with
  | nil => simp [locate] at h
  | cons y l ih =>
    obtain ⟨hk, rfl, rfl⟩ | ⟨hk, j, hj, rfl⟩ := (locate_cons_eq_some key).1 h
    · simp [modifyKey, hk]
    · simp [modifyKey, hk, ih hj]

theorem modifyKey_of_locate_none {k : κ} (f : α → α) {l : List α} (h : locate key k l = none) :
    modifyKey key k f l = l := by
  induction l with
  | nil => rfl
  | cons y l ih =>
    obtain ⟨hk, hl⟩ := (locate_cons_eq_none key).1 h
    simp [modifyKey, hk, ih hl]

theorem upsert_of_locate {x y : α} {l : List α} {i : ℕ} (h : locate key (key x) l = some (i, y)) :
    upsert key x l = l.set i x := by
  induction l generalizing i with
  | nil => simp [locate] at h
  | cons z l ih =>
    obtain ⟨hk, rfl, rfl⟩ | ⟨hk, j, hj, rfl⟩ := (locate_cons_eq_some key).1 h
    · simp [upsert, hk]
    · simp [upsert, hk, ih hj]

theorem upsert_of_locate_none {x : α} {l : List α} (h : locate key (key x) l = none) : upsert key x l = l ++ [x] := by
  induction l with
  | nil => rfl
  | cons z l ih =>
    obtain ⟨hk, hl⟩ := (locate_cons_eq_none key).1 h
    simp [upsert, hk, ih hl]

/-- A new key's entry comes last. -/
theorem upsert_of_lookupKey_none {x : α} {l : List α} (h : lookupKey key (key x) l = none) :
    upsert key x l = l ++ [x] := by
  refine upsert_of_locate_none key (Option.map_eq_none_iff.1 ((map_snd_locate key (key x) l).trans h))

theorem eraseKey_of_locate {k : κ} {l : List α} {i : ℕ} {x : α} (h : locate key k l = some (i, x)) :
    eraseKey key k l = l.eraseIdx i := by
  induction l generalizing i with
  | nil => simp [locate] at h
  | cons y l ih =>
    obtain ⟨hk, rfl, rfl⟩ | ⟨hk, j, hj, rfl⟩ := (locate_cons_eq_some key).1 h
    · simp [eraseKey, hk]
    · have hl : l.eraseP (fun y => key y = k) = l.eraseIdx j := ih hj
      simp [eraseKey, hk, hl]

/-! ## Finding and erasing under a filter -/

section Filter

omit [DecidableEq κ]

variable {p q : α → Bool}

theorem find?_filter_of_imp (h : ∀ x, p x = true → q x = true) (l : List α) :
    (l.filter q).find? p = l.find? p := by
  rw [List.find?_filter]
  congr 1
  funext x
  cases hp : p x with
  | false => simp
  | true => simp [h x hp]

theorem filter_eraseP_of_imp (h : ∀ x, p x = true → q x = true) (l : List α) :
    (l.eraseP p).filter q = (l.filter q).eraseP p := by
  rw [List.eraseP_filter]
  congr 2
  funext x
  cases hp : p x with
  | false => simp
  | true => simp [h x hp]

theorem filter_eraseP_of_imp_not (h : ∀ x, p x = true → q x = false) :
    ∀ l : List α, (l.eraseP p).filter q = l.filter q
  | [] => rfl
  | x :: l => by
    by_cases hp : p x = true
    · rw [List.eraseP_cons_of_pos hp, List.filter_cons_of_neg (by simp [h x hp])]
    · rw [List.eraseP_cons_of_neg hp, List.filter_cons, List.filter_cons, filter_eraseP_of_imp_not h l]

end Filter

/-! ## Lists with distinct keys -/

/-- A list that stores at most one entry under each key. -/
structure KeyedList {α κ : Type*} (key : α → κ) where
  list : List α
  nodup : KeysNodup key list

namespace KeyedList

variable {key}

omit [DecidableEq κ] in
@[ext] theorem ext {l m : KeyedList key} (h : l.list = m.list) : l = m := by
  cases l; cases m; cases h; rfl

instance [DecidableEq α] : DecidableEq (KeyedList key) := fun l m =>
  decidable_of_iff (l.list = m.list) ⟨ext, fun h => h ▸ rfl⟩

instance : EmptyCollection (KeyedList key) := ⟨⟨[], List.nodup_nil⟩⟩

instance : Membership α (KeyedList key) := ⟨fun l x => x ∈ l.list⟩

omit [DecidableEq κ] in
@[simp] theorem list_empty : (∅ : KeyedList key).list = [] := rfl

omit [DecidableEq κ] in
theorem mem_def {l : KeyedList key} {x : α} : x ∈ l ↔ x ∈ l.list := Iff.rfl

/-- The entry stored under a key. -/
def get? (l : KeyedList key) (k : κ) : Option α := lookupKey key k l.list

def upsert (l : KeyedList key) (x : α) : KeyedList key := ⟨Lib.upsert key x l.list, keysNodup_upsert key l.nodup x⟩

def modify (l : KeyedList key) (k : κ) (f : α → α) (hf : ∀ x, key (f x) = key x) : KeyedList key :=
  ⟨modifyKey key k f l.list, keysNodup_modifyKey key hf k l.nodup⟩

def erase (l : KeyedList key) (k : κ) : KeyedList key := ⟨eraseKey key k l.list, keysNodup_eraseKey key l.nodup k⟩

def filter (l : KeyedList key) (p : α → Bool) : KeyedList key := ⟨l.list.filter p, keysNodup_filter key l.nodup p⟩

def map (l : KeyedList key) (f : α → α) (hf : ∀ x, key (f x) = key x) : KeyedList key :=
  ⟨l.list.map f, keysNodup_map key hf l.nodup⟩

theorem mem_iff_get? {l : KeyedList key} {x : α} : x ∈ l ↔ l.get? (key x) = some x := by
  rw [get?, lookupKey_eq_some key l.nodup]
  exact ⟨fun h => ⟨h, rfl⟩, fun h => h.1⟩

theorem key_of_get? {l : KeyedList key} {k : κ} {x : α} (h : l.get? k = some x) : key x = k := key_of_lookupKey key h

theorem mem_of_get? {l : KeyedList key} {k : κ} {x : α} (h : l.get? k = some x) : x ∈ l := mem_of_lookupKey key h

@[simp] theorem get?_empty (k : κ) : (∅ : KeyedList key).get? k = none := rfl

@[simp] theorem get?_upsert (l : KeyedList key) (x : α) (k : κ) :
    (l.upsert x).get? k = if key x = k then some x else l.get? k := lookupKey_upsert key k x l.list

theorem upsert_eq_self_iff (l : KeyedList key) (x : α) : l.upsert x = l ↔ l.get? (key x) = some x := by
  rw [KeyedList.ext_iff]
  exact Lib.upsert_eq_self_iff key x l.list

@[simp] theorem get?_modify (l : KeyedList key) (k k' : κ) (f : α → α) (hf : ∀ x, key (f x) = key x) :
    (l.modify k f hf).get? k' = if k = k' then (l.get? k').map f else l.get? k' :=
  lookupKey_modifyKey key hf k k' l.list

@[simp] theorem get?_erase (l : KeyedList key) (k k' : κ) :
    (l.erase k).get? k' = if k = k' then none else l.get? k' := lookupKey_eraseKey key l.nodup k k'

@[simp] theorem get?_filter (l : KeyedList key) (p : α → Bool) (k : κ) :
    (l.filter p).get? k = (l.get? k).filter p := lookupKey_filter key l.nodup p k

@[simp] theorem get?_map (l : KeyedList key) (f : α → α) (hf : ∀ x, key (f x) = key x) (k : κ) :
    (l.map f hf).get? k = (l.get? k).map f := lookupKey_map key hf k l.list

theorem list_upsert_of_none {l : KeyedList key} {x : α} (h : l.get? (key x) = none) :
    (l.upsert x).list = l.list ++ [x] := upsert_of_lookupKey_none key h

theorem keys_upsert_of_some {l : KeyedList key} {x y : α} (h : l.get? (key x) = some y) :
    (l.upsert x).list.map key = l.list.map key := Lib.keys_upsert_of_some key h

theorem perm_erase {l : KeyedList key} {k : κ} {x : α} (h : l.get? k = some x) :
    l.list.Perm (x :: (l.erase k).list) := perm_eraseKey key h

/-- What is stored under the keys determines the list up to its order. -/
theorem perm_of_get? {l m : KeyedList key} (h : ∀ k, l.get? k = m.get? k) : l.list.Perm m.list := by
  refine (List.perm_ext_iff_of_nodup (List.Nodup.of_map key l.nodup) (List.Nodup.of_map key m.nodup)).2 fun x => ?_
  rw [← mem_def, ← mem_def, mem_iff_get?, mem_iff_get?, h]

end KeyedList

/-! ## Maps -/

/-- A map as the list of its pairs. -/
abbrev KeyedMap (κ β : Type*) [DecidableEq κ] := KeyedList (Prod.fst : κ × β → κ)

namespace KeyedMap

variable {κ β : Type*} [DecidableEq κ] {m : KeyedMap κ β}

/-- The value of a key. -/
def at? (m : KeyedMap κ β) (k : κ) : Option β := (m.get? k).map Prod.snd

def put (m : KeyedMap κ β) (k : κ) (v : β) : KeyedMap κ β := m.upsert (k, v)

def adjust (m : KeyedMap κ β) (k : κ) (f : β → β) : KeyedMap κ β := m.modify k (fun e => (e.1, f e.2)) fun _ => rfl

@[simp] theorem at?_empty (k : κ) : at? (∅ : KeyedMap κ β) k = none := rfl

@[simp] theorem at?_put (m : KeyedMap κ β) (k k' : κ) (v : β) :
    at? (put m k v) k' = if k = k' then some v else at? m k' := by
  unfold at? put
  rw [KeyedList.get?_upsert]
  split <;> rfl

@[simp] theorem at?_adjust (m : KeyedMap κ β) (k k' : κ) (f : β → β) :
    at? (adjust m k f) k' = if k = k' then (at? m k').map f else at? m k' := by
  unfold at? adjust
  rw [KeyedList.get?_modify]
  split
  · rw [Option.map_map, Option.map_map]
    rfl
  · rfl

@[simp] theorem at?_erase (m : KeyedMap κ β) (k k' : κ) :
    at? (m.erase k) k' = if k = k' then none else at? m k' := by
  unfold at?
  rw [KeyedList.get?_erase]
  split <;> rfl

theorem at?_eq_some {k : κ} {v : β} : at? m k = some v ↔ (k, v) ∈ m := by
  unfold at?
  rw [KeyedList.mem_iff_get?]
  constructor
  · intro h
    obtain ⟨e, he, rfl⟩ := Option.map_eq_some_iff.1 h
    obtain rfl := KeyedList.key_of_get? he
    exact he
  · intro h
    rw [h]
    rfl

end KeyedMap

end NodeX.Lib
