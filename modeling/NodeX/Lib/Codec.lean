/-
Printers with a parser that undoes them, in front of any text that does not go on with a digit:
decimal numbers, literals around a value, pairs, alternatives, bracketed lists with commas, and
changes of representation.
-/
import Mathlib.Data.Nat.Digits.Defs

namespace NodeX.Lib

/-! ## Codecs -/

def isDigit (b : UInt8) : Bool := 48 ≤ b && b ≤ 57

/-- The text does not go on with a digit. -/
def Stops (rest : List UInt8) : Prop := ∀ b ∈ rest.head?, isDigit b = false

theorem stops_nil : Stops [] := fun _ h => by cases h

theorem stops_cons {b : UInt8} (rest : List UInt8) (h : isDigit b = false) : Stops (b :: rest) := by
  intro c hc
  rw [List.head?_cons, Option.mem_some_iff] at hc
  exact hc ▸ h

theorem stops_append {lit : List UInt8} (h : lit.head?.map isDigit = some false) (rest : List UInt8) :
    Stops (lit ++ rest) := by
  cases lit with
  | nil => cases h
  | cons b lit => exact stops_cons _ (Option.some.inj h)

/-- A printer and a parser that reads back what was printed and leaves the rest. -/
structure Codec (α : Type) where
  print : α → List UInt8
  parse : List UInt8 → Option (α × List UInt8)
  parse_print : ∀ a rest, Stops rest → parse (print a ++ rest) = some (a, rest)

namespace Codec

variable {α β : Type}

/-- What parses as a whole. -/
def parseAll (c : Codec α) (s : List UInt8) : Option α :=
  match c.parse s with
  | some (a, []) => some a
  | _ => none

theorem parseAll_print (c : Codec α) (a : α) : c.parseAll (c.print a) = some a := by
  have h := c.parse_print a [] stops_nil
  rw [List.append_nil] at h
  unfold parseAll
  rw [h]

/-! ## Literals, pairs and alternatives -/

/-- The rest of the text after the literal. -/
def dropLit : List UInt8 → List UInt8 → Option (List UInt8)
  | [], s => some s
  | _ :: _, [] => none
  | b :: lit, c :: s => if b = c then dropLit lit s else none

theorem dropLit_append : ∀ lit s : List UInt8, dropLit lit (lit ++ s) = some s
  | [], _ => rfl
  | b :: lit, s => by
    rw [List.cons_append, dropLit, if_pos rfl]
    exact dropLit_append lit s

def before (lit : List UInt8) (c : Codec α) : Codec α where
  print a := lit ++ c.print a
  parse s := (dropLit lit s).bind c.parse
  parse_print a rest hr := by
    rw [List.append_assoc, dropLit_append]
    exact c.parse_print a rest hr

def after (c : Codec α) (lit : List UInt8) (hlit : ∀ rest, Stops (lit ++ rest)) : Codec α where
  print a := c.print a ++ lit
  parse s := (c.parse s).bind fun p => (dropLit lit p.2).map fun rest => (p.1, rest)
  parse_print a rest _ := by
    rw [List.append_assoc, c.parse_print a _ (hlit rest), Option.bind_some, dropLit_append]
    rfl

def pair (c : Codec α) (d : Codec β) (hd : ∀ b rest, Stops (d.print b ++ rest)) : Codec (α × β) where
  print p := c.print p.1 ++ d.print p.2
  parse s := (c.parse s).bind fun p => (d.parse p.2).map fun q => ((p.1, q.1), q.2)
  parse_print p rest hr := by
    rw [List.append_assoc, c.parse_print p.1 _ (hd p.2 rest), Option.bind_some, d.parse_print p.2 rest hr]
    rfl

/-- Two values with a literal between them. -/
def sep (c : Codec α) (lit : List UInt8) (hlit : ∀ rest, Stops (lit ++ rest)) (d : Codec β) : Codec (α × β) :=
  c.pair (d.before lit) fun b rest => by
    show Stops (lit ++ d.print b ++ rest)
    rw [List.append_assoc]
    exact hlit _

/-- The first codec, or where the second printed, the second; the first reads nothing of that. -/
def sum (c : Codec α) (d : Codec β) (hcd : ∀ b rest, c.parse (d.print b ++ rest) = none) : Codec (α ⊕ β) where
  print := Sum.elim c.print d.print
  parse s :=
    match c.parse s with
    | some (a, rest) => some (.inl a, rest)
    | none => (d.parse s).map fun p => (.inr p.1, p.2)
  parse_print
    | .inl a, rest, hr => by simp only [Sum.elim_inl, c.parse_print a rest hr]
    | .inr b, rest, hr => by simp only [Sum.elim_inr, hcd b rest, d.parse_print b rest hr, Option.map_some]

/-- Another representation of the same texts. -/
def map (c : Codec α) (f : α → Option β) (g : β → α) (h : ∀ b, f (g b) = some b) : Codec β where
  print b := c.print (g b)
  parse s := (c.parse s).bind fun p => (f p.1).map fun b => (b, p.2)
  parse_print b rest hr := by
    rw [c.parse_print (g b) rest hr, Option.bind_some, h]
    rfl

/-! ## Numbers -/

/-- The digits of a number, highest first. -/
def natDigits (n : Nat) : List UInt8 :=
  if n = 0 then [48] else (Nat.digits 10 n).reverse.map fun d => UInt8.ofNat (48 + d)

def natValue (ds : List UInt8) : Nat := Nat.ofDigits 10 (ds.reverse.map fun d => d.toNat - 48)

theorem isDigit_ofNat {d : Nat} (h : d < 10) : isDigit (UInt8.ofNat (48 + d)) = true := by
  unfold isDigit
  simp only [Bool.and_eq_true, decide_eq_true_eq, UInt8.le_iff_toNat_le, UInt8.toNat_ofNat']
  have h48 : (48 : UInt8).toNat = 48 := rfl
  have h57 : (57 : UInt8).toNat = 57 := rfl
  omega

theorem isDigit_natDigits (n : Nat) : ∀ b ∈ natDigits n, isDigit b = true := by
  intro b hb
  unfold natDigits at hb
  split at hb
  · rw [List.mem_singleton.1 hb]
    rfl
  · obtain ⟨d, hd, rfl⟩ := List.mem_map.1 hb
    exact isDigit_ofNat (Nat.digits_lt_base (by decide) (List.mem_reverse.1 hd))

theorem natDigits_ne_nil (n : Nat) : natDigits n ≠ [] := by
  unfold natDigits
  split
  · simp
  · rename_i hn
    simpa using Nat.digits_ne_nil_iff_ne_zero.2 hn

theorem head?_natDigits (n : Nat) (rest : List UInt8) {b : UInt8} (hb : isDigit b = false) :
    (natDigits n ++ rest).head? ≠ some b := by
  intro h
  cases hn : natDigits n with
  | nil => exact natDigits_ne_nil n hn
  | cons c ds =>
    rw [hn, List.cons_append, List.head?_cons, Option.some.injEq] at h
    have hc := isDigit_natDigits n c (by rw [hn]; exact List.mem_cons_self)
    rw [h, hb] at hc
    cases hc

theorem natValue_natDigits (n : Nat) : natValue (natDigits n) = n := by
  unfold natValue natDigits
  split
  · rename_i hn
    rw [hn]
    rfl
  · have hds : ∀ d ∈ Nat.digits 10 n, (UInt8.ofNat (48 + d)).toNat - 48 = d := by
      intro d hd
      have hlt : d < 10 := Nat.digits_lt_base (by decide) hd
      rw [UInt8.toNat_ofNat']
      omega
    rw [← List.map_reverse, List.reverse_reverse, List.map_map]
    have hmap : (Nat.digits 10 n).map ((fun d => d.toNat - 48) ∘ fun d => UInt8.ofNat (48 + d)) = Nat.digits 10 n :=
      (List.map_congr_left hds).trans (List.map_id' _)
    rw [hmap, Nat.ofDigits_digits]

theorem takeWhile_digits {ds rest : List UInt8} (hd : ∀ b ∈ ds, isDigit b = true) (hr : Stops rest) :
    (ds ++ rest).takeWhile isDigit = ds ∧ (ds ++ rest).dropWhile isDigit = rest := by
  have hrest : rest.takeWhile isDigit = [] ∧ rest.dropWhile isDigit = rest := by
    cases rest with
    | nil => exact ⟨rfl, rfl⟩
    | cons b rest =>
      have hb : isDigit b = false := hr b rfl
      rw [List.takeWhile_cons, List.dropWhile_cons, hb]
      exact ⟨rfl, rfl⟩
  rw [List.takeWhile_append_of_pos hd, List.dropWhile_append_of_pos hd, hrest.1, hrest.2]
  exact ⟨List.append_nil ds, rfl⟩

def nat : Codec Nat where
  print := natDigits
  parse s := if s.takeWhile isDigit = [] then none else some (natValue (s.takeWhile isDigit), s.dropWhile isDigit)
  parse_print n rest hr := by
    obtain ⟨ht, hd⟩ := takeWhile_digits (isDigit_natDigits n) hr
    rw [ht, hd, if_neg (natDigits_ne_nil n), natValue_natDigits]

def uint8 : Codec UInt8 :=
  nat.map (fun n => if n < 256 then some (UInt8.ofNat n) else none) UInt8.toNat fun b => by
    rw [if_pos (by exact b.toNat_lt), UInt8.ofNat_toNat]

def uint64 : Codec UInt64 :=
  nat.map (fun n => if n < 2 ^ 64 then some (UInt64.ofNat n) else none) UInt64.toNat fun b => by
    rw [if_pos (by exact b.toNat_lt), UInt64.ofNat_toNat]

/-! ## Lists -/

/-- The printed elements with commas between them. -/
def joinCommas : List (List UInt8) → List UInt8
  | [] => []
  | [x] => x
  | x :: y :: l => x ++ 44 :: joinCommas (y :: l)

/-- Elements up to the closing bracket, at most as many as `n`. -/
def elements (parse : List UInt8 → Option (α × List UInt8)) : Nat → List UInt8 → Option (List α × List UInt8)
  | 0, _ => none
  | n + 1, s =>
    match parse s with
    | some (a, 44 :: rest) => (elements parse n rest).map fun p => (a :: p.1, p.2)
    | some (a, 93 :: rest) => some ([a], rest)
    | _ => none

theorem elements_joinCommas (c : Codec α) : ∀ (xs : List α) (x : α) (n : Nat) (rest : List UInt8), xs.length < n →
    elements c.parse n (joinCommas ((x :: xs).map c.print) ++ 93 :: rest) = some (x :: xs, rest)
  | _, _, 0, _, h => absurd h (Nat.not_lt_zero _)
  | [], x, n + 1, rest, _ => by
    have hx := c.parse_print x (93 :: rest) (stops_cons rest rfl)
    simp only [List.map_cons, List.map_nil, joinCommas, elements, hx]
  | y :: ys, x, n + 1, rest, h => by
    have hx := c.parse_print x (44 :: (joinCommas ((y :: ys).map c.print) ++ 93 :: rest)) (stops_cons _ rfl)
    have hys := elements_joinCommas c ys y n rest (Nat.lt_of_succ_lt_succ h)
    have happ : joinCommas ((x :: y :: ys).map c.print) ++ 93 :: rest =
        c.print x ++ 44 :: (joinCommas ((y :: ys).map c.print) ++ 93 :: rest) := by
      simp only [List.map_cons, joinCommas, List.append_assoc, List.cons_append]
    rw [happ, elements]
    simp only [hx, hys, Option.map_some]

/-- There is a comma less than there are elements. -/
theorem length_joinCommas : ∀ (l : List (List UInt8)), l.length ≤ (joinCommas l).length + 1
  | [] => by simp
  | [x] => by simp
  | x :: y :: l => by
    have h := length_joinCommas (y :: l)
    simp only [joinCommas, List.length_append, List.length_cons] at h ⊢
    omega

/-- A bracketed list; no element starts with the closing bracket. -/
def list (c : Codec α) (hc : ∀ a rest, (c.print a ++ rest).head? ≠ some 93) : Codec (List α) where
  print xs := 91 :: (joinCommas (xs.map c.print) ++ [93])
  parse
    | 91 :: 93 :: rest => some ([], rest)
    | 91 :: s => elements c.parse s.length s
    | _ => none
  parse_print
    | [], rest, _ => rfl
    | x :: xs, rest, _ => by
      have happ : 91 :: (joinCommas ((x :: xs).map c.print) ++ [93]) ++ rest =
          91 :: (joinCommas ((x :: xs).map c.print) ++ 93 :: rest) := by simp
      have hlen : xs.length < (joinCommas ((x :: xs).map c.print) ++ 93 :: rest).length := by
        have h := length_joinCommas ((x :: xs).map c.print)
        simp only [List.length_map, List.length_cons, List.length_append] at h ⊢
        omega
      have hhead : (joinCommas ((x :: xs).map c.print) ++ 93 :: rest).head? ≠ some 93 := by
        cases xs with
        | nil => exact hc x (93 :: rest)
        | cons y ys =>
          simp only [List.map_cons, joinCommas, List.append_assoc]
          exact hc x _
      rw [happ]
      split
      · rename_i heq
        simp only [List.cons.injEq, true_and] at heq
        exact absurd (by rw [heq]; rfl) hhead
      · rename_i heq
        simp only [List.cons.injEq, true_and] at heq
        rw [← heq]
        exact elements_joinCommas c xs x _ rest hlen
      · rename_i h
        exact absurd rfl (h _)

end Codec

end NodeX.Lib
