/-
Addresses as the standard library reads them: `FromStr` of `std::net::SocketAddr`, a reader of one character after the
other that takes back what it has read where a part fails. What `Display` prints of an IPv4 address is read as that
address.
-/
import NodeX.Core.AddrText

namespace NodeX

open NodeX.Lib

namespace AddrParser

/-! ## The readers -/

/-- The value of a letter or digit, in the largest base. -/
def charValue (c : Char) : Option Nat :=
  if '0' ≤ c ∧ c ≤ '9' then some (c.toNat - 48)
  else if 'a' ≤ c ∧ c ≤ 'z' then some (c.toNat - 87)
  else if 'A' ≤ c ∧ c ≤ 'Z' then some (c.toNat - 55)
  else none

/-- `char::to_digit`. -/
def toDigit (radix : Nat) (c : Char) : Option Nat := (charValue c).filter (· < radix)

def readDigits (radix : Nat) : List Char → List Nat × List Char
  | [] => ([], [])
  | c :: l =>
    match toDigit radix c with
    | some d => (d :: (readDigits radix l).1, (readDigits radix l).2)
    | none => ([], c :: l)

/-- `read_number`, with the numbers of its type being those below the limit. One digit too many and a number that is
too large fail in the loop or after it. -/
def readNumber (radix : Nat) (maxDigits : Option Nat) (allowZeroPrefix : Bool) (limit : Nat) (l : List Char) :
    Option (Nat × List Char) :=
  let digits := (readDigits radix l).1
  let value := digits.foldl (fun result d => result * radix + d) 0
  if digits = [] then none
  else if maxDigits.any (· < digits.length) then none
  else if allowZeroPrefix = false ∧ digits.head? = some 0 ∧ 1 < digits.length then none
  else if value < limit then some (value, (readDigits radix l).2)
  else none

def readGivenChar (target : Char) : List Char → Option (List Char)
  | [] => none
  | c :: l => if c = target then some l else none

def readSeparator {α : Type} (sep : Char) (index : Nat) (inner : List Char → Option (α × List Char)) (l : List Char) :
    Option (α × List Char) :=
  if index > 0 then (readGivenChar sep l).bind inner else inner l

def readOctet (l : List Char) : Option (UInt8 × List Char) :=
  (readNumber 10 (some 3) false 256 l).map fun r => (UInt8.ofNat r.1, r.2)

def readIpv4Addr (l : List Char) : Option (Vector UInt8 4 × List Char) :=
  (readSeparator '.' 0 readOctet l).bind fun a =>
    (readSeparator '.' 1 readOctet a.2).bind fun b =>
      (readSeparator '.' 2 readOctet b.2).bind fun c =>
        (readSeparator '.' 3 readOctet c.2).map fun d => (#v[a.1, b.1, c.1, d.1], d.2)

/-- `read_groups`, with so many groups left: what is read, and whether it ends in an IPv4 address. -/
def readGroups : Nat → Nat → List Char → List Nat × Bool × List Char
  | 0, _, l => ([], false, l)
  | left + 1, i, l =>
    match if left = 0 then none else readSeparator ':' i readIpv4Addr l with
    | some (o, rest) => ([o[0].toNat * 256 + o[1].toNat, o[2].toNat * 256 + o[3].toNat], true, rest)
    | none =>
      match readSeparator ':' i (readNumber 16 (some 4) true 65536) l with
      | none => ([], false, l)
      | some (group, rest) =>
        let more := readGroups left (i + 1) rest
        (group :: more.1, more.2.1, more.2.2)

def ofGroups (groups : List Nat) : Vector UInt8 16 :=
  Vector.ofFn fun i =>
    let group := groups[i.val / 2]?.getD 0
    UInt8.ofNat (if i.val % 2 = 0 then group / 256 else group % 256)

def readIpv6Addr (l : List Char) : Option (Vector UInt8 16 × List Char) :=
  let (head, headIpv4, rest) := readGroups 8 0 l
  if head.length = 8 then some (ofGroups head, rest)
  else if headIpv4 then none
  else
    (readGivenChar ':' rest).bind fun rest =>
      (readGivenChar ':' rest).map fun rest =>
        let (tail, _, rest) := readGroups (8 - (head.length + 1)) 0 rest
        (ofGroups (head ++ List.replicate (8 - head.length - tail.length) 0 ++ tail), rest)

def readPort (l : List Char) : Option (UInt16 × List Char) :=
  (readGivenChar ':' l).bind fun l => (readNumber 10 none true 65536 l).map fun r => (UInt16.ofNat r.1, r.2)

def readScopeId (l : List Char) : Option (UInt32 × List Char) :=
  (readGivenChar '%' l).bind fun l => (readNumber 10 none true (2 ^ 32) l).map fun r => (UInt32.ofNat r.1, r.2)

def readSocketAddrV4 (l : List Char) : Option (StdSocketAddr × List Char) :=
  (readIpv4Addr l).bind fun ip => (readPort ip.2).map fun port => (.v4 ip.1 port.1, port.2)

def readSocketAddrV6 (l : List Char) : Option (StdSocketAddr × List Char) :=
  (readGivenChar '[' l).bind fun l =>
    (readIpv6Addr l).bind fun ip =>
      let scope := (readScopeId ip.2).getD (0, ip.2)
      (readGivenChar ']' scope.2).bind fun l => (readPort l).map fun port => (.v6 ip.1 port.1 0 scope.1, port.2)

def readSocketAddr (l : List Char) : Option (StdSocketAddr × List Char) :=
  (readSocketAddrV4 l).or (readSocketAddrV6 l)

end AddrParser

open AddrParser

/-- `str::parse::<SocketAddr>`: nothing is left over. -/
def StdSocketAddr.parse (s : String) : Option StdSocketAddr :=
  match readSocketAddr s.toList with
  | some (a, []) => some a
  | _ => none

example : StdSocketAddr.parse "31.77.71.122:8443" = some (.v4 #v[31, 77, 71, 122] 8443) := by decide

example : StdSocketAddr.parse "[::ffff:1.2.3.4%7]:080" =
    some (.v6 #v[0, 0, 0, 0, 0, 0, 0, 0, 0, 0, 255, 255, 1, 2, 3, 4] 80 0 7) := by decide +kernel

example : StdSocketAddr.parse "01.2.3.4:1" = none := by decide

namespace AddrParser

/-! ## Numbers that are printed -/

theorem charValue_digitChar : ∀ d : Fin 16, charValue (Nat.digitChar d) = some d := by decide

/-- No digit of the base is next. -/
def NoDigit (radix : Nat) (l : List Char) : Prop := ∀ c ∈ l.head?, toDigit radix c = none

theorem readDigits_map {radix : Nat} (hradix : radix ≤ 16) {rest : List Char} (hrest : NoDigit radix rest) :
    ∀ {digits : List Nat}, (∀ d ∈ digits, d < radix) →
      readDigits radix (digits.map Nat.digitChar ++ rest) = (digits, rest)
  | [], _ => by
    cases rest with
    | nil => rfl
    | cons c rest => rw [List.map_nil, List.nil_append, readDigits, hrest c rfl]
  | d :: digits, h => by
    obtain ⟨hd, hdigits⟩ := List.forall_mem_cons.1 h
    have hvalue : toDigit radix (Nat.digitChar d) = some d := by
      have hchar := charValue_digitChar ⟨d, by omega⟩
      rw [toDigit, hchar]
      exact Option.filter_eq_some_iff.2 ⟨rfl, decide_eq_true hd⟩
    rw [List.map_cons, List.cons_append, readDigits, hvalue]
    simp only [readDigits_map hradix hrest hdigits]

/-- The digits of a number: they come to the number, and it does not begin with a zero. -/
structure Digits (radix n : Nat) (digits : List Nat) : Prop where
  chars : Nat.toDigits radix n = digits.map Nat.digitChar
  lt : ∀ d ∈ digits, d < radix
  value : digits.foldl (fun result d => result * radix + d) 0 = n
  ne_nil : digits ≠ []
  head : 0 < n → digits.head? ≠ some 0

theorem exists_digits {radix : Nat} (h1 : 1 < radix) (n : Nat) : ∃ digits, Digits radix n digits := by
  induction n using Nat.strong_induction_on with
  | _ n ih =>
    have heq := Nat.toDigits_eq_if h1 (n := n)
    by_cases hn : n < radix
    · rw [if_pos hn] at heq
      refine ⟨[n], heq, ?_, ?_, by simp, ?_⟩
      · simpa using hn
      · simp
      · intro hpos h
        have hzero : n = 0 := Option.some.inj h
        omega
    · rw [if_neg hn] at heq
      have hdiv : 0 < n / radix := Nat.div_pos (by omega) (by omega)
      obtain ⟨digits, hdigits⟩ := ih (n / radix) (Nat.div_lt_self (by omega) h1)
      refine ⟨digits ++ [n % radix], ?_, ?_, ?_, by simp, ?_⟩
      · rw [heq, hdigits.chars, List.map_append]
        rfl
      · intro d hd
        rcases List.mem_append.1 hd with hd | hd
        · exact hdigits.lt d hd
        · rw [List.mem_singleton.1 hd]
          exact Nat.mod_lt n (by omega)
      · rw [List.foldl_append, hdigits.value]
        exact Nat.div_add_mod' n radix
      · intro _
        rw [List.head?_append_of_ne_nil _ hdigits.ne_nil]
        exact hdigits.head hdiv

/-- A printed number is read, if it is small enough. -/
theorem readNumber_toDigits {radix : Nat} (h1 : 1 < radix) (h16 : radix ≤ 16) {maxDigits : Option Nat}
    {allowZeroPrefix : Bool} {limit n : Nat} (hn : n < limit) (hmax : ∀ k ∈ maxDigits, n < radix ^ k ∧ 0 < k)
    {rest : List Char} (hrest : NoDigit radix rest) :
    readNumber radix maxDigits allowZeroPrefix limit (Nat.toDigits radix n ++ rest) = some (n, rest) := by
  obtain ⟨digits, hdigits⟩ := exists_digits h1 n
  have hread := readDigits_map h16 hrest hdigits.lt
  have hlen : ∀ k ∈ maxDigits, ¬k < digits.length := by
    intro k hk
    obtain ⟨hlt, hpos⟩ := hmax k hk
    have hlen := (Nat.length_toDigits_le_iff h1 hpos).2 hlt
    rw [hdigits.chars, List.length_map] at hlen
    omega
  have hprefix : digits.head? = some 0 → ¬1 < digits.length := by
    intro hhead hlong
    rcases Nat.eq_zero_or_pos n with rfl | hpos
    · have hone := congrArg List.length hdigits.chars
      rw [List.length_map] at hone
      have hzero : (Nat.toDigits radix 0).length = 1 := by
        rw [Nat.toDigits_of_lt_base (by omega)]
        rfl
      omega
    · exact hdigits.head hpos hhead
  unfold readNumber
  rw [hdigits.chars, hread]
  dsimp only
  rw [if_neg hdigits.ne_nil, if_neg, if_neg, hdigits.value, if_pos hn]
  · rintro ⟨-, hhead, hlong⟩
    exact hprefix hhead hlong
  · rw [Option.any_eq_true]
    rintro ⟨k, hk, hlt⟩
    exact hlen k hk (of_decide_eq_true hlt)

theorem readOctet_toDigits (b : UInt8) {rest : List Char} (hrest : NoDigit 10 rest) :
    readOctet (Nat.toDigits 10 b.toNat ++ rest) = some (b, rest) := by
  have hb := b.toNat_lt
  have hread : readNumber 10 (some 3) false 256 (Nat.toDigits 10 b.toNat ++ rest) = some (b.toNat, rest) := by
    refine readNumber_toDigits (by decide) (by decide) hb ?_ hrest
    rintro _ ⟨⟩
    exact ⟨by omega, by decide⟩
  rw [readOctet, hread, Option.map_some, UInt8.ofNat_toNat]

theorem noDigit_cons {radix : Nat} {c : Char} (h : toDigit radix c = none) (l : List Char) :
    NoDigit radix (c :: l) := by
  rintro _ ⟨⟩
  exact h

theorem readSeparator_cons {α : Type} {sep : Char} {index : Nat} {inner : List Char → Option (α × List Char)}
    (h : 0 < index) (l : List Char) : readSeparator sep index inner (sep :: l) = inner l := by
  rw [readSeparator, if_pos h, readGivenChar, if_pos rfl, Option.bind_some]

theorem readIpv4Addr_dotted (o : Vector UInt8 4) {rest : List Char} (hrest : NoDigit 10 rest) :
    readIpv4Addr ((IpAddr.dotted o).toList ++ rest) = some (o, rest) := by
  obtain ⟨⟨l⟩, hl⟩ := o
  obtain ⟨a, b, c, d, rfl⟩ : ∃ a b c d, l = [a, b, c, d] := by
    have hlen : l.length = 4 := hl
    rcases l with _ | ⟨a, _ | ⟨b, _ | ⟨c, _ | ⟨d, _ | ⟨e, l⟩⟩⟩⟩⟩
    case cons.cons.cons.cons.nil => exact ⟨a, b, c, d, rfl⟩
    all_goals simp at hlen
  have hdot : ∀ l, NoDigit 10 ('.' :: l) := noDigit_cons (by decide)
  have hchars : (IpAddr.dotted ⟨⟨[a, b, c, d]⟩, hl⟩).toList ++ rest =
      Nat.toDigits 10 a.toNat ++ '.' :: (Nat.toDigits 10 b.toNat ++ '.' :: (Nat.toDigits 10 c.toNat ++
        '.' :: (Nat.toDigits 10 d.toNat ++ rest))) := by
    rw [IpAddr.toList_dotted]
    simp [IpAddr.octetChars, List.intercalate_cons_cons, List.intercalate_singleton]
  rw [hchars, readIpv4Addr, readSeparator, if_neg (by decide), readOctet_toDigits a (hdot _), Option.bind_some]
  rw [readSeparator_cons (by decide), readOctet_toDigits b (hdot _), Option.bind_some]
  rw [readSeparator_cons (by decide), readOctet_toDigits c (hdot _), Option.bind_some]
  rw [readSeparator_cons (by decide), readOctet_toDigits d hrest, Option.map_some]

theorem readPort_toDigits (port : UInt16) {rest : List Char} (hrest : NoDigit 10 rest) :
    readPort (':' :: (Nat.toDigits 10 port.toNat ++ rest)) = some (port, rest) := by
  have hport := port.toNat_lt
  have hread : readNumber 10 none true 65536 (Nat.toDigits 10 port.toNat ++ rest) = some (port.toNat, rest) := by
    refine readNumber_toDigits (by decide) (by decide) hport ?_ hrest
    rintro _ ⟨⟩
  rw [readPort, readGivenChar, if_pos rfl, Option.bind_some, hread, Option.map_some, UInt16.ofNat_toNat]

end AddrParser

namespace StdSocketAddr

/-- An IPv4 address that is printed is read back. -/
theorem parse_display_v4 (o : Vector UInt8 4) (port : UInt16) : parse (v4 o port).display = some (v4 o port) := by
  have hcolon : ∀ l, NoDigit 10 (':' :: l) := noDigit_cons (by decide)
  have hend : NoDigit 10 [] := by
    rintro _ ⟨⟩
  have hport := readPort_toDigits port hend
  rw [List.append_nil] at hport
  unfold parse readSocketAddr readSocketAddrV4
  rw [toList_display_v4, readIpv4Addr_dotted o (hcolon _), Option.bind_some, toList_toString, hport]
  rfl

/-- What is read has no flow information. -/
theorem isParsed_of_parse {s : String} {a : StdSocketAddr} (h : parse s = some a) : a.IsParsed := by
  unfold parse at h
  split at h
  · rename_i a' hread
    cases h
    rcases Option.or_eq_some_iff.1 hread with h4 | ⟨-, h6⟩
    · obtain ⟨ip, -, hrest⟩ := Option.bind_eq_some_iff.1 h4
      obtain ⟨port, -, hpair⟩ := Option.map_eq_some_iff.1 hrest
      obtain ⟨rfl, -⟩ := Prod.mk.inj hpair
      trivial
    · obtain ⟨l, -, hrest⟩ := Option.bind_eq_some_iff.1 h6
      obtain ⟨ip, -, hrest⟩ := Option.bind_eq_some_iff.1 hrest
      obtain ⟨l', -, hrest⟩ := Option.bind_eq_some_iff.1 hrest
      obtain ⟨port, -, hpair⟩ := Option.map_eq_some_iff.1 hrest
      obtain ⟨rfl, -⟩ := Prod.mk.inj hpair
      rfl
  · cases h

end StdSocketAddr

end NodeX
