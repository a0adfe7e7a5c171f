/-
Texts, bytes and lists as `serde_json` prints them: a text in quotes with the quote, the backslash and the control
characters escaped, byte vectors as arrays of numbers, and no blanks between the parts.
-/
import NodeX.Core.Bytes
import NodeX.Lib.Codec

namespace NodeX

open NodeX.Lib

namespace Json

/-! ## Characters -/

/-- A byte of a text: the short escapes, `\u` and four digits for the other control characters, or the byte. -/
def escape (b : UInt8) : Bytes :=
  if b = 34 then [92, 34]
  else if b = 92 then [92, 92]
  else if b = 8 then [92, 98]
  else if b = 9 then [92, 116]
  else if b = 10 then [92, 110]
  else if b = 12 then [92, 102]
  else if b = 13 then [92, 114]
  else if b < 32 then [92, 117, 48, 48, hexByte (b >>> 4), hexByte (b &&& 15)]
  else [b]

/-- The byte of a short escape. -/
def unescape (c : UInt8) : UInt8 :=
  if c = 98 then 8 else if c = 116 then 9 else if c = 110 then 10 else if c = 102 then 12 else if c = 114 then 13 else c

/-- What follows a backslash. -/
def readEscape : Bytes → Option (UInt8 × Bytes)
  | [] => none
  | c :: rest =>
    if c = 117 then
      match rest with
      | _ :: _ :: high :: low :: rest => (hexPair high low).map fun b => (b, rest)
      | _ => none
    else some (unescape c, rest)

def readByte : Bytes → Option (UInt8 × Bytes)
  | [] => none
  | b :: rest => if b = 92 then readEscape rest else some (b, rest)

theorem readByte_escape (b : UInt8) (rest : Bytes) : readByte (escape b ++ rest) = some (b, rest) := by
  unfold escape
  iterate 7
    split
    · rename_i hb
      rw [hb]
      rfl
  split
  · show (hexPair (hexByte (b >>> 4)) (hexByte (b &&& 15))).map _ = _
    rw [hexPair_hexByte]
    rfl
  · rename_i hslash _ _ _ _ _ _
    show (if b = 92 then readEscape rest else some (b, rest)) = some (b, rest)
    rw [if_neg hslash]

/-- No byte is printed with a quote in front. -/
theorem head?_escape (b : UInt8) (rest : Bytes) : ∃ c tail, escape b ++ rest = c :: tail ∧ c ≠ 34 := by
  unfold escape
  split
  · exact ⟨92, _, rfl, by decide⟩
  · rename_i hquote
    iterate 7
      split
      · exact ⟨92, _, rfl, by decide⟩
    exact ⟨b, _, rfl, hquote⟩

/-! ## Texts -/

/-- The bytes up to the closing quote, at most as many as `n`. -/
def readText : Nat → Bytes → Option (Bytes × Bytes)
  | 0, _ => none
  | _ + 1, [] => none
  | n + 1, c :: tail =>
    if c = 34 then some ([], tail)
    else (readByte (c :: tail)).bind fun p => (readText n p.2).map fun q => (p.1 :: q.1, q.2)

theorem readText_escape : ∀ (bs : Bytes) (n : Nat) (rest : Bytes), bs.length < n →
    readText n (bs.flatMap escape ++ 34 :: rest) = some (bs, rest)
  | _, 0, _, h => absurd h (Nat.not_lt_zero _)
  | [], n + 1, rest, _ => by simp [readText]
  | b :: bs, n + 1, rest, h => by
    have ih := readText_escape bs n rest (Nat.lt_of_succ_lt_succ h)
    rw [List.flatMap_cons, List.append_assoc]
    have hbyte := readByte_escape b (bs.flatMap escape ++ 34 :: rest)
    obtain ⟨c, tail, hhead, hc⟩ := head?_escape b (bs.flatMap escape ++ 34 :: rest)
    rw [hhead] at hbyte ⊢
    rw [readText, if_neg hc, hbyte, Option.bind_some, ih]
    rfl

theorem length_flatMap_escape : ∀ bs : Bytes, bs.length ≤ (bs.flatMap escape).length
  | [] => Nat.le_refl 0
  | b :: bs => by
    have ih := length_flatMap_escape bs
    have hb : 0 < (escape b).length := by
      obtain ⟨c, tail, h, -⟩ := head?_escape b []
      rw [List.append_nil] at h
      rw [h]
      exact Nat.succ_pos _
    rw [List.flatMap_cons, List.length_append, List.length_cons]
    omega

/-- A text, as its UTF-8 bytes. -/
def text : Codec Bytes where
  print bs := 34 :: (bs.flatMap escape ++ [34])
  parse
    | 34 :: s => readText s.length s
    | _ => none
  parse_print bs rest _ := by
    have happ : 34 :: (bs.flatMap escape ++ [34]) ++ rest = 34 :: (bs.flatMap escape ++ 34 :: rest) := by simp
    have hlen : bs.length < (bs.flatMap escape ++ 34 :: rest).length := by
      have h := length_flatMap_escape bs
      rw [List.length_append, List.length_cons]
      omega
    rw [happ]
    exact readText_escape bs _ rest hlen

/-- The text of which these are the UTF-8 bytes. -/
def readUtf8 (bs : Bytes) : Option String := bs.toByteArray.utf8Decode?.map fun chars => String.ofList chars.toList

theorem readUtf8_utf8 (s : String) : readUtf8 (utf8 s) = some s := by
  have hdecode : (utf8 s).toByteArray.utf8Decode? = some s.toList.toArray := List.utf8Decode?_utf8Encode
  unfold readUtf8
  rw [hdecode, Option.map_some, String.ofList_toList]

/-- A `String`. -/
def utf8Text : Codec String := text.map readUtf8 utf8 readUtf8_utf8

/-- A `Vec<u8>`. -/
def bytes : Codec Bytes := Codec.list Codec.uint8 fun b rest => Codec.head?_natDigits b.toNat rest rfl

/-- A list of texts. -/
def texts : Codec (List Bytes) := Codec.list text fun bs rest h => by cases h

def utf8Texts : Codec (List String) := Codec.list utf8Text fun s rest h => by cases h

/-! ## Tuples -/

variable {α β : Type}

/-- A member of a tuple and the members after it. -/
def member (c : Codec α) (d : Codec β) : Codec (α × β) := c.pair (d.before [44]) fun _ _ => stops_cons _ rfl

/-- The members in brackets. -/
def tuple (c : Codec α) : Codec α := (c.before [91]).after [93] fun rest => stops_cons rest rfl

theorem print_inj (c : Codec α) {a b : α} (h : c.print a = c.print b) : a = b := by
  have hb := c.parseAll_print b
  rw [← h, c.parseAll_print] at hb
  exact Option.some.inj hb

end Json

end NodeX
