/-
What the Android client takes from its platform: texts as Kotlin has them, `org.json` objects read by name, and one
moment of the world outside (clock, disk).
-/
import NodeX.Lib.Keyed
import NodeX.Lib.Runs
import NodeX.Messenger.Invites

namespace NodeX.Android

open NodeX.Lib Messenger AndroidMessageCrypto

/-! ## Texts -/

/-- Kotlin's and Java's libraries, where they decide what a text or a value stands for. -/
structure Kotlin where
  lowercase : String → String
  /-- `equals(ignoreCase = true)` -/
  sameIgnoringCase : String → String → Bool
  /-- `toInt(16)` -/
  toInt16 : String → Option Int
  /-- `String.valueOf` of a value that is no text -/
  valueOf : Json → String
  toBoolean : Json → Option Bool
  /-- `String(bytes, UTF_8)` -/
  decodeText : Bytes → String
  /-- the constructor of `JSONArray` on a text -/
  parseArray : String → Option (List Json)

def isBlank (s : String) : Bool := s.toList.all MnemonicHelper.isKotlinSpace

def startsWith (s front : String) : Bool := front.toList.isPrefixOf s.toList

def containsText (s part : String) : Bool := decide (part.toList <:+: s.toList)

/-- The code units of a text in UTF-16. -/
def utf16Units (s : String) : List Nat :=
  s.toList.flatMap fun c =>
    let n := c.toNat
    if n < 65536 then [n] else [55296 + (n - 65536) / 1024, 56320 + (n - 65536) % 1024]

/-- `String.hashCode` -/
def hashCode (s : String) : Int := Int.bmod ((utf16Units s).foldl (fun h u => (h * 31 + u) % 2 ^ 32) 0) (2 ^ 32)

section Platform

variable (O : OrgJson) (K : Kotlin)

/-- `trim().lowercase()` -/
def clean (s : String) : String := K.lowercase (MnemonicHelper.kotlinTrim s)

/-- Every character is a digit of base 16. -/
def isHex (s : String) : Bool := s.toList.all fun c => (O.digit c).isSome

/-! ## Objects -/

def has (env : Json) (name : String) : Bool := (opt env name).isSome

def isNull (env : Json) (name : String) : Bool := (opt env name).all fun v => v matches .null

def optString (env : Json) (name fallback : String) : String :=
  match opt env name with
  | some (.string s) => s
  | some v => K.valueOf v
  | none => fallback

def optBoolean (env : Json) (name : String) (fallback : Bool) : Bool :=
  ((opt env name).bind K.toBoolean).getD fallback

def getObject (env : Json) (name : String) : Except Thrown Json :=
  match opt env name with
  | some (.object fields) => .ok (.object fields)
  | _ => .error .library

def getInt (env : Json) (name : String) : Except Thrown Int :=
  match (opt env name).bind (toInteger O) with
  | some n => .ok n
  | none => .error .library

def getBoolean (env : Json) (name : String) : Except Thrown Bool :=
  match (opt env name).bind K.toBoolean with
  | some b => .ok b
  | none => .error .library

end Platform

/-- `require` -/
def require (p : Prop) [Decidable p] : Except Thrown Unit :=
  if p then .ok () else .error (.illegal "Failed requirement.")

section Requirements

variable {α β : Type}

theorem thrown_bind_eq_ok {x : Except Thrown α} {f : α → Except Thrown β} {b : β} :
    x >>= f = .ok b ↔ ∃ a, x = .ok a ∧ f a = .ok b := by
  cases x with
  | error e =>
    constructor
    · intro h
      cases h
    · rintro ⟨a, h, -⟩
      cases h
  | ok a =>
    constructor
    · intro h
      exact ⟨a, rfl, h⟩
    · rintro ⟨a', h, hf⟩
      cases h
      exact hf

theorem thrown_ok_bind (a : α) (f : α → Except Thrown β) : Except.ok a >>= f = f a := rfl

theorem require_eq_ok {p : Prop} [Decidable p] {u : Unit} : require p = .ok u ↔ p := by
  unfold require
  split <;> simp_all

theorem require_bind {p : Prop} [Decidable p] (h : p) (f : Unit → Except Thrown β) : require p >>= f = f () := by
  rw [require, if_pos h]
  rfl

end Requirements

/-! ## The moment of an event -/

/-- What comes of a save that replaces a file: the new content, the old one, or no file at all. -/
inductive SaveOutcome where
  | written
  | kept
  | removed
deriving DecidableEq

/-- What an event meets: the time, whether the messages can be saved, what comes of saving the queue of deliveries, and
the path at which the media of a directory, name and Base64 text are stored (empty if they are not). -/
structure Surroundings where
  clock : Clock
  savesMessages : Bool := true
  savesQueue : SaveOutcome := .written
  storeMedia : String → String → String → String := fun _ _ _ => ""

end NodeX.Android
