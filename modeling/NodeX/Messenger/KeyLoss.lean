/-
Losing the key file. Whoever removes the files from outside, `get_or_create_instance_key` refuses to go on
with a database whose key is gone, unless this process still has the key: then it hands the key out and
writes a missing key file again.
-/
import NodeX.Messenger.DbFile

namespace NodeX.Messenger

open NodeX.Lib

/-! ## The files under other hands -/

inductive KeyOp where
  | save (db : MessengerDb) (draw : SaveDraw)
  | load (fresh : MasterKey) (write : WriteResult)
  | removeDb
  | removeKey
  | forget

variable (C : Crypto) (J : DbJson) (P : DbPath)

def World.keyStep (w : World) : KeyOp → World
  | .save db draw => (saveToFile C J P w db draw).1
  | .load fresh write => (loadFromFile C J P w fresh write).1
  | .removeDb => { w with dbFile := none }
  | .removeKey => { w with keyFile := none }
  | .forget => forgetInstanceKey P w

/-- There is a database, and no key next to it. -/
def World.KeyLost (w : World) : Prop := w.dbFile.any (fun data => 0 < data.length) = true ∧ w.storedKey = none

instance (w : World) : Decidable w.KeyLost := inferInstanceAs (Decidable (_ ∧ _))

/-- The call fails and leaves files and cache alone. -/
def FailsClosed (w : World) (fresh : MasterKey) (write : WriteResult) : Prop :=
  (∃ e, (getOrCreateInstanceKey P w fresh write).2 = .error e) ∧
    (getOrCreateInstanceKey P w fresh write).1.keyFile = w.keyFile ∧
    (getOrCreateInstanceKey P w fresh write).1.cache = w.cache

namespace LostKey

/-- An absolute path. -/
def path : DbPath := ⟨"/home/u/messenger.json", "/home/u/messenger.json", "/home/u/messenger.json.key"⟩

def step : World → KeyOp → World := World.keyStep .transparent StaleKey.json path

/-- Somebody removes the key file of a running messenger. -/
def removed : World := run step {} [.save {} (StaleKey.draw 1), .removeKey]

/-- The same, and the process has forgotten the key. -/
def forgotten : World := run step {} [.save {} (StaleKey.draw 1), .removeKey, .forget]

end LostKey

end NodeX.Messenger
