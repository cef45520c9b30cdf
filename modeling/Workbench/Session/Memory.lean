import Workbench.Session.Basic

/-!
# Sessions in memory

A store that keeps its session in memory. It fails on demand, which leaves what it keeps as it is.
-/

namespace Workbench.Session

/-- The failures that a store is made to show, one for each operation. -/
structure Faults where
  /-- The failure of reading. -/
  get : Option StoreError
  /-- The failure of keeping a session. -/
  set : Option StoreError
  /-- The failure of removing the session. -/
  clear : Option StoreError
  deriving DecidableEq, Repr

/-- No failure at all. -/
def Faults.none : Faults := ⟨.none, .none, .none⟩

/-- A store in memory. -/
structure Memory where
  /-- The session that is kept. -/
  current : Option Session
  /-- The failures shown. -/
  faults : Faults
  deriving DecidableEq

namespace Memory

/-- A store that keeps the given session and does not fail. -/
def holding (session : Option Session) : Memory := ⟨session, .none⟩

/-- The session that is kept. -/
def get (m : Memory) : Except StoreError (Option Session) :=
  match m.faults.get with
  | some e => .error e
  | none => .ok m.current

/-- Keeps a session in place of the one before. -/
def set (session : Session) (m : Memory) : Except StoreError Unit × Memory :=
  match m.faults.set with
  | some e => (.error e, m)
  | none => (.ok (), { m with current := some session })

/-- Keeps no session any more. -/
def clear (m : Memory) : Except StoreError Unit × Memory :=
  match m.faults.clear with
  | some e => (.error e, m)
  | none => (.ok (), { m with current := none })

instance : SessionStore Memory := ⟨get, set, clear⟩

end Memory

end Workbench.Session
