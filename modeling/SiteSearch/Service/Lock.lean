import SiteSearch.Content.Model
import SiteSearch.Text.Unsigned

/-!
# Locks

An element is indexed by one worker at a time. A lock is a name that is held or not; taking one that
is held fails at once, without waiting.
-/
namespace SiteSearch

/-- The name of the lock of an element on a site. -/
def elementLock (id : ElementId) (site : SiteId) : String :=
  "searchindex:" ++ Text.writeWord id ++ ":" ++ Text.writeWord site

/-- The names of the locks that are held, each once. -/
structure Locks where
  held : List String := []
  deriving DecidableEq, Repr

namespace Locks

instance : Inhabited Locks := ⟨{}⟩

/-- Whether a lock is held. -/
def isHeld (locks : Locks) (name : String) : Bool :=
  locks.held.contains name

/-- Takes a lock, unless it is held. -/
def acquire? (locks : Locks) (name : String) : Option Locks :=
  if locks.isHeld name then none else some ⟨name :: locks.held⟩

/-- Gives a lock back. -/
def release (locks : Locks) (name : String) : Locks :=
  ⟨locks.held.erase name⟩

/-- The number of locks that are held. -/
def count (locks : Locks) : Nat := locks.held.length

theorem acquire?_eq_none {locks : Locks} {name : String} :
    locks.acquire? name = none ↔ locks.isHeld name = true := by
  simp [acquire?]

theorem acquire?_eq_some {locks taken : Locks} {name : String} :
    locks.acquire? name = some taken ↔
      locks.isHeld name = false ∧ taken = ⟨name :: locks.held⟩ := by
  unfold acquire?
  cases locks.isHeld name with
  | true => simp
  | false => simp [@eq_comm _ taken]

/-- Taking a lock and giving it back changes nothing. -/
theorem release_of_acquire? {locks taken : Locks} {name : String}
    (h : locks.acquire? name = some taken) : taken.release name = locks := by
  obtain ⟨-, rfl⟩ := acquire?_eq_some.1 h
  simp [release]

/-- Whoever takes a lock does not keep others from taking other ones. -/
theorem isHeld_of_acquire? {locks taken : Locks} {name other : String}
    (h : locks.acquire? name = some taken) (hother : other ≠ name) :
    taken.isHeld other = locks.isHeld other := by
  obtain ⟨-, rfl⟩ := acquire?_eq_some.1 h
  simp [isHeld, hother]

end Locks

end SiteSearch
