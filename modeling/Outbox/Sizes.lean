import Outbox.Entry
import Std.Data.TreeMap

/-!
# Sizes by id

What is known of a batch while it is out: the size of the entry with each id,
and that of all of them together (`Sizes.ofBatch`). From the ids that come back
as not delivered follows the size of all that was (`Sizes.without`).
-/

namespace Outbox

/-- The sizes of entries by their ids. Of the entries with one id the latest
    counts. -/
structure Sizes where
  byId : Std.TreeMap String Nat := {}
  /-- The sum of all sizes. -/
  total : Nat := 0

namespace Sizes

/-- The size of the entry with an id, nothing if there is none. -/
def get (s : Sizes) (id : String) : Nat := s.byId.getD id 0

/-- Adds an entry, in place of the one with its id. -/
def insert (s : Sizes) (e : Entry) : Sizes where
  byId := s.byId.insert e.id e.size
  total := s.total - s.get e.id + e.size

/-- The sizes of the entries of a batch. -/
def ofBatch (batch : List Entry) : Sizes := batch.foldl insert {}

/-- The size of all but the entries with the given ids. An id that is given
    twice is taken off twice, at most up to all there is. -/
def without (s : Sizes) (ids : List String) : Nat :=
  s.total - ids.foldr (s.get · + ·) 0

@[simp] theorem get_insert (s : Sizes) (e : Entry) (id : String) :
    (s.insert e).get id = if e.id = id then e.size else s.get id := by
  simp [get, insert, Std.TreeMap.getD_insert]

end Sizes

end Outbox
