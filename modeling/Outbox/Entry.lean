import Std.Data.TreeMap
import Std.Data.TreeSet

/-!
# Entries

An `Entry` is a record as it goes out: an id it is known by, its payload, and
headers with what else the service is told. An entry that stands for a record
that could not be converted says why (`Entry.invalid`).

What a service answers to a batch it accepted as a whole is a `Receipt`: the
entries it did reject, by id, with what it says about each of them.
-/

namespace Outbox

/-- Named texts, in ascending order of their names, each of which occurs once:
    headers with the same texts are equal. -/
structure Headers where
  pairs : List (String × String) := []
  /-- Each name is below those that follow it, hence none of them. -/
  ascending : pairs.Pairwise (fun x y => compare x.1 y.1 = .lt) := by simp
deriving DecidableEq, Repr

namespace Headers

/-- Headers with the given texts, the last one of each name. -/
def ofList (pairs : List (String × String)) : Headers where
  pairs := (Std.TreeMap.ofList pairs : Std.TreeMap String String).toList
  ascending := Std.TreeMap.ordered_keys_toList

/-- The text of a name. -/
def get? (h : Headers) (name : String) : Option String := h.pairs.lookup name

end Headers

/-- A record as it goes out. -/
structure Entry where
  /-- What the service's answer refers to the entry by. It stays the same when
      the entry is sent again. -/
  id : String
  payload : ByteArray := .empty
  headers : Headers := {}
  /-- Why the record could not be converted. -/
  invalid : Option String := none

instance : DecidableEq Entry := fun a b =>
  decidable_of_decidable_of_iff
    (p := a.id = b.id ∧ a.payload.data = b.payload.data ∧ a.headers = b.headers ∧
      a.invalid = b.invalid)
    (by cases a; cases b; simp [ByteArray.ext_iff])

namespace Entry

/-- The size counted against all limits: that of the payload as it is. -/
def size (e : Entry) : Nat := e.payload.size

/-- The entry may be sent. -/
def isValid (e : Entry) : Bool := e.invalid.isNone

/-- Stands for a record that could not be converted, for the given reason. -/
def unconvertible (id reason : String) : Entry := { id, invalid := some reason }

end Entry

/-- The total size of some entries. -/
def totalSize : List Entry → Nat
  | [] => 0
  | e :: es => e.size + totalSize es

@[simp] theorem totalSize_append (es es' : List Entry) :
    totalSize (es ++ es') = totalSize es + totalSize es' := by
  induction es with
  | nil => simp [totalSize]
  | cons e es ih => simp [totalSize, ih, Nat.add_assoc]

/-- What a service says about an entry it did not accept. -/
structure Rejection where
  id : String
  code : Option String := none
  message : Option String := none
  /-- The service holds the request responsible rather than itself. -/
  senderFault : Option Bool := none
deriving DecidableEq, Repr

/-- The answer to a batch accepted as a whole. -/
structure Receipt where
  rejections : List Rejection := []
deriving DecidableEq, Repr

namespace Receipt

/-- Some rejection is of the entry with this id. -/
def rejects (r : Receipt) (id : String) : Bool := r.rejections.any (·.id == id)

theorem rejects_iff {r : Receipt} {id : String} :
    r.rejects id = true ↔ ∃ x ∈ r.rejections, x.id = id := by
  simp [rejects]

/-- The ids rejected, each once and in ascending order. -/
def rejectedIds (r : Receipt) : Std.TreeSet String := .ofList (r.rejections.map (·.id))

@[simp] theorem contains_rejectedIds (r : Receipt) (id : String) :
    r.rejectedIds.contains id = r.rejects id := by
  rw [Bool.eq_iff_iff, rejects_iff]
  simp [rejectedIds, Std.TreeSet.contains_ofList]

end Receipt

end Outbox
