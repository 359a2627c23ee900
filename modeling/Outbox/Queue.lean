/-!
# Queues

A sequence that grows at its end, one element at a time, while elements are
taken from its front, or put back there, many at a time. The elements are the
list `Queue.toList`, by which every operation is described. All of them take
time for the elements they are about alone, but for the first look at the list
after it has grown.
-/

namespace Outbox

/-- A sequence of which the first elements are held in order and the others in
    reverse. -/
structure Queue (α : Type) where
  front : List α := []
  back : List α := []
  size : Nat := 0
  size_eq : size = front.length + back.length := by rfl

namespace Queue

variable {α : Type}

/-- The elements in order. -/
def toList (q : Queue α) : List α :=
  match q.back with
  | [] => q.front
  | back => q.front ++ back.reverse

theorem toList_eq (q : Queue α) : q.toList = q.front ++ q.back.reverse := by
  unfold toList
  split
  · rename_i h
    simp [h]
  · rfl

@[simp] theorem length_toList (q : Queue α) : q.toList.length = q.size := by
  simp [toList_eq, q.size_eq]

/-- There are no elements. -/
def isEmpty (q : Queue α) : Bool := q.size = 0

theorem isEmpty_iff {q : Queue α} : q.isEmpty = true ↔ q.toList = [] := by
  rw [← List.length_eq_zero_iff, length_toList, isEmpty, decide_eq_true_iff]

@[simp] theorem toList_empty : ({} : Queue α).toList = [] := rfl

/-- Puts an element at the end. -/
def push (q : Queue α) (a : α) : Queue α :=
  ⟨q.front, a :: q.back, q.size + 1, by rw [q.size_eq]; rfl⟩

@[simp] theorem toList_push (q : Queue α) (a : α) : (q.push a).toList = q.toList ++ [a] := by
  simp [toList_eq, push]

/-- Takes `n` elements from the front. -/
def drop (q : Queue α) (n : Nat) : Queue α :=
  ⟨q.toList.drop n, [], q.size - n, by simp⟩

@[simp] theorem toList_drop (q : Queue α) (n : Nat) : (q.drop n).toList = q.toList.drop n := rfl

/-- Puts elements in front of all others. -/
def prepend (as : List α) (q : Queue α) : Queue α :=
  ⟨as ++ q.front, q.back, as.length + q.size, by simp [q.size_eq, Nat.add_assoc]⟩

@[simp] theorem toList_prepend (as : List α) (q : Queue α) :
    (q.prepend as).toList = as ++ q.toList := by
  simp [toList_eq, prepend]

end Queue

end Outbox
