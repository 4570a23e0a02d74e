/-!
# PageLandmarks.Queue

**First-in first-out queues.** A queue is held as two lists, so that both ends
are within reach; `Queue.toList` is what it means: the elements in the order in
which they will be popped. Every operation has its equation through this view.
-/

namespace PageLandmarks

/-- A queue: the elements to pop next, and after them those pushed last, the
last one first. -/
structure Queue (α : Type) where
  /-- The elements to pop next. -/
  front : List α
  /-- The elements after those, the last one first. -/
  back : List α
  deriving Repr

namespace Queue

variable {α : Type}

/-- The elements in the order in which they will be popped. -/
def toList (q : Queue α) : List α := q.front ++ q.back.reverse

/-- The queue of these elements. -/
def ofList (xs : List α) : Queue α := ⟨xs, []⟩

/-- The queue without elements. -/
def empty : Queue α := ofList []

/-- The queue that begins with these elements, if any are given. -/
def seeded (seed : Option (List α)) : Queue α := (seed.map ofList).getD empty

/-- Put an element at the back. -/
def push (q : Queue α) (x : α) : Queue α := ⟨q.front, x :: q.back⟩

/-- Put elements at the back, one after another. -/
def pushAll (q : Queue α) (xs : List α) : Queue α := xs.foldl push q

/-- The element at the front and the queue without it. -/
def pop? (q : Queue α) : Option (α × Queue α) :=
  match q.front with
  | x :: front => some (x, ⟨front, q.back⟩)
  | [] =>
    match q.back.reverse with
    | x :: front => some (x, ⟨front, []⟩)
    | [] => none

/-- Pop from a queue where an element may be missing: what comes off, and the queue
after that. Of an empty queue nothing comes off and it stays as it is, so the
answer is the same as for a missing element. -/
def pop (q : Queue (Option α)) : Option α × Queue (Option α) := q.pop?.getD (none, q)

/-- The number of elements. -/
def size (q : Queue α) : Nat := q.front.length + q.back.length

/-- There are no elements. -/
def isEmpty (q : Queue α) : Bool := q.front.isEmpty && q.back.isEmpty

/-! ### The view -/

@[simp] theorem toList_ofList (xs : List α) : (ofList xs).toList = xs := by
  simp [ofList, toList]

@[simp] theorem toList_push (q : Queue α) (x : α) : (q.push x).toList = q.toList ++ [x] := by
  simp [push, toList]

@[simp] theorem toList_pushAll (q : Queue α) (xs : List α) :
    (q.pushAll xs).toList = q.toList ++ xs := by
  induction xs generalizing q with
  | nil => simp [pushAll]
  | cons x xs ih =>
    have h := ih (q.push x)
    simp only [pushAll] at h
    simp [pushAll, h]

theorem toList_eq_cons_of_pop? {q r : Queue α} {x : α} (h : q.pop? = some (x, r)) :
    q.toList = x :: r.toList := by
  unfold pop? at h
  split at h
  · rename_i y front hf
    obtain ⟨rfl, rfl⟩ := Prod.mk.inj (Option.some.inj h)
    simp [toList, hf]
  · rename_i hf
    split at h
    · rename_i y front hb
      obtain ⟨rfl, rfl⟩ := Prod.mk.inj (Option.some.inj h)
      simp [toList, hf, hb]
    · simp at h

theorem toList_eq_nil_of_pop? {q : Queue α} (h : q.pop? = none) : q.toList = [] := by
  unfold pop? at h
  split at h
  · simp at h
  · rename_i hf
    split at h
    · simp at h
    · rename_i hb
      simp [toList, hf, hb]

end Queue

end PageLandmarks
