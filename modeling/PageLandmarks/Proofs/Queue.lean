import PageLandmarks.Queue

/-!
# PageLandmarks.Proofs.Queue

**A queue loses, doubles and reorders nothing.** At any time, what has come off a queue and
after it what is still in it are the elements that it began with and after them those that have
been pushed. One operation keeps to that (`Usage.perform_all`): a push adds its element at
the end of both lists, and a pop moves the front element from one part of the first list to
the other.

An element may be missing, and a pop that takes a missing one off answers like a pop of an
empty queue. So `Usage` goes by whether the queue was empty, and not by the answer.
-/

namespace PageLandmarks.Queue

variable {α : Type}

/-! ### What is in a queue -/

@[simp] theorem toList_seeded (seed : Option (List α)) : (seeded seed).toList = seed.getD [] := by
  cases seed <;> simp [seeded, empty]

theorem size_eq_length (q : Queue α) : q.size = q.toList.length := by
  simp [size, toList]

theorem isEmpty_iff (q : Queue α) : q.isEmpty = true ↔ q.toList = [] := by
  simp [isEmpty, toList]

/-- Nothing comes off an empty queue, and it stays as it is. -/
theorem pop_of_isEmpty {q : Queue (Option α)} (h : q.isEmpty = true) : q.pop = (none, q) := by
  cases hpop : q.pop? with
  | none => simp [pop, hpop]
  | some popped =>
      have hcons := toList_eq_cons_of_pop? hpop
      rw [q.isEmpty_iff.mp h] at hcons
      cases hcons

/-- From any other queue comes the element at its front. -/
theorem toList_eq_cons_pop {q : Queue (Option α)} (h : ¬ q.isEmpty = true) :
    q.toList = q.pop.1 :: q.pop.2.toList := by
  cases hpop : q.pop? with
  | none => exact absurd (q.isEmpty_iff.mpr (toList_eq_nil_of_pop? hpop)) h
  | some popped => simpa [pop, hpop] using toList_eq_cons_of_pop? hpop

/-! ### Queues in use -/

/-- What is done with a queue. -/
inductive Operation (α : Type)
  /-- Push an element, which may be missing. -/
  | push (x : Option α)
  | pop

/-- The element that an operation pushes, if it pushes one. -/
def Operation.pushed? : Operation α → Option (Option α)
  | push x => some x
  | pop => none

/-- The elements that operations push, in order. -/
def pushed (ops : List (Operation α)) : List (Option α) := ops.filterMap Operation.pushed?

theorem pushed_pops (n : Nat) : pushed (List.replicate n (.pop : Operation α)) = [] := by
  simp [pushed, Operation.pushed?, List.filterMap_replicate]

/-- A queue in use. -/
structure Usage (α : Type) where
  /-- The queue as it is now. -/
  queue : Queue (Option α)
  /-- What has come off it, in order. -/
  popped : List (Option α)

namespace Usage

/-- A queue that is not yet in use. -/
def start (seed : Option (List (Option α))) : Usage α := ⟨.seeded seed, []⟩

/-- Carry out an operation. A pop of an empty queue takes nothing off it. -/
def perform (u : Usage α) : Operation α → Usage α
  | .push x => { u with queue := u.queue.push x }
  | .pop =>
    { queue := u.queue.pop.2
      popped := if u.queue.isEmpty then u.popped else u.popped ++ [u.queue.pop.1] }

/-- Carry out operations, one after another. -/
def performAll (u : Usage α) (ops : List (Operation α)) : Usage α := ops.foldl perform u

/-- What has come off, and after it what is still queued. -/
def all (u : Usage α) : List (Option α) := u.popped ++ u.queue.toList

theorem perform_pop_of_isEmpty {u : Usage α} (h : u.queue.isEmpty = true) :
    u.perform .pop = u := by
  simp [perform, h, pop_of_isEmpty h]

/-- One operation adds to the list what it pushes, and changes nothing else. -/
theorem perform_all (u : Usage α) (op : Operation α) :
    (u.perform op).all = u.all ++ op.pushed?.toList := by
  cases op with
  | push x => simp [perform, all, Operation.pushed?]
  | pop =>
      by_cases hempty : u.queue.isEmpty = true
      · simp [perform_pop_of_isEmpty hempty, Operation.pushed?]
      · simp [perform, all, hempty, toList_eq_cons_pop hempty, Operation.pushed?]

/-- So do operations one after another. -/
theorem performAll_all (u : Usage α) (ops : List (Operation α)) :
    (u.performAll ops).all = u.all ++ pushed ops := by
  induction ops generalizing u with
  | nil => simp [performAll, pushed]
  | cons op ops ih =>
      have hrest := ih (u.perform op)
      rw [perform_all] at hrest
      cases hop : op.pushed? <;> simpa [performAll, pushed, hop] using hrest

/-- As many pops as there are elements leave none. -/
theorem drained_isEmpty (u : Usage α) :
    (u.performAll (List.replicate u.queue.size .pop)).queue.isEmpty = true := by
  generalize hsize : u.queue.size = n
  induction n generalizing u with
  | zero =>
      rw [size_eq_length] at hsize
      exact u.queue.isEmpty_iff.mpr (List.eq_nil_of_length_eq_zero hsize)
  | succ n ih =>
      have hnot : ¬ u.queue.isEmpty = true := by
        intro hempty
        rw [size_eq_length, u.queue.isEmpty_iff.mp hempty] at hsize
        cases hsize
      rw [size_eq_length, toList_eq_cons_pop hnot, List.length_cons, ← size_eq_length] at hsize
      exact ih (u.perform .pop) (Nat.succ.inj hsize)

/-- What is known of a queue that began with `seed`, after the operations `ops`. -/
structure Accounts (seed : List (Option α)) (ops : List (Operation α)) (u : Usage α) :
    Prop where
  /-- What has come off and what is still queued are what it began with and what has been
  pushed, in order. -/
  listed : u.popped ++ u.queue.toList = seed ++ pushed ops
  /-- What is still queued comes off by as many pops as there are elements, in order, and then
  the queue is empty. -/
  drained : (u.performAll (List.replicate u.queue.size .pop)).popped = seed ++ pushed ops ∧
    (u.performAll (List.replicate u.queue.size .pop)).queue.isEmpty = true
  /-- A pop of the empty queue answers with nothing and changes nothing. -/
  idle : u.queue.isEmpty = true → u.queue.pop = (none, u.queue) ∧ u.perform .pop = u
  /-- The size is the number of elements still queued. -/
  size_eq_length : u.queue.size = u.queue.toList.length
  /-- That number is what it began with and what has been pushed, less what has come off. -/
  size_eq : (u.queue.size : Int) = seed.length + (pushed ops).length - u.popped.length
  /-- The queue is empty if that number is zero. -/
  isEmpty_iff : u.queue.isEmpty = true ↔
    (seed.length + (pushed ops).length - u.popped.length : Int) = 0

/-- **Whatever is pushed onto a queue and popped off it, nothing is lost, doubled or
reordered**, missing elements included. -/
theorem operations_keep_order (seed : Option (List (Option α))) (ops : List (Operation α)) :
    Accounts (seed.getD []) ops ((start seed).performAll ops) := by
  have hlisted : ((start seed).performAll ops).all = seed.getD [] ++ pushed ops := by
    rw [performAll_all]
    simp [start, all]
  generalize (start seed).performAll ops = u at hlisted
  have hlength := congrArg List.length hlisted
  simp only [all, List.length_append] at hlength
  have hempty := u.drained_isEmpty
  have hsize : (u.queue.size : Int) =
      (seed.getD []).length + (pushed ops).length - u.popped.length := by
    rw [u.queue.size_eq_length]
    omega
  refine ⟨hlisted, ⟨?_, hempty⟩, fun h => ⟨pop_of_isEmpty h, perform_pop_of_isEmpty h⟩,
    u.queue.size_eq_length, hsize, ?_⟩
  · have hall := u.performAll_all (List.replicate u.queue.size .pop)
    rw [hlisted, all, (Queue.isEmpty_iff _).mp hempty, pushed_pops] at hall
    simpa using hall
  · rw [← hsize, u.queue.size_eq_length, Queue.isEmpty_iff, ← List.length_eq_zero_iff]
    omega

/-- Missing elements come off like any others, and the last pop finds the queue empty. -/
example : ((start (some [none, some 'a'])).performAll
    [.push none, .pop, .pop, .pop, .pop, .push (some 'b')]).popped = [none, some 'a', none] := by
  decide

end Usage

end PageLandmarks.Queue
