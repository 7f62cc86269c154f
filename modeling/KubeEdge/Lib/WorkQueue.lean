import Mathlib.Data.List.Nodup

set_option autoImplicit false

/-!
# A work queue with a processing set

The work queue of client-go's `workqueue.Type`: the items waiting in order,
the set of items that need processing (`dirty`), and the set of items a worker
has taken and not yet marked done (`processing`). An item is queued at most
once, and an item being processed is not queued again while it is processed:
an `Add` then only marks it dirty, and its `Done` queues it. `Get` blocks on an
empty queue until the queue shuts down, and then reports the shutdown.

`Inv` is the queue's own comment on its fields, with the two facts the
operations need beside it (the sets have no duplicates, and every dirty item is
queued or processed); every operation keeps it, `Done` on an item being
processed. An item whose `Done` never comes stays processing, and no `Add`
queues it again.
-/

namespace KubeEdge.Lib

structure WorkQueue (α : Type) where
  queue : List α
  dirty : List α
  processing : List α
  shuttingDown : Bool
  deriving DecidableEq, Repr

namespace WorkQueue

variable {α : Type}

def empty : WorkQueue α := ⟨[], [], [], false⟩

def ShutDown (q : WorkQueue α) : WorkQueue α := { q with shuttingDown := true }

@[simp] theorem ShutDown_queue (q : WorkQueue α) : q.ShutDown.queue = q.queue := rfl
@[simp] theorem ShutDown_processing (q : WorkQueue α) : q.ShutDown.processing = q.processing := rfl

variable [DecidableEq α]

def Add (item : α) (q : WorkQueue α) : WorkQueue α :=
  if q.shuttingDown then q
  else if item ∈ q.dirty then q
  else
    let q := { q with dirty := q.dirty.insert item }
    if item ∈ q.processing then q else { q with queue := q.queue ++ [item] }

/-- `Get`: `none` while the call blocks (nothing queued, not shut down);
    otherwise the item taken, or `none` for the shutdown once the queue is
    drained. -/
def Get (q : WorkQueue α) : Option (Option α × WorkQueue α) :=
  match q.queue with
  | item :: rest =>
    some (some item,
      { q with queue := rest, processing := q.processing.insert item, dirty := q.dirty.erase item })
  | [] => if q.shuttingDown then some (none, q) else none

def Done (item : α) (q : WorkQueue α) : WorkQueue α :=
  let q := { q with processing := q.processing.erase item }
  if item ∈ q.dirty then { q with queue := q.queue ++ [item] } else q

/-- The queue's invariant: "every element of queue should be in the dirty set
    and not in the processing set", the sets as sets, and every dirty item
    queued or being processed. -/
structure Inv (q : WorkQueue α) : Prop where
  queue_nodup : q.queue.Nodup
  dirty_nodup : q.dirty.Nodup
  processing_nodup : q.processing.Nodup
  queued_dirty : ∀ x ∈ q.queue, x ∈ q.dirty
  queued_not_processing : ∀ x ∈ q.queue, x ∉ q.processing
  dirty_queued : ∀ x ∈ q.dirty, x ∈ q.queue ∨ x ∈ q.processing

@[simp] theorem Add_processing (item : α) (q : WorkQueue α) :
    (q.Add item).processing = q.processing := by
  unfold Add
  dsimp only
  split_ifs <;> rfl

@[simp] theorem Done_processing (item : α) (q : WorkQueue α) :
    (q.Done item).processing = q.processing.erase item := by
  unfold Done
  dsimp only
  split_ifs <;> rfl

theorem Get_eq_item {q q' : WorkQueue α} {item : α} (h : q.Get = some (some item, q')) :
    q.queue = item :: q'.queue ∧ q'.processing = q.processing.insert item ∧
      q'.dirty = q.dirty.erase item ∧ q'.shuttingDown = q.shuttingDown := by
  unfold Get at h
  split at h
  · simp only [Option.some.injEq, Prod.mk.injEq] at h
    obtain ⟨rfl, rfl⟩ := h
    simp_all
  · split at h <;> simp at h

theorem Get_eq_quit {q q' : WorkQueue α} (h : q.Get = some (none, q')) :
    q' = q ∧ q.queue = [] ∧ q.shuttingDown = true := by
  unfold Get at h
  split at h
  · simp at h
  · rename_i hq
    split at h
    · simp_all
    · simp at h

theorem Get_processing {q q' : WorkQueue α} {item : α} (h : q.Get = some (some item, q')) :
    item ∈ q'.processing := by
  simp [(Get_eq_item h).2.1]

theorem Add_queue_of_processing {q : WorkQueue α} {item : α} (h : item ∈ q.processing) :
    (q.Add item).queue = q.queue := by
  unfold Add
  dsimp only
  split_ifs <;> simp_all

theorem Add_queue_sub (item : α) (q : WorkQueue α) : ∀ x ∈ (q.Add item).queue, x ∈ q.queue ∨ x = item := by
  intro x hx
  unfold Add at hx
  dsimp only at hx
  split_ifs at hx <;> simp_all

omit [DecidableEq α] in
theorem Inv.empty : Inv (empty : WorkQueue α) := by
  constructor <;> simp [WorkQueue.empty]

omit [DecidableEq α] in
theorem Inv.ShutDown {q : WorkQueue α} (hq : q.Inv) : q.ShutDown.Inv :=
  ⟨hq.queue_nodup, hq.dirty_nodup, hq.processing_nodup, hq.queued_dirty,
    hq.queued_not_processing, hq.dirty_queued⟩

theorem Inv.Add {q : WorkQueue α} (hq : q.Inv) (item : α) : (q.Add item).Inv := by
  unfold WorkQueue.Add
  dsimp only
  split_ifs with hs hd hp
  · exact hq
  · exact hq
  -- `item` is processing: it becomes dirty and stays out of the queue
  · refine ⟨hq.queue_nodup, hq.dirty_nodup.insert, hq.processing_nodup, ?_, hq.queued_not_processing, ?_⟩
    · intro x hx
      exact List.mem_insert_of_mem (hq.queued_dirty x hx)
    · intro x hx
      rcases List.mem_insert_iff.mp hx with rfl | hx
      · exact .inr hp
      · exact hq.dirty_queued x hx
  -- `item` is new: it is queued at the end, and it was nowhere in the queue
  · have hnq : item ∉ q.queue := fun h => hd (hq.queued_dirty item h)
    refine ⟨hq.queue_nodup.append (List.nodup_singleton item) (by simpa using hnq),
      hq.dirty_nodup.insert, hq.processing_nodup, ?_, ?_, ?_⟩
    · intro x hx
      rcases List.mem_append.mp hx with hx | hx
      · exact List.mem_insert_of_mem (hq.queued_dirty x hx)
      · simp_all
    · intro x hx
      rcases List.mem_append.mp hx with hx | hx
      · exact hq.queued_not_processing x hx
      · simp_all
    · intro x hx
      rcases List.mem_insert_iff.mp hx with rfl | hx
      · simp
      · rcases hq.dirty_queued x hx with h | h
        · exact .inl (List.mem_append_left _ h)
        · exact .inr h

theorem Inv.Get {q q' : WorkQueue α} {item : α} (hq : q.Inv) (h : q.Get = some (some item, q')) :
    q'.Inv := by
  obtain ⟨hqueue, hproc, hdirty, -⟩ := Get_eq_item h
  have hnodup : (item :: q'.queue).Nodup := hqueue ▸ hq.queue_nodup
  rw [List.nodup_cons] at hnodup
  have hrest : ∀ x ∈ q'.queue, x ∈ q.queue := fun x hx => hqueue ▸ List.mem_cons_of_mem _ hx
  -- the rest of the queue holds neither `item` nor anything processing
  have hne : ∀ x ∈ q'.queue, x ≠ item := fun x hx e => hnodup.1 (e ▸ hx)
  refine ⟨hnodup.2, hdirty ▸ hq.dirty_nodup.erase item, hproc ▸ hq.processing_nodup.insert, ?_, ?_, ?_⟩
  · intro x hx
    rw [hdirty, hq.dirty_nodup.mem_erase_iff]
    exact ⟨hne x hx, hq.queued_dirty x (hrest x hx)⟩
  · intro x hx
    rw [hproc, List.mem_insert_iff, not_or]
    exact ⟨hne x hx, hq.queued_not_processing x (hrest x hx)⟩
  · intro x hx
    rw [hdirty, hq.dirty_nodup.mem_erase_iff] at hx
    rw [hproc, List.mem_insert_iff]
    rcases hq.dirty_queued x hx.2 with h | h
    · rw [hqueue] at h
      rcases List.mem_cons.mp h with e | h
      · exact absurd e hx.1
      · exact .inl h
    · exact .inr (.inr h)

theorem Inv.Done {q : WorkQueue α} {item : α} (hq : q.Inv) (hp : item ∈ q.processing) :
    (q.Done item).Inv := by
  have hnq : item ∉ q.queue := fun h => hq.queued_not_processing item h hp
  have hproc := hq.processing_nodup
  unfold WorkQueue.Done
  dsimp only
  split_ifs with hd
  -- `item` was marked dirty while it was processed: it is queued again
  · refine ⟨hq.queue_nodup.append (List.nodup_singleton item) (by simpa using hnq), hq.dirty_nodup,
      hproc.erase item, ?_, ?_, ?_⟩
    · intro x hx
      rcases List.mem_append.mp hx with hx | hx
      · exact hq.queued_dirty x hx
      · simp_all
    · intro x hx
      rw [hproc.mem_erase_iff]
      rcases List.mem_append.mp hx with hx | hx
      · exact fun h => hq.queued_not_processing x hx h.2
      · simp_all
    · intro x hx
      by_cases e : x = item
      · simp [e]
      · rcases hq.dirty_queued x hx with h | h
        · exact .inl (List.mem_append_left _ h)
        · exact .inr ((hproc.mem_erase_iff).mpr ⟨e, h⟩)
  · refine ⟨hq.queue_nodup, hq.dirty_nodup, hproc.erase item, hq.queued_dirty, ?_, ?_⟩
    · intro x hx h
      exact hq.queued_not_processing x hx ((hproc.mem_erase_iff).mp h).2
    · intro x hx
      have e : x ≠ item := fun e => hd (e ▸ hx)
      rcases hq.dirty_queued x hx with h | h
      · exact .inl h
      · exact .inr ((hproc.mem_erase_iff).mpr ⟨e, h⟩)

theorem Inv.Get_ne {q q' : WorkQueue α} {item x : α} (hq : q.Inv) (h : q.Get = some (some item, q'))
    (hx : x ∈ q.processing) : item ≠ x := by
  intro e
  have hqueue : item ∈ q.queue := by
    rw [(Get_eq_item h).1]
    exact List.mem_cons_self
  exact hq.queued_not_processing item hqueue (e ▸ hx)

theorem mem_processing_Done_of_ne {q : WorkQueue α} {item x : α} (hx : x ∈ q.processing) (hne : item ≠ x) :
    x ∈ (q.Done item).processing := by
  rw [Done_processing]
  exact (List.mem_erase_of_ne hne.symm).mpr hx

theorem Inv.not_mem_Done {q : WorkQueue α} (hq : q.Inv) (item : α) : item ∉ (q.Done item).processing := by
  rw [Done_processing, hq.processing_nodup.mem_erase_iff]
  simp

end WorkQueue

end KubeEdge.Lib
