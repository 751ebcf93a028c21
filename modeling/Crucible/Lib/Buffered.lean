import Mathlib.Algebra.Order.Ring.Nat
import Mathlib.Data.List.Basic

/-!
# Buffered writers over a file that only grows

A write can stop anywhere.  What a writer accepted and what is in the file are then two things: the
buffer is between them.

* `writeAll`           a write that may stop, and what it wrote by then;
* `Writer`             a file and a buffer before it: `Writer.write`, `Writer.flushBuf`,
                       `Writer.close`;
* `Takes`              how much of some bytes a writer accepted: all of them, or, with a reason, a
                       part; `Takes.andThen` and `Takes.stopped` compose;
* `Writer.write_takes` each write takes what it is given, in full or up to where it stopped;
* `Writer.close_prefix`      and what is in the file in the end was accepted before.
-/

namespace Buffered
variable {α : Type}

/-- how writing stops: why, and how much was written by then -/
structure Stop where
  reason : String
  written : Nat

/-- `write_all`: what is written, and why it is not everything -/
def writeAll (bytes : List α) : Option Stop → List α × Option String
  | none => (bytes, none)
  | some stop =>
    if stop.written < bytes.length then (bytes.take stop.written, some stop.reason)
    else (bytes, none)

theorem writeAll_cases (bytes : List α) (stop : Option Stop) :
    writeAll bytes stop = (bytes, none) ∨
      ∃ k reason, k < bytes.length ∧ writeAll bytes stop = (bytes.take k, some reason) := by
  cases stop with
  | none => exact Or.inl rfl
  | some stop =>
    rw [writeAll]
    split
    · next h => exact Or.inr ⟨stop.written, stop.reason, h, rfl⟩
    · exact Or.inl rfl

/-! ## writers -/

structure Writer (α : Type) where
  file : List α
  buffer : List α

namespace Writer

/-- what was accepted so far -/
def stream (w : Writer α) : List α := w.file ++ w.buffer

/-- `flush_buf`: what is not written stays in the buffer -/
def flushBuf (w : Writer α) (stop : Option Stop) : Writer α × Option String :=
  let (written, failure) := writeAll w.buffer stop
  (⟨w.file ++ written, w.buffer.drop written.length⟩, failure)

/-- bytes that are as long as the buffer can be pass it by -/
def put (capacity : Nat) (bytes : List α) (writing : Option Stop) (w : Writer α) :
    Writer α × Option String :=
  if capacity ≤ bytes.length then
    let (written, failure) := writeAll bytes writing
    (⟨w.file ++ written, w.buffer⟩, failure)
  else (⟨w.file, w.buffer ++ bytes⟩, none)

/-- the buffer is emptied first when the bytes do not fit -/
def write (capacity : Nat) (bytes : List α) (flushing writing : Option Stop) (w : Writer α) :
    Writer α × Option String :=
  let spare := capacity - w.buffer.length
  if bytes.length < spare then (⟨w.file, w.buffer ++ bytes⟩, none)
  else
    match if spare < bytes.length then w.flushBuf flushing else (w, none) with
    | (w, some reason) => (w, some reason)
    | (w, none) => w.put capacity bytes writing

/-- a writer that is dropped tries to empty its buffer: what is in the file then -/
def close (w : Writer α) (stop : Option Stop) : List α := (w.flushBuf stop).1.file

end Writer

/-! ## what a writer accepts -/

/-- from `w` to `w'`, this much of the bytes was accepted, and the file only grew -/
structure Takes (w : Writer α) (bytes : List α) (w' : Writer α) (failure : Option String)
    (part : List α) : Prop where
  grows : w.file <+: w'.file
  stream : w'.stream = w.stream ++ part
  isPrefix : part <+: bytes
  whole : part = bytes ↔ failure = none

section
variable {w w' w'' : Writer α} {bytes more part part' : List α} {failure : Option String}
  {reason : String} {stop : Option Stop}

theorem Takes.andThen (h : Takes w bytes w' none part) (h' : Takes w' more w'' failure part') :
    Takes w (bytes ++ more) w'' failure (bytes ++ part') := by
  obtain rfl := h.whole.mpr rfl
  exact
    { grows := h.grows.trans h'.grows
      stream := by rw [h'.stream, h.stream, List.append_assoc]
      isPrefix := (List.prefix_append_right_inj _).mpr h'.isPrefix
      whole := (List.append_right_inj _).trans h'.whole }

theorem Takes.stopped (h : Takes w bytes w' (some reason) part) (more : List α) :
    Takes w (bytes ++ more) w' (some reason) part where
  grows := h.grows
  stream := h.stream
  isPrefix := h.isPrefix.trans (List.prefix_append _ _)
  whole := by
    refine iff_of_false (fun heq => ?_) (fun h => by cases h)
    have hlen : part.length = bytes.length + more.length := by rw [heq, List.length_append]
    have hle := h.isPrefix.length_le
    have hpart : part = bytes := h.isPrefix.eq_of_length (by omega)
    cases h.whole.mp hpart

theorem Takes.all (w : Writer α) (bytes : List α) :
    Takes w bytes ⟨w.file, w.buffer ++ bytes⟩ none bytes where
  grows := List.prefix_refl _
  stream := (List.append_assoc _ _ _).symm
  isPrefix := List.prefix_refl _
  whole := iff_of_true rfl rfl

/-- a full buffer is written in front of what comes next -/
theorem Writer.flushBuf_spec (w : Writer α) (stop : Option Stop) :
    w.file <+: (w.flushBuf stop).1.file ∧ (w.flushBuf stop).1.stream = w.stream ∧
      ((w.flushBuf stop).2 = none → (w.flushBuf stop).1.buffer = []) := by
  unfold Writer.flushBuf
  obtain heq | ⟨k, reason, hlt, heq⟩ := writeAll_cases w.buffer stop
  · rw [heq]
    refine ⟨List.prefix_append _ _, ?_, fun _ => List.drop_length⟩
    show w.file ++ w.buffer ++ w.buffer.drop w.buffer.length = w.file ++ w.buffer
    rw [List.drop_length, List.append_nil]
  · rw [heq]
    refine ⟨List.prefix_append _ _, ?_, fun h => by cases h⟩
    show w.file ++ w.buffer.take k ++ w.buffer.drop (w.buffer.take k).length = w.file ++ w.buffer
    rw [List.length_take, min_eq_left hlt.le, List.append_assoc, List.take_append_drop]

theorem Takes.flushed (h : w.file <+: w'.file) (hstream : w'.stream = w.stream)
    (h' : Takes w' bytes w'' failure part) : Takes w bytes w'' failure part :=
  ⟨h.trans h'.grows, by rw [h'.stream, hstream], h'.isPrefix, h'.whole⟩

theorem Writer.put_takes {capacity : Nat} (writing : Option Stop)
    (h : capacity ≤ bytes.length → bytes = [] ∨ w.buffer = []) :
    ∃ part, Takes w bytes (w.put capacity bytes writing).1 (w.put capacity bytes writing).2
      part := by
  unfold Writer.put
  split
  · next hlarge =>
    have hstream {written : List α} (hwritten : written <+: bytes) :
        (⟨w.file ++ written, w.buffer⟩ : Writer α).stream = w.stream ++ written := by
      show w.file ++ written ++ w.buffer = w.file ++ w.buffer ++ written
      rcases h hlarge with rfl | hempty
      · rw [List.prefix_nil.mp hwritten, List.append_nil, List.append_nil]
      · rw [hempty, List.append_nil, List.append_nil]
    obtain heq | ⟨k, reason, hlt, heq⟩ := writeAll_cases bytes writing
    · rw [heq]
      exact ⟨bytes, List.prefix_append _ _, hstream (List.prefix_refl _), List.prefix_refl _,
        iff_of_true rfl rfl⟩
    · rw [heq]
      refine ⟨bytes.take k, List.prefix_append _ _, hstream (List.take_prefix _ _),
        List.take_prefix _ _, iff_of_false (fun h => ?_) (fun h => by cases h)⟩
      have hlen := congrArg List.length h
      rw [List.length_take] at hlen
      omega
  · exact ⟨bytes, .all w bytes⟩

/-- **What a write accepts**: everything, or a part and a reason. -/
theorem Writer.write_takes (capacity : Nat) (bytes : List α) (flushing writing : Option Stop)
    (w : Writer α) : ∃ part, Takes w bytes (w.write capacity bytes flushing writing).1
      (w.write capacity bytes flushing writing).2 part := by
  unfold Writer.write
  by_cases hroom : bytes.length < capacity - w.buffer.length
  · rw [if_pos hroom]
    exact ⟨bytes, .all w bytes⟩
  · rw [if_neg hroom]
    by_cases hfull : capacity - w.buffer.length < bytes.length
    · rw [if_pos hfull]
      obtain ⟨hgrows, hstream, hempty⟩ := w.flushBuf_spec flushing
      generalize w.flushBuf flushing = flushed at hgrows hstream hempty ⊢
      obtain ⟨w', _ | reason⟩ := flushed
      · obtain ⟨part, h⟩ := put_takes writing fun _ => Or.inr (hempty rfl)
        exact ⟨part, h.flushed hgrows hstream⟩
      · refine ⟨[], hgrows, ?_, List.nil_prefix, iff_of_false (fun h => ?_) (fun h => by cases h)⟩
        · rw [List.append_nil, hstream]
        · have hlen : bytes.length = 0 := by rw [← h, List.length_nil]
          omega
    · -- bytes that fit exactly, and pass the buffer by, find it empty
      rw [if_neg hfull]
      refine put_takes writing fun hlarge => ?_
      rcases Nat.eq_zero_or_pos bytes.length with hzero | hpos
      · exact Or.inl (List.eq_nil_of_length_eq_zero hzero)
      · exact Or.inr (List.eq_nil_of_length_eq_zero (by omega))

theorem Writer.close_grows (w : Writer α) (stop : Option Stop) : w.file <+: w.close stop :=
  (w.flushBuf_spec stop).1

/-- what is in the file in the end was accepted, and all of it if nothing is left in the buffer -/
theorem Writer.close_prefix (w : Writer α) (stop : Option Stop) :
    w.close stop <+: w.stream ∧ (w.buffer = [] → w.close stop = w.stream) := by
  obtain ⟨_, hstream, _⟩ := w.flushBuf_spec stop
  refine ⟨⟨(w.flushBuf stop).1.buffer, hstream⟩, fun hempty => ?_⟩
  have hwritten : writeAll w.buffer stop = ([], none) := by
    rw [hempty]
    obtain heq | ⟨k, _, hlt, _⟩ := writeAll_cases ([] : List α) stop
    · exact heq
    · exact absurd hlt (Nat.not_lt_zero k)
  show (w.flushBuf stop).1.file = w.file ++ w.buffer
  rw [Writer.flushBuf, hwritten, hempty]

end

end Buffered
