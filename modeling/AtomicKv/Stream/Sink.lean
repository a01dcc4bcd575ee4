import AtomicKv.Fault
import AtomicKv.Frame

/-!
# Writing frames to a stream

A sink takes bytes in portions until it is full. A frame is offered until all of it is
taken or a call takes nothing, and flushed only in the first case.
-/
namespace AtomicKv

structure Sink where
  /-- The bytes taken so far, latest first. -/
  taken : Bytes := []
  /-- How many bytes have been taken. -/
  written : Nat := 0
  written_eq : written = taken.length := by rfl
  /-- Flushes so far, failed ones included. -/
  flushes : Nat := 0
  /-- How many more bytes fit; any number when absent. -/
  room : Option Nat := none
  /-- The most bytes one call takes. -/
  portion : Nat := Frame.headerSize + Frame.maxPayload
  /-- How a call fails that can take no byte, never by an interruption, after which it would be
  made again; without it, no byte is taken. -/
  whenFull : Option Fault := none
  /-- How every flush fails, if it does. -/
  whenFlushed : Option Fault := none

namespace Sink

def bytes (s : Sink) : Bytes :=
  s.taken.reverse

/-- The most bytes the next call takes. -/
def allowance (s : Sink) : Nat :=
  match s.room with
  | none => s.portion
  | some room => min s.portion room

def take (s : Sink) (part : Bytes) : Sink :=
  { s with
    taken := part.reverseAux s.taken
    written := s.written + part.length
    written_eq := by simp [List.reverseAux_eq, s.written_eq, Nat.add_comm]
    room := s.room.map (· - part.length) }

@[simp] theorem bytes_take (s : Sink) (part : Bytes) : (s.take part).bytes = s.bytes ++ part := by
  simp [bytes, take, List.reverseAux_eq]

def writeAll (s : Sink) (data : Bytes) : Except Fault Unit × Sink :=
  if data = [] then (.ok (), s)
  else if s.allowance = 0 then (.error (s.whenFull.getD .noRoom), s)
  else (s.take (data.take s.allowance)).writeAll (data.drop s.allowance)
  termination_by data.length
  decreasing_by
    rename_i some_left takes
    have := List.length_pos_iff.mpr some_left
    rw [List.length_drop]
    omega

def flush (s : Sink) : Except Fault Unit × Sink :=
  let s := { s with flushes := s.flushes + 1 }
  match s.whenFlushed with
  | some f => (.error f, s)
  | none => (.ok (), s)

def writeFrame (s : Sink) (frame : Bytes) : Except Fault Unit × Sink :=
  match s.writeAll frame with
  | (.error f, s) => (.error f, s)
  | (.ok _, s) => s.flush

/-- Writes frames one after another, whether or not the one before could be written; gives
the state after each. -/
def writeFrames (s : Sink) : List Bytes → List (Except Fault Unit × Sink)
  | [] => []
  | frame :: frames =>
    let (result, s) := s.writeFrame frame
    (result, s) :: s.writeFrames frames

end Sink
end AtomicKv
