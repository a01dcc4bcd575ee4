import AtomicKv.Fault
import AtomicKv.Frame

/-!
# Reading frames from a stream

A source gives its bytes in portions: each read is interrupted some number of times and then
yields some bytes, or meets the end. How the bytes are portioned is a property of the source;
a read that yields none is taken for the end of the stream. A frame is read whole or not at
all, and only as many bytes are taken as its header asks for.
-/
namespace AtomicKv

inductive Ending where
  /-- The other side ended the stream. -/
  | finished
  /-- Every read fails; never by an interruption, which would be no end. -/
  | fault (f : Fault)
  deriving DecidableEq, Repr

/-- How a source portions its bytes, by the number of reads that got through before. -/
structure Pacing where
  /-- How many calls are interrupted before a read gets through. -/
  interruptions : Nat → Nat
  /-- The most bytes one read yields. -/
  portion : Nat → Nat

/-- Every read that gets through yields a byte while there is one. -/
def Pacing.Steady (p : Pacing) : Prop :=
  ∀ n, 0 < p.portion n

/-- No interruptions, and every read yields what it asks for; none asks for more than a
frame. -/
def Pacing.eager : Pacing where
  interruptions _ := 0
  portion _ := Frame.headerSize + Frame.maxPayload

theorem Pacing.steady_eager : Pacing.eager.Steady :=
  fun _ => Nat.succ_pos _

/-- The same number of interruptions before each read, and the same most bytes. -/
def Pacing.uniform (interruptions portion : Nat) : Pacing where
  interruptions _ := interruptions
  portion _ := portion

theorem Pacing.steady_uniform {interruptions portion : Nat} :
    (Pacing.uniform interruptions portion).Steady ↔ 0 < portion :=
  ⟨fun steady => steady 0, fun positive _ => positive⟩

structure Source where
  rest : Bytes
  ending : Ending
  pacing : Pacing := .eager
  /-- Reads that got through. -/
  reads : Nat := 0
  /-- Interruptions since. -/
  stalls : Nat := 0

namespace Source

inductive Arrival where
  | interrupted
  | data (part : Bytes)
  | ending (e : Ending)
  deriving DecidableEq, Repr

/-- Interruptions that still come before the next read gets through. -/
def pending (s : Source) : Nat :=
  s.pacing.interruptions s.reads - s.stalls

def read (s : Source) (room : Nat) : Arrival × Source :=
  if 0 < s.pending then (.interrupted, { s with stalls := s.stalls + 1 })
  else
    let next := { s with reads := s.reads + 1, stalls := 0 }
    if s.rest = [] then (.ending s.ending, next)
    else
      let (part, rest) := s.rest.splitAt (min room (s.pacing.portion s.reads))
      if part = [] then (.ending .finished, next) else (.data part, { next with rest })

theorem pending_of_interrupted {s t : Source} {room : Nat}
    (h : s.read room = (.interrupted, t)) : t.pending < s.pending ∧ t.rest = s.rest := by
  simp only [read] at h
  split at h
  · rename_i waits
    cases h
    simp only [pending] at waits ⊢
    exact ⟨by omega, trivial⟩
  · split at h
    · cases h
    · split at h <;> cases h

/-- A steady source ends only once all its bytes are taken, and then as it says. -/
theorem exhausted_of_ending {s t : Source} {room : Nat} {e : Ending} (ask : 0 < room)
    (steady : s.pacing.Steady) (h : s.read room = (.ending e, t)) :
    s.rest = [] ∧ e = s.ending ∧ t.rest = [] := by
  simp only [read, List.splitAt_eq] at h
  split at h
  · cases h
  · split at h
    · rename_i empty
      cases h
      exact ⟨empty, rfl, empty⟩
    · split at h
      · rename_i some_left none_taken
        have portion := steady s.reads
        have left : 0 < s.rest.length := List.length_pos_iff.mpr some_left
        have taken := congrArg List.length none_taken
        simp only [List.length_take, List.length_nil] at taken
        omega
      · cases h

/-- A read that yields data yields at least one byte and at most those asked for. -/
theorem data_of_read {s t : Source} {room : Nat} {part : Bytes}
    (h : s.read room = (.data part, t)) :
    0 < part.length ∧ part.length ≤ room ∧ s.rest = part ++ t.rest := by
  simp only [read, List.splitAt_eq] at h
  split at h
  · cases h
  · split at h
    · cases h
    · split at h
      · cases h
      · rename_i some_taken
        cases h
        refine ⟨List.length_pos_iff.mpr some_taken, ?_, (List.take_append_drop _ _).symm⟩
        simp only [List.length_take]
        omega

/-- Reads `want` more bytes behind those found already (latest first); interrupted calls are
made again. Bytes read before a fault are lost. -/
def fill (s : Source) (want : Nat) (found : Bytes) : Except Fault Bytes × Source :=
  if _ask : want = 0 then (.ok found.reverse, s)
  else match _call : s.read want with
    | (.interrupted, t) => t.fill want found
    | (.data part, t) => t.fill (want - part.length) (part.reverseAux found)
    | (.ending .finished, t) => (.error .endOfStream, t)
    | (.ending (.fault f), t) => (.error f, t)
  termination_by (want, s.pending)
  decreasing_by
    · exact Prod.Lex.right _ (pending_of_interrupted _call).1
    · have := data_of_read _call
      exact Prod.Lex.left _ _ (by omega)

/-- A filled buffer holds exactly the bytes asked for, taken from the front of the stream. -/
theorem fill_eq_ok {s t : Source} {want : Nat} {found front : Bytes}
    (h : s.fill want found = (.ok front, t)) :
    ∃ part, front = found.reverse ++ part ∧ part.length = want ∧ s.rest = part ++ t.rest := by
  fun_induction fill s want found with
  | case1 s found =>
    cases h
    exact ⟨[], by simp, rfl, rfl⟩
  | case2 s want found ask u hread ih =>
    obtain ⟨part, rfl, length, split⟩ := ih h
    exact ⟨part, rfl, length, (pending_of_interrupted hread).2 ▸ split⟩
  | case3 s want found ask part u hread ih =>
    obtain ⟨more, rfl, length, split⟩ := ih h
    obtain ⟨-, most, front⟩ := data_of_read hread
    refine ⟨part ++ more, by simp [List.reverseAux_eq], ?_, ?_⟩
    · simp only [List.length_append]; omega
    · rw [front, split, List.append_assoc]
  | case4 => cases h
  | case5 => cases h

/-- Reads one frame. The header alone is checked, for the limit; past it the stream cannot
be cut any more. -/
def readFrame (s : Source) : Except Fault Bytes × Source :=
  match s.fill Frame.headerSize [] with
  | (.error f, t) => (.error f, t)
  | (.ok header, t) =>
    let length := Frame.announced header
    if Frame.maxPayload < length then
      (.error ⟨.invalidData, Frame.tooLargeMessage length⟩, t)
    else match t.fill length [] with
      | (.error f, u) => (.error f, u)
      | (.ok payload, u) => (.ok (header ++ payload), u)

/-- A frame that is read was at the front of the stream. -/
theorem rest_of_readFrame {s t : Source} {frame : Bytes} (h : s.readFrame = (.ok frame, t)) :
    s.rest = frame ++ t.rest ∧ Frame.headerSize ≤ frame.length := by
  simp only [readFrame] at h
  split at h
  · cases h
  · rename_i header u hheader
    split at h
    · cases h
    · split at h
      · cases h
      · rename_i payload v hpayload
        cases h
        obtain ⟨a, rfl, la, sa⟩ := fill_eq_ok hheader
        obtain ⟨b, rfl, -, sb⟩ := fill_eq_ok hpayload
        refine ⟨by simp [sa, sb], ?_⟩
        simp only [List.length_append]
        omega

/-- Reads frames until one cannot be read, and puts them behind those found already (latest
first). -/
def readFramesFrom (s : Source) (found : List Bytes) : List Bytes × Fault × Source :=
  match _frame : s.readFrame with
  | (.error f, t) => (found.reverse, f, t)
  | (.ok frame, t) => t.readFramesFrom (frame :: found)
  termination_by s.rest.length
  decreasing_by
    have ⟨split, header⟩ := rest_of_readFrame _frame
    rw [split, List.length_append]
    simp only [Frame.headerSize] at header
    omega

/-- The frames that can be read, what stopped the reading and what is left. -/
def readFrames (s : Source) : List Bytes × Fault × Source :=
  s.readFramesFrom []

end Source
end AtomicKv
