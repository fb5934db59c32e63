import Mathlib.Data.List.Basic

/-!
# Reading a frame into a buffer

`readBoundedFrame` reads a message of unknown length into a buffer.  When the buffer is full it asks for one byte
more, to tell a message that fits exactly from one that is too large.  The reader may cut the message as it likes,
return nothing for a while, and report its end, or the error it ends with, together with the last bytes or later.
-/

namespace Yola.Network

variable {ε : Type}

/-- `io.EOF`, or another error of the reader. -/
inductive ReadEnd (ε : Type) where
  | eof
  | failed (err : ε)

/-- What a reader has still to deliver, how it ends, and how much each of its next calls returns at most and
whether it then reports an end that is reached.  After those calls it returns whatever there is room for. -/
structure Source (ε : Type) where
  rest : List UInt8
  ending : ReadEnd ε
  calls : List (Nat × Bool)

namespace Source

def read (s : Source ε) (room : Nat) : List UInt8 × Option (ReadEnd ε) × Source ε :=
  match s.calls with
  | [] => (s.rest.take room, if s.rest = [] then some s.ending else none, { s with rest := s.rest.drop room })
  | (n, reports) :: calls =>
      let rest := s.rest.drop (min n room)
      (s.rest.take (min n room), if reports && rest.isEmpty then some s.ending else none,
        { s with rest := rest, calls := calls })

def size (s : Source ε) : Nat := s.rest.length + s.calls.length

/-- A call returns a part of what is left, and either the end or a reader with less to do. -/
theorem read_cases (s : Source ε) (room : Nat) (hroom : 0 < room) : ∃ bytes rest calls,
    s.rest = bytes ++ rest ∧ bytes.length ≤ room ∧
    (s.read room = (bytes, some s.ending, ⟨rest, s.ending, calls⟩) ∧ rest = [] ∨
      s.read room = (bytes, none, ⟨rest, s.ending, calls⟩) ∧ rest.length + calls.length < s.size) := by
  unfold read size
  cases hcalls : s.calls with
  | nil =>
    refine ⟨_, _, [], (List.take_append_drop room s.rest).symm, List.length_take_le _ _, ?_⟩
    by_cases hrest : s.rest = []
    · exact .inl ⟨by simp [hrest], by simp [hrest]⟩
    · have hpos := List.length_pos_of_ne_nil hrest
      exact .inr ⟨by simp [hrest], by simp; omega⟩
  | cons call calls =>
    refine ⟨_, _, calls, (List.take_append_drop (min call.1 room) s.rest).symm, ?_, ?_⟩
    · exact Nat.le_trans (List.length_take_le _ _) (Nat.min_le_right _ _)
    · by_cases hend : call.2 && (s.rest.drop (min call.1 room)).isEmpty
      · exact .inl ⟨by simp only [hend, if_true], by simpa using (Bool.and_eq_true_iff.mp hend).2⟩
      · exact .inr ⟨by simp only [hend]; rfl, by simp; omega⟩

end Source

inductive FrameError (ε : Type) where
  | frameTooLarge
  | reader (err : ε)

/-- The loop, with the buffer and how much of it has been read; the buffer is returned as well. -/
def readLoop : Nat → Source ε → List UInt8 → Nat → Option (Except (FrameError ε) (List UInt8) × List UInt8)
  | 0, _, _, _ => none
  | fuel + 1, source, buffer, read =>
      if read = buffer.length then
        let (extra, err, source) := source.read 1
        if 0 < extra.length then some (.error .frameTooLarge, buffer)
        else
          match err with
          | some .eof => some (.ok (buffer.take read), buffer)
          | some (.failed err) => some (.error (.reader err), buffer)
          | none => readLoop fuel source buffer read
      else
        let (bytes, err, source) := source.read (buffer.length - read)
        let buffer := buffer.take read ++ bytes ++ buffer.drop (read + bytes.length)
        let read := read + bytes.length
        match err with
        | some .eof => some (.ok (buffer.take read), buffer)
        | some (.failed err) => some (.error (.reader err), buffer)
        | none => readLoop fuel source buffer read

def readBoundedFrame (source : Source ε) (buffer : List UInt8) :
    Option (Except (FrameError ε) (List UInt8) × List UInt8) :=
  readLoop (source.size + 1) source buffer 0

/-- What is to be returned for a message. -/
def frameResult (room : Nat) (message : List UInt8) (ending : ReadEnd ε) : Except (FrameError ε) (List UInt8) :=
  if room < message.length then .error .frameTooLarge
  else
    match ending with
    | .eof => .ok message
    | .failed err => .error (.reader err)

theorem readLoop_eq {fuel : Nat} {source : Source ε} {done rest : List UInt8} (hfuel : source.size < fuel) :
    readLoop fuel source (done ++ rest) done.length =
      some (frameResult (done ++ rest).length (done ++ source.rest) source.ending,
        done ++ source.rest.take rest.length ++ rest.drop source.rest.length) := by
  induction fuel generalizing source done rest with
  | zero => exact absurd hfuel (Nat.not_lt_zero _)
  | succ fuel ih =>
    obtain ⟨message, ending, calls⟩ := source
    unfold readLoop
    by_cases hfull : rest = []
    · -- the buffer is full, and one byte more would be too much
      subst hfull
      obtain ⟨extra, later, calls', hmsg, -, hread⟩ :=
        Source.read_cases ⟨message, ending, calls⟩ 1 Nat.one_pos
      obtain rfl : message = extra ++ later := hmsg
      rw [if_pos (by simp)]
      cases extra with
      | nil =>
        obtain ⟨hread, rfl⟩ | ⟨hread, hless⟩ := hread
        · rw [hread]
          cases ending <;> simp [frameResult]
        · rw [hread]
          simpa using @ih _ done [] (Nat.lt_of_lt_of_le hless (Nat.le_of_lt_succ hfuel))
      | cons => obtain ⟨hread, -⟩ | ⟨hread, -⟩ := hread <;> rw [hread] <;> simp [frameResult]
    · have hroom := List.length_pos_of_ne_nil hfull
      obtain ⟨bytes, later, calls', hmsg, hbytes, hread⟩ :=
        Source.read_cases ⟨message, ending, calls⟩ ((done ++ rest).length - done.length) (by simpa using hroom)
      obtain rfl : message = bytes ++ later := hmsg
      have hbytes : bytes.length ≤ rest.length := by simpa using hbytes
      have hwrite : (done ++ rest).take done.length ++ bytes ++ (done ++ rest).drop (done.length + bytes.length) =
          (done ++ bytes) ++ rest.drop bytes.length := by simp [List.drop_append]
      have hlen : (done ++ bytes ++ rest.drop bytes.length).length = (done ++ rest).length := by simp; omega
      rw [if_neg (by simp [hfull])]
      obtain ⟨hread, rfl⟩ | ⟨hread, hless⟩ := hread
      · rw [hread]
        dsimp only
        rw [hwrite, ← List.length_append, List.take_left, List.append_nil, List.take_of_length_le hbytes]
        have hfits : ¬ (done ++ rest).length < (done ++ bytes).length := by simpa using hbytes
        cases ending <;> simp only [frameResult, hfits, if_false]
      · rw [hread]
        dsimp only
        rw [hwrite, ← List.length_append, ih (Nat.lt_of_lt_of_le hless (Nat.le_of_lt_succ hfuel)), hlen]
        simp only [List.append_assoc, List.length_drop, List.length_append, List.drop_drop, List.take_append,
          List.take_of_length_le hbytes]

/-- However the source cuts its bytes, a frame that fits is read whole, one that does not is an error, and the
buffer holds what fits. -/
theorem bounded_read_exact (source : Source ε) (buffer : List UInt8) : ∃ buffer',
    readBoundedFrame source buffer = some (frameResult buffer.length source.rest source.ending, buffer') ∧
      buffer'.length = buffer.length ∧
      buffer' = source.rest.take buffer.length ++ buffer.drop source.rest.length := by
  have hloop := @readLoop_eq ε _ source [] buffer (Nat.lt_succ_self _)
  refine ⟨_, hloop, ?_, by simp⟩
  simp
  omega

end Yola.Network
