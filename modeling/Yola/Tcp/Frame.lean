import Mathlib.Algebra.Ring.Nat
import Yola.Go.Bufio

/-!
# Frames

A message on the wire is its length in four bytes, the lowest first, and its encoding.  The encoding is
the business of `proto`; here it is anything that comes back, with the bytes counted before.
-/

namespace Yola.Tcp

open Go.Bufio

/-- A message: what its type declares, and the bytes of fields that it does not. -/
structure Message (F : Type) where
  fields : F
  unknown : List UInt8
deriving DecidableEq

/-- An encoding of messages.  `append` is set for the codec that writes into the buffer itself. -/
structure Codec (F : Type) where
  append : Bool
  size : Message F → Nat
  marshalAppend : List UInt8 → Message F → Option (List UInt8)
  unmarshal : List UInt8 → Option (Message F)
  appends : ∀ dst m, marshalAppend dst m = (marshalAppend [] m).map (dst ++ ·)
  size_eq : ∀ m body, marshalAppend [] m = some body → body.length = size m
  roundTrip : ∀ m, m.unknown = [] → ∃ body, marshalAppend [] m = some body ∧ unmarshal body = some m

variable {F : Type}

def Codec.marshal (codec : Codec F) (m : Message F) : Option (List UInt8) := codec.marshalAppend [] m

def framePrefixSize : Nat := 4

def maxProtoSize : Nat := 2 ^ 12

inductive FrameError where
  | frameLength
  | frameTooLarge
  | invalidFrame
  | marshal
  | read (err : ReadError)
deriving DecidableEq

def putUint32 (x : Nat) : List UInt8 :=
  [UInt8.ofNat x, UInt8.ofNat (x / 2 ^ 8), UInt8.ofNat (x / 2 ^ 16), UInt8.ofNat (x / 2 ^ 24)]

def uint32 : List UInt8 → Nat
  | [] => 0
  | b :: bytes => b.toNat + 2 ^ 8 * uint32 bytes

def validateFrameSize (size : Nat) : Option FrameError :=
  if size = 0 then some .frameLength else if maxProtoSize < size then some .frameTooLarge else none

def readFrame (codec : Codec F) (rd : Reader) : Except FrameError (Message F × Reader) :=
  match rd.peek framePrefixSize with
  | ((_, some err), _) => .error (.read err)
  | ((lengthBytes, none), rd) =>
      let length := uint32 lengthBytes
      match validateFrameSize length with
      | some err => .error err
      | none =>
          match rd.discard framePrefixSize with
          | (some err, _) => .error (.read err)
          | (none, rd) =>
              match rd.peek length with
              | ((_, some err), _) => .error (.read err)
              | ((body, none), rd) =>
                  match codec.unmarshal body with
                  | none => .error .invalidFrame
                  | some m =>
                      match rd.discard length with
                      | (some err, _) => .error (.read err)
                      | (none, rd) => .ok ({ m with unknown := [] }, rd)

/-- `writeFrameAppend`.  What it appends to the free part of the buffer is written over itself. -/
def writeFrameAppend (codec : Codec F) (w : Writer) (m : Message F) : Option FrameError × Writer :=
  let length := codec.size m
  match validateFrameSize length with
  | some err => (some err, w)
  | none =>
      let w := if w.available < framePrefixSize + length then w.flush else w
      match codec.marshalAppend (putUint32 length) m with
      | none => (some .marshal, w)
      | some frame => (none, w.write frame)

/-- The rest of `writeFrame`, for the other codecs. -/
def writeFrameMarshal (codec : Codec F) (w : Writer) (m : Message F) : Option FrameError × Writer :=
  match codec.marshal m with
  | none => (some .marshal, w)
  | some body =>
      match validateFrameSize body.length with
      | some err => (some err, w)
      | none => (none, (w.write (putUint32 body.length)).write body)

def writeFrame (codec : Codec F) (w : Writer) (m : Message F) : Option FrameError × Writer :=
  if codec.append then writeFrameAppend codec w m else writeFrameMarshal codec w m

/-- One message after another, until one is refused. -/
def writeFrames (codec : Codec F) : Writer → List (Message F) → Option FrameError × Writer
  | w, [] => (none, w)
  | w, m :: ms =>
      match writeFrame codec w m with
      | (some err, w) => (some err, w)
      | (none, w) => writeFrames codec w ms

def readFrames (codec : Codec F) : Nat → Reader → Except FrameError (List (Message F) × Reader)
  | 0, rd => .ok ([], rd)
  | k + 1, rd => do
      let (m, rd) ← readFrame codec rd
      let (ms, rd) ← readFrames codec k rd
      return (m :: ms, rd)

/-! ## Lengths -/

theorem length_putUint32 (x : Nat) : (putUint32 x).length = framePrefixSize := rfl

theorem uint32_putUint32 {x : Nat} (h : x < 2 ^ 32) : uint32 (putUint32 x) = x := by
  simp only [putUint32, uint32, UInt8.toNat_ofNat']
  omega

theorem validateFrameSize_eq_none {size : Nat} :
    validateFrameSize size = none ↔ 1 ≤ size ∧ size ≤ maxProtoSize := by
  unfold validateFrameSize
  split
  · simp only [reduceCtorEq, false_iff]
    omega
  · split
    · simp only [reduceCtorEq, false_iff]
      omega
    · simp only [true_iff]
      omega

theorem validateFrameSize_isSome {size : Nat} (h : ¬ (1 ≤ size ∧ size ≤ maxProtoSize)) :
    ∃ err, validateFrameSize size = some err := by
  apply Option.ne_none_iff_exists'.mp
  rw [Ne, validateFrameSize_eq_none]
  exact h

/-! ## Writing -/

variable {codec : Codec F} {w : Writer} {m : Message F} {rd : Reader} {ms : List (Message F)}

def frame (body : List UInt8) : List UInt8 := putUint32 body.length ++ body

theorem writeFrameMarshal_ok {body : List UInt8} (hbody : codec.marshal m = some body)
    (hsize : 1 ≤ codec.size m ∧ codec.size m ≤ maxProtoSize) :
    ∃ w', writeFrameMarshal codec w m = (none, w') ∧ w'.produced = w.produced ++ frame body := by
  have hlen := codec.size_eq m body hbody
  refine ⟨(w.write (putUint32 body.length)).write body, ?_, ?_⟩
  · unfold writeFrameMarshal
    rw [hbody]
    dsimp only
    rw [hlen, validateFrameSize_eq_none.mpr hsize]
  · rw [Writer.produced_write, Writer.produced_write, List.append_assoc, frame]

theorem writeFrameAppend_ok {body : List UInt8} (hbody : codec.marshal m = some body)
    (hsize : 1 ≤ codec.size m ∧ codec.size m ≤ maxProtoSize) :
    ∃ w', writeFrameAppend codec w m = (none, w') ∧ w'.produced = w.produced ++ frame body := by
  have hlen := codec.size_eq m body hbody
  have hfr : codec.marshalAppend (putUint32 (codec.size m)) m = some (frame body) := by
    rw [codec.appends, show codec.marshalAppend [] m = some body from hbody, Option.map_some, frame, hlen]
  unfold writeFrameAppend
  dsimp only
  rw [validateFrameSize_eq_none.mpr hsize]
  dsimp only
  rw [hfr]
  refine ⟨_, rfl, ?_⟩
  rw [Writer.produced_write]
  split
  · rw [Writer.produced_flush]
  · rfl

theorem writeFrame_ok {body : List UInt8} (hbody : codec.marshal m = some body)
    (hsize : 1 ≤ codec.size m ∧ codec.size m ≤ maxProtoSize) :
    ∃ w', writeFrame codec w m = (none, w') ∧ w'.produced = w.produced ++ frame body := by
  unfold writeFrame
  split
  · exact writeFrameAppend_ok hbody hsize
  · exact writeFrameMarshal_ok hbody hsize

theorem writeFrame_unmarshalable (hbody : codec.marshal m = none) :
    ((writeFrameAppend codec w m).1.isSome = true ∧ (writeFrameAppend codec w m).2.produced = w.produced) ∧
    (writeFrameMarshal codec w m).1.isSome = true ∧ (writeFrameMarshal codec w m).2 = w := by
  constructor
  · unfold writeFrameAppend
    dsimp only
    split
    · exact ⟨rfl, rfl⟩
    · rw [codec.appends, show codec.marshalAppend [] m = none from hbody, Option.map_none]
      refine ⟨rfl, ?_⟩
      dsimp only
      split
      · exact w.produced_flush
      · rfl
  · unfold writeFrameMarshal
    rw [hbody]
    exact ⟨rfl, rfl⟩

theorem writeFrameAppend_refused (hsize : ¬ (1 ≤ codec.size m ∧ codec.size m ≤ maxProtoSize)) :
    (writeFrameAppend codec w m).1.isSome = true ∧ (writeFrameAppend codec w m).2 = w := by
  obtain ⟨err, herr⟩ := validateFrameSize_isSome hsize
  unfold writeFrameAppend
  dsimp only
  rw [herr]
  exact ⟨rfl, rfl⟩

theorem writeFrameMarshal_refused (hsize : ¬ (1 ≤ codec.size m ∧ codec.size m ≤ maxProtoSize)) :
    (writeFrameMarshal codec w m).1.isSome = true ∧ (writeFrameMarshal codec w m).2 = w := by
  obtain ⟨err, herr⟩ := validateFrameSize_isSome hsize
  cases hbody : codec.marshal m with
  | none => exact (writeFrame_unmarshalable hbody).2
  | some body =>
    unfold writeFrameMarshal
    rw [hbody]
    dsimp only
    rw [codec.size_eq m body hbody, herr]
    exact ⟨rfl, rfl⟩

theorem writeFrame_paths (codec : Codec F) (w : Writer) (m : Message F) :
    ((writeFrameAppend codec w m).1 = none ↔ (writeFrameMarshal codec w m).1 = none) ∧
      (writeFrameAppend codec w m).2.produced = (writeFrameMarshal codec w m).2.produced := by
  have href {a b : Option FrameError} (ha : a.isSome = true) (hb : b.isSome = true) :
      a = none ↔ b = none := by
    obtain ⟨_, rfl⟩ := Option.isSome_iff_exists.mp ha
    obtain ⟨_, rfl⟩ := Option.isSome_iff_exists.mp hb
    simp
  cases hbody : codec.marshal m with
  | none =>
    obtain ⟨⟨ha, haw⟩, hb, hbw⟩ := writeFrame_unmarshalable (w := w) hbody
    rw [hbw]
    exact ⟨href ha hb, haw⟩
  | some =>
    by_cases hsize : 1 ≤ codec.size m ∧ codec.size m ≤ maxProtoSize
    · obtain ⟨w₁, happ, hproduced₁⟩ := writeFrameAppend_ok (w := w) hbody hsize
      obtain ⟨w₂, hmarshal, hproduced₂⟩ := writeFrameMarshal_ok (w := w) hbody hsize
      rw [happ, hmarshal]
      exact ⟨Iff.rfl, hproduced₁.trans hproduced₂.symm⟩
    · obtain ⟨ha, haw⟩ := writeFrameAppend_refused (w := w) hsize
      obtain ⟨hb, hbw⟩ := writeFrameMarshal_refused (w := w) hsize
      rw [haw, hbw]
      exact ⟨href ha hb, rfl⟩

/-! ## Reading -/

theorem readFrame_frame {body rest : List UInt8} (hrd : rd.Ok) (hbuf : maxProtoSize ≤ rd.size)
    (hsize : 1 ≤ body.length ∧ body.length ≤ maxProtoSize)
    (hbody : codec.unmarshal body = some m) (hcont : rd.content = frame body ++ rest) :
    ∃ rd', readFrame codec rd = .ok ({ m with unknown := [] }, rd') ∧ rd'.Ok ∧ rd'.size = rd.size ∧
      rd'.content = rest := by
  have hfour : framePrefixSize ≤ maxProtoSize := by decide
  have hlen : rd.content.length = framePrefixSize + body.length + rest.length := by
    rw [hcont, frame, List.length_append, List.length_append, length_putUint32]
  -- the length
  obtain ⟨rd₁, hpeek₁, hok₁, hsize₁, hcont₁, hbuf₁⟩ :=
    Reader.peek_enough (n := framePrefixSize) hrd (by omega) (by omega)
  have htake₁ : rd.content.take framePrefixSize = putUint32 body.length := by
    rw [hcont, frame, List.append_assoc]
    exact List.take_left' (length_putUint32 _)
  have huint : uint32 (putUint32 body.length) = body.length :=
    uint32_putUint32 (Nat.lt_of_le_of_lt hsize.2 (by decide))
  have hdiscard₁ := Reader.discard_buffered hbuf₁
  have hcont₂ := Reader.content_drop hbuf₁
  set rd₂ : Reader := { rd₁ with buf := rd₁.buf.drop framePrefixSize } with hrd₂
  have hrest₂ : rd₂.content = body ++ rest := by
    rw [hcont₂, hcont₁, hcont, frame, List.append_assoc]
    exact List.drop_left' (length_putUint32 _)
  -- the body
  have hok₂ : rd₂.Ok := hok₁
  obtain ⟨rd₃, hpeek₃, hok₃, hsize₃, hcont₃, hbuf₃⟩ :=
    Reader.peek_enough (n := body.length) hok₂ (by
      change body.length ≤ rd₁.size
      omega) (by
      rw [hrest₂, List.length_append]
      omega)
  have htake₃ : rd₂.content.take body.length = body := by
    rw [hrest₂]
    exact List.take_left' rfl
  have hdiscard₃ := Reader.discard_buffered hbuf₃
  refine ⟨{ rd₃ with buf := rd₃.buf.drop body.length }, ?_, hok₃, ?_, ?_⟩
  · unfold readFrame
    rw [hpeek₁, htake₁]
    dsimp only
    rw [huint, validateFrameSize_eq_none.mpr hsize]
    dsimp only
    rw [hdiscard₁]
    dsimp only
    rw [hpeek₃, htake₃]
    dsimp only
    rw [hbody]
    dsimp only
    rw [hdiscard₃]
  · change rd₃.size = rd.size
    rw [hsize₃]
    exact hsize₁
  · rw [Reader.content_drop hbuf₃, hcont₃, hrest₂]
    exact List.drop_left' rfl

theorem readFrame_end (codec : Codec F) (hrd : rd.Ok) (hbuf : maxProtoSize ≤ rd.size)
    (hcont : rd.content = []) : readFrame codec rd = .error (.read .eof) := by
  have hfour : framePrefixSize ≤ maxProtoSize := by decide
  obtain ⟨rd', hpeek⟩ := Reader.peek_short (n := framePrefixSize) hrd (by omega) (by
    rw [hcont]
    decide)
  unfold readFrame
  rw [hpeek]

theorem readFrame_refused (codec : Codec F) (hrd : rd.Ok) (hbuf : maxProtoSize ≤ rd.size)
    (hlen : framePrefixSize ≤ rd.content.length)
    (hsize : ¬ (1 ≤ uint32 (rd.content.take framePrefixSize) ∧
      uint32 (rd.content.take framePrefixSize) ≤ maxProtoSize)) :
    ∃ err, validateFrameSize (uint32 (rd.content.take framePrefixSize)) = some err ∧
      readFrame codec rd = .error err := by
  have hfour : framePrefixSize ≤ maxProtoSize := by decide
  obtain ⟨err, herr⟩ := validateFrameSize_isSome hsize
  obtain ⟨rd', hpeek, -⟩ := Reader.peek_enough (n := framePrefixSize) hrd (by omega) hlen
  refine ⟨err, herr, ?_⟩
  unfold readFrame
  rw [hpeek]
  dsimp only
  rw [herr]

/-! ## Whole streams -/

def stream (codec : Codec F) (ms : List (Message F)) : List UInt8 :=
  ms.flatMap fun m => frame ((codec.marshal m).getD [])

/-- A message that fits into a frame and has only fields that its type declares. -/
def Codec.Sendable (codec : Codec F) (m : Message F) : Prop :=
  m.unknown = [] ∧ 1 ≤ codec.size m ∧ codec.size m ≤ maxProtoSize

theorem Codec.Sendable.body (h : codec.Sendable m) :
    ∃ body, codec.marshal m = some body ∧ codec.unmarshal body = some m ∧
      1 ≤ body.length ∧ body.length ≤ maxProtoSize := by
  obtain ⟨body, hbody, hback⟩ := codec.roundTrip m h.1
  refine ⟨body, hbody, hback, ?_⟩
  rw [codec.size_eq m body hbody]
  exact h.2

theorem writeFrames_sendable (h : ∀ m ∈ ms, codec.Sendable m) :
    ∃ w', writeFrames codec w ms = (none, w') ∧ w'.produced = w.produced ++ stream codec ms := by
  induction ms generalizing w with
  | nil => exact ⟨w, rfl, (List.append_nil _).symm⟩
  | cons m ms ih =>
    obtain ⟨body, hbody, -⟩ := (h m List.mem_cons_self).body
    obtain ⟨w₁, hwrite, hproduced₁⟩ := writeFrame_ok (w := w) hbody (h m List.mem_cons_self).2
    obtain ⟨w₂, hrest, hproduced₂⟩ := ih (w := w₁) fun m' hm' => h m' (List.mem_cons_of_mem m hm')
    refine ⟨w₂, ?_, ?_⟩
    · unfold writeFrames
      rw [hwrite]
      exact hrest
    · rw [hproduced₂, hproduced₁, List.append_assoc, stream, stream, List.flatMap_cons, hbody]
      rfl

theorem readFrames_stream (h : ∀ m ∈ ms, codec.Sendable m) (hrd : rd.Ok)
    (hbuf : maxProtoSize ≤ rd.size) (hcont : rd.content = stream codec ms) :
    ∃ rd', readFrames codec ms.length rd = .ok (ms, rd') ∧ readFrame codec rd' = .error (.read .eof) := by
  induction ms generalizing rd with
  | nil => exact ⟨rd, rfl, readFrame_end codec hrd hbuf hcont⟩
  | cons m ms ih =>
    obtain ⟨body, hbody, hback, hsize⟩ := (h m List.mem_cons_self).body
    rw [stream, List.flatMap_cons, hbody] at hcont
    obtain ⟨rd₁, hread, hok, hsize₁, hrest⟩ := readFrame_frame hrd hbuf hsize hback hcont
    obtain ⟨rd₂, hreads, hend⟩ :=
      ih (fun m' hm' => h m' (List.mem_cons_of_mem m hm')) hok (hsize₁ ▸ hbuf) hrest
    refine ⟨rd₂, ?_, hend⟩
    have hknown : { m with unknown := [] } = m := by
      rw [← (h m List.mem_cons_self).1]
    rw [List.length_cons, readFrames, hread, hknown]
    change (readFrames codec ms.length rd₁).bind _ = _
    rw [hreads]
    rfl

/-- Messages that fit into frames come back from the stream as they were sent, and then the stream ends,
however large the buffer of the writer is and in whatever pieces the stream arrives.  Both ways to write
a frame produce the same bytes.  A message that does not fit is refused before a byte is written, and a
length that no frame has is refused by the reader. -/
theorem framing_round_trip (codec : Codec F) :
    (∀ (size : Nat) (ms : List (Message F)), (∀ m ∈ ms, codec.Sendable m) →
      ∃ w, writeFrames codec (.new size) ms = (none, w) ∧
        ∀ (readerSize : Nat) (source : Source), maxProtoSize ≤ readerSize → source.rest = w.flush.wire →
          ∃ rd, readFrames codec ms.length (.new readerSize source) = .ok (ms, rd) ∧
            readFrame codec rd = .error (.read .eof)) ∧
    (∀ (w : Writer) (m : Message F),
      ((writeFrameAppend codec w m).1 = none ↔ (writeFrameMarshal codec w m).1 = none) ∧
        (writeFrameAppend codec w m).2.produced = (writeFrameMarshal codec w m).2.produced) ∧
    (∀ (w : Writer) (m : Message F), ¬ (1 ≤ codec.size m ∧ codec.size m ≤ maxProtoSize) →
      (writeFrame codec w m).1.isSome = true ∧ (writeFrame codec w m).2 = w) ∧
    ∀ (readerSize : Nat) (source : Source), maxProtoSize ≤ readerSize → framePrefixSize ≤ source.rest.length →
      ¬ (1 ≤ uint32 (source.rest.take framePrefixSize) ∧
        uint32 (source.rest.take framePrefixSize) ≤ maxProtoSize) →
      ∃ err, validateFrameSize (uint32 (source.rest.take framePrefixSize)) = some err ∧
        readFrame codec (.new readerSize source) = .error err := by
  refine ⟨?_, writeFrame_paths codec, ?_, ?_⟩
  · intro size ms hms
    obtain ⟨w, hwrite, hproduced⟩ := writeFrames_sendable (w := .new size) hms
    refine ⟨w, hwrite, fun readerSize source hbuf hsource => ?_⟩
    apply readFrames_stream hms (Reader.ok_new readerSize source) hbuf
    change source.rest = stream codec ms
    rw [hsource]
    exact hproduced
  · intro w m hsize
    unfold writeFrame
    split
    · exact writeFrameAppend_refused hsize
    · exact writeFrameMarshal_refused hsize
  · intro readerSize source hbuf hlen hsize
    exact readFrame_refused codec (Reader.ok_new readerSize source) hbuf hlen hsize

def byteCodec : Codec UInt8 where
  append := true
  size m := m.unknown.length + 1
  marshalAppend dst m := some (dst ++ m.fields :: m.unknown)
  unmarshal
    | [] => none
    | b :: unknown => some ⟨b, unknown⟩
  appends _ _ := rfl
  size_eq m body h := by
    cases h
    rfl
  roundTrip m _ := ⟨m.fields :: m.unknown, rfl, rfl⟩

def twoReads : Source := ⟨[⟨[1, 0, 0, 0, 7, 1, 0, 0, 0], by decide⟩, ⟨[8], by decide⟩], false⟩

theorem framing_round_trip_two :
    ∃ rd, readFrames byteCodec 2 (.new maxProtoSize twoReads) = .ok ([⟨7, []⟩, ⟨8, []⟩], rd) ∧
      readFrame byteCodec rd = .error (.read .eof) := by
  have hsend : ∀ m ∈ ([⟨7, []⟩, ⟨8, []⟩] : List (Message UInt8)), byteCodec.Sendable m := by
    intro m hm
    rcases List.mem_pair.mp hm with rfl | rfl <;> exact ⟨rfl, by decide, by decide⟩
  obtain ⟨w, hwrite, hread⟩ := (framing_round_trip byteCodec).1 6 [⟨7, []⟩, ⟨8, []⟩] hsend
  have hw : w = (writeFrames byteCodec (.new 6) [⟨7, []⟩, ⟨8, []⟩]).2 := by rw [hwrite]
  refine hread maxProtoSize twoReads (Nat.le_refl _) ?_
  rw [hw]
  decide

end Yola.Tcp
