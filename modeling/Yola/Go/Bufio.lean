import Mathlib.Data.List.Basic

/-!
# Buffered reading and writing

`bufio.Reader` over a stream that arrives in pieces, and `bufio.Writer` over a writer that does not fail.
Each loop is bounded by the number of bytes asked for; that it does not end before its condition does is
part of what is shown about it.
-/

namespace Yola.Go.Bufio

/-! ## Reading -/

abbrev Chunk := { l : List UInt8 // l ≠ [] }

/-- The rest of a stream, and whether its last bytes come together with its end. -/
structure Source where
  chunks : List Chunk
  eager : Bool

namespace Source

def rest (s : Source) : List UInt8 := (s.chunks.map Subtype.val).flatten

/-- `Read` into this much room: the bytes, and whether the stream has ended. -/
def read (s : Source) (room : Nat) : List UInt8 × Bool × Source :=
  match s.chunks with
  | [] => ([], true, s)
  | c :: cs =>
      let chunks := if h : c.val.drop room = [] then cs else ⟨c.val.drop room, h⟩ :: cs
      (c.val.take room, s.eager && chunks.isEmpty, { s with chunks := chunks })

variable {s : Source} {room : Nat}

theorem read_rest (s : Source) (room : Nat) : (s.read room).1 ++ (s.read room).2.2.rest = s.rest := by
  unfold read rest
  cases hchunks : s.chunks with
  | nil => simp [hchunks]
  | cons c cs =>
    have hsplit := List.take_append_drop room c.val
    dsimp only
    split
    · rename_i hemp
      rw [hemp, List.append_nil] at hsplit
      rw [hsplit]
      rfl
    · change List.take room c.val ++ (List.drop room c.val ++ (cs.map Subtype.val).flatten) = _
      rw [← List.append_assoc, hsplit]
      rfl

theorem read_eof (h : (s.read room).2.1 = true) : (s.read room).2.2.chunks = [] := by
  unfold read at h ⊢
  cases hchunks : s.chunks with
  | nil => exact hchunks
  | cons =>
    rw [hchunks] at h
    simp only [Bool.and_eq_true, List.isEmpty_iff] at h
    exact h.2

theorem read_progress (s : Source) (hroom : 0 < room) :
    0 < (s.read room).1.length ∨ (s.read room).2.1 = true := by
  unfold read
  cases s.chunks with
  | nil => exact .inr rfl
  | cons c =>
    left
    have hpos := List.length_pos_of_ne_nil c.property
    dsimp only
    rw [List.length_take]
    omega

end Source

inductive ReadError where
  | eof
  | bufferFull
deriving DecidableEq

structure Reader where
  size : Nat
  buf : List UInt8
  /-- The end of the stream has been seen and not been reported. -/
  eof : Bool
  source : Source

namespace Reader

def new (size : Nat) (source : Source) : Reader := ⟨size, [], false, source⟩

def fill (rd : Reader) : Reader :=
  let (bytes, eof, source) := rd.source.read (rd.size - rd.buf.length)
  { rd with buf := rd.buf ++ bytes, eof := eof, source := source }

def fillUntil (n : Nat) : Nat → Reader → Reader
  | 0, rd => rd
  | k + 1, rd =>
      if rd.buf.length < n && rd.buf.length < rd.size && !rd.eof then fillUntil n k rd.fill else rd

def peek (rd : Reader) (n : Nat) : (List UInt8 × Option ReadError) × Reader :=
  let rd := fillUntil n n rd
  if rd.size < n then ((rd.buf, some .bufferFull), rd)
  else if rd.buf.length < n then
    if rd.eof then ((rd.buf, some .eof), { rd with eof := false })
    else ((rd.buf, some .bufferFull), rd)
  else ((rd.buf.take n, none), rd)

def discardLoop : Nat → Nat → Reader → Option ReadError × Reader
  | 0, _, rd => (none, rd)
  | k + 1, remain, rd =>
      let rd := if rd.buf.length = 0 then rd.fill else rd
      let skip := min rd.buf.length remain
      let rd := { rd with buf := rd.buf.drop skip }
      if remain - skip = 0 then (none, rd)
      else if rd.eof then (some .eof, { rd with eof := false })
      else discardLoop k (remain - skip) rd

def discard (rd : Reader) (n : Nat) : Option ReadError × Reader :=
  if n = 0 then (none, rd) else discardLoop n n rd

def content (rd : Reader) : List UInt8 := rd.buf ++ rd.source.rest

/-- The end of the stream is seen when nothing is left of it. -/
def Ok (rd : Reader) : Prop := rd.eof = true → rd.source.chunks = []

variable {rd : Reader} {n k : Nat}

theorem ok_new (size : Nat) (source : Source) : (new size source).Ok := nofun

theorem fill_content (rd : Reader) : rd.fill.content = rd.content := by
  change (rd.buf ++ _) ++ _ = rd.buf ++ _
  rw [List.append_assoc]
  exact congrArg (rd.buf ++ ·) (rd.source.read_rest _)

theorem fill_ok (rd : Reader) : rd.fill.Ok := fun heof => Source.read_eof heof

theorem fill_progress (h : rd.buf.length < rd.size) :
    rd.buf.length < rd.fill.buf.length ∨ rd.fill.eof = true := by
  rcases rd.source.read_progress (Nat.sub_pos_of_lt h) with hmore | hend
  · left
    change rd.buf.length < (rd.buf ++ (rd.source.read (rd.size - rd.buf.length)).1).length
    rw [List.length_append]
    omega
  · exact .inr hend

theorem fillUntil_keeps (n k : Nat) (h : rd.Ok) :
    (fillUntil n k rd).Ok ∧ (fillUntil n k rd).size = rd.size ∧ (fillUntil n k rd).content = rd.content := by
  induction k generalizing rd with
  | zero => exact ⟨h, rfl, rfl⟩
  | succ k ih =>
    unfold fillUntil
    split
    · obtain ⟨hok, hsize, hcont⟩ := ih rd.fill_ok
      exact ⟨hok, hsize, hcont.trans rd.fill_content⟩
    · exact ⟨h, rfl, rfl⟩

theorem fillUntil_done (rd : Reader) (h : n ≤ rd.buf.length + k) :
    n ≤ (fillUntil n k rd).buf.length ∨ rd.size ≤ (fillUntil n k rd).buf.length ∨
      (fillUntil n k rd).eof = true := by
  induction k generalizing rd with
  | zero => exact .inl h
  | succ k ih =>
    unfold fillUntil
    split
    · rename_i hcond
      simp only [Bool.and_eq_true, decide_eq_true_eq, Bool.not_eq_true'] at hcond
      rcases fill_progress hcond.1.2 with hmore | hend
      · exact ih rd.fill (by omega)
      · cases k with
        | zero => exact .inr (.inr hend)
        | succ =>
          unfold fillUntil
          rw [hend]
          simp only [Bool.not_true, Bool.and_false, Bool.false_eq_true, if_false]
          exact .inr (.inr hend)
    · rename_i hcond
      simp only [Bool.and_eq_true, decide_eq_true_eq, Bool.not_eq_true', not_and, Bool.not_eq_false] at hcond
      by_cases hn : rd.buf.length < n
      · by_cases hsize : rd.buf.length < rd.size
        · exact .inr (.inr (hcond ⟨hn, hsize⟩))
        · exact .inr (.inl (Nat.le_of_not_lt hsize))
      · exact .inl (Nat.le_of_not_lt hn)

theorem Ok.content_eq (h : rd.Ok) (heof : rd.eof = true) : rd.content = rd.buf := by
  unfold content Source.rest
  rw [h heof]
  exact List.append_nil _

theorem length_buf_le (rd : Reader) : rd.buf.length ≤ rd.content.length := by
  unfold content
  rw [List.length_append]
  exact Nat.le_add_right ..

/-- If the buffer is large enough, `Peek` fills it with what is asked for, if there is as much. -/
theorem fillUntil_enough (h : rd.Ok) (hn : n ≤ rd.size) (hlen : n ≤ rd.content.length) :
    n ≤ (fillUntil n n rd).buf.length := by
  obtain ⟨hok, -, hcont⟩ := fillUntil_keeps n n h
  rcases fillUntil_done rd (Nat.le_add_left n _) with henough | hfull | hend
  · exact henough
  · omega
  · rw [← hok.content_eq hend, hcont]
    exact hlen

theorem peek_enough (h : rd.Ok) (hn : n ≤ rd.size) (hlen : n ≤ rd.content.length) :
    ∃ rd', rd.peek n = ((rd.content.take n, none), rd') ∧ rd'.Ok ∧ rd'.size = rd.size ∧
      rd'.content = rd.content ∧ n ≤ rd'.buf.length := by
  obtain ⟨hok, hsize, hcont⟩ := fillUntil_keeps n n h
  have henough := fillUntil_enough h hn hlen
  refine ⟨fillUntil n n rd, ?_, hok, hsize, hcont, henough⟩
  have htake : rd.content.take n = (fillUntil n n rd).buf.take n := by
    rw [← hcont, content, List.take_append_of_le_length henough]
  unfold peek
  dsimp only
  rw [if_neg (by omega), if_neg (by omega), htake]

theorem peek_short (h : rd.Ok) (hn : n ≤ rd.size) (hlen : rd.content.length < n) :
    ∃ rd', rd.peek n = ((rd.content, some .eof), rd') := by
  obtain ⟨hok, hsize, hcont⟩ := fillUntil_keeps n n h
  have hless := (fillUntil n n rd).length_buf_le
  rw [hcont] at hless
  have hend : (fillUntil n n rd).eof = true := by
    rcases fillUntil_done rd (Nat.le_add_left n _) with henough | hfull | hend
    · omega
    · omega
    · exact hend
  refine ⟨{ fillUntil n n rd with eof := false }, ?_⟩
  unfold peek
  dsimp only
  rw [if_neg (by omega), if_pos (by omega), hend, if_pos rfl, ← hok.content_eq hend, hcont]

theorem discard_buffered (h : n ≤ rd.buf.length) :
    rd.discard n = (none, { rd with buf := rd.buf.drop n }) := by
  unfold discard
  cases n with
  | zero => rfl
  | succ n =>
    have hsome : rd.buf.length ≠ 0 := by omega
    unfold discardLoop
    dsimp only
    rw [if_neg (Nat.succ_ne_zero n), if_neg hsome, Nat.min_eq_right h, Nat.sub_self, if_pos rfl]

theorem content_drop (h : n ≤ rd.buf.length) :
    { rd with buf := rd.buf.drop n }.content = rd.content.drop n := by
  unfold content
  rw [List.drop_append_of_le_length h]

end Reader

/-! ## Writing -/

structure Writer where
  size : Nat
  /-- What has been written to the stream. -/
  wire : List UInt8
  buf : List UInt8
deriving DecidableEq

namespace Writer

def new (size : Nat) : Writer := ⟨size, [], []⟩

variable (w : Writer)

def available : Nat := w.size - w.buf.length

def flush : Writer := { w with wire := w.wire ++ w.buf, buf := [] }

/-- `Write`.  The second round of its loop starts with an empty buffer. -/
def write (p : List UInt8) : Writer :=
  if p.length ≤ w.available then { w with buf := w.buf ++ p }
  else if w.buf.length = 0 then { w with wire := w.wire ++ p }
  else
    let p' := p.drop w.available
    let w := { w with buf := w.buf ++ p.take w.available }.flush
    if p'.length ≤ w.available then { w with buf := w.buf ++ p' } else { w with wire := w.wire ++ p' }

def produced : List UInt8 := w.wire ++ w.buf

theorem produced_flush : w.flush.produced = w.produced := List.append_nil _

theorem produced_write (p : List UInt8) : (w.write p).produced = w.produced ++ p := by
  unfold write produced flush
  split
  · exact (List.append_assoc ..).symm
  · split
    · rename_i hemp
      rw [List.length_eq_zero_iff.mp hemp]
      simp
    · dsimp only
      split
      · simp
      · simp

end Writer

end Yola.Go.Bufio
