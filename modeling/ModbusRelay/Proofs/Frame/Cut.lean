import ModbusRelay.Proofs.Frame.Decode

/-!
Bytes taken out of a stream.

`cut a b` takes the bytes from place `a` up to place `b` out. If these bytes are a frame that comes
after some others, the reader of the shorter stream does the same as the reader of the whole one
until the frame is reached: it reads the same frames (`next_cut_of_frame`) and waits at the same
places (`next_cut_of_waiting`).
-/

namespace ModbusRelay

/-- The bytes without those from place `a` up to place `b`. -/
def cut (a b : Nat) (bytes : List UInt8) : List UInt8 := bytes.take a ++ bytes.drop b

theorem cut_append {a b : Nat} (hab : a ≤ b) (xs ys : List UInt8) :
    cut a b (xs ++ ys) = cut a b xs ++ cut (a - xs.length) (b - xs.length) ys := by
  unfold cut
  rw [List.take_append, List.drop_append]
  by_cases ha : a ≤ xs.length
  · rw [Nat.sub_eq_zero_of_le ha]
    simp
  · have hb : xs.length ≤ b := by omega
    rw [List.drop_eq_nil_of_le hb]
    simp

theorem cut_of_length_le {a b : Nat} (hab : a ≤ b) {bytes : List UInt8} (h : bytes.length ≤ a) :
    cut a b bytes = bytes := by
  unfold cut
  rw [List.take_of_length_le h, List.drop_eq_nil_of_le (Nat.le_trans h hab), List.append_nil]

theorem cut_nil (a b : Nat) : cut a b [] = [] := by
  simp [cut]

/-- What is cut out is in the middle. -/
theorem cut_middle (u x v : List UInt8) :
    cut u.length (u.length + x.length) (u ++ x ++ v) = u ++ v := by
  unfold cut
  rw [← List.length_append, List.drop_left, List.append_assoc, List.take_left]

namespace FrameReader

/-- The stream with bytes taken out of what is not read. -/
def cut (a b : Nat) (r : FrameReader) : FrameReader :=
  { r with buffer := ModbusRelay.cut a b r.buffer }

variable {a b : Nat} {r r' : FrameReader}

theorem cut_finish (a b : Nat) (r : FrameReader) (how : ReadEnd) :
    (r.finish how).cut a b = (r.cut a b).finish how := rfl

/-- Of what comes later bytes are taken out as well. -/
theorem cut_feed (hab : a ≤ b) (r : FrameReader) (bytes : List UInt8) :
    (r.feed bytes).cut a b =
      (r.cut a b).feed (ModbusRelay.cut (a - r.buffer.length) (b - r.buffer.length) bytes) := by
  unfold feed
  by_cases hended : r.ended = true
  · rw [if_pos hended, if_pos (show (r.cut a b).ended = true from hended)]
  · rw [if_neg hended, if_neg (show ¬(r.cut a b).ended = true from hended)]
    simp only [cut, cut_append hab]

/-- A frame that comes before what is cut out is read as before. -/
theorem next_cut_of_frame {g : Frame} (h : r.next = (.item (.frame g), r')) :
    (r.cut (g.encode.length + a) (g.encode.length + b)).next =
      (.item (.frame g), r'.cut a b) := by
  obtain ⟨hbuffer, hending⟩ := next_eq_frame_iff.mp h
  rw [next_eq_frame_iff]
  refine ⟨?_, hending⟩
  show ModbusRelay.cut _ _ r.buffer = g.encode ++ ModbusRelay.cut a b r'.buffer
  rw [hbuffer, ModbusRelay.cut, List.take_append, List.drop_append,
    List.take_of_length_le (Nat.le_add_right _ _), List.drop_eq_nil_of_le (Nat.le_add_right _ _),
    Nat.add_sub_cancel_left, Nat.add_sub_cancel_left, List.nil_append, List.append_assoc]
  rfl

/-- Without the next frame there is what would be left after it. -/
theorem cut_of_next {f : Frame} (h : r.next = (.item (.frame f), r')) :
    r.cut 0 f.encode.length = r' := by
  obtain ⟨hbuffer, hending⟩ := next_eq_frame_iff.mp h
  unfold cut ModbusRelay.cut
  rw [hbuffer, List.take_zero, List.nil_append, List.drop_left, ← hending]

/-- A reader that waits is at no end of its stream and has no frame. -/
theorem waiting_iff : r.next = (.waiting, r) ↔
    r.ending = none ∧ ∃ n, decode r.buffer = (.incomplete n, r.buffer) := by
  unfold next decodeAtEnd
  rcases hending : r.ending with _ | _ | cause
  · rcases hd : decode r.buffer with ⟨_ | n | e, rest⟩
    · simp
    · rw [show rest = r.buffer from decode_eq_self hd (by simp)]
      simp
      cases r
      cases hending
      rfl
    · simp
  · rcases hd : decode r.buffer with ⟨_ | n | e, rest⟩
    · simp
    · cases rest <;> simp
    · simp
  · rcases hd : decode r.buffer with ⟨_ | n | e, rest⟩ <;> simp

/-- The bytes that a reader waits with are not a whole frame yet. -/
theorem length_lt_of_waiting (h : r.next = (.waiting, r)) {g : Frame} {more rest : List UInt8}
    (hg : r.buffer ++ more = g.encode ++ rest) : r.buffer.length < g.encode.length := by
  obtain ⟨-, n, hd⟩ := waiting_iff.mp h
  refine Nat.lt_of_not_le fun hlen => ?_
  have hwhole : g.encode <+: r.buffer ++ more := by
    rw [hg]
    exact List.prefix_append _ _
  obtain ⟨tail, htail⟩ :=
    List.prefix_of_prefix_length_le hwhole (List.prefix_append r.buffer more) hlen
  rw [decode_eq_frame_iff.mpr htail.symm] at hd
  cases hd

/-- Until the whole frame that is cut out is there, a reader waits at the same places. -/
theorem next_cut_of_waiting (h : r.next = (.waiting, r)) {fs : List Frame} {f : Frame}
    {more rest : List UInt8}
    (hbytes : r.buffer ++ more = fs.flatMap (·.encode) ++ f.encode ++ rest) :
    let a := (fs.flatMap (·.encode)).length
    (r.cut a (a + f.encode.length)).next = (.waiting, r.cut a (a + f.encode.length)) := by
  obtain ⟨hending, n, hd⟩ := waiting_iff.mp h
  rw [waiting_iff]
  refine ⟨hending, ?_⟩
  show ∃ n, decode (ModbusRelay.cut _ _ r.buffer) = (.incomplete n, ModbusRelay.cut _ _ r.buffer)
  cases fs with
  | nil =>
    have hlen := length_lt_of_waiting h hbytes
    rw [ModbusRelay.cut, List.drop_eq_nil_of_le (by simpa using Nat.le_of_lt hlen)]
    exact ⟨_, rfl⟩
  | cons g gs =>
    rw [List.flatMap_cons, List.append_assoc, List.append_assoc] at hbytes
    have hlen := length_lt_of_waiting h hbytes
    rw [cut_of_length_le (Nat.le_add_right _ _) (by
      rw [List.flatMap_cons, List.length_append]
      omega)]
    exact ⟨n, hd⟩

end FrameReader

end ModbusRelay
