import ModbusRelay.Frame.Stream

/-!
What `decode` and `takeFrames` do with buffers that begin with frames.

A frame says its own length, so `decode` finds it at the front of any buffer, whatever follows
(`decode_encode_append`), and it takes nothing off a buffer but a frame (`decode_eq_frame_iff`,
`decode_eq_self`). Hence a buffer that is a concatenation of frames is taken apart into just these
frames (`takeFrames_flatMap_encode`).
-/

namespace ModbusRelay

/-! ## The header of a frame -/

theorem Header.parse_ok {bytes : List UInt8} {h : Header} (hp : Header.parse bytes = .ok h) :
    ∃ t1 t0 p1 p0 n1 n0 unit rest,
      bytes = t1 :: t0 :: p1 :: p0 :: n1 :: n0 :: unit :: rest ∧ LegalLength (word n1 n0) ∧
        h.length = word n1 n0 := by
  unfold Header.parse at hp
  split at hp
  · split at hp
    · next hlegal =>
      cases hp
      exact ⟨_, _, _, _, _, _, _, _, rfl, hlegal, rfl⟩
    · cases hp
  · cases hp

theorem LegalLength.pos {n : UInt16} (h : LegalLength n) : 0 < n.toNat := by
  rcases Nat.eq_zero_or_pos n.toNat with h0 | hpos
  · exact absurd (UInt16.toNat.inj h0) h.1
  · exact hpos

namespace Frame

/-- The size that the first six bytes of a frame declare, whatever follows the frame. -/
theorem declaredSize_append (f : Frame) (rest : List UInt8) :
    declaredSize (f.bytes ++ rest) = .ok (some f.bytes.length) := by
  obtain ⟨t1, t0, p1, p0, n1, n0, unit, tail, hbytes, hlegal, hlength⟩ :=
    Header.parse_ok f.parse_bytes
  have hsize : preambleSize + (word n1 n0).toNat = f.bytes.length := by
    rw [← hlength]
    exact f.size_eq
  rw [← hsize, hbytes]
  simp [declaredSize, hlegal]

theorem ofBytes_bytes (f : Frame) : ofBytes f.bytes = .ok f := by
  unfold ofBytes
  split
  · next e he =>
    rw [f.parse_bytes] at he
    cases he
  · next header hh =>
    obtain rfl : f.header = header := by
      have := f.parse_bytes
      rw [hh] at this
      exact (Except.ok.inj this).symm
    rw [dif_pos f.size_eq]

theorem bytes_of_ofBytes {bytes : List UInt8} {f : Frame} (h : ofBytes bytes = .ok f) :
    f.bytes = bytes := by
  unfold ofBytes at h
  split at h
  · cases h
  · split at h
    · cases h
      rfl
    · cases h

end Frame

/-! ## One frame -/

/-- When the declared bytes are there, they are a frame. -/
theorem ofBytes_take_declaredSize {buffer : List UInt8} {n : Nat}
    (h : declaredSize buffer = .ok (some n)) (hn : n ≤ buffer.length) :
    ∃ f, Frame.ofBytes (buffer.take n) = .ok f := by
  unfold declaredSize at h
  split at h
  · next t1 t0 p1 p0 n1 n0 rest =>
    split at h
    · next hlegal =>
      obtain rfl : preambleSize + (word n1 n0).toNat = n := Option.some.inj (Except.ok.inj h)
      have hpos := hlegal.pos
      obtain ⟨unit, tail, rfl⟩ : ∃ unit tail, rest = unit :: tail := by
        cases rest with
        | nil => simp only [preambleSize, List.length_cons, List.length_nil] at hn; omega
        | cons unit tail => exact ⟨unit, tail, rfl⟩
      obtain ⟨k, hk⟩ : ∃ k, (word n1 n0).toNat = k + 1 := ⟨_, (Nat.succ_pred_eq_of_pos hpos).symm⟩
      have htake : (t1 :: t0 :: p1 :: p0 :: n1 :: n0 :: unit :: tail).take
            (preambleSize + (word n1 n0).toNat) =
          t1 :: t0 :: p1 :: p0 :: n1 :: n0 :: unit :: tail.take k := by
        rw [hk]
        simp [preambleSize, Nat.add_comm 6, List.take_succ_cons]
      have hlen : preambleSize + (word n1 n0).toNat =
          (t1 :: t0 :: p1 :: p0 :: n1 :: n0 :: unit :: tail.take k).length := by
        rw [← htake, List.length_take, Nat.min_eq_left hn]
      rw [htake]
      unfold Frame.ofBytes
      split
      · next he => simp [Header.parse, hlegal] at he
      · next header hh =>
        simp only [Header.parse, hlegal, if_true] at hh
        cases hh
        exact ⟨_, dif_pos hlen⟩
    · cases h
  · cases h

/-- A frame at the front of a buffer is found, whatever follows it. -/
@[simp]
theorem decode_encode_append (f : Frame) (rest : List UInt8) :
    decode (f.encode ++ rest) = (.frame f, rest) := by
  unfold decode Frame.encode
  rw [f.declaredSize_append]
  simp [Frame.ofBytes_bytes]

theorem decode_eq_frame_iff {buffer rest : List UInt8} {f : Frame} :
    decode buffer = (.frame f, rest) ↔ buffer = f.encode ++ rest := by
  constructor
  · intro h
    unfold decode at h
    split at h
    · cases h
    · cases h
    · split at h
      · cases h
      · split at h
        · next g hg =>
          cases h
          rw [Frame.encode, Frame.bytes_of_ofBytes hg, List.take_append_drop]
        · cases h
  · rintro rfl
    exact decode_encode_append f rest

/-- Where there is no frame, nothing is taken. -/
theorem decode_eq_self {buffer rest : List UInt8} {d : Decoded} (h : decode buffer = (d, rest))
    (hd : ∀ f, d ≠ .frame f) : rest = buffer := by
  unfold decode at h
  split at h
  · cases h
    rfl
  · cases h
    rfl
  · next n hn =>
    split at h
    · cases h
      rfl
    · next hlen =>
      obtain ⟨f, hf⟩ := ofBytes_take_declaredSize hn (Nat.le_of_not_lt hlen)
      rw [hf] at h
      cases h
      exact absurd rfl (hd f)

/-! ## All frames of a buffer -/

theorem takeFrames_encode_append (f : Frame) (rest : List UInt8) :
    takeFrames (f.encode ++ rest) = (f :: (takeFrames rest).1, (takeFrames rest).2) := by
  rw [takeFrames]
  split
  · next g rest' h =>
    rw [decode_encode_append] at h
    cases h
    rfl
  · next h =>
    rw [decode_encode_append] at h
    cases h
  · next h =>
    rw [decode_encode_append] at h
    cases h

/-- Frames at the front of a buffer are all found, in order. -/
theorem takeFrames_flatMap_encode (fs : List Frame) (rest : List UInt8) :
    takeFrames (fs.flatMap (·.encode) ++ rest) =
      (fs ++ (takeFrames rest).1, (takeFrames rest).2) := by
  induction fs with
  | nil => simp
  | cons f fs ih => rw [List.flatMap_cons, List.append_assoc, takeFrames_encode_append, ih]; rfl

/-- The frames that are found are the front of the bytes. -/
theorem flatMap_takeFrames_isPrefix (bytes : List UInt8) :
    (takeFrames bytes).1.flatMap (·.encode) <+: bytes := by
  induction bytes using takeFrames.induct with
  | case1 bytes f rest h _ frames stopped left htake ih =>
    rw [decode_eq_frame_iff.mp h, takeFrames_encode_append]
    exact (List.prefix_append_right_inj f.encode).mpr ih
  | case2 bytes e rest h =>
    rw [takeFrames]
    split <;> simp_all
  | case3 bytes n rest h =>
    rw [takeFrames]
    split <;> simp_all

/-! ## Reading a stream -/

namespace FrameReader

@[simp]
theorem buffer_finish (r : FrameReader) (how : ReadEnd) : (r.finish how).buffer = r.buffer := rfl

@[simp]
theorem ended_finish (r : FrameReader) (how : ReadEnd) : (r.finish how).ended = true := by
  unfold ended finish
  cases r.ending <;> rfl

/-- A read takes off what `decode` takes off, and comes to a frame just when `decode` does. -/
theorem next_of_decode {r : FrameReader} {d : Decoded} {rest : List UInt8}
    (hd : decode r.buffer = (d, rest)) :
    r.next.2 = { r with buffer := rest } ∧
      ∀ f, r.next.1 = .item (.frame f) ↔ d = .frame f := by
  unfold next decodeAtEnd
  rcases hending : r.ending with _ | _ | cause
  · cases d <;> simp [hd]
  · cases d with
    | frame f => simp [hd]
    | malformed e => simp [hd]
    | incomplete n =>
      cases rest with
      | nil => simp [hd]
      | cons b bs => simp [hd]
  · cases d <;> simp [hd]

/-- A frame is read just when the unread bytes begin with it. -/
theorem next_eq_frame_iff {r r' : FrameReader} {f : Frame} :
    r.next = (.item (.frame f), r') ↔ r.buffer = f.encode ++ r'.buffer ∧ r'.ending = r.ending := by
  rcases hd : decode r.buffer with ⟨d, rest⟩
  obtain ⟨hrest, hframe⟩ := next_of_decode hd
  constructor
  · intro h
    rw [h] at hrest hframe
    obtain rfl := (hframe f).mp rfl
    obtain rfl : r' = { r with buffer := rest } := hrest
    exact ⟨decode_eq_frame_iff.mp hd, rfl⟩
  · rintro ⟨hbuffer, hending⟩
    rw [hbuffer, decode_encode_append] at hd
    cases hd
    refine Prod.ext ((hframe f).mpr rfl) ?_
    rw [hrest, ← hending]

/-- Whatever else a read comes to, it reads nothing. -/
theorem next_eq_self {r r' : FrameReader} {n : Next} (h : r.next = (n, r'))
    (hn : ∀ f, n ≠ .item (.frame f)) : r' = r := by
  rcases hd : decode r.buffer with ⟨d, rest⟩
  obtain ⟨hrest, hframe⟩ := next_of_decode hd
  rw [h] at hrest hframe
  have hself : rest = r.buffer := decode_eq_self hd fun f hf => hn f ((hframe f).mpr hf)
  rw [show r' = { r with buffer := rest } from hrest, hself]

end FrameReader

theorem takeFrames_nil : takeFrames [] = ([], none, []) := by
  rw [takeFrames]
  split
  · next h => cases h
  · next h => cases h
  · next h =>
    cases h
    rfl

end ModbusRelay
