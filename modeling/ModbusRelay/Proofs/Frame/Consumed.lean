import ModbusRelay.Proofs.Frame.Grammar

/-!
What `decode` takes off a buffer.

A look at a buffer comes to a frame, which is taken off its front, or to nothing yet, or to a length
field that no frame has, and in the last two cases the buffer stays as it is. Each of the three is
told by the buffer alone (`decode_eq_frame_iff`, `decode_eq_incomplete_iff`,
`decode_eq_malformed_iff`). The bytes are taken off before they are checked, but the check cannot
fail then. So a buffer is soon used up: each frame takes a whole header off it, and from the first
look that comes to no frame nothing changes any more (`exists_last_frame`).
-/

namespace ModbusRelay

variable {buffer rest : List UInt8}

/-! ## The length field and the size -/

theorem lengthField?_eq_none_iff : lengthField? buffer = none ↔ buffer.length < preambleSize := by
  rcases buffer with _ | ⟨t1, _ | ⟨t0, _ | ⟨p1, _ | ⟨p0, _ | ⟨n1, _ | ⟨n0, rest⟩⟩⟩⟩⟩⟩ <;>
    simp [lengthField?, preambleSize]

/-- The length field are the fifth and the sixth byte. -/
theorem lengthField?_eq_some_iff {n : UInt16} :
    lengthField? buffer = some n ↔ BigEndian n.toNat ((buffer.drop 4).take 2) := by
  rcases buffer with _ | ⟨t1, _ | ⟨t0, _ | ⟨p1, _ | ⟨p0, _ | ⟨n1, _ | ⟨n0, rest⟩⟩⟩⟩⟩⟩
  case cons.cons.cons.cons.cons.cons =>
    constructor
    · rintro ⟨⟩
      exact bigEndian_word n1 n0
    · exact fun h => congrArg some h.word_eq
  all_goals simp [lengthField?, BigEndian]

/-- No size is declared just when there are too few bytes for the length field. -/
theorem declaredSize_eq_none_iff : declaredSize buffer = .ok none ↔ buffer.length < preambleSize := by
  rw [← lengthField?_eq_none_iff, declaredSize_eq]
  cases lengthField? buffer with
  | none => simp
  | some n => by_cases hlegal : LegalLength n <;> simp [hlegal]

/-- Every frame has a whole header. -/
theorem Frame.headerSize_le_length (f : Frame) : headerSize ≤ f.bytes.length := by
  obtain ⟨t1, t0, p1, p0, n1, n0, unit, payload, hbytes, -, -⟩ := Header.parse_ok f.parse_bytes
  rw [hbytes]
  simp [headerSize]

/-! ## One look -/

/-- So many bytes are missing for the length field or, behind it, for the size that it declares. -/
inductive Lacks (buffer : List UInt8) (missing : Nat) : Prop where
  | preamble (short : buffer.length < preambleSize)
      (needed : buffer.length + missing = preambleSize)
  | body {n : Nat} (declared : declaredSize buffer = .ok (some n)) (short : buffer.length < n)
      (needed : buffer.length + missing = n)

/-- Nothing is returned just when something is missing, and then nothing is taken. -/
theorem decode_eq_incomplete_iff {missing : Nat} :
    decode buffer = (.incomplete missing, rest) ↔ rest = buffer ∧ Lacks buffer missing := by
  constructor
  · intro h
    unfold decode at h
    split at h
    · cases h
    · next hsize =>
      have hshort := declaredSize_eq_none_iff.mp hsize
      cases h
      exact ⟨rfl, .preamble hshort (by omega)⟩
    · next n hsize =>
      split at h
      · next hshort =>
        cases h
        exact ⟨rfl, .body hsize hshort (by omega)⟩
      · split at h <;> cases h
  · rintro ⟨rfl, ⟨hshort, hneeded⟩ | ⟨hsize, hshort, hneeded⟩⟩
    · obtain rfl : missing = preambleSize - rest.length := by omega
      unfold decode
      rw [declaredSize_eq_none_iff.mpr hshort]
    · unfold decode
      rw [hsize, ← hneeded]
      exact (if_pos (by omega)).trans (by rw [Nat.add_sub_cancel_left])

/-- A look fails just for the length field, and then nothing is taken. -/
theorem decode_eq_malformed_iff {e : FrameError} :
    decode buffer = (.malformed e, rest) ↔
      rest = buffer ∧ ∃ n, e = .invalidLength n ∧ Malformed buffer n := by
  constructor
  · intro h
    cases decoding h with
    | malformed bad => exact ⟨rfl, _, rfl, bad⟩
  · rintro ⟨rfl, n, rfl, hbad⟩
    exact decode_of_malformed hbad

theorem malformed_iff {n : UInt16} :
    Malformed buffer n ↔
      BigEndian n.toNat ((buffer.drop 4).take 2) ∧ ¬(1 ≤ n.toNat ∧ n.toNat ≤ 254) := by
  rw [Malformed, lengthField?_eq_some_iff, legalLength_iff]

theorem Malformed.preambleSize_le {n : UInt16} (h : Malformed buffer n) :
    preambleSize ≤ buffer.length := by
  refine Nat.le_of_not_lt fun hshort => ?_
  have hnone := h.1.symm.trans (lengthField?_eq_none_iff.mpr hshort)
  cases hnone

/-! ## Look after look -/

/-- What is left of a buffer after so many looks. -/
def leftAfter (buffer : List UInt8) : Nat → List UInt8
  | 0 => buffer
  | looks + 1 => leftAfter (decode buffer).2 looks

theorem leftAfter_of_same (h : (decode buffer).2 = buffer) (looks : Nat) :
    leftAfter buffer looks = buffer := by
  induction looks with
  | zero => rfl
  | succ looks ih => rw [leftAfter, h, ih]

/-- The first `frames` looks come to frames, and from then on nothing changes. -/
structure EndsAfter (buffer : List UInt8) (frames : Nat) : Prop where
  before : ∀ j < frames, ∃ f, (decode (leftAfter buffer j)).1 = .frame f
  later : ∀ j, frames ≤ j → leftAfter buffer j = leftAfter buffer frames ∧
    ∀ f, (decode (leftAfter buffer j)).1 ≠ .frame f

theorem endsAfter_zero {d : Decoded} (h : decode buffer = (d, rest)) (hd : ∀ f, d ≠ .frame f) :
    EndsAfter buffer 0 := by
  have hsame : (decode buffer).2 = buffer := by
    rw [h]
    exact decode_eq_self h hd
  refine ⟨fun j hj => absurd hj (Nat.not_lt_zero j), fun j _ => ?_⟩
  rw [leftAfter_of_same hsame, h]
  exact ⟨rfl, hd⟩

theorem EndsAfter.succ {frames : Nat} {f : Frame} (h : decode buffer = (.frame f, rest))
    (hends : EndsAfter rest frames) : EndsAfter buffer (frames + 1) := by
  have hleft (j : Nat) : leftAfter buffer (j + 1) = leftAfter rest j := by rw [leftAfter, h]
  refine ⟨fun j hj => ?_, fun j hj => ?_⟩
  · cases j with
    | zero => exact ⟨f, congrArg Prod.fst h⟩
    | succ j =>
      rw [hleft]
      exact hends.before j (by omega)
  · cases j with
    | zero => omega
    | succ j =>
      rw [hleft, hleft]
      exact hends.later j (by omega)

/-- A buffer has no more frames than it has room for headers. -/
theorem exists_last_frame (buffer : List UInt8) :
    ∃ frames, headerSize * frames ≤ buffer.length ∧ EndsAfter buffer frames := by
  induction buffer using takeFrames.induct with
  | case1 buffer f rest hd _ _ _ _ _ ih =>
    obtain ⟨frames, hroom, hends⟩ := ih
    refine ⟨frames + 1, ?_, hends.succ hd⟩
    have hheader := f.headerSize_le_length
    rw [decode_eq_frame_iff.mp hd, List.length_append, Nat.mul_succ, Frame.encode]
    omega
  | case2 buffer e rest hd => exact ⟨0, Nat.zero_le _, endsAfter_zero hd (by simp)⟩
  | case3 buffer missing rest hd => exact ⟨0, Nat.zero_le _, endsAfter_zero hd (by simp)⟩

/-- **A look takes a whole frame or nothing.** It comes to a frame just when the buffer begins with
it, which has the declared size and is what is taken off. It comes to nothing just when bytes are
missing for the length field or the declared size, and says how many. It fails just when there is a
length field that is not from 1 to 254. The bytes that are taken off always pass the check
afterwards. Each frame takes a whole header off the buffer, so looking again and again comes to an
end. -/
theorem look_takes_frame_or_nothing (buffer : List UInt8) :
    (∀ f rest, decode buffer = (.frame f, rest) ↔
      declaredSize buffer = .ok (some f.size) ∧ buffer = f.bytes ++ rest) ∧
    (∀ missing rest, decode buffer = (.incomplete missing, rest) ↔
      rest = buffer ∧ Lacks buffer missing) ∧
    (∀ e rest, decode buffer = (.malformed e, rest) ↔
      rest = buffer ∧ preambleSize ≤ buffer.length ∧ ∃ n : UInt16, e = .invalidLength n ∧
        BigEndian n.toNat ((buffer.drop 4).take 2) ∧ ¬(1 ≤ n.toNat ∧ n.toNat ≤ 254)) ∧
    (∀ n, declaredSize buffer = .ok (some n) → n ≤ buffer.length →
      ∃ f, Frame.ofBytes (buffer.take n) = .ok f ∧ decode buffer = (.frame f, buffer.drop n)) ∧
    (declaredSize buffer = .ok none → buffer.length < preambleSize) ∧
    (∀ f rest, decode buffer = (.frame f, rest) → rest.length + headerSize ≤ buffer.length) ∧
    ∃ frames, headerSize * frames ≤ buffer.length ∧ EndsAfter buffer frames := by
  refine ⟨fun f rest => ⟨fun h => ?_, ?_⟩, fun missing rest => decode_eq_incomplete_iff,
    fun e rest => ⟨fun h => ?_, ?_⟩, fun n hsize hn => ?_, declaredSize_eq_none_iff.mp,
    fun f rest h => ?_, exists_last_frame buffer⟩
  · obtain rfl := decode_eq_frame_iff.mp h
    exact ⟨f.declaredSize_append rest, rfl⟩
  · rintro ⟨-, rfl⟩
    exact decode_encode_append f rest
  · obtain ⟨hrest, n, he, hbad⟩ := decode_eq_malformed_iff.mp h
    exact ⟨hrest, hbad.preambleSize_le, n, he, malformed_iff.mp hbad⟩
  · rintro ⟨hrest, -, n, he, hbad⟩
    exact decode_eq_malformed_iff.mpr ⟨hrest, n, he, malformed_iff.mpr hbad⟩
  · obtain ⟨f, hf⟩ := ofBytes_take_declaredSize hsize hn
    refine ⟨f, hf, decode_eq_frame_iff.mpr ?_⟩
    rw [Frame.encode, Frame.bytes_of_ofBytes hf, List.take_append_drop]
  · have hheader := f.headerSize_le_length
    rw [decode_eq_frame_iff.mp h, List.length_append, Frame.encode]
    omega

/-- A frame, and five bytes of the next. -/
def frameAndMore : List UInt8 := smallestFrame ++ [0x12, 0x35, 0, 0, 0]

/-- The first look takes the frame, the second misses the sixth byte of the next, and when it comes
as a length field of 0 the third fails; each leaves what it does not take. -/
theorem looks_at_frameAndMore :
    (∃ f, f.bytes = smallestFrame ∧ decode frameAndMore = (.frame f, frameAndMore.drop 7)) ∧
      decode (frameAndMore.drop 7) = (.incomplete 1, frameAndMore.drop 7) ∧
      decode (frameAndMore.drop 7 ++ [0]) =
        (.malformed (.invalidLength 0), frameAndMore.drop 7 ++ [0]) ∧
      ∃ frames, headerSize * frames ≤ 12 ∧ EndsAfter frameAndMore frames := by
  obtain ⟨-, -, -, hcheck, -, -, hends⟩ := look_takes_frame_or_nothing frameAndMore
  obtain ⟨-, hlacks, -⟩ := look_takes_frame_or_nothing (frameAndMore.drop 7)
  obtain ⟨-, -, hfails, -⟩ := look_takes_frame_or_nothing (frameAndMore.drop 7 ++ [0])
  obtain ⟨f, hf, hd⟩ := hcheck 7 rfl (by decide)
  refine ⟨⟨f, Frame.bytes_of_ofBytes hf, hd⟩, (hlacks _ _).mpr ⟨rfl, .preamble (by decide) rfl⟩,
    (hfails _ _).mpr ⟨rfl, by decide, 0, rfl, ⟨0, 0, rfl, rfl⟩, by decide⟩, hends⟩

end ModbusRelay
