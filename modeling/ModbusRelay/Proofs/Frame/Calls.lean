import ModbusRelay.Proofs.Frame.Chunks

/-!
Calls of the codec, in any order.

A codec has an input buffer. Bytes are fed into it, and it is asked for the next frame, before or
after the end of the stream. Whatever the calls, the frames returned and what is in the buffer are
the bytes fed (`encode_run`): nothing is lost, doubled, moved or rewritten, and a call that fails or
has nothing to return takes nothing. And when the bytes fed are frames and the beginning of one
more, these frames are returned, each as soon as it is there and asked for, and the beginning stays
in the buffer (`frames_survive_the_codec`).
-/

namespace ModbusRelay

/-- One call of the codec. -/
inductive CodecCall where
  | feed (bytes : List UInt8)
  | decode
  /-- As `decode`, when no more bytes will come. -/
  | decodeAtEnd
  deriving DecidableEq

/-- What a codec returns when it is asked for a frame; `none` means that it has none yet. -/
abbrev CodecAnswer := Except RelayError (Option Frame)

/-- The answer to a call before the end of the stream. -/
def Decoded.answer : Decoded → CodecAnswer
  | .frame f => .ok (some f)
  | .incomplete _ => .ok none
  | .malformed e => .error (.framing e)

/-- The frame that is returned. -/
def CodecAnswer.frame? : CodecAnswer → Option Frame
  | .ok f => f
  | .error _ => none

/-- The frames that are returned. -/
def framesOf (answers : List CodecAnswer) : List Frame := answers.filterMap CodecAnswer.frame?

namespace CodecCall

/-- The bytes that a call feeds. -/
def fed : CodecCall → List UInt8
  | .feed bytes => bytes
  | .decode | .decodeAtEnd => []

/-- What a call returns if it asks for a frame, and the buffer after it. -/
def apply (buffer : List UInt8) : CodecCall → Option CodecAnswer × List UInt8
  | .feed bytes => (none, buffer ++ bytes)
  | .decode => (some (ModbusRelay.decode buffer).1.answer, (ModbusRelay.decode buffer).2)
  | .decodeAtEnd => (some (ModbusRelay.decodeAtEnd buffer).1, (ModbusRelay.decodeAtEnd buffer).2)

/-- What a list of calls returns, and the buffer after it. -/
def run (buffer : List UInt8) : List CodecCall → List CodecAnswer × List UInt8
  | [] => ([], buffer)
  | c :: cs =>
    let (answer, buffer) := c.apply buffer
    let (answers, left) := run buffer cs
    (answer.toList ++ answers, left)

/-- All bytes that are fed. -/
def allFed (cs : List CodecCall) : List UInt8 := cs.flatMap fed

theorem run_append (buffer : List UInt8) (cs ds : List CodecCall) :
    run buffer (cs ++ ds) =
      ((run buffer cs).1 ++ (run (run buffer cs).2 ds).1, (run (run buffer cs).2 ds).2) := by
  induction cs generalizing buffer with
  | nil => rfl
  | cons c cs ih => simp [run, ih]

/-! ## Nothing is lost -/

/-- At the end of the stream a codec takes what it would have taken before. -/
theorem frame?_decodeAtEnd (buffer : List UInt8) :
    CodecAnswer.frame? (ModbusRelay.decodeAtEnd buffer).1 =
        (ModbusRelay.decode buffer).1.answer.frame? ∧
      (ModbusRelay.decodeAtEnd buffer).2 = (ModbusRelay.decode buffer).2 := by
  unfold ModbusRelay.decodeAtEnd
  rcases ModbusRelay.decode buffer with ⟨f | missing | e, _ | ⟨b, left⟩⟩ <;> exact ⟨rfl, rfl⟩

/-- A frame that is returned is taken off the buffer, and nothing else is. -/
theorem encode_decode (buffer : List UInt8) :
    (ModbusRelay.decode buffer).1.answer.frame?.toList.flatMap (·.encode) ++
      (ModbusRelay.decode buffer).2 = buffer := by
  rcases hd : ModbusRelay.decode buffer with ⟨d, left⟩
  cases decoding hd with
  | frame front =>
    rw [front]
    simp [Decoded.answer, CodecAnswer.frame?]
  | incomplete | malformed => rfl

theorem encode_apply (buffer : List UInt8) (c : CodecCall) :
    (framesOf (c.apply buffer).1.toList).flatMap (·.encode) ++ (c.apply buffer).2 =
      buffer ++ c.fed := by
  have hframes (a : CodecAnswer) : framesOf (some a).toList = a.frame?.toList := by
    unfold framesOf
    cases h : a.frame? <;> simp [h]
  have hdecode := encode_decode buffer
  cases c with
  | feed bytes => rfl
  | decode =>
    simp only [apply, fed, hframes, List.append_nil]
    exact hdecode
  | decodeAtEnd =>
    obtain ⟨hframe, hleft⟩ := frame?_decodeAtEnd buffer
    simp only [apply, fed, hframes, List.append_nil, hframe, hleft]
    exact hdecode

/-- The frames returned and what is left in the buffer are the bytes that were there and those that
were fed. -/
theorem encode_run (buffer : List UInt8) (cs : List CodecCall) :
    (framesOf (run buffer cs).1).flatMap (·.encode) ++ (run buffer cs).2 =
      buffer ++ allFed cs := by
  induction cs generalizing buffer with
  | nil => rw [allFed, List.flatMap_nil, List.append_nil]; rfl
  | cons c cs ih =>
    have happly := encode_apply buffer c
    have hrun : run buffer (c :: cs) = ((c.apply buffer).1.toList ++ (run (c.apply buffer).2 cs).1,
      (run (c.apply buffer).2 cs).2) := rfl
    rw [hrun, framesOf, List.filterMap_append, List.flatMap_append, List.append_assoc]
    calc (framesOf (c.apply buffer).1.toList).flatMap (·.encode) ++
          ((framesOf (run (c.apply buffer).2 cs).1).flatMap (·.encode) ++
            (run (c.apply buffer).2 cs).2)
        = (framesOf (c.apply buffer).1.toList).flatMap (·.encode) ++
            ((c.apply buffer).2 ++ allFed cs) := by rw [ih]
      _ = buffer ++ c.fed ++ allFed cs := by rw [← List.append_assoc, happly]
      _ = buffer ++ allFed (c :: cs) := by rw [List.append_assoc]; rfl

/-! ## Frames, and the beginning of one more -/

/-- As long as there is no bad header in what is there and what is fed, no call fails. -/
theorem ok_of_run {buffer : List UInt8} {cs : List CodecCall} (hend : .decodeAtEnd ∉ cs)
    (hgood : (takeFrames (buffer ++ allFed cs)).2.1 = none) :
    ∀ a ∈ (run buffer cs).1, ∃ f, a = .ok f := by
  induction cs generalizing buffer with
  | nil => simp [run]
  | cons c cs ih =>
    have hend' : .decodeAtEnd ∉ cs := fun h => hend (List.mem_cons_of_mem c h)
    cases c with
    | feed bytes =>
      have hgood' : (takeFrames (buffer ++ bytes ++ allFed cs)).2.1 = none := by
        rw [List.append_assoc]
        exact hgood
      exact ih hend' hgood'
    | decode =>
      rcases hd : ModbusRelay.decode buffer with ⟨d, next⟩
      have hrun : (run buffer (.decode :: cs)).1 = d.answer :: (run next cs).1 := by
        simp [run, apply, hd]
      have hgood' : (takeFrames (buffer ++ allFed cs)).2.1 = none := hgood
      rw [hrun]
      refine List.forall_mem_cons.mpr ?_
      cases decoding hd with
      | frame front =>
        refine ⟨⟨_, rfl⟩, ih hend' ?_⟩
        rw [front, List.append_assoc, takeFrames_encode_append] at hgood'
        exact hgood'
      | incomplete => exact ⟨⟨_, rfl⟩, ih hend' hgood'⟩
      | malformed bad =>
        rw [takeFrames_of_malformed (bad.append _)] at hgood'
        cases hgood'
    | decodeAtEnd => exact absurd List.mem_cons_self hend

/-- Asked often enough, a codec returns all frames that are there, and then none. -/
theorem run_replicate_decode {p : List UInt8} (hp : Incomplete p) (fs : List Frame) {n : Nat}
    (hn : fs.length ≤ n) :
    run (fs.flatMap (·.encode) ++ p) (List.replicate n .decode) =
      (fs.map (fun f => .ok (some f)) ++ List.replicate (n - fs.length) (.ok none), p) := by
  induction n generalizing fs with
  | zero =>
    obtain rfl : fs = [] := List.eq_nil_of_length_eq_zero (by omega)
    rfl
  | succ n ih =>
    cases fs with
    | nil =>
      obtain ⟨missing, hd⟩ := decode_of_incomplete hp
      have hrest := ih [] (Nat.zero_le n)
      simp only [List.flatMap_nil, List.nil_append] at hrest
      simp [List.replicate_succ, run, apply, hd, hrest, Decoded.answer]
    | cons f fs =>
      have hrest := ih fs (by simpa using hn)
      rw [List.flatMap_cons, List.append_assoc, List.replicate_succ]
      simp [run, apply, hrest, Decoded.answer]

/-- **Frames survive the codec, and so do all bytes.** Let frames be fed, end to end, and then the
beginning of one more, in pieces of any size, and let a codec be asked for frames in between in any
way. Then no call fails, the frames returned are the first `k` of those fed, and from then on the
codec returns the others, one for each call, and then none; and just the beginning of the last frame
is left. And whatever the calls and the bytes, the frames returned and the bytes in the buffer are
always those that were fed. -/
theorem frames_survive_the_codec (cs : List CodecCall) :
    (∀ (fs : List Frame) (p rest : List UInt8) (g : Frame), p ++ rest = g.encode → rest ≠ [] →
      .decodeAtEnd ∉ cs → allFed cs = fs.flatMap (·.encode) ++ p →
      ∃ k ≤ fs.length, (∀ a ∈ (run [] cs).1, ∃ f, a = .ok f) ∧
        framesOf (run [] cs).1 = fs.take k ∧
        ∀ n, fs.length ≤ k + n →
          run [] (cs ++ List.replicate n .decode) =
            ((run [] cs).1 ++ (fs.drop k).map (fun f => .ok (some f)) ++
              List.replicate (k + n - fs.length) (.ok none), p)) ∧
    (framesOf (run [] cs).1).flatMap (·.encode) ++ (run [] cs).2 = allFed cs := by
  have hbytes := encode_run [] cs
  rw [List.nil_append] at hbytes
  refine ⟨fun fs p rest g hg hrest hend hfed => ?_, hbytes⟩
  have hp : Incomplete p := incomplete_of_append_eq_encode hg hrest
  have htake : takeFrames (allFed cs) = (fs, none, p) := by
    rw [hfed, takeFrames_flatMap_encode, takeFrames_of_incomplete hp, List.append_nil]
  -- The frames still in the buffer come after those returned.
  obtain ⟨later, hsplit⟩ : ∃ later, fs = framesOf (run [] cs).1 ++ later := by
    rw [← hbytes, takeFrames_flatMap_encode] at htake
    exact ⟨_, (congrArg Prod.fst htake).symm⟩
  have hleft : (run [] cs).2 = later.flatMap (·.encode) ++ p := by
    rw [hfed, hsplit, List.flatMap_append, List.append_assoc] at hbytes
    exact List.append_cancel_left hbytes
  generalize framesOf (run [] cs).1 = returned at hsplit ⊢
  have hlength : fs.length = returned.length + later.length := by
    rw [hsplit, List.length_append]
  refine ⟨returned.length, by omega, ok_of_run hend ?_, ?_, fun n hn => ?_⟩
  · rw [List.nil_append, htake]
  · rw [hsplit, List.take_left]
  · have hn' : returned.length + n - fs.length = n - later.length := by omega
    rw [run_append, hleft, run_replicate_decode hp later (by omega), hn', hsplit, List.drop_left,
      List.append_assoc]

/-- Two frames and five bytes of a third are fed in three pieces, with two calls in between. -/
def fedInPieces : List CodecCall :=
  [.feed [0, 7, 0, 0, 0, 3, 1], .decode, .feed [3, 9, 0, 8], .decode,
    .feed [0, 0, 0, 2, 1, 4, 0, 9, 0, 0, 0]]

/-- The first frame is returned in between and the second at the end, and five bytes are left. -/
theorem frames_of_fedInPieces :
    CodecCall.decodeAtEnd ∉ fedInPieces ∧
      allFed fedInPieces = cutFrames.flatMap (·.encode) ++ [0, 9, 0, 0, 0] ∧
      framesOf (run [] fedInPieces).1 = cutFrames.take 1 ∧
      run [] (fedInPieces ++ [.decode, .decode]) =
        ([.ok none, .ok cutFrames[0]?, .ok cutFrames[1]?, .ok none], [0, 9, 0, 0, 0]) := by
  have hend : CodecCall.decodeAtEnd ∉ fedInPieces := by decide
  have hfed : allFed fedInPieces = cutFrames.flatMap (·.encode) ++ [0, 9, 0, 0, 0] := by decide
  have hanswers : (run [] fedInPieces).1 = [.ok none, .ok cutFrames[0]?] := rfl
  have hreturned : framesOf (run [] fedInPieces).1 = cutFrames.take 1 := by rw [hanswers]; rfl
  obtain ⟨k, hk, -, hframes, hrest⟩ := (frames_survive_the_codec fedInPieces).1 cutFrames
    [0, 9, 0, 0, 0] [2, 1, 4] ⟨[0, 9, 0, 0, 0, 2, 1, 4], ⟨9, 0, 2, 1⟩, rfl, rfl⟩ rfl (by decide)
    hend hfed
  obtain rfl : k = 1 := by
    have hlength := congrArg List.length (hreturned.symm.trans hframes)
    have htwo : cutFrames.length = 2 := rfl
    rw [List.length_take, List.length_take] at hlength
    omega
  have hrest := hrest 2 (by decide)
  rw [hanswers] at hrest
  exact ⟨hend, hfed, hreturned, hrest⟩

end CodecCall

end ModbusRelay
