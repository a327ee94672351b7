import ModbusRelay.Proofs.Frame.Decode

/-!
A stream that arrives in chunks.

`decoding` says once what `decode` makes of a buffer: a frame at its front, or nothing yet, or a
length field that is not legal; and only a frame is taken off. Bytes that arrive later do not change
this, unless it was nothing yet (`lengthField?_append`). So what a reader gets out of a stream
depends on the bytes alone, and not on where they were cut on their way (`readChunks_cons`).

`ItemsOf` gives the items of a stream as a grammar of its bytes, and `same_items_however_cut` says
that these are what is read.
-/

namespace ModbusRelay

/-! ## The length field -/

/-- The length field of the header at the front of some bytes, once it is there. -/
def lengthField? : List UInt8 → Option UInt16
  | _ :: _ :: _ :: _ :: n1 :: n0 :: _ => some (word n1 n0)
  | _ => none

/-- What has arrived of a length field stays as it is. -/
theorem lengthField?_append {bytes : List UInt8} {n : UInt16} (h : lengthField? bytes = some n)
    (more : List UInt8) : lengthField? (bytes ++ more) = some n := by
  unfold lengthField? at h
  split at h
  · exact h
  · cases h

/-- The header at the front has a length field that no frame has. -/
def Malformed (bytes : List UInt8) (n : UInt16) : Prop :=
  lengthField? bytes = some n ∧ ¬LegalLength n

/-- The bytes may be the beginning of a frame, but they are not all of it. -/
def Incomplete (bytes : List UInt8) : Prop :=
  ∀ n, lengthField? bytes = some n → LegalLength n ∧ bytes.length < preambleSize + n.toNat

theorem Malformed.append {bytes : List UInt8} {n : UInt16} (h : Malformed bytes n)
    (more : List UInt8) : Malformed (bytes ++ more) n :=
  ⟨lengthField?_append h.1 more, h.2⟩

theorem declaredSize_eq (bytes : List UInt8) :
    declaredSize bytes =
      match lengthField? bytes with
      | none => .ok none
      | some n =>
        if LegalLength n then .ok (some (preambleSize + n.toNat))
        else .error (.invalidLength n) := by
  unfold declaredSize
  split
  · rfl
  · next hshort => rw [lengthField?.eq_2 bytes hshort]

theorem lengthField?_encode (f : Frame) :
    ∃ n, lengthField? f.encode = some n ∧ LegalLength n ∧
      preambleSize + n.toNat = f.encode.length := by
  obtain ⟨t1, t0, p1, p0, n1, n0, unit, rest, hbytes, hlegal, hlength⟩ :=
    Header.parse_ok f.parse_bytes
  refine ⟨word n1 n0, ?_, hlegal, ?_⟩
  · unfold Frame.encode
    rw [hbytes]
    rfl
  · rw [← hlength]
    exact f.size_eq

/-- Bytes that lack something of a frame are incomplete. -/
theorem incomplete_of_append_eq_encode {bytes rest : List UInt8} {f : Frame}
    (h : bytes ++ rest = f.encode) (hrest : rest ≠ []) : Incomplete bytes := by
  intro n hn
  obtain ⟨m, hm, hlegal, hsize⟩ := lengthField?_encode f
  have hfield : lengthField? f.encode = some n := h ▸ lengthField?_append hn rest
  obtain rfl : m = n := Option.some.inj (hm.symm.trans hfield)
  have hlength : bytes.length + rest.length = f.encode.length := by rw [← List.length_append, h]
  have hpos : 0 < rest.length := List.length_pos_iff.mpr hrest
  exact ⟨hlegal, by omega⟩

/-! ## One look at a buffer -/

/-- What a look at a buffer can come to: the answer, and what is left. -/
inductive Decoding (buffer : List UInt8) : Decoded → List UInt8 → Prop where
  | frame {f : Frame} {rest : List UInt8} (front : buffer = f.encode ++ rest) :
      Decoding buffer (.frame f) rest
  | incomplete {missing : Nat} (torn : Incomplete buffer) :
      Decoding buffer (.incomplete missing) buffer
  | malformed {n : UInt16} (bad : Malformed buffer n) :
      Decoding buffer (.malformed (.invalidLength n)) buffer

theorem decoding {buffer rest : List UInt8} {d : Decoded} (h : decode buffer = (d, rest)) :
    Decoding buffer d rest := by
  have hsize := declaredSize_eq buffer
  unfold decode at h
  cases hfield : lengthField? buffer with
  | none =>
    rw [hfield] at hsize
    rw [hsize] at h
    cases h
    refine .incomplete fun n hn => ?_
    rw [hfield] at hn
    cases hn
  | some n =>
    rw [hfield] at hsize
    dsimp only at hsize
    by_cases hlegal : LegalLength n
    · rw [if_pos hlegal] at hsize
      rw [hsize] at h
      dsimp only at h
      split at h
      · next hlength =>
        cases h
        refine .incomplete fun m hm => ?_
        obtain rfl : n = m := Option.some.inj (hfield.symm.trans hm)
        exact ⟨hlegal, hlength⟩
      · next hlength =>
        obtain ⟨f, hf⟩ := ofBytes_take_declaredSize hsize (Nat.le_of_not_lt hlength)
        rw [hf] at h
        cases h
        refine .frame ?_
        rw [Frame.encode, Frame.bytes_of_ofBytes hf, List.take_append_drop]
    · rw [if_neg hlegal] at hsize
      rw [hsize] at h
      cases h
      exact .malformed ⟨hfield, hlegal⟩

theorem decode_of_incomplete {buffer : List UInt8} (h : Incomplete buffer) :
    ∃ missing, decode buffer = (.incomplete missing, buffer) := by
  rcases hd : decode buffer with ⟨d, rest⟩
  cases decoding hd with
  | frame front =>
    obtain ⟨n, hn, -, hsize⟩ := lengthField?_encode _
    have hlength := (h n (front ▸ lengthField?_append hn rest)).2
    rw [front, List.length_append] at hlength
    omega
  | incomplete torn => exact ⟨_, rfl⟩
  | malformed bad => exact absurd (h _ bad.1).1 bad.2

theorem decode_of_malformed {buffer : List UInt8} {n : UInt16} (h : Malformed buffer n) :
    decode buffer = (.malformed (.invalidLength n), buffer) := by
  rcases hd : decode buffer with ⟨d, rest⟩
  cases decoding hd with
  | frame front =>
    obtain ⟨m, hm, hlegal, -⟩ := lengthField?_encode _
    have hfield : lengthField? buffer = some m := front ▸ lengthField?_append hm rest
    obtain rfl : n = m := Option.some.inj (h.1.symm.trans hfield)
    exact absurd hlegal h.2
  | incomplete torn => exact absurd (torn n h.1).1 h.2
  | malformed bad =>
    obtain rfl := Option.some.inj (h.1.symm.trans bad.1)
    rfl

namespace FrameReader

/-- What one read of a stream can come to: the answer, and the reader afterwards. -/
inductive Reading (u : FrameReader) : Next → FrameReader → Prop where
  | frame {f : Frame} {u' : FrameReader} (front : u.buffer = f.encode ++ u'.buffer)
      (same : u'.ending = u.ending) : Reading u (.item (.frame f)) u'
  | waiting (running : u.ending = none) (torn : Incomplete u.buffer) : Reading u .waiting u
  | finished (isOver : u.ending = some .closed) (nothing : u.buffer = []) : Reading u .finished u
  | torn (isOver : u.ending = some .closed) (something : u.buffer ≠ [])
      (incomplete : Incomplete u.buffer) : Reading u (.item (.failed (.io .bytesRemaining))) u
  | broken {cause : IoError} (isOver : u.ending = some (.broken cause))
      (incomplete : Incomplete u.buffer) : Reading u (.item (.failed (.io cause))) u
  | malformed {n : UInt16} (bad : Malformed u.buffer n) :
      Reading u (.item (.failed (.framing (.invalidLength n)))) u

theorem reading {u u' : FrameReader} {n : Next} (h : u.next = (n, u')) : Reading u n u' := by
  obtain rfl : u.next.1 = n := congrArg Prod.fst h
  obtain rfl : u.next.2 = u' := congrArg Prod.snd h
  clear h
  obtain ⟨buffer, ending⟩ := u
  rcases hd : decode buffer with ⟨d, rest⟩
  unfold next decodeAtEnd
  dsimp only
  rw [hd]
  rcases ending with _ | _ | cause
  · cases decoding hd with
    | frame front => exact .frame front rfl
    | incomplete torn => exact .waiting rfl torn
    | malformed bad => exact .malformed bad
  · cases decoding hd with
    | frame front => exact .frame front rfl
    | incomplete torn =>
      cases buffer with
      | nil => exact .finished rfl rfl
      | cons => exact .torn rfl (by simp) torn
    | malformed bad => exact .malformed bad
  · cases decoding hd with
    | frame front => exact .frame front rfl
    | incomplete torn => exact .broken rfl torn
    | malformed bad => exact .malformed bad

end FrameReader

/-! ## All frames of a buffer -/

theorem takeFrames_of_incomplete {buffer : List UInt8} (h : Incomplete buffer) :
    takeFrames buffer = ([], none, buffer) := by
  obtain ⟨missing, hd⟩ := decode_of_incomplete h
  rw [takeFrames]
  split <;> simp_all

theorem takeFrames_of_malformed {buffer : List UInt8} {n : UInt16} (h : Malformed buffer n) :
    takeFrames buffer = ([], some (.invalidLength n), buffer) := by
  have hd := decode_of_malformed h
  rw [takeFrames]
  split <;> simp_all

/-- What stops the taking of frames, and where. -/
def StopsAt (stopped : Option FrameError) (left : List UInt8) : Prop :=
  match stopped with
  | none => Incomplete left
  | some e => ∃ n, e = .invalidLength n ∧ Malformed left n

/-- The frames that are taken, and what is left, are the bytes. -/
theorem takeFrames_spec {buffer left : List UInt8} {fs : List Frame} {stopped : Option FrameError}
    (h : takeFrames buffer = (fs, stopped, left)) :
    buffer = fs.flatMap (·.encode) ++ left ∧ StopsAt stopped left := by
  induction buffer using takeFrames.induct generalizing fs with
  | case1 buffer f rest hd _ frames stopped' left' htake ih =>
    obtain rfl : buffer = f.encode ++ rest := decode_eq_frame_iff.mp hd
    rw [takeFrames_encode_append, htake] at h
    cases h
    obtain ⟨hrest, hstops⟩ := ih htake
    refine ⟨?_, hstops⟩
    rw [List.flatMap_cons, List.append_assoc, ← hrest]
  | case2 buffer e rest hd =>
    cases decoding hd with
    | malformed bad =>
      rw [takeFrames_of_malformed bad] at h
      cases h
      exact ⟨rfl, _, rfl, bad⟩
  | case3 buffer missing rest hd =>
    cases decoding hd with
    | incomplete torn =>
      rw [takeFrames_of_incomplete torn] at h
      cases h
      exact ⟨rfl, torn⟩

/-- What comes later is read after what is left, if anything is read at all. -/
theorem takeFrames_append {buffer left : List UInt8} {fs : List Frame}
    (h : takeFrames buffer = (fs, none, left)) (more : List UInt8) :
    takeFrames (buffer ++ more) =
      (fs ++ (takeFrames (left ++ more)).1, (takeFrames (left ++ more)).2) := by
  rw [(takeFrames_spec h).1, List.append_assoc, takeFrames_flatMap_encode]

/-- What comes after a bad header is not read. -/
theorem takeFrames_append_of_stopped {buffer left : List UInt8} {fs : List Frame} {e : FrameError}
    (h : takeFrames buffer = (fs, some e, left)) (more : List UInt8) :
    takeFrames (buffer ++ more) = (fs, some e, left ++ more) := by
  obtain ⟨hbuffer, n, rfl, hbad⟩ := takeFrames_spec h
  rw [hbuffer, List.append_assoc, takeFrames_flatMap_encode,
    takeFrames_of_malformed (hbad.append _), List.append_nil]

/-! ## Reading chunks -/

/-- After the last chunk `decodeAtEnd` is asked for one item after the other. -/
theorem readChunks_nil (buffer : List UInt8) :
    readChunks buffer [] =
      match decodeAtEnd buffer with
      | (.ok (some f), rest) => .frame f :: readChunks rest []
      | (.ok none, _) => []
      | (.error e, _) => [.failed e] := by
  unfold decodeAtEnd
  rcases hd : decode buffer with ⟨d, rest⟩
  cases decoding hd with
  | frame front =>
    rw [front]
    simp only [readChunks, takeFrames_encode_append]
    rcases takeFrames rest with ⟨fs, _ | e, left⟩ <;> rfl
  | incomplete torn =>
    simp only [readChunks, takeFrames_of_incomplete torn]
    by_cases hnil : buffer.isEmpty <;> simp [hnil]
  | malformed bad => simp [readChunks, takeFrames_of_malformed bad]

/-- The frames that are there already are read first. -/
theorem readChunks_of_takeFrames {buffer left : List UInt8} {fs : List Frame}
    (h : takeFrames buffer = (fs, none, left)) (chunks : List (List UInt8)) :
    readChunks buffer chunks = fs.map .frame ++ readChunks left chunks := by
  have hleft : takeFrames left = ([], none, left) :=
    takeFrames_of_incomplete (takeFrames_spec h).2
  cases chunks with
  | nil => simp [readChunks, h, hleft]
  | cons chunk chunks =>
    simp only [readChunks, takeFrames_append h]
    rcases takeFrames (left ++ chunk) with ⟨gs, _ | e, rest⟩ <;> simp

/-- After a bad header nothing is read. -/
theorem readChunks_of_stopped {buffer left : List UInt8} {fs : List Frame} {e : FrameError}
    (h : takeFrames buffer = (fs, some e, left)) (chunks : List (List UInt8)) :
    readChunks buffer chunks = fs.map .frame ++ [.failed (.framing e)] := by
  cases chunks with
  | nil => simp [readChunks, h]
  | cons chunk chunks => simp [readChunks, takeFrames_append_of_stopped h]

/-- A chunk might as well have been there from the beginning. -/
theorem readChunks_cons (buffer chunk : List UInt8) (chunks : List (List UInt8)) :
    readChunks buffer (chunk :: chunks) = readChunks (buffer ++ chunk) chunks := by
  rcases htake : takeFrames (buffer ++ chunk) with ⟨fs, stopped, left⟩
  cases stopped with
  | none =>
    rw [readChunks_of_takeFrames htake]
    simp [readChunks, htake]
  | some e =>
    rw [readChunks_of_stopped htake]
    simp [readChunks, htake]

theorem readChunks_eq_flatten (buffer : List UInt8) (chunks : List (List UInt8)) :
    readChunks buffer chunks = readChunks (buffer ++ chunks.flatten) [] := by
  induction chunks generalizing buffer with
  | nil => rw [List.flatten_nil, List.append_nil]
  | cons chunk chunks ih => rw [readChunks_cons, ih, List.flatten_cons, List.append_assoc]

/-! ## The items of a stream -/

/-- The items of a stream of bytes that ends: its frames, and then an error if the bytes do not end
with the last of them. A bad header is the last item, whatever follows it. -/
inductive ItemsOf : List UInt8 → List Item → Prop where
  | done : ItemsOf [] []
  | torn {bytes : List UInt8} (nonempty : bytes ≠ []) (incomplete : Incomplete bytes) :
      ItemsOf bytes [.failed (.io .bytesRemaining)]
  | malformed {bytes : List UInt8} {n : UInt16} (bad : Malformed bytes n) :
      ItemsOf bytes [.failed (.framing (.invalidLength n))]
  | frame {f : Frame} {bytes : List UInt8} {items : List Item} (rest : ItemsOf bytes items) :
      ItemsOf (f.encode ++ bytes) (.frame f :: items)

theorem itemsOf_readChunks (bytes : List UInt8) : ItemsOf bytes (readChunks bytes []) := by
  induction bytes using takeFrames.induct with
  | case1 bytes f rest hd _ frames stopped left htake ih =>
    rw [readChunks_nil, decodeAtEnd, hd]
    rw [decode_eq_frame_iff.mp hd]
    exact .frame ih
  | case2 bytes e rest hd =>
    cases decoding hd with
    | malformed bad =>
      rw [readChunks_nil, decodeAtEnd, hd]
      exact .malformed bad
  | case3 bytes missing rest hd =>
    cases decoding hd with
    | incomplete torn =>
      rw [readChunks_nil, decodeAtEnd, hd]
      cases bytes with
      | nil => exact .done
      | cons b bytes => exact .torn (List.cons_ne_nil b bytes) torn

theorem readChunks_of_itemsOf {bytes : List UInt8} {items : List Item} (h : ItemsOf bytes items) :
    readChunks bytes [] = items := by
  induction h with
  | done =>
    rw [readChunks_nil, decodeAtEnd]
    rfl
  | torn nonempty incomplete =>
    obtain ⟨missing, hd⟩ := decode_of_incomplete incomplete
    rw [readChunks_nil, decodeAtEnd, hd]
    simp [nonempty]
  | malformed bad => rw [readChunks_nil, decodeAtEnd, decode_of_malformed bad]
  | frame _ ih =>
    rw [readChunks_nil, decodeAtEnd, decode_encode_append]
    exact congrArg _ ih

/-- **It never matters where a stream is cut.** Two ways of cutting the same bytes give the same
items, and these are the items of the bytes: the frames, and then the error of the first header
whose length field is not legal, or else the error of a torn frame just when something of one is
left. -/
theorem same_items_however_cut {chunks chunks' : List (List UInt8)}
    (h : chunks.flatten = chunks'.flatten) :
    readChunks [] chunks = readChunks [] chunks' ∧
      ∀ items, readChunks [] chunks = items ↔ ItemsOf chunks.flatten items := by
  have hbytes (cut : List (List UInt8)) : readChunks [] cut = readChunks cut.flatten [] :=
    readChunks_eq_flatten [] cut
  refine ⟨?_, fun items => ⟨?_, fun hitems => ?_⟩⟩
  · rw [hbytes chunks, hbytes chunks', h]
  · rintro rfl
    rw [hbytes chunks]
    exact itemsOf_readChunks chunks.flatten
  · rw [hbytes chunks]
    exact readChunks_of_itemsOf hitems

/-- Two frames, and a header whose length field is 0, cut within an id, within a length field,
between header and body and within the last length field. -/
def cutOften : List (List UInt8) :=
  [[0], [7, 0, 0, 0], [3, 1], [3, 9, 0, 8, 0, 0, 0, 2, 1], [4, 0, 9, 0, 0, 0], [0, 1]]

/-- The same bytes at once. -/
def cutNowhere : List (List UInt8) :=
  [[0, 7, 0, 0, 0, 3, 1, 3, 9, 0, 8, 0, 0, 0, 2, 1, 4, 0, 9, 0, 0, 0, 0, 1]]

/-- The two frames. -/
def cutFrames : List Frame :=
  [⟨[0, 7, 0, 0, 0, 3, 1, 3, 9], ⟨7, 0, 3, 1⟩, rfl, rfl⟩,
    ⟨[0, 8, 0, 0, 0, 2, 1, 4], ⟨8, 0, 2, 1⟩, rfl, rfl⟩]

/-- Both give the two frames and the error of the header. -/
theorem same_items_of_cutOften :
    cutOften.flatten = cutNowhere.flatten ∧ readChunks [] cutOften = readChunks [] cutNowhere ∧
      readChunks [] cutOften =
        cutFrames.map .frame ++ [.failed (.framing (.invalidLength 0))] := by
  have h : cutOften.flatten = cutNowhere.flatten := by decide
  obtain ⟨hsame, hitems⟩ := same_items_however_cut h
  have hbad : Malformed [0, 9, 0, 0, 0, 0, 1] 0 := ⟨rfl, by decide⟩
  refine ⟨h, hsame, (hitems _).mpr ?_⟩
  exact .frame (f := cutFrames[0]) (.frame (f := cutFrames[1]) (.malformed hbad))

end ModbusRelay
