import ModbusRelay.Proofs.Frame.Chunks

/-!
The bytes of a frame, as a grammar.

The header is read in four places: as a whole, for its transaction id, for the size it declares, and
in the check that bytes are one frame. Each of them wants another number of bytes, and two of them
look at the length field. `Spells` says without any of them which bytes are a frame, with its ids,
and `framing_is_one_grammar` that all four go by this grammar: the same bytes pass, with the same
ids and size, and bytes that do not pass are refused for just one reason (`Refusal`).
-/

namespace ModbusRelay

/-! ## Numbers in two bytes -/

/-- Two bytes that say a number, the high byte first. -/
def BigEndian (n : Nat) (bytes : List UInt8) : Prop :=
  ∃ high low : UInt8, bytes = [high, low] ∧ 256 * high.toNat + low.toNat = n

theorem toNat_word (high low : UInt8) :
    (word high low).toNat = 256 * high.toNat + low.toNat := by
  have hhigh : high.toNat < 256 := high.toNat_lt
  have hlow : low.toNat < 2 ^ 8 := low.toNat_lt
  have hshift : high.toNat <<< 8 % 65536 = high.toNat <<< 8 := by
    rw [Nat.shiftLeft_eq]
    omega
  calc (word high low).toNat
      = high.toNat <<< 8 % 65536 ||| low.toNat := by simp [word]
    _ = high.toNat <<< 8 + low.toNat := by rw [hshift, Nat.shiftLeft_add_eq_or_of_lt hlow]
    _ = 256 * high.toNat + low.toNat := by rw [Nat.shiftLeft_eq, Nat.mul_comm]

theorem bigEndian_word (high low : UInt8) : BigEndian (word high low).toNat [high, low] :=
  ⟨high, low, rfl, (toNat_word high low).symm⟩

/-- The bytes of a number are read as the number. -/
theorem BigEndian.word_eq {w : UInt16} {high low : UInt8} (h : BigEndian w.toNat [high, low]) :
    word high low = w := by
  obtain ⟨_, _, heq, hw⟩ := h
  cases heq
  exact UInt16.toNat.inj ((toNat_word high low).trans hw)

theorem legalLength_iff {n : UInt16} : LegalLength n ↔ 1 ≤ n.toNat ∧ n.toNat ≤ 254 := by
  constructor
  · exact fun h => ⟨h.pos, UInt16.le_iff_toNat_le.mp h.2⟩
  · rintro ⟨hpos, hle⟩
    refine ⟨?_, UInt16.le_iff_toNat_le.mpr hle⟩
    rintro rfl
    cases hpos

/-! ## The grammar -/

/-- The bytes of a frame: transaction id, protocol id, the length of what comes then, the unit id,
and up to 253 bytes more. -/
inductive Spells : List UInt8 → UInt16 → UInt16 → UInt8 → List UInt8 → Prop where
  | mk {transaction protocol : UInt16} {t p n payload : List UInt8} (unit : UInt8)
      (transactionBytes : BigEndian transaction.toNat t)
      (protocolBytes : BigEndian protocol.toNat p)
      (lengthBytes : BigEndian (1 + payload.length) n) (fits : payload.length ≤ 253) :
      Spells (t ++ p ++ n ++ [unit] ++ payload) transaction protocol unit payload

/-- Enough bytes for a header. -/
theorem exists_of_headerSize_le {b : List UInt8} (h : headerSize ≤ b.length) :
    ∃ t1 t0 p1 p0 n1 n0 unit rest, b = t1 :: t0 :: p1 :: p0 :: n1 :: n0 :: unit :: rest := by
  rcases b with _ | ⟨t1, _ | ⟨t0, _ | ⟨p1, _ | ⟨p0, _ | ⟨n1, _ | ⟨n0, _ | ⟨unit, rest⟩⟩⟩⟩⟩⟩⟩
  case cons.cons.cons.cons.cons.cons.cons => exact ⟨_, _, _, _, _, _, _, _, rfl⟩
  all_goals
    simp only [headerSize, List.length_nil, List.length_cons] at h
    omega

theorem Header.parse_of_short {b : List UInt8} (h : b.length < headerSize) :
    Header.parse b = .error (.truncated b.length headerSize) := by
  unfold Header.parse
  split
  · simp only [headerSize, List.length_cons] at h
    omega
  · rfl

namespace Frame

theorem ofBytes_eq_ok_iff {b : List UInt8} {f : Frame} : ofBytes b = .ok f ↔ f.bytes = b := by
  constructor
  · exact bytes_of_ofBytes
  · rintro rfl
    exact f.ofBytes_bytes

/-- The header of a frame, byte by byte. -/
theorem exists_header (f : Frame) :
    ∃ t1 t0 p1 p0 n1 n0 unit payload,
      f.bytes = t1 :: t0 :: p1 :: p0 :: n1 :: n0 :: unit :: payload ∧
        f.header = ⟨word t1 t0, word p1 p0, word n1 n0, unit⟩ ∧ LegalLength (word n1 n0) := by
  have hparse := f.parse_bytes
  obtain ⟨t1, t0, p1, p0, n1, n0, unit, payload, hbytes, hlegal, -⟩ := Header.parse_ok hparse
  simp only [hbytes, Header.parse, hlegal, if_true, Except.ok.injEq] at hparse
  exact ⟨t1, t0, p1, p0, n1, n0, unit, payload, hbytes, hparse.symm, hlegal⟩

/-- The bytes of a frame spell it. -/
theorem spells (f : Frame) :
    ∃ payload, Spells f.bytes f.transactionId f.header.protocolId f.unitId payload := by
  obtain ⟨t1, t0, p1, p0, n1, n0, unit, payload, hbytes, hheader, hlegal⟩ := f.exists_header
  have hlength : (word n1 n0).toNat = 1 + payload.length := by
    have hsize := f.size_eq
    simp only [hbytes, hheader, Header.frameSize, preambleSize, List.length_cons] at hsize
    omega
  have hfits := (legalLength_iff.mp hlegal).2
  rw [transactionId, unitId, hbytes, hheader]
  exact ⟨payload, .mk unit (bigEndian_word t1 t0) (bigEndian_word p1 p0)
    (hlength ▸ bigEndian_word n1 n0) (by omega)⟩

/-- The first two bytes of a frame are its transaction id. -/
theorem transactionId_bytes (f : Frame) :
    ModbusRelay.transactionId f.bytes = .ok f.transactionId := by
  obtain ⟨t1, t0, p1, p0, n1, n0, unit, payload, hbytes, hheader, -⟩ := f.exists_header
  rw [hbytes, transactionId, hheader]
  rfl

end Frame

/-- Bytes that spell a frame are one, with the header that they spell. -/
theorem Spells.exists_frame {b payload : List UInt8} {transaction protocol : UInt16} {unit : UInt8}
    (h : Spells b transaction protocol unit payload) :
    ∃ f : Frame, f.bytes = b ∧ f.transactionId = transaction ∧ f.header.protocolId = protocol ∧
      f.unitId = unit := by
  cases h with
  | mk _ ht hp hn fits =>
    obtain ⟨t1, t0, rfl, -⟩ := id ht
    obtain ⟨p1, p0, rfl, -⟩ := id hp
    obtain ⟨n1, n0, rfl, hlength⟩ := hn
    rw [← toNat_word] at hlength
    have hlegal : LegalLength (word n1 n0) := legalLength_iff.mpr (by omega)
    let header : Header := ⟨word t1 t0, word p1 p0, word n1 n0, unit⟩
    have hparse : Header.parse ([t1, t0] ++ [p1, p0] ++ [n1, n0] ++ [unit] ++ payload) =
        .ok header := by
      simp [Header.parse, hlegal, header]
    refine ⟨⟨_, header, hparse, ?_⟩, rfl, ht.word_eq, hp.word_eq, rfl⟩
    simp only [Header.frameSize, header, hlength, preambleSize, List.length_append,
      List.length_cons, List.length_nil]
    omega

/-- The declared size of a frame is its size, and only a frame has the size that it declares. -/
theorem declaredSize_eq_length_iff {b : List UInt8} :
    declaredSize b = .ok (some b.length) ↔ ∃ f : Frame, f.bytes = b := by
  constructor
  · intro h
    obtain ⟨f, hf⟩ := ofBytes_take_declaredSize h (Nat.le_refl _)
    rw [List.take_length] at hf
    exact ⟨f, Frame.bytes_of_ofBytes hf⟩
  · rintro ⟨f, rfl⟩
    have h := f.declaredSize_append []
    rwa [List.append_nil] at h

/-! ## Bytes that come later -/

/-- The only complaint about a size is about the length field. -/
theorem declaredSize_eq_error {b : List UInt8} {e : FrameError} (h : declaredSize b = .error e) :
    ∃ n, e = .invalidLength n := by
  rw [declaredSize_eq] at h
  split at h
  · cases h
  · split at h <;> cases h
    exact ⟨_, rfl⟩

/-- What has been said about a size stays as it is. -/
theorem declaredSize_append {b : List UInt8} (h : declaredSize b ≠ .ok none) (more : List UInt8) :
    declaredSize (b ++ more) = declaredSize b := by
  rw [declaredSize_eq b] at h ⊢
  cases hfield : lengthField? b with
  | none =>
    rw [hfield] at h
    exact absurd rfl h
  | some n => rw [declaredSize_eq, lengthField?_append hfield]

/-! ## Refusals -/

/-- Why bytes are no frame. Too few bytes for a header win over the length field, and the length
field wins over the size that it declares. -/
inductive Refusal (b : List UInt8) : FrameError → Prop where
  | truncated (short : b.length < headerSize) : Refusal b (.truncated b.length headerSize)
  | invalidLength {n : UInt16} (long : headerSize ≤ b.length)
      (illegal : declaredSize b = .error (.invalidLength n)) : Refusal b (.invalidLength n)
  | lengthMismatch {n : Nat} (long : headerSize ≤ b.length)
      (declared : declaredSize b = .ok (some n)) (mismatch : n ≠ b.length) :
      Refusal b (.lengthMismatch n b.length)

theorem Frame.ofBytes_of_parse_error {b : List UInt8} {e : FrameError}
    (h : Header.parse b = .error e) : ofBytes b = .error e := by
  unfold ofBytes
  split
  · next hparse =>
    rw [h] at hparse
    cases hparse
    rfl
  · next hparse =>
    rw [h] at hparse
    cases hparse

theorem Frame.ofBytes_of_mismatch {b : List UInt8} {header : Header}
    (h : Header.parse b = .ok header) (hsize : header.frameSize ≠ b.length) :
    ofBytes b = .error (.lengthMismatch header.frameSize b.length) := by
  unfold ofBytes
  split
  · next hparse =>
    rw [h] at hparse
    cases hparse
  · next hparse =>
    rw [h] at hparse
    cases hparse
    exact dif_neg hsize

/-- With a whole header, the check says what the declared size says, and then compares the sizes. -/
theorem Frame.ofBytes_of_long {b : List UInt8} (h : headerSize ≤ b.length) :
    (∃ e, declaredSize b = .error e ∧ ofBytes b = .error e) ∨
      ∃ n, declaredSize b = .ok (some n) ∧
        (n ≠ b.length → ofBytes b = .error (.lengthMismatch n b.length)) := by
  obtain ⟨t1, t0, p1, p0, n1, n0, unit, rest, rfl⟩ := exists_of_headerSize_le h
  by_cases hlegal : LegalLength (word n1 n0)
  · have hparse : Header.parse (t1 :: t0 :: p1 :: p0 :: n1 :: n0 :: unit :: rest) =
        .ok ⟨word t1 t0, word p1 p0, word n1 n0, unit⟩ := if_pos hlegal
    exact .inr ⟨preambleSize + (word n1 n0).toNat, if_pos hlegal, ofBytes_of_mismatch hparse⟩
  · exact .inl ⟨_, if_neg hlegal, ofBytes_of_parse_error (if_neg hlegal)⟩

/-- Bytes are refused just for what is wrong with them. -/
theorem Frame.ofBytes_eq_error_iff {b : List UInt8} {e : FrameError} :
    ofBytes b = .error e ↔ Refusal b e := by
  rcases Nat.lt_or_ge b.length headerSize with hshort | hlong
  · rw [ofBytes_of_parse_error (Header.parse_of_short hshort)]
    constructor
    · rintro ⟨⟩
      exact .truncated hshort
    · rintro (- | hlong | hlong)
      · rfl
      · omega
      · omega
  · rcases ofBytes_of_long hlong with ⟨e', hdeclared, hbytes⟩ | ⟨n, hdeclared, hbytes⟩
    · rw [hbytes]
      constructor
      · rintro ⟨⟩
        obtain ⟨n, rfl⟩ := declaredSize_eq_error hdeclared
        exact .invalidLength hlong hdeclared
      · rintro (hshort | ⟨-, hillegal⟩ | ⟨-, hdeclared', -⟩)
        · omega
        · rw [hdeclared] at hillegal
          cases hillegal
          rfl
        · rw [hdeclared] at hdeclared'
          cases hdeclared'
    · constructor
      · intro he
        by_cases hn : n = b.length
        · obtain ⟨f, hf⟩ := declaredSize_eq_length_iff.mp (hn ▸ hdeclared)
          rw [ofBytes_eq_ok_iff.mpr hf] at he
          cases he
        · rw [hbytes hn] at he
          cases he
          exact .lengthMismatch hlong hdeclared hn
      · rintro (hshort | ⟨-, hillegal⟩ | ⟨-, hdeclared', hn⟩)
        · omega
        · rw [hdeclared] at hillegal
          cases hillegal
        · rw [hdeclared] at hdeclared'
          cases hdeclared'
          exact hbytes hn

/-! ## All readers agree -/

/-- Whoever reads the bytes finds a frame with these ids, and the bytes as they are. -/
structure ReadsOf (b : List UInt8) (transaction : UInt16) (unit : UInt8) : Prop where
  transactionId : transactionId b = .ok transaction
  header : ∃ h, Header.parse b = .ok h ∧ h.transactionId = transaction ∧ h.unitId = unit ∧
    h.frameSize = b.length
  frame : ∃ f, Frame.ofBytes b = .ok f ∧ f.transactionId = transaction ∧ f.unitId = unit ∧
    f.size = b.length ∧ f.bytes = b ∧ f.encode = b

theorem Spells.readsOf {b payload : List UInt8} {transaction protocol : UInt16} {unit : UInt8}
    (h : Spells b transaction protocol unit payload) : ReadsOf b transaction unit := by
  obtain ⟨f, rfl, rfl, -, rfl⟩ := h.exists_frame
  exact ⟨f.transactionId_bytes, ⟨f.header, f.parse_bytes, rfl, rfl, f.size_eq⟩,
    ⟨f, f.ofBytes_bytes, rfl, rfl, rfl, rfl, rfl⟩⟩

/-- **Framing is one grammar.** Bytes pass as a frame just when the size that they declare is the one
they have, and just when they are spelt as one. Then everybody who reads them finds the ids that are
spelt there, and the size and the bytes that they have. Once a size is declared or refused, bytes
that come later do not change that. And bytes that do not pass are refused with just the one error
that `Refusal` has for them. -/
theorem framing_is_one_grammar (b : List UInt8) :
    ((∃ f, Frame.ofBytes b = .ok f) ↔ declaredSize b = .ok (some b.length)) ∧
      ((∃ f, Frame.ofBytes b = .ok f) ↔
        ∃ transaction protocol unit payload, Spells b transaction protocol unit payload) ∧
      (∀ transaction protocol unit payload, Spells b transaction protocol unit payload →
        ReadsOf b transaction unit) ∧
      (∀ p, p <+: b → declaredSize p ≠ .ok none →
        declaredSize b = declaredSize p ∧ ∀ more, declaredSize (b ++ more) = declaredSize p) ∧
      ∀ e, Frame.ofBytes b = .error e ↔ Refusal b e := by
  have hframe : (∃ f, Frame.ofBytes b = .ok f) ↔ ∃ f : Frame, f.bytes = b :=
    exists_congr fun _ => Frame.ofBytes_eq_ok_iff
  refine ⟨hframe.trans declaredSize_eq_length_iff.symm, hframe.trans ⟨?_, ?_⟩,
    fun _ _ _ _ => Spells.readsOf, ?_, fun _ => Frame.ofBytes_eq_error_iff⟩
  · rintro ⟨f, rfl⟩
    exact ⟨_, _, _, f.spells⟩
  · rintro ⟨_, _, _, _, hspells⟩
    obtain ⟨f, hf, -⟩ := hspells.exists_frame
    exact ⟨f, hf⟩
  · rintro p ⟨later, rfl⟩ hp
    refine ⟨declaredSize_append hp later, fun more => ?_⟩
    rw [List.append_assoc, declaredSize_append hp]

/-- The smallest frame: a header and nothing else. -/
def smallestFrame : List UInt8 := [0x12, 0x34, 0xbe, 0xef, 0, 1, 9]

/-- A header without its unit id, with a length field that no frame has. -/
def headlessFrame : List UInt8 := [0x12, 0x34, 0, 0, 1, 0]

/-- All read the same frame; its first six bytes declare its size. Of the other six bytes the size is
refused, but the check says that they are too few. -/
theorem grammar_of_smallestFrame :
    Spells smallestFrame 0x1234 0xbeef 9 [] ∧ ReadsOf smallestFrame 0x1234 9 ∧
      (∀ more, declaredSize (smallestFrame ++ more) = .ok (some 7)) ∧
      declaredSize headlessFrame = .error (.invalidLength 256) ∧
      Frame.ofBytes headlessFrame = .error (.truncated 6 7) := by
  have hspells : Spells smallestFrame 0x1234 0xbeef 9 [] :=
    .mk 9 ⟨0x12, 0x34, rfl, rfl⟩ ⟨0xbe, 0xef, rfl, rfl⟩ ⟨0, 1, rfl, rfl⟩ (by decide)
  obtain ⟨-, -, hreads, hlater, -⟩ := framing_is_one_grammar smallestFrame
  obtain ⟨-, -, -, -, hrefused⟩ := framing_is_one_grammar headlessFrame
  have hsize : declaredSize (smallestFrame.take 6) = .ok (some 7) := rfl
  refine ⟨hspells, hreads _ _ _ _ hspells, fun more => ?_, rfl,
    (hrefused _).mpr (.truncated (by decide))⟩
  exact ((hlater _ (List.take_prefix 6 _) (by simp [hsize])).2 more).trans hsize

end ModbusRelay
