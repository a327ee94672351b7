import ModbusRelay.Error
import ModbusRelay.Frame.Basic

/-!
Frames out of a stream of bytes. Frames carry their length, so a stream needs no separators and
it does not matter how the bytes were cut on their way.

* `decode` takes one frame off the front of a buffer, or says that more bytes are needed.
* `decodeAtEnd` is `decode` for a stream that has ended: a torn frame is then an error.
* `FrameReader` is a stream that still grows, read one item at a time.
* `readChunks` reads a stream that arrives in given pieces and then ends.
-/

namespace ModbusRelay

/-- What the front of a buffer is. -/
inductive Decoded where
  | frame (f : Frame)
  /-- At least `missing` more bytes are needed. -/
  | incomplete (missing : Nat)
  | malformed (e : FrameError)
  deriving DecidableEq

/-- Looks at the front of a buffer; also gives what is left of the buffer. -/
def decode (buffer : List UInt8) : Decoded × List UInt8 :=
  match declaredSize buffer with
  | .error e => (.malformed e, buffer)
  | .ok none => (.incomplete (preambleSize - buffer.length), buffer)
  | .ok (some n) =>
    if buffer.length < n then (.incomplete (n - buffer.length), buffer)
    else
      match Frame.ofBytes (buffer.take n) with
      | .ok f => (.frame f, buffer.drop n)
      | .error e => (.malformed e, buffer.drop n)

/-- A frame that is declared has bytes. -/
theorem declaredSize_pos {buffer : List UInt8} {n : Nat}
    (h : declaredSize buffer = .ok (some n)) : 0 < n := by
  unfold declaredSize at h
  split at h
  · split at h
    · injection h with h
      injection h with h
      rw [← h]
      exact Nat.add_pos_left (by decide) _
    · cases h
  · cases h

/-- A frame is taken off the buffer, so the buffer gets shorter. -/
theorem length_decode_lt {buffer rest : List UInt8} {f : Frame}
    (h : decode buffer = (.frame f, rest)) : rest.length < buffer.length := by
  unfold decode at h
  split at h
  · cases h
  · cases h
  · next n hn =>
    split at h
    · cases h
    · next size =>
      split at h
      · injection h with _ h
        have := declaredSize_pos hn
        rw [← h, List.length_drop]
        omega
      · cases h

/-- As `decode`, when no more bytes will come: then bytes that make no frame are an error. -/
def decodeAtEnd (buffer : List UInt8) : Except RelayError (Option Frame) × List UInt8 :=
  match decode buffer with
  | (.frame f, rest) => (.ok (some f), rest)
  | (.malformed e, rest) => (.error (.framing e), rest)
  | (.incomplete _, rest) => (if rest.isEmpty then .ok none else .error (.io .bytesRemaining), rest)

/-- What a reader finds next. -/
inductive Item where
  | frame (f : Frame)
  | failed (e : RelayError)
  deriving DecidableEq

/-- Why nothing more comes out of a stream. -/
inductive ReadEnd where
  /-- The other side has ended it. -/
  | closed
  /-- The operating system fails to read it. -/
  | broken (cause : IoError)
  deriving DecidableEq, Repr

/-- A stream as its reader sees it: the bytes that came and were not read, and its end, if nothing
more comes. -/
structure FrameReader where
  buffer : List UInt8 := []
  ending : Option ReadEnd := none
  deriving DecidableEq

namespace FrameReader

/-- Does nothing more come in? -/
def ended (r : FrameReader) : Bool := r.ending.isSome

/-- More bytes come in; after the end nothing does. -/
def feed (r : FrameReader) (bytes : List UInt8) : FrameReader :=
  if r.ended then r else { r with buffer := r.buffer ++ bytes }

/-- The stream comes to its end; the first end is the one that counts. -/
def finish (r : FrameReader) (how : ReadEnd) : FrameReader :=
  { r with ending := r.ending.or (some how) }

/-- What one read of a stream comes to. -/
inductive Next where
  | item (i : Item)
  /-- The stream ended between two frames. -/
  | finished
  /-- There is no complete frame yet. -/
  | waiting
  deriving DecidableEq

/-- Reads the next item. Frames that are there already come before a failure to read, and what is
left of one then makes no difference. -/
def next (r : FrameReader) : Next × FrameReader :=
  match r.ending with
  | some .closed =>
    match decodeAtEnd r.buffer with
    | (.ok (some f), rest) => (.item (.frame f), { r with buffer := rest })
    | (.ok none, rest) => (.finished, { r with buffer := rest })
    | (.error e, rest) => (.item (.failed e), { r with buffer := rest })
  | some (.broken cause) =>
    match decode r.buffer with
    | (.frame f, rest) => (.item (.frame f), { r with buffer := rest })
    | (.malformed e, rest) => (.item (.failed (.framing e)), { r with buffer := rest })
    | (.incomplete _, rest) => (.item (.failed (.io cause)), { r with buffer := rest })
  | none =>
    match decode r.buffer with
    | (.frame f, rest) => (.item (.frame f), { r with buffer := rest })
    | (.malformed e, rest) => (.item (.failed (.framing e)), { r with buffer := rest })
    | (.incomplete _, rest) => (.waiting, { r with buffer := rest })

end FrameReader

/-- All frames at the front of a buffer, the error that stopped the reading if there is one, and
what is left. -/
def takeFrames (buffer : List UInt8) : List Frame × Option FrameError × List UInt8 :=
  match h : decode buffer with
  | (.frame f, rest) =>
    have : rest.length < buffer.length := length_decode_lt h
    let (frames, stopped, left) := takeFrames rest
    (f :: frames, stopped, left)
  | (.malformed e, rest) => ([], some e, rest)
  | (.incomplete _, rest) => ([], none, rest)
termination_by buffer.length

/-- Reads a stream whose bytes arrive in the given chunks, after those in `buffer`, and which then
ends. Everything complete is read after each chunk; the first error is the last item. -/
def readChunks (buffer : List UInt8) : List (List UInt8) → List Item
  | [] =>
    match takeFrames buffer with
    | (frames, some e, _) => frames.map .frame ++ [.failed (.framing e)]
    | (frames, none, rest) =>
      frames.map .frame ++ (if rest.isEmpty then [] else [.failed (.io .bytesRemaining)])
  | chunk :: chunks =>
    match takeFrames (buffer ++ chunk) with
    | (frames, some e, _) => frames.map .frame ++ [.failed (.framing e)]
    | (frames, none, rest) => frames.map .frame ++ readChunks rest chunks

end ModbusRelay
