import Icelander.Framing.Builder

/-!
# Binary Framing: `PacketReader`

The read half of the framing layer (`src/src/packet.cpp`, `PacketReader`): a
cursor `position_ : size_t` over a borrowed slice `Span<const uint8_t>`.

The bounds checks of `read` and `readString` compare `position_ + n` with the
slice size in `size_t`, so the sum wraps modulo `2 ^ 64`. We keep that
arithmetic (`SizeT` is `BitVec 64`) and make the copy itself explicit:
`copyOut` is the `memcpy`, and it reports the bytes it would touch outside the
slice as `ReadResult.undefined` instead of silently truncating.

* `takeBytes_eq`: the three behaviours of the shared body of `read` and
  `readString`, by where `p + n` falls: a copy inside the slice, a copy that
  leaves it (the wrapped sum passed the guard), or the short path.
* `readUint8_eq`: `readUint8` checks `position_ >= size` and is exact.
* `toNat_seek_position`, `toNat_skip_position`: `seek` clamps its argument;
  `skip` clamps the wrapped sum `position_ + bytes`.
* `Reachable`: the readers a program can hold, from construction by any
  sequence of reads, seeks, skips and resets.
* `read_past_end_of_wrapped_guard`: a reachable reader whose `read` copies
  past the end of its slice.
-/

namespace Icelander

/-! ## §1 Slices and their copies -/

/-- `Span<const uint8_t>`: a borrowed byte slice, whose `size_` is a `size_t`. -/
structure Span where
  data : List UInt8
  size_lt : data.length < 2 ^ 64

/-- `Span::size()`. -/
def Span.size (s : Span) : SizeT := BitVec.ofNat 64 s.data.length

@[simp] theorem Span.toNat_size (s : Span) : s.size.toNat = s.data.length := by
  rw [Span.size, BitVec.toNat_ofNat, Nat.mod_eq_of_lt s.size_lt]

/-- `PacketBuilder::data()`: the builder's buffer as a slice; `buffer_.size()` is a
    `size_t`. -/
def PacketBuilder.data (b : PacketBuilder) (h : b.size < 2 ^ 64) : Span := ⟨b.buffer, h⟩

/-- The contents of an engine packet (`ENetPacket`): its bytes and its flags. -/
structure PacketData where
  data : Span
  flags : UInt32

/-- `build(flags)`: `Packet::create(Span(buffer_.data(), buffer_.size()), flags)`, the engine
    packet it makes as it is when made, holding the buffer's bytes; the builder is unchanged.
    Under `PacketFlag::noAllocate` the packet's data is `buffer_` itself, not a copy, and it
    shows what later happens to the buffer (`PacketBuilder.buildPacket`, `Packet.afterSource`). -/
def PacketBuilder.build (b : PacketBuilder) (h : b.size < 2 ^ 64) (flags : UInt32) : PacketData :=
  ⟨b.data h, flags⟩

/-- `memcpy` of `n` bytes from offset `p` of the slice: the bytes, or `none` when
    the range leaves the slice. -/
def copyOut (s : Span) (p n : Nat) : Option (List UInt8) :=
  if p + n ≤ s.data.length then some ((s.data.drop p).take n) else none

/-- Bytes `[p, p + n)` of the slice. -/
def Span.slice (s : Span) (p n : Nat) : List UInt8 := (s.data.drop p).take n

theorem copyOut_of_le {s : Span} {p n : Nat} (h : p + n ≤ s.data.length) :
    copyOut s p n = some (s.slice p n) := if_pos h

theorem copyOut_of_gt {s : Span} {p n : Nat} (h : s.data.length < p + n) :
    copyOut s p n = none := if_neg (by omega)

/-! ## §2 The reader -/

/-- `PacketReader`: `data_` and `position_`. -/
structure PacketReader where
  data : Span
  position : SizeT

universe u v

/-- What one read does. -/
inductive ReadResult (α : Type u) where
  /-- The value read, and the reader after it. -/
  | ok (value : α) (next : PacketReader)
  /-- `read(void*, size_t)` returned `false`. -/
  | fail
  /-- A `std::runtime_error` with this message was thrown. -/
  | error (what : String)
  /-- The copy touched bytes outside the slice. -/
  | undefined

namespace PacketReader

/-- `PacketReader(Span)`: position 0. -/
def ofSpan (packetData : Span) : PacketReader := ⟨packetData, 0⟩

/-- `PacketReader(const Packet&)`: a reader over the packet's bytes. -/
def ofPacket (pkt : PacketData) : PacketReader := ofSpan pkt.data

/-- The body shared by `read(void*, size_t)` and `readString(size_t)`:
    `if (position_ + n > data_.size()) <short>; copy n bytes; position_ += n`. -/
def takeBytes (r : PacketReader) (n : SizeT) (short : ReadResult (List UInt8)) :
    ReadResult (List UInt8) :=
  if r.position + n > r.data.size then short
  else match copyOut r.data r.position.toNat n.toNat with
    | some bytes => .ok bytes { r with position := r.position + n }
    | none => .undefined

/-- `read(void* buffer, size_t size)`: `false` when short. -/
def read (r : PacketReader) (size : SizeT) : ReadResult (List UInt8) := r.takeBytes size .fail

/-- `readString(size_t length)`: throws when short. Where `position_ + length` wraps past the
    guard the model has the copy leave the slice (`.undefined`); under libstdc++ the
    `std::string(ptr, length)` constructor throws `std::length_error` first, such a length being
    above `max_size()`, so the cursor is left where it was. -/
def readString (r : PacketReader) (length : SizeT) : ReadResult (List UInt8) :=
  r.takeBytes length (.error "Not enough data to read string")

/-- The body shared by `read<T>()` and `readUint16/32/64`:
    `T value; if (!read(&value, sizeof(T))) throw std::runtime_error(msg);`. -/
def readAs {T : Type} (S : Serializable T) (msg : String) (r : PacketReader) : ReadResult T :=
  match r.read (BitVec.ofNat 64 S.size) with
  | .ok bytes r' => .ok (S.ofBytes bytes) r'
  | .fail => .error msg
  | .error m => .error m
  | .undefined => .undefined

/-- `read<T>()`. -/
def readValue {T : Type} (S : Serializable T) (r : PacketReader) : ReadResult T :=
  r.readAs S "Not enough data to read requested type"

/-- `readUint16()`. -/
def readUint16 (r : PacketReader) : ReadResult UInt16 :=
  r.readAs uint16T "Not enough data to read uint16"

/-- `readUint32()`. -/
def readUint32 (r : PacketReader) : ReadResult UInt32 :=
  r.readAs uint32T "Not enough data to read uint32"

/-- `readUint64()`. -/
def readUint64 (r : PacketReader) : ReadResult UInt64 :=
  r.readAs uint64T "Not enough data to read uint64"

/-- `readUint8()`: `if (position_ >= data_.size()) throw ...; return data_[position_++];`. -/
def readUint8 (r : PacketReader) : ReadResult UInt8 :=
  if r.position ≥ r.data.size then .error "Not enough data to read uint8"
  else match r.data.data[r.position.toNat]? with
    | some v => .ok v { r with position := r.position + 1 }
    | none => .undefined

/-- `remaining()`: `data_.size() - position_`. -/
def remaining (r : PacketReader) : SizeT := r.data.size - r.position

/-- `atEnd()`: `position_ >= data_.size()`. -/
def atEnd (r : PacketReader) : Bool := decide (r.position ≥ r.data.size)

/-- `seek(size_t position)`: clamp to the size. -/
def seek (r : PacketReader) (position : SizeT) : PacketReader :=
  { r with position := if position < r.data.size then position else r.data.size }

/-- `skip(size_t bytes)`: `newPos = position_ + bytes` (wrapping), clamped to the size. -/
def skip (r : PacketReader) (bytes : SizeT) : PacketReader :=
  let newPos := r.position + bytes
  { r with position := if newPos < r.data.size then newPos else r.data.size }

/-- `reset()`. -/
def reset (r : PacketReader) : PacketReader := { r with position := 0 }

/-! ## §3 What each read does -/

section Spec
variable {r : PacketReader}

/-- The shared body of `read` and `readString`, by where `p + n` falls: inside the
    slice it copies `[p, p + n)` and advances; if the wrapped sum still passes the
    guard the copy leaves the slice; otherwise it takes the short path. -/
theorem takeBytes_eq (n : SizeT) (short : ReadResult (List UInt8)) :
    r.takeBytes n short =
      if r.position.toNat + n.toNat ≤ r.data.data.length then
        .ok (r.data.slice r.position.toNat n.toNat) { r with position := r.position + n }
      else if (r.position + n).toNat ≤ r.data.data.length then .undefined
      else short := by
  have hL := r.data.size_lt
  unfold takeBytes
  by_cases hin : r.position.toNat + n.toNat ≤ r.data.data.length
  · have hg : ¬ r.position + n > r.data.size := by
      simp only [gt_iff_lt, BitVec.lt_def, Span.toNat_size, BitVec.toNat_add]; omega
    rw [if_neg hg, copyOut_of_le hin, if_pos hin]
  · rw [if_neg hin]
    by_cases hw : (r.position + n).toNat ≤ r.data.data.length
    · have hg : ¬ r.position + n > r.data.size := by
        simp only [gt_iff_lt, BitVec.lt_def, Span.toNat_size]; omega
      rw [if_neg hg, copyOut_of_gt (by omega), if_pos hw]
    · have hg : r.position + n > r.data.size := by
        simp only [gt_iff_lt, BitVec.lt_def, Span.toNat_size]; omega
      rw [if_pos hg, if_neg hw]

/-- `readUint8` compares without adding, so it is exact: it reads byte `p` when
    `p < L` and throws otherwise. -/
theorem readUint8_eq : r.readUint8 =
    if r.position.toNat < r.data.data.length then
      .ok (r.data.data.getD r.position.toNat 0) { r with position := r.position + 1 }
    else .error "Not enough data to read uint8" := by
  have hL := r.data.size_lt
  unfold readUint8
  by_cases h : r.position.toNat < r.data.data.length
  · have hg : ¬ r.position ≥ r.data.size := by
      simp only [ge_iff_le, BitVec.le_def, Span.toNat_size]; omega
    simp only [if_neg hg, if_pos h, List.getD_eq_getElem?_getD, List.getElem?_eq_getElem h,
      Option.getD_some]
  · have hg : r.position ≥ r.data.size := by
      simp only [ge_iff_le, BitVec.le_def, Span.toNat_size]; omega
    rw [if_pos hg, if_neg h]

/-- A successful `read<T>`/`readUint16/32/64` is a successful `read` of `sizeof(T)`
    bytes, decoded. -/
theorem readAs_ok {T : Type} {S : Serializable T} {msg : String} {v : T} {r' : PacketReader}
    (h : r.readAs S msg = .ok v r') :
    ∃ bytes, r.read (BitVec.ofNat 64 S.size) = .ok bytes r' ∧ S.ofBytes bytes = v := by
  unfold readAs at h
  split at h <;> cases h
  exact ⟨_, ‹_›, rfl⟩

/-- `seek(q)` moves the cursor to `min q L`. -/
theorem toNat_seek_position (q : SizeT) :
    (r.seek q).position.toNat = min q.toNat r.data.data.length := by
  unfold seek
  split <;> simp only [BitVec.lt_def, Span.toNat_size] at * <;> omega

/-- `skip(b)` adds in `size_t`: the cursor moves to `min ((p + b) mod 2 ^ 64) L`. -/
theorem toNat_skip_position (b : SizeT) :
    (r.skip b).position.toNat =
      min ((r.position.toNat + b.toNat) % 2 ^ 64) r.data.data.length := by
  simp only [skip]
  split <;> simp only [BitVec.lt_def, Span.toNat_size, BitVec.toNat_add] at * <;> omega

/-- `atEnd()` holds exactly when the cursor is at or past the size. -/
theorem atEnd_iff : r.atEnd = true ↔ r.data.data.length ≤ r.position.toNat := by
  simp [atEnd, BitVec.le_def]

end Spec

/-! ## §4 Reachable readers -/

/-- The readers a program can hold over slice `s`: constructed, then any sequence of
    successful reads, seeks, skips and resets (a failed read changes nothing; `read<T>` and
    `readUint16/32/64` succeed only through `read`, by `readAs_ok`). -/
inductive Reachable (s : Span) : PacketReader → Prop
  | init : Reachable s (ofSpan s)
  | read {r r' : PacketReader} {n : SizeT} {bytes : List UInt8} :
      Reachable s r → r.read n = .ok bytes r' → Reachable s r'
  | readString {r r' : PacketReader} {n : SizeT} {bytes : List UInt8} :
      Reachable s r → r.readString n = .ok bytes r' → Reachable s r'
  | readUint8 {r r' : PacketReader} {v : UInt8} :
      Reachable s r → r.readUint8 = .ok v r' → Reachable s r'
  | seek {r : PacketReader} (q : SizeT) : Reachable s r → Reachable s (r.seek q)
  | skip {r : PacketReader} (b : SizeT) : Reachable s r → Reachable s (r.skip b)
  | reset {r : PacketReader} : Reachable s r → Reachable s r.reset

/-- After `readUint8` on the one-byte slice `[42]` the cursor is at 1, and
    `read(buffer, SIZE_MAX)` passes the guard because `1 + SIZE_MAX` wraps to 0:
    it copies `SIZE_MAX` bytes starting past the end of the slice. -/
theorem read_past_end_of_wrapped_guard :
    Reachable ⟨[42], by decide⟩ ⟨⟨[42], by decide⟩, 1⟩ ∧
    (PacketReader.mk ⟨[42], by decide⟩ 1).read (BitVec.ofNat 64 (2 ^ 64 - 1)) = .undefined := by
  refine ⟨@Reachable.readUint8 _ _ _ 42 .init ?_, ?_⟩
  · rw [readUint8_eq, if_pos (by decide)]; rfl
  · rw [read, takeBytes_eq, if_neg (by decide), if_pos (by decide)]

end PacketReader

end Icelander
