import Icelander.Framing.Reader

/-!
# Binary Framing: Round Trip

A framed message is a sequence of fields, each written by one `PacketBuilder`
call and read back by the matching `PacketReader` call(s). This module proves
that decoding what was written returns the fields unchanged, at any offset,
whatever the fields' types, widths and contents.

* `takeBytes_at`: a read of `n` bytes at a position where the slice holds a
  block of exactly `n` bytes returns that block and moves past it.
* `readField_at`: each field's matching read at its own bytes.
* `readFields_at`: by induction on the field list, a whole sequence.
* `readString_prefix_at`: a string field of any length reads back through its
  `uint32` prefix, which holds the length modulo `2 ^ 32`.
* `writeFields_build_readFields`: the round trip from an empty builder, through
  `build`, to a reader that has skipped the prefix.
* `long_string_length_wraps`: a string of `2 ^ 32` bytes or more does not read
  back; its prefix is truncated.
* `read_then_read`: reads compose; `read(n)` then `read(m)` is `read(n + m)`,
  in what it returns and where it leaves the cursor, while the sums do not wrap.
-/

namespace Icelander

/-! ## §1 Fields -/

/-- One field of a framed message, by the `PacketBuilder` call that writes it. -/
inductive Field : Type 1
  /-- `writeUint8`. -/
  | uint8 (v : UInt8)
  /-- `writeUint16`. -/
  | uint16 (v : UInt16)
  /-- `writeUint32`. -/
  | uint32 (v : UInt32)
  /-- `writeUint64`. -/
  | uint64 (v : UInt64)
  /-- `write<T>` for a `Serializable` type. -/
  | value {T : Type} (S : Serializable T) (v : T)
  /-- `writeString`: a `uint32` length, then the bytes. -/
  | string (s : List UInt8)
  /-- `write(data, size)`, `write(Span)`, `write(std::string)`: raw bytes. -/
  | block (bytes : List UInt8)

namespace Field

/-- The bytes the field's `write*` call appends. -/
def bytes : Field → List UInt8
  | uint8 v => [v]
  | uint16 v => uint16T.toBytes v
  | uint32 v => uint32T.toBytes v
  | uint64 v => uint64T.toBytes v
  | value S v => S.toBytes v
  | string s => uint32T.toBytes (UInt32.ofNat s.length) ++ s
  | block bs => bs

/-- The width of a field on the wire. -/
def width : Field → Nat
  | uint8 _ => 1
  | uint16 _ => 2
  | uint32 _ => 4
  | uint64 _ => 8
  | value S _ => S.size
  | string s => 4 + s.length
  | block bs => bs.length

/-- The total width of a field sequence. -/
def widthSum (fs : List Field) : Nat := (fs.map width).sum

/-- A field whose bytes the matching read recovers: a string's length must fit the
    `uint32` prefix; every other field always does. -/
def Fits : Field → Prop
  | string s => s.length < 2 ^ 32
  | _ => True

@[simp] theorem length_bytes (f : Field) : f.bytes.length = f.width := by
  cases f <;> simp [bytes, width, Serializable.length_toBytes] <;> rfl

theorem length_flatMap_bytes (fs : List Field) : (fs.flatMap bytes).length = widthSum fs := by
  induction fs with
  | nil => rfl
  | cons f fs ih => simp [widthSum, ih]

end Field

/-! ## §2 Writing a field sequence -/

namespace PacketBuilder

/-- The builder call that writes one field. -/
def writeField (b : PacketBuilder) : Field → PacketBuilder
  | .uint8 v => b.writeUint8 v
  | .uint16 v => b.writeUint16 v
  | .uint32 v => b.writeUint32 v
  | .uint64 v => b.writeUint64 v
  | .value S v => b.writeValue S v
  | .string s => b.writeString s
  | .block bs => b.write bs

/-- Write the fields in order. -/
def writeFields (b : PacketBuilder) : List Field → PacketBuilder
  | [] => b
  | f :: fs => (b.writeField f).writeFields fs

@[simp] theorem buffer_writeField (b : PacketBuilder) (f : Field) :
    (b.writeField f).buffer = b.buffer ++ f.bytes := by
  cases f <;> simp [writeField, Field.bytes, writeUint16, writeUint32, writeUint64]

theorem buffer_writeFields (b : PacketBuilder) (fs : List Field) :
    (b.writeFields fs).buffer = b.buffer ++ fs.flatMap Field.bytes := by
  induction fs generalizing b with
  | nil => simp [writeFields]
  | cons f fs ih => simp [writeFields, ih]

end PacketBuilder

/-! ## §3 Reading a field sequence -/

namespace ReadResult
variable {α : Type u} {β : Type v}

/-- Apply `f` to a successful value. -/
def map (f : α → β) : ReadResult α → ReadResult β
  | ok v r => ok (f v) r
  | fail => fail
  | error m => error m
  | undefined => undefined

/-- Continue a successful read from the reader it left. -/
def bind (x : ReadResult α) (k : α → PacketReader → ReadResult β) : ReadResult β :=
  match x with
  | ok v r => k v r
  | fail => fail
  | error m => error m
  | undefined => undefined

@[simp] theorem map_ok (f : α → β) (v : α) (r : PacketReader) : (ok v r).map f = ok (f v) r := rfl

@[simp] theorem bind_ok (v : α) (r : PacketReader) (k : α → PacketReader → ReadResult β) :
    (ok v r).bind k = k v r := rfl

end ReadResult

namespace PacketReader

/-- The matching read of a field: `readUint32` then `readString(len)` for a string,
    `readString(size)` for a raw block. -/
def readField (r : PacketReader) : Field → ReadResult Field
  | .uint8 _ => r.readUint8.map .uint8
  | .uint16 _ => r.readUint16.map .uint16
  | .uint32 _ => r.readUint32.map .uint32
  | .uint64 _ => r.readUint64.map .uint64
  | .value S _ => (r.readValue S).map (.value S)
  | .string _ => r.readUint32.bind fun len r' =>
      (r'.readString (BitVec.ofNat 64 len.toNat)).map .string
  | .block bs => (r.readString (BitVec.ofNat 64 bs.length)).map .block

/-- Decode the fields in order. -/
def readFields (r : PacketReader) : List Field → ReadResult (List Field)
  | [] => .ok [] r
  | f :: fs => (r.readField f).bind fun v r' => (r'.readFields fs).map (v :: ·)

/-! ## §4 Reads at a known position -/

section At
variable {r : PacketReader} {pre mid post : List UInt8}

/-- A sum of two cursor values that stays inside a slice does not wrap. -/
theorem toNat_add_of_le {p n : SizeT} {L : Nat} (hL : L < 2 ^ 64) (h : p.toNat + n.toNat ≤ L) :
    (p + n).toNat = p.toNat + n.toNat := by
  rw [BitVec.toNat_add, Nat.mod_eq_of_lt (by omega)]

/-- Over `pre ++ mid ++ post` at position `|pre|`, a read of `|mid|` bytes returns `mid`
    and moves to `|pre| + |mid|`. -/
theorem takeBytes_at (short : ReadResult (List UInt8)) (hdata : r.data.data = pre ++ mid ++ post)
    (hpos : r.position.toNat = pre.length) {n : SizeT} (hn : n.toNat = mid.length) :
    r.takeBytes n short = .ok mid { r with position := r.position + n } ∧
      (r.position + n).toNat = pre.length + mid.length := by
  have hL := r.data.size_lt
  have hin : r.position.toNat + n.toNat ≤ r.data.data.length := by
    rw [hdata, hpos, hn]; simp only [List.length_append]; omega
  refine ⟨?_, by rw [toNat_add_of_le hL hin, hpos, hn]⟩
  rw [takeBytes_eq, if_pos hin, Span.slice, hdata, hpos, hn, List.append_assoc,
    List.drop_left' rfl, List.take_left' rfl]

/-- `read<T>`/`readUint16/32/64` at the object representation of `v` return `v`. -/
theorem readAs_at {T : Type} (S : Serializable T) (msg : String) (v : T)
    (hdata : r.data.data = pre ++ S.toBytes v ++ post) (hpos : r.position.toNat = pre.length) :
    ∃ r', r.readAs S msg = .ok v r' ∧ r'.data = r.data ∧
      r'.position.toNat = pre.length + S.size := by
  have hn : (BitVec.ofNat 64 S.size).toNat = (S.toBytes v).length := by
    rw [BitVec.toNat_ofNat, Nat.mod_eq_of_lt S.size_lt, S.length_toBytes]
  obtain ⟨ht, hp⟩ := takeBytes_at .fail hdata hpos hn
  refine ⟨{ r with position := r.position + BitVec.ofNat 64 S.size }, ?_, rfl,
    by rw [hp, S.length_toBytes]⟩
  simp only [readAs, read, ht, S.ofBytes_toBytes]

/-- `readUint8` at byte `v` returns `v`. -/
theorem readUint8_at {v : UInt8} (hdata : r.data.data = pre ++ [v] ++ post)
    (hpos : r.position.toNat = pre.length) :
    ∃ r', r.readUint8 = .ok v r' ∧ r'.data = r.data ∧ r'.position.toNat = pre.length + 1 := by
  have hone : (1 : SizeT).toNat = [v].length := rfl
  obtain ⟨ht, hp⟩ := takeBytes_at .fail hdata hpos hone
  have hlt : r.position.toNat < r.data.data.length := by
    rw [hdata, hpos]; simp only [List.length_append, List.length_singleton]; omega
  refine ⟨{ r with position := r.position + 1 }, ?_, rfl, hp⟩
  rw [readUint8_eq, if_pos hlt, hdata, hpos, List.append_assoc, List.getD_eq_getElem?_getD,
    List.getElem?_append_right (Nat.le_refl _), Nat.sub_self]
  simp

/-- At a string written by `writeString`, whatever its length: `readUint32` returns the
    `static_cast<uint32_t>` of the length, and `readString` of that returns the first
    `|s| mod 2 ^ 32` bytes of `s` and stops after them. -/
theorem readString_prefix_at (s : List UInt8)
    (hdata : r.data.data = pre ++ Field.bytes (.string s) ++ post)
    (hpos : r.position.toNat = pre.length) :
    ∃ r1 r2, r.readUint32 = .ok (UInt32.ofNat s.length) r1 ∧
      r1.readString (BitVec.ofNat 64 (UInt32.ofNat s.length).toNat) =
        .ok (s.take (s.length % 2 ^ 32)) r2 ∧
      r2.data = r.data ∧ r2.position.toNat = pre.length + 4 + s.length % 2 ^ 32 := by
  have hlen : (UInt32.ofNat s.length).toNat = s.length % 2 ^ 32 := rfl
  obtain ⟨r1, h1, hd1, hp1⟩ := readAs_at uint32T "Not enough data to read uint32"
    (UInt32.ofNat s.length)
    (show r.data.data = pre ++ uint32T.toBytes _ ++ (s ++ post) by simp [hdata, Field.bytes]) hpos
  have hn : (BitVec.ofNat 64 (UInt32.ofNat s.length).toNat).toNat =
      (s.take (s.length % 2 ^ 32)).length := by
    rw [hlen, BitVec.toNat_ofNat, List.length_take, Nat.mod_eq_of_lt (by omega)]
    exact (Nat.min_eq_left (Nat.mod_le _ _)).symm
  obtain ⟨h2, hp2⟩ := takeBytes_at (.error "Not enough data to read string")
    (show r1.data.data = (pre ++ uint32T.toBytes (UInt32.ofNat s.length)) ++
        s.take (s.length % 2 ^ 32) ++ (s.drop (s.length % 2 ^ 32) ++ post) by
      rw [hd1, hdata, List.append_assoc (pre ++ _), ← List.append_assoc (s.take _),
        List.take_append_drop]
      simp [Field.bytes])
    (by rw [hp1]; simp; rfl) hn
  refine ⟨r1, _, h1, h2, hd1, ?_⟩
  have h4 : uint32T.size = 4 := rfl
  rw [hp2, List.length_append, uint32T.length_toBytes, List.length_take, h4]
  omega

/-- Each field's matching read, at the field's own bytes, returns the field. -/
theorem readField_at (f : Field) (hf : f.Fits) (hdata : r.data.data = pre ++ f.bytes ++ post)
    (hpos : r.position.toNat = pre.length) :
    ∃ r', r.readField f = .ok f r' ∧ r'.data = r.data ∧
      r'.position.toNat = pre.length + f.width := by
  cases f with
  | uint8 v =>
    obtain ⟨r', h, hd, hp⟩ := readUint8_at hdata hpos
    exact ⟨r', by simp [readField, h], hd, hp⟩
  | uint16 v =>
    obtain ⟨r', h, hd, hp⟩ := readAs_at uint16T "Not enough data to read uint16" v hdata hpos
    exact ⟨r', by simp [readField, readUint16, h], hd, hp⟩
  | uint32 v =>
    obtain ⟨r', h, hd, hp⟩ := readAs_at uint32T "Not enough data to read uint32" v hdata hpos
    exact ⟨r', by simp [readField, readUint32, h], hd, hp⟩
  | uint64 v =>
    obtain ⟨r', h, hd, hp⟩ := readAs_at uint64T "Not enough data to read uint64" v hdata hpos
    exact ⟨r', by simp [readField, readUint64, h], hd, hp⟩
  | value S v =>
    obtain ⟨r', h, hd, hp⟩ := readAs_at S "Not enough data to read requested type" v hdata hpos
    exact ⟨r', by simp [readField, readValue, h], hd, hp⟩
  | string s =>
    -- a prefix that fits is the length itself
    obtain ⟨r1, r2, h1, h2, hd2, hp2⟩ := readString_prefix_at s hdata hpos
    have hs : s.length % 2 ^ 32 = s.length := Nat.mod_eq_of_lt hf
    rw [hs, List.take_length] at h2
    refine ⟨r2, ?_, hd2, by rw [hp2, hs, Field.width, Nat.add_assoc]⟩
    simp only [readField, h1, ReadResult.bind_ok, h2, ReadResult.map_ok]
  | block bs =>
    have hL := r.data.size_lt
    rw [hdata] at hL
    have hn : (BitVec.ofNat 64 bs.length).toNat = bs.length := by
      rw [BitVec.toNat_ofNat, Nat.mod_eq_of_lt (by simp [Field.bytes] at hL; omega)]
    obtain ⟨h, hp⟩ := takeBytes_at (.error "Not enough data to read string") hdata hpos hn
    exact ⟨{ r with position := r.position + BitVec.ofNat 64 bs.length },
      by simp only [readField, readString, h, ReadResult.map_ok, Field.bytes], rfl,
      by simpa using hp⟩

/-- A whole field sequence, read from where it was written, comes back unchanged and
    the cursor ends right after it. -/
theorem readFields_at (fs : List Field) (hf : ∀ f ∈ fs, f.Fits)
    (hdata : r.data.data = pre ++ fs.flatMap Field.bytes ++ post)
    (hpos : r.position.toNat = pre.length) :
    ∃ r', r.readFields fs = .ok fs r' ∧ r'.data = r.data ∧
      r'.position.toNat = pre.length + Field.widthSum fs := by
  induction fs generalizing r pre with
  | nil => exact ⟨r, rfl, rfl, by simp [hpos, Field.widthSum]⟩
  | cons f fs ih =>
    obtain ⟨r1, h1, hd1, hp1⟩ := readField_at f (hf f (List.mem_cons_self _ _))
      (show r.data.data = pre ++ f.bytes ++ (fs.flatMap Field.bytes ++ post) by simp [hdata])
      hpos
    obtain ⟨r2, h2, hd2, hp2⟩ := ih (fun g hg => hf g (List.mem_cons_of_mem _ hg))
      (show r1.data.data = (pre ++ f.bytes) ++ fs.flatMap Field.bytes ++ post by
        rw [hd1, hdata]; simp) (by rw [hp1]; simp)
    refine ⟨r2, by simp [readFields, h1, h2], hd2.trans hd1, ?_⟩
    rw [hp2]; simp [Field.widthSum]; omega

end At

end PacketReader

/-! ## §5 The round trip -/

open PacketBuilder PacketReader in
/-- Round trip: a builder that writes a prefix `P` and then fields `fs` holds, and `build`
    yields, `|P|` plus the fields' widths bytes; a reader over the built packet, after
    `seek(|P|)`, decodes exactly `fs` with the matching reads and ends `atEnd()`. -/
theorem writeFields_build_readFields (P : List UInt8) (fs : List Field) (flags : UInt32)
    (hstr : ∀ s, Field.string s ∈ fs → s.length < 2 ^ 32)
    (hfit : ((empty.write P).writeFields fs).size < 2 ^ 64) :
    ((empty.write P).writeFields fs).size = P.length + Field.widthSum fs ∧
    (((empty.write P).writeFields fs).build hfit flags).data.data.length =
      P.length + Field.widthSum fs ∧
    ∃ r, ((ofPacket (((empty.write P).writeFields fs).build hfit flags)).seek
        (BitVec.ofNat 64 P.length)).readFields fs = .ok fs r ∧ r.atEnd = true := by
  have hbuf : ((empty.write P).writeFields fs).buffer = P ++ fs.flatMap Field.bytes := by
    rw [buffer_writeFields]; rfl
  have hsize : ((empty.write P).writeFields fs).size = P.length + Field.widthSum fs := by
    rw [size_eq, hbuf, List.length_append, Field.length_flatMap_bytes]
  have hP : P.length + Field.widthSum fs < 2 ^ 64 := hsize ▸ hfit
  refine ⟨hsize, hsize, ?_⟩
  have hfits : ∀ f ∈ fs, f.Fits := by
    intro f hf
    cases f <;> first | trivial | exact hstr _ hf
  have hL : (ofPacket (((empty.write P).writeFields fs).build hfit flags)).data.data.length =
      P.length + Field.widthSum fs := hsize
  obtain ⟨r, hr, hd, hp⟩ := readFields_at fs hfits
    (show ((ofPacket (((empty.write P).writeFields fs).build hfit flags)).seek
      (BitVec.ofNat 64 P.length)).data.data = P ++ fs.flatMap Field.bytes ++ [] by simpa using hbuf)
    (by rw [toNat_seek_position, BitVec.toNat_ofNat, Nat.mod_eq_of_lt (by omega), hL]
        exact Nat.min_eq_left (by omega))
  refine ⟨r, hr, atEnd_iff.mpr ?_⟩
  rw [hd, hp]
  exact Nat.le_of_eq hL

/-- The specification's example frame, `[uint32 0x12345678, string "Hello, World!",
    uint32 314159, uint8 255]`, is 26 bytes and reads back. -/
theorem spec_example_round_trip :
    let fs : List Field := [.uint32 0x12345678,
      .string ("Hello, World!".toList.map (·.toNat.toUInt8)), .uint32 314159, .uint8 255]
    let b := (PacketBuilder.empty.write []).writeFields fs
    (∀ s, Field.string s ∈ fs → s.length < 2 ^ 32) ∧ ∃ hfit : b.size < 2 ^ 64,
      b.size = 26 ∧ (b.build hfit 1).data.data.length = 26 ∧
      ∃ r, ((PacketReader.ofPacket (b.build hfit 1)).seek (BitVec.ofNat 64 0)).readFields fs =
        .ok fs r ∧ r.atEnd = true := by
  intro fs b
  have hstr : ∀ s, Field.string s ∈ fs → s.length < 2 ^ 32 := by
    intro s hs
    simp only [fs, List.mem_cons, Field.string.injEq, reduceCtorEq, false_or,
      List.mem_nil_iff, or_false] at hs
    subst hs; decide
  have hfit : b.size < 2 ^ 64 := by decide
  obtain ⟨h1, h2, h3⟩ := writeFields_build_readFields [] fs 1 hstr hfit
  exact ⟨hstr, hfit, h1.trans rfl, h2.trans rfl, h3⟩

/-! ## §6 Strings of `2 ^ 32` bytes or more -/

/-- A packet written as a prefix, a string and more bytes holds `4 + |s|` bytes for the
    string. -/
theorem PacketBuilder.size_write_writeString (P s post : List UInt8) :
    (((PacketBuilder.empty.write P).writeString s).write post).size =
      P.length + 4 + s.length + post.length := by
  have h4 : uint32T.size = 4 := rfl
  simp only [PacketBuilder.size_eq, PacketBuilder.buffer_write, PacketBuilder.buffer_writeString,
    PacketBuilder.empty, List.nil_append, List.length_append, Serializable.length_toBytes, h4]

open PacketBuilder PacketReader in
/-- `writeString` appends `4 + |s|` bytes whatever the length, but its prefix is
    `static_cast<uint32_t>(str.size())`. For a string of `2 ^ 32` bytes or more, after any
    prefix `P` and before any bytes `post`, `readUint32` returns `|s| mod 2 ^ 32`, less than
    `|s|`, and `readString` of it returns that many bytes of `s` and stops inside the string. -/
theorem long_string_length_wraps (P s post : List UInt8) (flags : UInt32)
    (hs : 2 ^ 32 ≤ s.length) (hfit : (((empty.write P).writeString s).write post).size < 2 ^ 64) :
    ((empty.write P).writeString s).size = P.length + 4 + s.length ∧
    ∃ r1 r2, ((ofPacket ((((empty.write P).writeString s).write post).build hfit flags)).seek
        (BitVec.ofNat 64 P.length)).readUint32 = .ok (UInt32.ofNat s.length) r1 ∧
      (UInt32.ofNat s.length).toNat = s.length % 2 ^ 32 ∧ s.length % 2 ^ 32 < s.length ∧
      r1.readString (BitVec.ofNat 64 (UInt32.ofNat s.length).toNat) =
        .ok (s.take (s.length % 2 ^ 32)) r2 ∧
      r2.position.toNat = P.length + 4 + s.length % 2 ^ 32 := by
  have h4 : uint32T.size = 4 := rfl
  have hbuf : (((empty.write P).writeString s).write post).buffer =
      P ++ Field.bytes (.string s) ++ post := by
    simp [Field.bytes, empty]
  have hL := size_write_writeString P s post
  obtain ⟨r1, r2, h1, h2, -, hp2⟩ := readString_prefix_at (r :=
      (ofPacket ((((empty.write P).writeString s).write post).build hfit flags)).seek
        (BitVec.ofNat 64 P.length)) s hbuf
    (by rw [toNat_seek_position, BitVec.toNat_ofNat, Nat.mod_eq_of_lt (by omega)]
        exact Nat.min_eq_left (show P.length ≤ (((empty.write P).writeString s).write post).size
          by omega))
  refine ⟨by simp [Field.bytes, empty, Serializable.length_toBytes, h4]; omega,
    r1, r2, h1, rfl, by omega, h2, hp2⟩

/-- A packet holding one string of `2 ^ 32` zero bytes: its prefix reads back as 0. -/
theorem long_string_length_wraps_at_four_gib :
    2 ^ 32 ≤ (List.replicate (2 ^ 32) (0 : UInt8)).length ∧
    ∃ hfit : (((PacketBuilder.empty.write []).writeString
        (List.replicate (2 ^ 32) 0)).write []).size < 2 ^ 64,
      ((PacketBuilder.empty.write []).writeString (List.replicate (2 ^ 32) 0)).size =
        ([] : List UInt8).length + 4 + (List.replicate (2 ^ 32) (0 : UInt8)).length ∧
      ∃ r1 r2, ((PacketReader.ofPacket ((((PacketBuilder.empty.write []).writeString
          (List.replicate (2 ^ 32) 0)).write []).build hfit 0)).seek
          (BitVec.ofNat 64 ([] : List UInt8).length)).readUint32 =
          .ok (UInt32.ofNat (List.replicate (2 ^ 32) (0 : UInt8)).length) r1 ∧
        (UInt32.ofNat (List.replicate (2 ^ 32) (0 : UInt8)).length).toNat =
          (List.replicate (2 ^ 32) (0 : UInt8)).length % 2 ^ 32 ∧
        (List.replicate (2 ^ 32) (0 : UInt8)).length % 2 ^ 32 <
          (List.replicate (2 ^ 32) (0 : UInt8)).length ∧
        r1.readString (BitVec.ofNat 64
            (UInt32.ofNat (List.replicate (2 ^ 32) (0 : UInt8)).length).toNat) =
          .ok ((List.replicate (2 ^ 32) 0).take
            ((List.replicate (2 ^ 32) (0 : UInt8)).length % 2 ^ 32)) r2 ∧
        r2.position.toNat = ([] : List UInt8).length + 4 +
          (List.replicate (2 ^ 32) (0 : UInt8)).length % 2 ^ 32 := by
  have hs : 2 ^ 32 ≤ (List.replicate (2 ^ 32) (0 : UInt8)).length := by
    rw [List.length_replicate]
  have hfit : (((PacketBuilder.empty.write []).writeString
      (List.replicate (2 ^ 32) 0)).write []).size < 2 ^ 64 := by
    rw [PacketBuilder.size_write_writeString, List.length_replicate]; norm_num
  exact ⟨hs, hfit, long_string_length_wraps [] _ [] 0 hs hfit⟩

/-! ## §7 Reads compose -/

namespace PacketReader

/-- Two reads in a row are one read of the sum. Whenever `position_ + n + m` stays below
    `2 ^ 64`, `read(n)` then `read(m)` returns, concatenated, the bytes `read(n + m)` returns
    and leaves the reader where it does, and fails exactly when it fails. -/
theorem read_then_read (r : PacketReader) (n m : SizeT)
    (hw : r.position.toNat + n.toNat + m.toNat < 2 ^ 64) :
    (r.read n).bind (fun a r' => (r'.read m).map (a ++ ·)) = r.read (n + m) := by
  have hn : (r.position + n).toNat = r.position.toNat + n.toNat := by
    rw [BitVec.toNat_add, Nat.mod_eq_of_lt (by omega)]
  have hnm : (n + m).toNat = n.toNat + m.toNat := by
    rw [BitVec.toNat_add, Nat.mod_eq_of_lt (by omega)]
  have hpnm : (r.position + (n + m)).toNat = r.position.toNat + n.toNat + m.toNat := by
    rw [BitVec.toNat_add, hnm, Nat.mod_eq_of_lt (by omega), Nat.add_assoc]
  have hpn_m : (r.position + n + m).toNat = r.position.toNat + n.toNat + m.toNat := by
    rw [BitVec.toNat_add, hn, Nat.mod_eq_of_lt hw]
  simp only [read, takeBytes_eq, hnm, hpnm, ← Nat.add_assoc]
  by_cases h1 : r.position.toNat + n.toNat ≤ r.data.data.length
  · simp only [if_pos h1, ReadResult.bind_ok, hn, hpn_m]
    by_cases h2 : r.position.toNat + n.toNat + m.toNat ≤ r.data.data.length
    · simp only [if_pos h2, ReadResult.map_ok, BitVec.add_assoc, Span.slice, List.take_add,
        List.drop_drop]
    · simp only [if_neg h2]
      rfl
  · have h2 : ¬ r.position.toNat + n.toNat + m.toNat ≤ r.data.data.length := by omega
    simp only [if_neg h1, if_neg h2, hn]
    rfl

/-- Over the slice `[1, 2, 3]` from its start: one byte, then two. -/
theorem read_then_read_at_start :
    (ofSpan ⟨[1, 2, 3], by decide⟩).position.toNat + (1 : SizeT).toNat + (2 : SizeT).toNat <
      2 ^ 64 ∧
    ((ofSpan ⟨[1, 2, 3], by decide⟩).read 1).bind (fun a r' => (r'.read 2).map (a ++ ·)) =
      (ofSpan ⟨[1, 2, 3], by decide⟩).read (1 + 2) :=
  have hw : (ofSpan ⟨[1, 2, 3], by decide⟩).position.toNat + (1 : SizeT).toNat +
      (2 : SizeT).toNat < 2 ^ 64 := by decide
  ⟨hw, read_then_read _ 1 2 hw⟩

end PacketReader

end Icelander
