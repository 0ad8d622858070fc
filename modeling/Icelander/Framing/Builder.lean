import Mathlib

/-!
# Binary Framing: Layouts and `PacketBuilder`

The write half of the framing layer (`src/src/packet.cpp`, `PacketBuilder`).
A builder is a growable byte buffer; every `write*` appends the object
representation of its argument, and `build` snapshots the buffer.

## Host byte order

`writeUint16/32/64` call `write(&value, sizeof(value))`: they copy the bytes of
the integer as it sits in memory. We model the little-endian targets the
library is built for, so a `uintN_t` is `N / 8` bytes, least significant first
(`encodeLE`). `Serializable T` packages any other trivially copyable type the
same way: a width, its object representation, and the fact that `memcpy`-ing
those bytes back yields the value.
-/

namespace Icelander

/-- `size_t`: lengths and cursor positions, with wrapping arithmetic. -/
abbrev SizeT := BitVec 64

/-! ## §1 Little-endian integer representation -/

/-- The `w` bytes of `n`, least significant first: what `memcpy` copies out of a
    `w`-byte unsigned integer holding `n`. -/
def encodeLE : Nat → Nat → List UInt8
  | 0, _ => []
  | w + 1, n => UInt8.ofNat (n % 256) :: encodeLE w (n / 256)

/-- The unsigned integer whose object representation is the given bytes. -/
def decodeLE : List UInt8 → Nat
  | [] => 0
  | b :: bs => b.toNat + 256 * decodeLE bs

@[simp] theorem length_encodeLE (w n : Nat) : (encodeLE w n).length = w := by
  induction w generalizing n with
  | zero => rfl
  | succ w ih => simp only [encodeLE, List.length_cons, ih]

/-- Decoding an encoding gives the value back, reduced to the width. -/
theorem decodeLE_encodeLE (w n : Nat) : decodeLE (encodeLE w n) = n % 256 ^ w := by
  induction w generalizing n with
  | zero => simp [encodeLE, decodeLE, Nat.mod_one]
  | succ w ih =>
    have hb : (UInt8.ofNat (n % 256)).toNat = n % 256 :=
      UInt8.toNat_ofNat_of_lt (Nat.mod_lt _ (by decide))
    rw [encodeLE, decodeLE, ih, hb, Nat.pow_succ', Nat.mod_mul]

/-! ## §2 Serializable types -/

/-- A `Serializable` type (trivially copyable, standard layout): `sizeof(T)` bytes of
    object representation, which `memcpy` copies out and back unchanged. -/
structure Serializable (T : Type) where
  /-- `sizeof(T)`, itself a `size_t`. -/
  size : Nat
  /-- The object representation of a value. -/
  toBytes : T → List UInt8
  /-- The value a `memcpy` of `size` bytes into a `T` produces. -/
  ofBytes : List UInt8 → T
  length_toBytes : ∀ v, (toBytes v).length = size
  ofBytes_toBytes : ∀ v, ofBytes (toBytes v) = v
  size_lt : size < 2 ^ 64

/-- The layout of a `w`-byte unsigned integer type, given its conversions to and
    from `Nat`. -/
def Serializable.ofUInt {T : Type} (w : Nat) (toNat : T → Nat) (ofNat : Nat → T)
    (lt : ∀ v, toNat v < 256 ^ w) (inv : ∀ v, ofNat (toNat v) = v) (hw : w < 2 ^ 64) :
    Serializable T where
  size := w
  toBytes v := encodeLE w (toNat v)
  ofBytes bs := ofNat (decodeLE bs)
  length_toBytes v := length_encodeLE w _
  ofBytes_toBytes v := by
    show ofNat (decodeLE (encodeLE w (toNat v))) = v
    rw [decodeLE_encodeLE, Nat.mod_eq_of_lt (lt v), inv]
  size_lt := hw

/-- `uint8_t`, as `read<uint8_t>()` and `write<uint8_t>()` see it. -/
def uint8T : Serializable UInt8 :=
  .ofUInt 1 UInt8.toNat UInt8.ofNat UInt8.toNat_lt_size
    (fun v => UInt8.toNat.inj (UInt8.toNat_ofNat_of_lt v.toNat_lt_size)) (by decide)

/-- One byte read as a `uint8_t` is that byte. -/
@[simp] theorem ofBytes_uint8T (x : UInt8) : uint8T.ofBytes [x] = x :=
  UInt8.toNat.inj <| by
    simp [uint8T, Serializable.ofUInt, decodeLE, UInt8.toNat_ofNat_of_lt x.toNat_lt_size]

/-- `uint16_t`. -/
def uint16T : Serializable UInt16 :=
  .ofUInt 2 UInt16.toNat UInt16.ofNat UInt16.toNat_lt_size
    (fun v => UInt16.toNat.inj (UInt16.toNat_ofNat_of_lt v.toNat_lt_size)) (by decide)

/-- `uint32_t`. -/
def uint32T : Serializable UInt32 :=
  .ofUInt 4 UInt32.toNat UInt32.ofNat UInt32.toNat_lt_size
    (fun v => UInt32.toNat.inj (UInt32.toNat_ofNat_of_lt v.toNat_lt_size)) (by decide)

/-- `uint64_t`. -/
def uint64T : Serializable UInt64 :=
  .ofUInt 8 UInt64.toNat UInt64.ofNat UInt64.toNat_lt_size
    (fun v => UInt64.toNat.inj (UInt64.toNat_ofNat_of_lt v.toNat_lt_size)) (by decide)

/-! ## §3 `PacketBuilder` -/

/-- `PacketBuilder`: the `std::vector<uint8_t> buffer_`. -/
structure PacketBuilder where
  buffer : List UInt8
  deriving DecidableEq, Repr

namespace PacketBuilder

/-- `PacketBuilder()`: an empty buffer. -/
def empty : PacketBuilder := ⟨[]⟩

/-- `write(Span)`, `write(const std::string&)` and `write(const void*, size_t)`:
    append the bytes at the end of the buffer. -/
def write (b : PacketBuilder) (packetData : List UInt8) : PacketBuilder :=
  ⟨b.buffer ++ packetData⟩

/-- `write<T>(value)`: `write(&value, sizeof(T))`. -/
def writeValue {T : Type} (S : Serializable T) (b : PacketBuilder) (value : T) : PacketBuilder :=
  b.write (S.toBytes value)

/-- `writeUint8`: `buffer_.push_back(value)`. -/
def writeUint8 (b : PacketBuilder) (value : UInt8) : PacketBuilder :=
  ⟨b.buffer ++ [value]⟩

/-- `writeUint16`: `write(&value, sizeof(value))`. -/
def writeUint16 (b : PacketBuilder) (value : UInt16) : PacketBuilder := b.writeValue uint16T value

/-- `writeUint32`: `write(&value, sizeof(value))`. -/
def writeUint32 (b : PacketBuilder) (value : UInt32) : PacketBuilder := b.writeValue uint32T value

/-- `writeUint64`: `write(&value, sizeof(value))`. -/
def writeUint64 (b : PacketBuilder) (value : UInt64) : PacketBuilder := b.writeValue uint64T value

/-- `writeString`: `writeUint32(static_cast<uint32_t>(str.size()))`, then the raw bytes. -/
def writeString (b : PacketBuilder) (str : List UInt8) : PacketBuilder :=
  (b.writeUint32 (UInt32.ofNat str.length)).write str

/-- `clear()`. -/
def clear (_ : PacketBuilder) : PacketBuilder := empty

/-- `size()`. -/
def size (b : PacketBuilder) : Nat := b.buffer.length

@[simp] theorem buffer_write (b : PacketBuilder) (bs : List UInt8) :
    (b.write bs).buffer = b.buffer ++ bs := rfl

@[simp] theorem buffer_writeValue {T : Type} (S : Serializable T) (b : PacketBuilder) (v : T) :
    (b.writeValue S v).buffer = b.buffer ++ S.toBytes v := rfl

@[simp] theorem buffer_writeUint8 (b : PacketBuilder) (v : UInt8) :
    (b.writeUint8 v).buffer = b.buffer ++ [v] := rfl

@[simp] theorem buffer_writeString (b : PacketBuilder) (str : List UInt8) :
    (b.writeString str).buffer = b.buffer ++ uint32T.toBytes (UInt32.ofNat str.length) ++ str := rfl

@[simp] theorem size_eq (b : PacketBuilder) : b.size = b.buffer.length := rfl

end PacketBuilder

end Icelander
