import Icelander.Framing.Reader

/-!
# Binary Framing: the Reader's Cursor

What a `PacketReader` (`src/src/packet.cpp`) does to `position_` over any
sequence of calls, with any `size_t` arguments. A call is a `ReaderOp`;
`PacketReader.apply` is the reader after it, whatever it returned, and
`PacketReader.run` takes a sequence.

The reads all have one shape: compare `position_ + n` with the size in
`size_t`, copy, `position_ += n`. When the sum wraps past the guard the copy
leaves the slice (`read_past_end_of_wrapped_guard`), and the cursor is then
moved by the statement after the copy; `apply` follows it there.

* `afterRead_read`, `afterRead_readString`, `afterRead_readAs`: every read but
  `readUint8` moves the cursor by `advance`, the guard and the addition.
* `position_le_apply`: one call keeps `position_ <= size()`; the guard only
  lets a wrapped sum through when it is at most the size.
* `cursor_stays_in_slice`: from construction, over every sequence of calls,
  the cursor stays in the slice, `remaining()` does not wrap and `atEnd()` is
  `remaining() == 0`.
* `Reachable.exists_run`: every reachable reader is the result of a run.
* `skip_wraps_backwards`: `skip(b)` with `position_ + b` past `SIZE_MAX` sends
  the cursor back, below where it was.
* `readUint8_agrees_with_read`: `readUint8()`, which compares without adding,
  is `read<uint8_t>()` on every reader in its slice over fewer than
  `SIZE_MAX` bytes; `readValue_uint8T_at_size_max` is where they part.
* `skip_agrees_with_read`: `skip(n)` is `read(n)` without the copy, clamping
  to the end where `read(n)` refuses, while `position_ + n` does not wrap.
-/

namespace Icelander

/-- A call on a `PacketReader`, with its arguments. -/
inductive ReaderOp : Type 1
  /-- `read(buffer, size)`. -/
  | read (size : SizeT)
  /-- `readString(length)`. -/
  | readString (length : SizeT)
  /-- `read<T>()`. -/
  | readValue {T : Type} (S : Serializable T)
  /-- `readUint8()`. -/
  | readUint8
  /-- `readUint16()`. -/
  | readUint16
  /-- `readUint32()`. -/
  | readUint32
  /-- `readUint64()`. -/
  | readUint64
  /-- `seek(position)`. -/
  | seek (position : SizeT)
  /-- `skip(bytes)`. -/
  | skip (bytes : SizeT)
  /-- `reset()`. -/
  | reset

namespace PacketReader

/-! ## §1 The reader after a call -/

/-- The reader after a read of `n` bytes that returned `x`: the reader it returned; the
    same reader when it failed or threw; and when the copy left the slice, the reader
    after the `position_ += n` that follows the copy. -/
def afterRead {α : Type} (r : PacketReader) (n : SizeT) : ReadResult α → PacketReader
  | .ok _ r' => r'
  | .fail | .error _ => r
  | .undefined => { r with position := r.position + n }

/-- The reader after one call, whatever the call returned. -/
def apply (r : PacketReader) : ReaderOp → PacketReader
  | .read size => r.afterRead size (r.read size)
  | .readString length => r.afterRead length (r.readString length)
  | .readValue S => r.afterRead (BitVec.ofNat 64 S.size) (r.readValue S)
  | .readUint8 => r.afterRead 1 r.readUint8
  | .readUint16 => r.afterRead (BitVec.ofNat 64 uint16T.size) r.readUint16
  | .readUint32 => r.afterRead (BitVec.ofNat 64 uint32T.size) r.readUint32
  | .readUint64 => r.afterRead (BitVec.ofNat 64 uint64T.size) r.readUint64
  | .seek position => r.seek position
  | .skip bytes => r.skip bytes
  | .reset => r.reset

/-- The reader after a sequence of calls. -/
def run (r : PacketReader) : List ReaderOp → PacketReader
  | [] => r
  | op :: ops => (r.apply op).run ops

/-- Running two sequences is running one after the other. -/
theorem run_append (r : PacketReader) (ops ops' : List ReaderOp) :
    r.run (ops ++ ops') = (r.run ops).run ops' := by
  induction ops generalizing r with
  | nil => rfl
  | cons op ops ih => exact ih (r.apply op)

/-- The cursor arithmetic of a read of `n` bytes: the guard `position_ + n > size()` in
    `size_t`, then `position_ += n`. -/
def advance (r : PacketReader) (n : SizeT) : PacketReader :=
  if r.position + n > r.data.size then r else { r with position := r.position + n }

/-! ## §2 Each read is the cursor arithmetic -/

section Reads
variable {r : PacketReader}

/-- The shared body of `read` and `readString`: a short path that leaves the reader, and
    otherwise the copy and `position_ += n`, wherever the copy reads from. -/
theorem afterRead_takeBytes {n : SizeT} {short : ReadResult (List UInt8)}
    (hs : r.afterRead n short = r) : r.afterRead n (r.takeBytes n short) = r.advance n := by
  unfold takeBytes advance
  split
  · exact hs
  · split <;> rfl

theorem afterRead_read (n : SizeT) : r.afterRead n (r.read n) = r.advance n :=
  afterRead_takeBytes rfl

theorem afterRead_readString (n : SizeT) : r.afterRead n (r.readString n) = r.advance n :=
  afterRead_takeBytes rfl

/-- `read<T>` and `readUint16/32/64` move the cursor as the `read` of `sizeof(T)` bytes
    inside them does. -/
theorem afterRead_readAs {T : Type} (S : Serializable T) (msg : String) :
    r.afterRead (BitVec.ofNat 64 S.size) (r.readAs S msg) =
      r.advance (BitVec.ofNat 64 S.size) := by
  rw [← afterRead_read]
  unfold readAs
  split <;> rename_i h <;> simp only [h, afterRead]

/-- `readUint8` compares without adding. -/
theorem afterRead_readUint8 :
    r.afterRead 1 r.readUint8 =
      if r.position ≥ r.data.size then r else { r with position := r.position + 1 } := by
  unfold readUint8
  split
  · rfl
  · split <;> rfl

end Reads

/-! ## §3 The cursor stays in the slice -/

section Bounds
variable {r : PacketReader}

@[simp] theorem data_advance (n : SizeT) : (r.advance n).data = r.data := by
  unfold advance; split <;> rfl

/-- A read that passes its guard ends at most at the size, also when the sum wrapped. -/
theorem advance_position_le (h : r.position ≤ r.data.size) (n : SizeT) :
    (r.advance n).position ≤ r.data.size := by
  unfold advance
  split
  · exact h
  · exact BitVec.not_lt.1 ‹_›

/-- One call keeps `position_ <= size()` and the slice. -/
theorem position_le_apply (h : r.position ≤ r.data.size) (op : ReaderOp) :
    (r.apply op).data = r.data ∧ (r.apply op).position ≤ r.data.size := by
  cases op
  case readUint8 =>
    rw [apply, afterRead_readUint8]
    split
    · exact ⟨rfl, h⟩
    · refine ⟨rfl, ?_⟩
      have hL := r.data.size_lt
      have h1 : (1 : SizeT).toNat = 1 := rfl
      simp only [ge_iff_le, BitVec.le_def, BitVec.toNat_add, Span.toNat_size, h1] at *
      omega
  case seek q =>
    refine ⟨rfl, ?_⟩
    simp only [apply, BitVec.le_def, toNat_seek_position, Span.toNat_size]
    omega
  case skip b =>
    refine ⟨rfl, ?_⟩
    simp only [apply, BitVec.le_def, toNat_skip_position, Span.toNat_size]
    omega
  case reset => exact ⟨rfl, by simp [apply, reset, BitVec.le_def]⟩
  -- every other read is `advance` by its width
  all_goals
    simp only [apply, readValue, readUint16, readUint32, readUint64, afterRead_read,
      afterRead_readString, afterRead_readAs]
    exact ⟨data_advance _, advance_position_le h _⟩

/-- A whole run keeps `position_ <= size()` and the slice. -/
theorem position_le_run (h : r.position ≤ r.data.size) (ops : List ReaderOp) :
    (r.run ops).data = r.data ∧ (r.run ops).position ≤ r.data.size := by
  induction ops generalizing r with
  | nil => exact ⟨rfl, h⟩
  | cons op ops ih =>
    obtain ⟨hd, hp⟩ := position_le_apply h op
    obtain ⟨hd', hp'⟩ := ih (by rw [hd]; exact hp)
    exact ⟨hd'.trans hd, by rw [← hd]; exact hp'⟩

/-- With the cursor in the slice, `remaining()` is `size() - position_` without wrapping. -/
theorem toNat_remaining (h : r.position ≤ r.data.size) :
    r.remaining.toNat + r.position.toNat = r.data.data.length := by
  rw [remaining, BitVec.toNat_sub_of_le h, Span.toNat_size]
  rw [BitVec.le_def, Span.toNat_size] at h
  omega

/-- With the cursor in the slice, `atEnd()` is `remaining() == 0`. -/
theorem atEnd_iff_remaining (h : r.position ≤ r.data.size) :
    r.atEnd = true ↔ r.remaining = 0 := by
  have hr := toNat_remaining h
  have h0 : (0 : SizeT).toNat = 0 := rfl
  rw [atEnd_iff, BitVec.toNat_eq, h0]
  omega

end Bounds

/-- The cursor invariant: from construction, after every sequence of calls with any
    arguments, `position_ <= size()`, `remaining()` is `size() - position_` without
    wrapping, and `atEnd()` holds exactly when `remaining()` is 0. -/
theorem cursor_stays_in_slice (s : Span) (ops : List ReaderOp) :
    ((ofSpan s).run ops).data = s ∧
    ((ofSpan s).run ops).position ≤ s.size ∧
    ((ofSpan s).run ops).remaining.toNat + ((ofSpan s).run ops).position.toNat =
      s.data.length ∧
    (((ofSpan s).run ops).atEnd = true ↔ ((ofSpan s).run ops).remaining = 0) := by
  have h0 : (ofSpan s).position ≤ (ofSpan s).data.size := by simp [ofSpan, BitVec.le_def]
  obtain ⟨hd, hp⟩ := position_le_run h0 ops
  have hin : ((ofSpan s).run ops).position ≤ ((ofSpan s).run ops).data.size := by
    rw [hd]; exact hp
  have hr := toNat_remaining hin
  rw [hd] at hr
  exact ⟨hd, hp, hr, atEnd_iff_remaining hin⟩

/-! ## §4 Reachable readers are runs -/

/-- Every reader `Reachable` describes is the result of a sequence of calls. -/
theorem Reachable.exists_run {s : Span} {r : PacketReader} (h : Reachable s r) :
    ∃ ops, (ofSpan s).run ops = r := by
  induction h with
  | init => exact ⟨[], rfl⟩
  | @read r r' n bytes _ hr ih =>
    obtain ⟨ops, rfl⟩ := ih
    exact ⟨ops ++ [.read n], by rw [run_append, run, run, apply, hr, afterRead]⟩
  | @readString r r' n bytes _ hr ih =>
    obtain ⟨ops, rfl⟩ := ih
    exact ⟨ops ++ [.readString n], by rw [run_append, run, run, apply, hr, afterRead]⟩
  | @readUint8 r r' v _ hr ih =>
    obtain ⟨ops, rfl⟩ := ih
    exact ⟨ops ++ [.readUint8], by rw [run_append, run, run, apply, hr, afterRead]⟩
  | seek q _ ih =>
    obtain ⟨ops, rfl⟩ := ih
    exact ⟨ops ++ [.seek q], by rw [run_append]; rfl⟩
  | skip b _ ih =>
    obtain ⟨ops, rfl⟩ := ih
    exact ⟨ops ++ [.skip b], by rw [run_append]; rfl⟩
  | reset _ ih =>
    obtain ⟨ops, rfl⟩ := ih
    exact ⟨ops ++ [.reset], by rw [run_append]; rfl⟩

/-! ## §5 `skip` past `SIZE_MAX` -/

/-- Every cursor position in the slice is reached by `seek` from construction. -/
theorem run_seek {r : PacketReader} (h : r.position ≤ r.data.size) :
    (ofSpan r.data).run [.seek r.position] = r := by
  obtain ⟨s, p⟩ := r
  simp only [run, apply, seek, ofSpan]
  split
  · rfl
  · rw [BitVec.le_antisymm (BitVec.not_lt.1 ‹_›) h]

/-- `skip(b)` adds in `size_t` before it clamps. From any reachable reader, a `b` with
    `position_ + b` past `SIZE_MAX` sends the cursor to `position_ + b - 2 ^ 64`, below
    where it was, where the clamped sum over the naturals is the size. -/
theorem skip_wraps_backwards (r : PacketReader) (b : SizeT) (hp : r.position ≤ r.data.size)
    (hb : 2 ^ 64 ≤ r.position.toNat + b.toNat) :
    (ofSpan r.data).run [.seek r.position] = r ∧
    (r.skip b).position.toNat = r.position.toNat + b.toNat - 2 ^ 64 ∧
    (r.skip b).position < r.position := by
  have hpos : (r.skip b).position.toNat = r.position.toNat + b.toNat - 2 ^ 64 := by
    rw [toNat_skip_position]
    rw [BitVec.le_def, Span.toNat_size] at hp
    have := b.isLt
    rw [Nat.mod_eq_sub_mod hb, Nat.mod_eq_of_lt (by omega)]
    omega
  refine ⟨run_seek hp, hpos, ?_⟩
  rw [BitVec.lt_def, hpos]
  have := b.isLt
  omega

/-- The one-byte slice `[42]` after `readUint8`: `skip(SIZE_MAX)` moves the cursor from 1
    back to 0. -/
theorem skip_wraps_backwards_at_one :
    (PacketReader.mk ⟨[42], by decide⟩ 1).position ≤
      (PacketReader.mk ⟨[42], by decide⟩ 1).data.size ∧
    2 ^ 64 ≤ (PacketReader.mk ⟨[42], by decide⟩ 1).position.toNat +
      (BitVec.ofNat 64 (2 ^ 64 - 1)).toNat ∧
    (ofSpan ⟨[42], by decide⟩).run [.seek 1] = PacketReader.mk ⟨[42], by decide⟩ 1 ∧
    ((PacketReader.mk ⟨[42], by decide⟩ 1).skip (BitVec.ofNat 64 (2 ^ 64 - 1))).position.toNat =
      0 ∧
    ((PacketReader.mk ⟨[42], by decide⟩ 1).skip (BitVec.ofNat 64 (2 ^ 64 - 1))).position < 1 :=
  have hp : (PacketReader.mk ⟨[42], by decide⟩ 1).position ≤
      (PacketReader.mk ⟨[42], by decide⟩ 1).data.size := by decide
  have hb : 2 ^ 64 ≤ (PacketReader.mk ⟨[42], by decide⟩ 1).position.toNat +
      (BitVec.ofNat 64 (2 ^ 64 - 1)).toNat := by decide
  ⟨hp, hb, skip_wraps_backwards _ _ hp hb⟩

/-! ## §6 `readUint8()` and `read<uint8_t>()` -/

/-- `read<uint8_t>()` on a reader whose sum `position_ + 1` does not wrap: byte `position_`
    when the cursor is before the end, else the throw of `read<T>()`. -/
theorem readValue_uint8T_eq (r : PacketReader) (hw : r.position.toNat + 1 < 2 ^ 64) :
    r.readValue uint8T =
      if r.position.toNat < r.data.data.length then
        .ok (r.data.data.getD r.position.toNat 0) { r with position := r.position + 1 }
      else .error "Not enough data to read requested type" := by
  have h1 : (BitVec.ofNat 64 uint8T.size) = 1 := rfl
  have hsum : (r.position + 1).toNat = r.position.toNat + 1 := by
    rw [BitVec.toNat_add, show (1 : SizeT).toNat = 1 from rfl, Nat.mod_eq_of_lt hw]
  simp only [readValue, readAs, read, h1, takeBytes_eq, hsum, show (1 : SizeT).toNat = 1 from rfl]
  by_cases hlt : r.position.toNat < r.data.data.length
  · rw [if_pos hlt, if_pos (by omega)]
    obtain ⟨x, rest, hx⟩ : ∃ x rest, r.data.data.drop r.position.toNat = x :: rest := by
      cases h : r.data.data.drop r.position.toNat with
      | nil => rw [List.drop_eq_nil_iff] at h; omega
      | cons x rest => exact ⟨x, rest, rfl⟩
    have hget : r.data.data.getD r.position.toNat 0 = x := by
      rw [List.getD_eq_getElem?_getD, ← List.head?_drop, hx]; rfl
    simp only [Span.slice, hx, hget, List.take_succ_cons, List.take_zero, ofBytes_uint8T]
  · rw [if_neg hlt, if_neg (by omega), if_neg (by omega)]

/-- `readUint8()` is the one-byte case of `read<T>()`: on every reader whose cursor is in its
    slice, over a slice shorter than `SIZE_MAX` bytes, both read the byte at `position_` and
    advance by one, or both throw. -/
theorem readUint8_agrees_with_read (r : PacketReader) (hp : r.position ≤ r.data.size)
    (hL : r.data.data.length < 2 ^ 64 - 1) :
    (∃ v r', r.readUint8 = .ok v r' ∧ r.readValue uint8T = .ok v r') ∨
      (r.readUint8 = .error "Not enough data to read uint8" ∧
        r.readValue uint8T = .error "Not enough data to read requested type") := by
  rw [BitVec.le_def, Span.toNat_size] at hp
  rw [readUint8_eq, readValue_uint8T_eq r (by omega)]
  by_cases hlt : r.position.toNat < r.data.data.length
  · exact Or.inl ⟨_, _, if_pos hlt, if_pos hlt⟩
  · exact Or.inr ⟨if_neg hlt, if_neg hlt⟩

/-- The one-byte slice `[42]`, cursor at 0: both read 42. -/
theorem readUint8_agrees_with_read_at_start :
    (ofSpan ⟨[42], by decide⟩).position ≤ (ofSpan ⟨[42], by decide⟩).data.size ∧
    (ofSpan ⟨[42], by decide⟩).data.data.length < 2 ^ 64 - 1 ∧
    ((∃ v r', (ofSpan ⟨[42], by decide⟩).readUint8 = .ok v r' ∧
        (ofSpan ⟨[42], by decide⟩).readValue uint8T = .ok v r') ∨
      ((ofSpan ⟨[42], by decide⟩).readUint8 = .error "Not enough data to read uint8" ∧
        (ofSpan ⟨[42], by decide⟩).readValue uint8T =
          .error "Not enough data to read requested type")) :=
  have hp : (ofSpan ⟨[42], by decide⟩).position ≤
      (ofSpan ⟨[42], by decide⟩).data.size := by decide
  have hL : (ofSpan ⟨[42], by decide⟩).data.data.length < 2 ^ 64 - 1 := by decide
  ⟨hp, hL, readUint8_agrees_with_read _ hp hL⟩

/-- The bound on the slice is needed: over `SIZE_MAX` bytes with the cursor at the end,
    `readUint8` throws, while `position_ + 1` wraps to 0 in `read<uint8_t>()`, which then
    copies from past the end of the slice. -/
theorem readValue_uint8T_at_size_max (r : PacketReader) (hL : r.data.data.length = 2 ^ 64 - 1)
    (hp : r.position = r.data.size) :
    r.readUint8 = .error "Not enough data to read uint8" ∧ r.readValue uint8T = .undefined := by
  have hpos : r.position.toNat = 2 ^ 64 - 1 := by rw [hp, Span.toNat_size, hL]
  have hsum : (r.position + 1).toNat = 0 := by
    rw [BitVec.toNat_add, hpos, show (1 : SizeT).toNat = 1 from rfl]; rfl
  refine ⟨by rw [readUint8_eq, if_neg (by omega)], ?_⟩
  have h1 : (BitVec.ofNat 64 uint8T.size) = 1 := rfl
  simp only [readValue, readAs, read, h1, takeBytes_eq, hsum, hpos, hL,
    show (1 : SizeT).toNat = 1 from rfl]
  rw [if_neg (by omega), if_pos (Nat.zero_le _)]

/-! ## §7 `skip()` and `read()` -/

/-- `skip(n)` is `read(n)` without the copy. Whenever `position_ + n` does not wrap, from
    any cursor, in the slice or not: `skip(n)` leaves the reader where `read(n)` does when
    that succeeds, and at the end of the slice where `read(n)` returns `false`. -/
theorem skip_agrees_with_read (r : PacketReader) (n : SizeT)
    (hw : r.position.toNat + n.toNat < 2 ^ 64) :
    r.skip n = match r.read n with
      | .ok _ r' => r'
      | _ => { r with position := r.data.size } := by
  have hsum : (r.position + n).toNat = r.position.toNat + n.toNat := by
    rw [BitVec.toNat_add, Nat.mod_eq_of_lt hw]
  have hskip := toNat_skip_position (r := r) n
  rw [Nat.mod_eq_of_lt hw] at hskip
  -- `skip` changes the cursor only, so it is settled by where the cursor lands
  have lands : ∀ q : SizeT, (r.skip n).position.toNat = q.toNat →
      r.skip n = { r with position := q } :=
    fun q hq => congrArg (fun q => { r with position := q }) (BitVec.eq_of_toNat_eq hq)
  rw [read, takeBytes_eq]
  by_cases hin : r.position.toNat + n.toNat ≤ r.data.data.length
  · rw [if_pos hin]
    exact lands _ (by rw [hskip, hsum]; omega)
  · rw [if_neg hin, if_neg (by omega)]
    exact lands _ (by rw [hskip, Span.toNat_size]; omega)

/-- The slice `[1, 2, 3]` from its start: `skip(2)` lands where `read(2)` does, and `skip(5)`
    at the end, where `read(5)` returns `false`. -/
theorem skip_agrees_with_read_at_start :
    ((ofSpan ⟨[1, 2, 3], by decide⟩).position.toNat + (2 : SizeT).toNat < 2 ^ 64 ∧
      (ofSpan ⟨[1, 2, 3], by decide⟩).skip 2 =
        match (ofSpan ⟨[1, 2, 3], by decide⟩).read 2 with
        | .ok _ r' => r'
        | _ => { ofSpan ⟨[1, 2, 3], by decide⟩ with
            position := (ofSpan ⟨[1, 2, 3], by decide⟩).data.size }) ∧
    ((ofSpan ⟨[1, 2, 3], by decide⟩).position.toNat + (5 : SizeT).toNat < 2 ^ 64 ∧
      (ofSpan ⟨[1, 2, 3], by decide⟩).skip 5 =
        match (ofSpan ⟨[1, 2, 3], by decide⟩).read 5 with
        | .ok _ r' => r'
        | _ => { ofSpan ⟨[1, 2, 3], by decide⟩ with
            position := (ofSpan ⟨[1, 2, 3], by decide⟩).data.size }) :=
  have h2 : (ofSpan ⟨[1, 2, 3], by decide⟩).position.toNat + (2 : SizeT).toNat < 2 ^ 64 := by
    decide
  have h5 : (ofSpan ⟨[1, 2, 3], by decide⟩).position.toNat + (5 : SizeT).toNat < 2 ^ 64 := by
    decide
  ⟨⟨h2, skip_agrees_with_read _ 2 h2⟩, ⟨h5, skip_agrees_with_read _ 5 h5⟩⟩

end PacketReader

end Icelander
