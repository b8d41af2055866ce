import Moqtail.Ts.GrowingBuffer

/-! `ByteBuffer` of `moqtail-ts/src/model/common/byte_buffer.ts` as an object over memory.

`buf` and `view` each see an ArrayBuffer, and nothing but the code makes them see the same one.
Bytes are read and written through either, and a write outside an array throws. An operation that
throws keeps what it has changed by then. Sizes that the platform refuses to allocate are left
out. -/
namespace Moqtail.Ts

open Lib

/-- `memory` has every ArrayBuffer that was made. `buf` and `view` say which of them they see, from
its first byte to its last. -/
structure BufferObject where
  memory : List Bytes
  buf : Nat
  view : Nat
  length : Nat
  offset : Nat
  checkpoint : Nat
deriving DecidableEq

/-- The bytes from `i` on are written over. -/
def overwrite (array : Bytes) (i : Nat) (src : Bytes) : Bytes :=
  array.take i ++ src ++ array.drop (i + src.length)

theorem overwrite_nil (array : Bytes) (i : Nat) : overwrite array i [] = array := by
  rw [overwrite, List.append_nil, List.length_nil, Nat.add_zero, List.take_append_drop]

theorem length_overwrite {array src : Bytes} {i : Nat} (h : i + src.length ≤ array.length) :
    (overwrite array i src).length = array.length := by
  rw [overwrite, List.length_append, List.length_append, List.length_take, List.length_drop]
  omega

/-- What is written next to what was written before is written as one. -/
theorem overwrite_overwrite {array src src' : Bytes} {i : Nat} (h : i + src.length ≤ array.length) :
    overwrite (overwrite array i src) (i + src.length) src' = overwrite array i (src ++ src') := by
  have hfront : (array.take i ++ src).length = i + src.length := by
    rw [List.length_append, List.length_take]
    omega
  simp only [overwrite]
  rw [List.take_append_of_le_length hfront.ge, List.take_of_length_le hfront.le,
    List.drop_append, List.drop_of_length_le (by omega), hfront, List.nil_append, List.drop_drop,
    List.length_append, List.append_assoc, List.append_assoc, List.append_assoc, List.append_assoc]
  congr 4
  omega

namespace BufferObject

def arrayAt (s : BufferObject) (i : Nat) : Bytes := s.memory.getD i []

/-- What `buf` sees. -/
def bytes (s : BufferObject) : Bytes := s.arrayAt s.buf

/-- `constructor`. -/
def new (initialSize : Nat) : BufferObject := ⟨[List.replicate initialSize 0], 0, 0, 0, 0, 0⟩

/-- An ArrayBuffer is made, and `buf` and `view` are set to see it. -/
def renew (s : BufferObject) (array : Bytes) : BufferObject :=
  { s with memory := s.memory ++ [array], buf := s.memory.length, view := s.memory.length }

def remaining (s : BufferObject) : Int := s.length - s.offset

def setCheckpoint (s : BufferObject) : BufferObject := { s with checkpoint := s.offset }

def restore (s : BufferObject) : BufferObject := { s with offset := s.checkpoint }

/-! What the platform does. -/

def outsideView : Error := .rangeError "Offset is outside the bounds of the DataView"

def viewGetUint8 (s : BufferObject) (i : Nat) : Result UInt8 :=
  match (s.arrayAt s.view)[i]? with
  | some b => .ok b
  | none => .error outsideView

def viewGetUint16 (s : BufferObject) (i : Nat) : Result Int :=
  match (s.arrayAt s.view)[i]?, (s.arrayAt s.view)[i + 1]? with
  | some high, some low => .ok (high.toNat * 256 + low.toNat)
  | _, _ => .error outsideView

def viewSet (s : BufferObject) (i : Nat) (src : Bytes) : Result Unit × BufferObject :=
  if i + src.length ≤ (s.arrayAt s.view).length then
    (.ok (), { s with memory := s.memory.set s.view (overwrite (s.arrayAt s.view) i src) })
  else (.error outsideView, s)

def viewSetUint8 (s : BufferObject) (i : Nat) (v : UInt8) : Result Unit × BufferObject :=
  s.viewSet i [v]

/-- The high byte first. -/
def viewSetUint16 (s : BufferObject) (i v : Nat) : Result Unit × BufferObject :=
  s.viewSet i [UInt8.ofNat (v / 256), UInt8.ofNat (v % 256)]

/-- `TypedArray.set`, which takes `src` as it was, also where it is a part of the same memory. -/
def arraySet (array src : Bytes) (i : Nat) : Result Bytes :=
  if i + src.length ≤ array.length then .ok (overwrite array i src)
  else .error (.rangeError "offset is out of bounds")

def bufSet (s : BufferObject) (src : Bytes) (i : Nat) : Result Unit × BufferObject :=
  match arraySet s.bytes src i with
  | .ok array => (.ok (), { s with memory := s.memory.set s.buf array })
  | .error e => (.error e, s)

/-! Reading. -/

def getU8 (s : BufferObject) : Result UInt8 × BufferObject :=
  if s.remaining < 1 then (.error (.notEnoughBytes "getU8" 1 s.remaining), s)
  else (s.viewGetUint8 s.offset, { s with offset := s.offset + 1 })

def getU16 (s : BufferObject) : Result Int × BufferObject :=
  if s.remaining < 2 then (.error (.notEnoughBytes "getU16" 2 s.remaining), s)
  else
    match s.viewGetUint16 s.offset with
    | .error e => (.error e, s)
    | .ok v => (.ok v, { s with offset := s.offset + 2 })

/-- The loop of `getVI` over the bytes after the first. -/
def getContinuation : Nat → Nat → BufferObject → Result Int × BufferObject
  | 0, result, s => (.ok result, s)
  | extra + 1, result, s =>
    match s.getU8 with
    | (.error e, s) => (.error e, s)
    | (.ok b, s) => getContinuation extra ((result <<< 8) ||| b.toNat) s

/-- The first byte is put back where the others are not all there. -/
def getVI (s : BufferObject) : Result Int × BufferObject :=
  if s.remaining < 1 then (.error (.notEnoughBytes "getVI.first_byte" 1 s.remaining), s)
  else
    match s.getU8 with
    | (.error e, s) => (.error e, s)
    | (.ok first, s) =>
      let length := ByteBuffer.countLeadingOnes first + 1
      let extra := length - 1
      if s.remaining < extra then
        let s := { s with offset := s.offset - 1 }
        (.error (.notEnoughBytes "getVI.continuation" length (s.remaining + 1)), s)
      else getContinuation extra (ByteBuffer.firstByteValueBits first length) s

def getBytes (len : Nat) (s : BufferObject) : Result Bytes × BufferObject :=
  if s.remaining < len then (.error (.notEnoughBytes "getBytes" len s.remaining), s)
  else (.ok ((s.bytes.drop s.offset).take len), { s with offset := s.offset + len })

/-! Writing. -/

def clear (s : BufferObject) : BufferObject :=
  { s with length := 0, offset := 0, checkpoint := 0 }.renew []

def commit (s : BufferObject) : Result Unit × BufferObject :=
  if s.offset = 0 then (.ok (), s)
  else if s.offset ≥ s.length then (.ok (), s.clear)
  else
    match s.bufSet ((s.bytes.take s.length).drop s.offset) 0 with
    | (.error e, s) => (.error e, s)
    | (.ok (), s) =>
      (.ok (),
        { s with length := s.length - s.offset, offset := 0, checkpoint := 0, view := s.buf })

def ensureCapacity (add : Nat) (s : BufferObject) : Result Unit × BufferObject :=
  let need := s.length + add
  if need ≤ s.bytes.length then (.ok (), s)
  else
    let newSize := GrowingBuffer.grownSize need need (s.bytes.length * 2 + 1)
    match arraySet (List.replicate newSize 0) (s.bytes.take s.length) 0 with
    | .error e => (.error e, s)
    | .ok newBuf => (.ok (), s.renew newBuf)

def putU8 (v : Int) (s : BufferObject) : Result Unit × BufferObject :=
  if v < 0 ∨ v > 0xff then
    (.error (.rangeError s!"Value {v} is out of range for a U8 (0-255)."), s)
  else
    match s.ensureCapacity 1 with
    | (.error e, s) => (.error e, s)
    | (.ok (), s) =>
      { s with length := s.length + 1 }.viewSetUint8 s.length (UInt8.ofNat v.toNat)

def putU16 (v : Int) (s : BufferObject) : Result Unit × BufferObject :=
  if v < 0 ∨ v > 0xffff then
    (.error (.rangeError s!"Value {v} is out of range for a U16 (0-65535)."), s)
  else
    match s.ensureCapacity 2 with
    | (.error e, s) => (.error e, s)
    | (.ok (), s) =>
      match s.viewSetUint16 s.length v.toNat with
      | (.error e, s) => (.error e, s)
      | (.ok (), s) => (.ok (), { s with length := s.length + 2 })

/-- Writes byte by byte. The length is counted up before each of them is written. -/
def putEach : Bytes → BufferObject → Result Unit × BufferObject
  | [], s => (.ok (), s)
  | b :: bs, s =>
    match { s with length := s.length + 1 }.viewSetUint8 s.length b with
    | (.error e, s) => (.error e, s)
    | (.ok (), s) => putEach bs s

/-- The bytes of a varint are the same wherever they are written to. -/
def putVI (v : Int) (s : BufferObject) : Result Unit × BufferObject :=
  match ByteBuffer.putVI v with
  | .error e => (.error e, s)
  | .ok bytes =>
    match s.ensureCapacity (ByteBuffer.viLength v.toNat) with
    | (.error e, s) => (.error e, s)
    | (.ok (), s) => putEach bytes s

def putBytes (src : Bytes) (s : BufferObject) : Result Unit × BufferObject :=
  match s.ensureCapacity src.length with
  | (.error e, s) => (.error e, s)
  | (.ok (), s) =>
    match s.bufSet src s.length with
    | (.error e, s) => (.error e, s)
    | (.ok (), s) => (.ok (), { s with length := s.length + src.length })

/-! What is kept. -/

/-- `buf` and `view` see one array, which has room for the bytes in use, and the offset and the
checkpoint are among these. -/
structure Consistent (s : BufferObject) : Prop where
  view_eq : s.view = s.buf
  buf_lt : s.buf < s.memory.length
  length_le : s.length ≤ s.bytes.length
  offset_le : s.offset ≤ s.length
  checkpoint_le : s.checkpoint ≤ s.length

/-- The bytes from the offset to the end. -/
def unread (s : BufferObject) : Bytes := (s.bytes.take s.length).drop s.offset

variable {s : BufferObject}

theorem Consistent.length_unread (h : s.Consistent) : s.unread.length = s.length - s.offset := by
  have := h.length_le
  rw [unread, List.length_drop, List.length_take]
  omega

theorem Consistent.remaining_eq (h : s.Consistent) : s.remaining = s.unread.length := by
  have := h.offset_le
  rw [remaining, h.length_unread]
  omega

theorem unread_add (n : Nat) : ({ s with offset := s.offset + n } : BufferObject).unread =
    s.unread.drop n := by
  show (s.bytes.take s.length).drop (s.offset + n) = _
  rw [unread, List.drop_drop]

/-- A byte to read is there, in use and seen by `buf`. -/
theorem getElem?_of_unread {i : Nat} {b : UInt8} (h : s.unread[i]? = some b) :
    s.offset + i < s.length ∧ s.bytes[s.offset + i]? = some b := by
  rw [unread, List.getElem?_drop, List.getElem?_take] at h
  split at h
  next hlt => exact ⟨hlt, h⟩
  · cases h

theorem arrayAt_view (hview : s.view = s.buf) : s.arrayAt s.view = s.bytes := by
  rw [hview, bytes]

/-! Reads. -/

theorem getU8_cons (hview : s.view = s.buf) {b : UInt8} {rest : Bytes} (h : s.unread = b :: rest) :
    s.getU8 = (.ok b, { s with offset := s.offset + 1 }) := by
  obtain ⟨hlt, hb⟩ := getElem?_of_unread (show s.unread[0]? = some b by rw [h]; rfl)
  rw [Nat.add_zero] at hlt hb
  have hremaining : ¬ s.remaining < 1 := by
    unfold remaining
    omega
  have hget : s.viewGetUint8 s.offset = .ok b := by
    rw [viewGetUint8, arrayAt_view hview, hb]
  rw [getU8, if_neg hremaining, hget]

theorem getContinuation_eq (bs : Bytes) : ∀ (s : BufferObject) (result : Nat) (rest : Bytes),
    s.view = s.buf → s.unread = bs ++ rest →
      getContinuation bs.length result s =
        (.ok ((bs.foldl (fun result b => (result <<< 8) ||| b.toNat) result : Nat) : Int),
          { s with offset := s.offset + bs.length }) := by
  induction bs with
  | nil => exact fun s result rest _ _ => rfl
  | cons b bs ih =>
    intro s result rest hview hunread
    have hnext : ({ s with offset := s.offset + 1 } : BufferObject).unread = bs ++ rest := by
      rw [unread_add, hunread]
      rfl
    rw [List.length_cons, getContinuation, getU8_cons hview hunread]
    simp only
    rw [ih { s with offset := s.offset + 1 } _ rest hview hnext]
    simp only [List.foldl_cons, Nat.add_assoc, Nat.add_comm 1]

/-- The operation reads what `get` reads of the bytes that are left, and changes nothing but the
offset, and that not where it throws. -/
structure ReadsAt {α β : Type} (op : BufferObject → Result α × BufferObject) (f : α → β)
    (get : Bytes → Result (β × Bytes)) (s : BufferObject) : Prop where
  reads : ∀ b rest, get s.unread = .ok (b, rest) →
    ∃ a, f a = b ∧ op s = (.ok a, { s with offset := s.length - rest.length })
  throws : ∀ e, get s.unread = .error e → op s = (.error e, s)

def ReadsLike {α β : Type} (op : BufferObject → Result α × BufferObject) (f : α → β)
    (get : Bytes → Result (β × Bytes)) : Prop :=
  ∀ s : BufferObject, s.Consistent → ReadsAt op f get s

section ReadsAt

variable {α β : Type} {op : BufferObject → Result α × BufferObject} {f : α → β}
  {get : Bytes → Result (β × Bytes)}

theorem ReadsAt.of_ok {a : α} {rest : Bytes} (hget : get s.unread = .ok (f a, rest))
    (hop : op s = (.ok a, { s with offset := s.length - rest.length })) : ReadsAt op f get s where
  reads b left hleft := by
    rw [hget] at hleft
    cases hleft
    exact ⟨a, rfl, hop⟩
  throws e he := by
    rw [hget] at he
    cases he

theorem ReadsAt.of_error {e : Error} (hget : get s.unread = .error e) (hop : op s = (.error e, s)) :
    ReadsAt op f get s where
  reads b left hleft := by
    rw [hget] at hleft
    cases hleft
  throws e' he := by
    rw [hget] at he
    cases he
    exact hop

end ReadsAt

theorem getU8_readsLike : ReadsLike getU8 (fun b => (b.toNat : Int)) ByteBuffer.getU8 := by
  intro s h
  have hlength := h.length_unread
  have hoffset := h.offset_le
  cases hunread : s.unread with
  | nil =>
    have hop : s.getU8 = (.error (.notEnoughBytes "getU8" 1 0), s) := by
      rw [getU8, h.remaining_eq, hunread]
      rfl
    exact .of_error (by rw [hunread]; rfl) hop
  | cons b rest =>
    rw [hunread, List.length_cons] at hlength
    have hplace : s.offset + 1 = s.length - rest.length := by omega
    have hop := getU8_cons h.view_eq hunread
    rw [hplace] at hop
    exact .of_ok (by rw [hunread]; rfl) hop

theorem getU16_readsLike : ReadsLike getU16 id ByteBuffer.getU16 := by
  intro s h
  have hlength := h.length_unread
  have hoffset := h.offset_le
  by_cases hshort : s.unread.length < 2
  · have hget : ByteBuffer.getU16 s.unread =
        .error (.notEnoughBytes "getU16" 2 s.unread.length) := by
      rcases hunread : s.unread with - | ⟨b, - | ⟨low, rest⟩⟩
      · rfl
      · rfl
      · rw [hunread, List.length_cons, List.length_cons] at hshort
        omega
    refine .of_error hget ?_
    rw [getU16, h.remaining_eq, if_pos (by omega)]
  · obtain ⟨high, tail, hunread⟩ := List.exists_cons_of_length_pos (show 0 < s.unread.length by omega)
    rw [hunread, List.length_cons] at hshort
    obtain ⟨low, rest, rfl⟩ := List.exists_cons_of_length_pos (show 0 < tail.length by omega)
    rw [hunread, List.length_cons, List.length_cons] at hlength
    have hhigh := (getElem?_of_unread (show s.unread[0]? = some high by rw [hunread]; rfl)).2
    have hlow := (getElem?_of_unread (show s.unread[1]? = some low by rw [hunread]; rfl)).2
    have hremaining : ¬ s.remaining < 2 := by
      rw [h.remaining_eq, hunread, List.length_cons, List.length_cons]
      omega
    have hview : s.viewGetUint16 s.offset = .ok (high.toNat * 256 + low.toNat) := by
      rw [Nat.add_zero] at hhigh
      rw [viewGetUint16, arrayAt_view h.view_eq, hhigh, hlow]
    have hplace : s.offset + 2 = s.length - rest.length := by omega
    refine .of_ok (by rw [hunread]; rfl) ?_
    rw [getU16, if_neg hremaining, hview]
    simp only [hplace]

/-- A varint after its first byte: what is missing is missed before any more is read. -/
theorem getVI_cons (h : s.Consistent) {first : UInt8} {rest : Bytes}
    (hunread : s.unread = first :: rest) :
    s.getVI =
      if rest.length < ByteBuffer.countLeadingOnes first then
        (.error (.notEnoughBytes "getVI.continuation"
          (ByteBuffer.countLeadingOnes first + 1 : Nat) (s.remaining + 1)), s)
      else getContinuation (ByteBuffer.countLeadingOnes first)
        (ByteBuffer.firstByteValueBits first (ByteBuffer.countLeadingOnes first + 1))
        { s with offset := s.offset + 1 } := by
  have hlength := h.length_unread
  have hoffset := h.offset_le
  rw [hunread, List.length_cons] at hlength
  have hremaining : ¬ s.remaining < 1 := by
    rw [h.remaining_eq, hunread, List.length_cons]
    omega
  have hleft : ({ s with offset := s.offset + 1 } : BufferObject).remaining = rest.length := by
    show (s.length : Int) - (s.offset + 1 : Nat) = _
    omega
  rw [getVI, if_neg hremaining, getU8_cons h.view_eq hunread]
  simp only [hleft, Nat.add_sub_cancel, Int.ofNat_lt]

theorem getVI_readsLike : ReadsLike getVI id ByteBuffer.getVI := by
  intro s h
  have hlength := h.length_unread
  have hoffset := h.offset_le
  cases hunread : s.unread with
  | nil =>
    have hop : s.getVI = (.error (.notEnoughBytes "getVI.first_byte" 1 0), s) := by
      rw [getVI, h.remaining_eq, hunread]
      rfl
    exact .of_error (by rw [hunread]; rfl) hop
  | cons first rest =>
    have hop := getVI_cons h hunread
    have hget : ByteBuffer.getVI s.unread = _ := congrArg ByteBuffer.getVI hunread
    rw [hunread, List.length_cons] at hlength
    simp only [ByteBuffer.getVI, Nat.add_sub_cancel] at hget
    generalize ByteBuffer.countLeadingOnes first = extra at hop hget
    by_cases hshort : rest.length < extra
    · rw [if_pos hshort] at hop hget
      rw [h.remaining_eq, hunread] at hop
      exact .of_error hget hop
    · rw [if_neg hshort] at hop hget
      have hnext : ({ s with offset := s.offset + 1 } : BufferObject).unread =
          rest.take extra ++ rest.drop extra := by
        rw [unread_add, hunread, List.take_append_drop]
        rfl
      have htaken : (rest.take extra).length = extra := by
        rw [List.length_take]
        omega
      have hplace : s.offset + 1 + extra = s.length - (rest.drop extra).length := by
        rw [List.length_drop]
        omega
      have hcontinues := getContinuation_eq (rest.take extra) { s with offset := s.offset + 1 }
        (ByteBuffer.firstByteValueBits first (extra + 1)) (rest.drop extra) h.view_eq hnext
      rw [htaken] at hcontinues
      rw [hcontinues, hplace] at hop
      exact .of_ok hget hop

theorem getBytes_readsLike (len : Nat) : ReadsLike (getBytes len) id (ByteBuffer.getBytes len) := by
  intro s h
  have hlength := h.length_unread
  have hoffset := h.offset_le
  by_cases hshort : (s.unread.length : Int) < len
  · refine .of_error (if_pos hshort) ?_
    rw [getBytes, h.remaining_eq, if_pos hshort]
  · have hslice : (s.bytes.drop s.offset).take len = s.unread.take len := by
      rw [unread, List.drop_take, List.take_take, Nat.min_eq_left (by omega)]
    have hplace : s.offset + len = s.length - (s.unread.drop len).length := by
      rw [List.length_drop]
      omega
    refine .of_ok (if_neg hshort) ?_
    rw [getBytes, h.remaining_eq, if_neg hshort, hslice, Int.toNat_natCast, hplace]

/-! Writes. -/

theorem bytes_set (hbuf : s.buf < s.memory.length) (array : Bytes)
    (length offset checkpoint : Nat) :
    bytes ⟨s.memory.set s.buf array, s.buf, s.view, length, offset, checkpoint⟩ = array := by
  show (s.memory.set s.buf array).getD s.buf [] = array
  rw [List.getD_eq_getElem?_getD, List.getElem?_set_self hbuf, Option.getD_some]

theorem bytes_renew (s : BufferObject) (array : Bytes) : (s.renew array).bytes = array := by
  show (s.memory ++ [array]).getD s.memory.length [] = array
  rw [List.getD_eq_getElem?_getD, List.getElem?_concat_length, Option.getD_some]

theorem viewSet_eq (hview : s.view = s.buf) {i : Nat} {src : Bytes}
    (h : i + src.length ≤ s.bytes.length) :
    s.viewSet i src =
      (.ok (), { s with memory := s.memory.set s.buf (overwrite s.bytes i src) }) := by
  rw [viewSet, arrayAt_view hview, if_pos h, hview]

theorem bufSet_eq {i : Nat} {src : Bytes} (h : i + src.length ≤ s.bytes.length) :
    s.bufSet src i =
      (.ok (), { s with memory := s.memory.set s.buf (overwrite s.bytes i src) }) := by
  rw [bufSet, arraySet, if_pos h]

/-- The object with these bytes written after those in use. -/
def wrote (src : Bytes) (s : BufferObject) : BufferObject :=
  { s with
    memory := s.memory.set s.buf (overwrite s.bytes s.length src)
    length := s.length + src.length }

theorem wrote_nil (s : BufferObject) : s.wrote [] = s := by
  have hsame : s.memory.set s.buf s.bytes = s.memory := by
    by_cases hbuf : s.buf < s.memory.length
    · rw [bytes, arrayAt, List.getD_eq_getElem _ _ hbuf, List.set_getElem_self]
    · exact List.set_eq_of_length_le (not_lt.mp hbuf)
  rw [wrote, overwrite_nil, hsame]
  rfl

theorem wrote_wrote (hbuf : s.buf < s.memory.length) {src src' : Bytes}
    (h : s.length + src.length ≤ s.bytes.length) :
    (s.wrote src).wrote src' = s.wrote (src ++ src') := by
  have hbytes : (s.wrote src).bytes = overwrite s.bytes s.length src := bytes_set hbuf _ _ _ _
  rw [wrote, hbytes]
  show (⟨(s.memory.set s.buf (overwrite s.bytes s.length src)).set s.buf
    (overwrite (overwrite s.bytes s.length src) (s.length + src.length) src'), s.buf, s.view,
      s.length + src.length + src'.length, s.offset, s.checkpoint⟩ : BufferObject) = _
  rw [List.set_set, overwrite_overwrite h, wrote, List.length_append, Nat.add_assoc]

/-- A byte after those in use, with the length counted up before it is written. -/
theorem viewSetUint8_next (hview : s.view = s.buf) (h : s.length + 1 ≤ s.bytes.length) (b : UInt8) :
    ({ s with length := s.length + 1 } : BufferObject).viewSetUint8 s.length b =
      (.ok (), s.wrote [b]) := by
  have hset := @viewSet_eq { s with length := s.length + 1 } hview s.length [b] h
  rw [viewSetUint8, hset]
  rfl

theorem putEach_eq (bs : Bytes) : ∀ s : BufferObject, s.view = s.buf → s.buf < s.memory.length →
    s.length + bs.length ≤ s.bytes.length → putEach bs s = (.ok (), s.wrote bs) := by
  induction bs with
  | nil =>
    intro s _ _ _
    rw [putEach, wrote_nil]
  | cons b bs ih =>
    intro s hview hbuf hroom
    rw [List.length_cons] at hroom
    have hone : s.length + [b].length ≤ s.bytes.length := by
      rw [List.length_singleton]
      omega
    have hbytes : (s.wrote [b]).bytes = overwrite s.bytes s.length [b] := bytes_set hbuf _ _ _ _
    have hmemory : (s.wrote [b]).memory.length = s.memory.length := List.length_set
    have hrest : (s.wrote [b]).length + bs.length ≤ (s.wrote [b]).bytes.length := by
      rw [hbytes, length_overwrite hone]
      show s.length + 1 + bs.length ≤ s.bytes.length
      omega
    rw [putEach, viewSetUint8_next hview hone]
    simp only
    rw [ih (s.wrote [b]) hview (hmemory ▸ hbuf) hrest, wrote_wrote hbuf hone, List.singleton_append]

end BufferObject

end Moqtail.Ts
