import Moqtail.Wire.Location

/-! Duplicate detection, from `server/seen_objects.rs`.

A bitmap of words is one natural number, bit `i` of it being bit `i & 63` of word
`i >> 6`. -/
namespace Moqtail

def inlineBits : UInt64 := 256

def windowBits : UInt64 := 4096

def setBit (words index : Nat) : Nat := words ||| (1 <<< index)

def clearBit (words index : Nat) : Nat :=
  if words.testBit index then words ^^^ (1 <<< index) else words

/-- `words.fill(0)` on a jump wider than the window, else one cleared bit for each id the
window slides over. -/
def slideWindow (high : UInt64) (words : Nat) (id : UInt64) : Nat :=
  if id - high ≥ windowBits then 0
  else
    (List.range (id - high).toNat).foldl
      (fun words i => clearBit words ((high.toNat + 1 + i) % windowBits.toNat)) words

inductive GroupBits where
  | inline (words : Nat)
  | window (high : UInt64) (words : Nat)
deriving Repr, DecidableEq

def windowTestAndSet (high : UInt64) (words : Nat) (id : UInt64) : Bool × GroupBits :=
  if id > high then
    (false, .window id (setBit (slideWindow high words id) (id % windowBits).toNat))
  else if high - id ≥ windowBits then
    (false, .window high words)
  else
    let index := (id % windowBits).toNat
    (words.testBit index, .window high (setBit words index))

namespace GroupBits

/-- Both bitmaps start at id 0 and the window is the wider one, so the recorded ids keep
their bits. -/
def promote (words : Nat) : UInt64 × Nat := (inlineBits - 1, words % 2 ^ inlineBits.toNat)

def testAndSet (bits : GroupBits) (id : UInt64) : Bool × GroupBits :=
  match bits with
  | inline words =>
    if id < inlineBits then
      (words.testBit id.toNat, inline (setBit words id.toNat))
    else
      let (high, words) := promote words
      windowTestAndSet high words id
  | window high words => windowTestAndSet high words id

end GroupBits

structure GroupState where
  group : UInt64
  bits : GroupBits
deriving Repr, DecidableEq

def GroupState.new (group firstObject : UInt64) : GroupState :=
  let bits := if firstObject < inlineBits then .inline 0 else .window firstObject 0
  ⟨group, (GroupBits.testAndSet bits firstObject).2⟩

/-- The ring of group slots, empty when detection is off. -/
structure SeenObjects where
  slots : List (Option GroupState)
deriving Repr, DecidableEq

namespace SeenObjects

def new (retainedGroups : Nat) : SeenObjects := ⟨List.replicate retainedGroups none⟩

/-- What one slot answers for `location`, and what it holds afterwards. -/
def askSlot (slot : Option GroupState) (location : Location) : Bool × Option GroupState :=
  match slot with
  | some state =>
    if state.group = location.group then
      let (seen, bits) := state.bits.testAndSet location.object
      (seen, some { state with bits := bits })
    else if location.group > state.group then
      (false, some (.new location.group location.object))
    else
      (false, some state)
  | none => (false, some (.new location.group location.object))

def isDuplicate (seen : SeenObjects) (location : Location) : Bool × SeenObjects :=
  if seen.slots.isEmpty then (false, seen)
  else
    let index := location.group.toNat % seen.slots.length
    let (answer, slot) := askSlot (seen.slots.getD index none) location
    (answer, ⟨seen.slots.set index slot⟩)

end SeenObjects

end Moqtail
