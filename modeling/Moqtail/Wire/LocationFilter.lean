import Moqtail.Wire.Location

/-! Location Filters, from `model/parameter/location_filter.rs`. -/
namespace Moqtail

inductive LocationFilter where
  | none
  | relativeStart (startGroup : UInt64)
  | absoluteStart (start : Location)
  | absoluteStartGroupEnd (start : Location) (endGroup : UInt64)
  | absoluteRange (start last : Location)
  | nextObject
deriving Repr, DecidableEq

namespace LocationFilter

/-- `saturating_add(1)`. -/
def saturatingSucc (v : UInt64) : UInt64 := if v.toNat + 1 < 2 ^ 64 then v + 1 else v

/-- `largest.group + 1 - start_group` in wide arithmetic, clamped to a `u64` at both
ends. -/
def relativeGroup (largest startGroup : UInt64) : UInt64 :=
  UInt64.ofNat (min (largest.toNat + 1 - startGroup.toNat) (2 ^ 64 - 1))

def startLocation (filter : LocationFilter) (largest : Option Location) : Option Location :=
  match filter with
  | none => .none
  | relativeStart startGroup =>
    match largest with
    | some largest => some ⟨relativeGroup largest.group startGroup, 0⟩
    | .none => some ⟨0, 0⟩
  | absoluteStart start => some start
  | absoluteStartGroupEnd start _ => some start
  | absoluteRange start _ => some start
  | nextObject =>
    match largest with
    | some largest => some ⟨largest.group, saturatingSucc largest.object⟩
    | .none => some ⟨0, 0⟩

def endLocation : LocationFilter → Option Location
  | absoluteStartGroupEnd _ endGroup => some ⟨endGroup, 0xFFFFFFFFFFFFFFFF⟩
  | absoluteRange _ last => some last
  | _ => .none

/-- The inclusive range that a Fetch selects, which is `none` where there is nothing in it. -/
def fetchRange (filter : LocationFilter) (largest : Option Location) :
    Option (Location × Location) :=
  match largest with
  | .none => .none
  | some largest =>
    let start := (filter.startLocation (some largest)).getD ⟨0, 0⟩
    let last :=
      match filter.endLocation with
      | some last => if last < largest then last else largest
      | .none => largest
    if start ≤ last then some (start, last) else .none

/-- `live_start_location` of `server/subscription.rs`: the filters stated relative to what
the track has published. -/
def liveStartLocation (filter : LocationFilter) (largest : Option Location) : Option Location :=
  match filter with
  | nextObject => filter.startLocation largest
  | relativeStart _ => filter.startLocation largest
  | _ => .none

end LocationFilter

end Moqtail
