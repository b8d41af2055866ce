import Mathlib

/-! Switching sets, from `server/ssts/switching_set.rs`: the tracks of one content at several
throughputs, of which sender-side track switching forwards one. The manager keeps the sets of
one connection, two maps into them and the depth of each.

Ids and counters are natural numbers: they are compared and counted, and no count reaches
the bound of its machine type. The hash map of sets is an association list, in an order that
nothing here depends on; the other maps are never listed and are functions. -/
namespace Moqtail.Ssts

structure FullTrackName where
  trackNamespace : List (List UInt8)
  name : List UInt8
deriving Repr, DecidableEq

inductive SwitchingSetError where
  | trackInDifferentSet
  | trackNotInSet
deriving Repr, DecidableEq

structure SwitchingSetMember where
  fullTrackName : FullTrackName
  relayTrackId : Nat
  throughputThresholdKbps : Nat
  requestId : Nat
  holders : Finset Nat
deriving DecidableEq

structure SwitchingSet where
  id : Nat
  algorithmId : Nat
  members : List SwitchingSetMember
  weight : Nat
  activate : Nat
  rank : Nat
deriving DecidableEq

def SwitchingSet.isActive (set : SwitchingSet) : Bool :=
  decide (0 < set.activate) && decide (set.activate ≤ set.members.length)

/-! The member list of one set. -/

/-- `sort_by_key` on the threshold: stable, as the source's is. -/
def sortMembers (members : List SwitchingSetMember) : List SwitchingSetMember :=
  members.insertionSort fun a b => a.throughputThresholdKbps ≤ b.throughputThresholdKbps

def findMember (name : FullTrackName) (members : List SwitchingSetMember) :
    Option SwitchingSetMember :=
  members.find? fun m => m.fullTrackName = name

/-- Changes the first member of that name where it stands. -/
def modifyMember (name : FullTrackName) (f : SwitchingSetMember → SwitchingSetMember) :
    List SwitchingSetMember → List SwitchingSetMember
  | [] => []
  | m :: members =>
    if m.fullTrackName = name then f m :: members else m :: modifyMember name f members

structure SwitchingSetManager where
  sets : AList fun _ : Nat => SwitchingSet
  trackToSet : FullTrackName → Option Nat
  relayTrackToSet : Nat → Option Nat
  openStreams : Nat → Option Nat
  epoch : Nat

/-- A SWITCHING_SET_ASSIGNMENT with the track and the request it came for. -/
structure Assignment where
  fullTrackName : FullTrackName
  relayTrackId : Nat
  requestId : Nat
  switchingSetId : Nat
  algorithmId : Nat
  throughputThresholdKbps : Nat
  weight : Nat
  activate : Nat
  rank : Nat
deriving DecidableEq

/-- The values an update changes, where it carries them. -/
structure AssignmentUpdate where
  algorithmId : Option Nat
  throughputThresholdKbps : Option Nat
  weight : Option Nat
  activate : Option Nat
  rank : Option Nat
deriving DecidableEq

def Assignment.member (a : Assignment) : SwitchingSetMember where
  fullTrackName := a.fullTrackName
  relayTrackId := a.relayTrackId
  throughputThresholdKbps := a.throughputThresholdKbps
  requestId := a.requestId
  holders := {a.requestId}

namespace SwitchingSetManager

def new : SwitchingSetManager where
  sets := ∅
  trackToSet _ := none
  relayTrackToSet _ := none
  openStreams _ := none
  epoch := 0

def bumpEpoch (m : SwitchingSetManager) : SwitchingSetManager := { m with epoch := m.epoch + 1 }

def noteStreamOpened (m : SwitchingSetManager) (relayTrackId : Nat) : SwitchingSetManager :=
  match m.relayTrackToSet relayTrackId with
  | none => m
  | some setId =>
    { m with
      openStreams := Function.update m.openStreams setId
        (some ((m.openStreams setId).getD 0 + 1)) }

def noteStreamClosed (m : SwitchingSetManager) (relayTrackId : Nat) : SwitchingSetManager :=
  match m.relayTrackToSet relayTrackId with
  | none => m
  | some setId =>
    match m.openStreams setId with
    | none => m
    | some count =>
      { m with
        openStreams := Function.update m.openStreams setId
          (if count - 1 = 0 then none else some (count - 1)) }

/-- The set an assignment goes to, opened if there is none, with the properties the
assignment brings: the most recently received message wins. -/
def assignedSet (m : SwitchingSetManager) (a : Assignment) : SwitchingSet where
  id := ((m.sets.lookup a.switchingSetId).map SwitchingSet.id).getD a.switchingSetId
  algorithmId := a.algorithmId
  members := ((m.sets.lookup a.switchingSetId).map SwitchingSet.members).getD []
  weight := a.weight
  activate := a.activate
  rank := a.rank

/-- Replaces the member of that name, which keeps its holders, or adds one. -/
def assignedMembers (a : Assignment) (members : List SwitchingSetMember) :
    List SwitchingSetMember :=
  match findMember a.fullTrackName members with
  | some _ =>
    modifyMember a.fullTrackName
      (fun existing => { a.member with holders := a.member.holders ∪ existing.holders }) members
  | none => members ++ [a.member]

def assign (m : SwitchingSetManager) (a : Assignment) :
    Except SwitchingSetError Unit × SwitchingSetManager :=
  if (m.trackToSet a.fullTrackName).any (· ≠ a.switchingSetId) then
    (.error .trackInDifferentSet, m)
  else
    let set := m.assignedSet a
    let previous := (findMember a.fullTrackName set.members).map SwitchingSetMember.relayTrackId
    let set := { set with members := sortMembers (assignedMembers a set.members) }
    -- streams of the id the member had before no longer count for this set
    let relayTrackToSet :=
      match previous with
      | some previous =>
        if previous ≠ a.relayTrackId then Function.update m.relayTrackToSet previous none
        else m.relayTrackToSet
      | none => m.relayTrackToSet
    (.ok (),
      { m with
        sets := m.sets.insert a.switchingSetId set
        trackToSet := Function.update m.trackToSet a.fullTrackName (some a.switchingSetId)
        relayTrackToSet :=
          Function.update relayTrackToSet a.relayTrackId (some a.switchingSetId)
        epoch := m.epoch + 1 })

def remove (m : SwitchingSetManager) (name : FullTrackName) : SwitchingSetManager :=
  match m.trackToSet name with
  | none => m
  | some setId =>
    let m := { m with trackToSet := Function.update m.trackToSet name none }.bumpEpoch
    match m.sets.lookup setId with
    | none => m
    | some set =>
      let members := set.members.filter fun member => member.fullTrackName ≠ name
      let m :=
        match findMember name set.members with
        | some member =>
          { m with relayTrackToSet := Function.update m.relayTrackToSet member.relayTrackId none }
        | none => m
      if members = [] then
        { m with
          sets := m.sets.erase setId
          openStreams := Function.update m.openStreams setId none }
      else { m with sets := m.sets.insert setId { set with members := members } }

def release (m : SwitchingSetManager) (name : FullTrackName) (requestId : Nat) :
    SwitchingSetManager :=
  match m.trackToSet name with
  | none => m
  | some setId =>
    match m.sets.lookup setId with
    | none => m
    | some set =>
      match findMember name set.members with
      | none => m
      | some member =>
        let members := modifyMember name
          (fun member => { member with holders := member.holders.erase requestId }) set.members
        let released := { m with sets := m.sets.insert setId { set with members := members } }
        if requestId ∈ member.holders ∧ member.holders.erase requestId = ∅ then
          released.remove name
        else released

/-- What an update that names another algorithm is told. -/
def ignoredAlgorithm (set : SwitchingSet) (name : FullTrackName) (algorithmId : Nat) : String :=
  "switching set " ++ toString set.id ++ " runs algorithm " ++ toString set.algorithmId ++
    "; the update asking for " ++ toString algorithmId ++ " was ignored" ++
    match findMember name set.members with
    | some member => " (set by request " ++ toString member.requestId ++ ")"
    | none => ""

def updatedMembers (name : FullTrackName) (threshold : Option Nat)
    (members : List SwitchingSetMember) : List SwitchingSetMember :=
  match threshold, findMember name members with
  | some threshold, some member =>
    if member.throughputThresholdKbps ≠ threshold then
      sortMembers <| modifyMember name
        (fun member => { member with throughputThresholdKbps := threshold }) members
    else members
  | _, _ => members

def updateAssignment (m : SwitchingSetManager) (name : FullTrackName) (u : AssignmentUpdate) :
    Except SwitchingSetError (List String) × SwitchingSetManager :=
  match m.trackToSet name with
  | none => (.error .trackNotInSet, m)
  | some setId =>
    match m.sets.lookup setId with
    | none => (.error .trackNotInSet, m)
    | some set =>
      let warnings :=
        match u.algorithmId with
        | some algorithmId =>
          if algorithmId ≠ set.algorithmId then [ignoredAlgorithm set name algorithmId] else []
        | none => []
      let set :=
        { set with
          weight := u.weight.getD set.weight
          activate := u.activate.getD set.activate
          rank := u.rank.getD set.rank
          members := updatedMembers name u.throughputThresholdKbps set.members }
      (.ok warnings, { m with sets := m.sets.insert setId set }.bumpEpoch)

def getSetForTrack (m : SwitchingSetManager) (name : FullTrackName) : Option SwitchingSet :=
  (m.trackToSet name).bind m.sets.lookup

end SwitchingSetManager

end Moqtail.Ssts
