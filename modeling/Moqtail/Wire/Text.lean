import Moqtail.Wire.Tuple

/-! Text on the wire: `String::from_utf8`, the reason phrases of `model/common/reason_phrase.rs`
and the redirects of `model/common/redirect.rs`. -/
namespace Moqtail

open Lib

def isContinuationByte (b : UInt8) : Bool := 0x80 ≤ b && b ≤ 0xBF

/-- Whether `second` may follow the first byte of a character of three or four bytes. -/
def isSecondByte (first second : UInt8) : Bool :=
  if first = 0xE0 then 0xA0 ≤ second && second ≤ 0xBF
  else if first = 0xED then 0x80 ≤ second && second ≤ 0x9F
  else if first = 0xF0 then 0x90 ≤ second && second ≤ 0xBF
  else if first = 0xF4 then 0x80 ≤ second && second ≤ 0x8F
  else isContinuationByte second

/-- Where the first malformed character starts and how many bytes of it are wrong, `none` when
the input ends inside it. -/
def utf8ErrorAt : Nat → Bytes → Option (Nat × Option Nat)
  | _, [] => none
  | i, first :: rest =>
    if first < 0x80 then utf8ErrorAt (i + 1) rest
    else if 0xC2 ≤ first && first ≤ 0xDF then
      match rest with
      | [] => some (i, none)
      | b :: rest => if isContinuationByte b then utf8ErrorAt (i + 2) rest else some (i, some 1)
    else if 0xE0 ≤ first && first ≤ 0xF4 then
      match rest with
      | [] => some (i, none)
      | b :: rest =>
        if isSecondByte first b then
          match rest with
          | [] => some (i, none)
          | c :: rest =>
            if isContinuationByte c then
              if first < 0xF0 then utf8ErrorAt (i + 3) rest
              else
                match rest with
                | [] => some (i, none)
                | d :: rest =>
                  if isContinuationByte d then utf8ErrorAt (i + 4) rest else some (i, some 3)
            else some (i, some 2)
        else some (i, some 1)
    else some (i, some 1)

/-- The `Display` text of a `FromUtf8Error`. -/
def utf8ErrorText (bytes : Bytes) : String :=
  match utf8ErrorAt 0 bytes with
  | some (index, some len) => s!"invalid utf-8 sequence of {len} bytes from index {index}"
  | some (index, none) => s!"incomplete utf-8 byte sequence from index {index}"
  | none => ""

def asBytes (text : String) : Bytes := text.toByteArray.data.toList

def stringFromUtf8 (context : String) (bytes : Bytes) : Parse String :=
  match String.fromUTF8? bytes.toByteArray with
  | some text => .ok text
  | none => .error (.invalidUtf8 context (utf8ErrorText bytes))

theorem stringFromUtf8_asBytes (context text : String) :
    stringFromUtf8 context (asBytes text) = .ok text := by
  have hbytes : (asBytes text).toByteArray = text.toByteArray := by
    ext1
    rw [asBytes, List.data_toByteArray, Array.toArray_toList]
  have hfrom : String.fromUTF8? text.toByteArray = some text := by
    rw [String.fromUTF8?, dif_pos text.isValidUTF8]
    rfl
  rw [stringFromUtf8, hbytes, hfrom]

theorem asBytes_of_stringFromUtf8 {context : String} {bytes : Bytes} {text : String}
    (h : stringFromUtf8 context bytes = .ok text) : asBytes text = bytes := by
  unfold stringFromUtf8 String.fromUTF8? at h
  split at h
  next _ hsome =>
    split at hsome
    · cases hsome
      cases h
      rw [asBytes, String.fromUTF8, List.data_toByteArray]
    · cases hsome
  · cases h

/-- The size of a text is the number of its bytes. -/
theorem length_asBytes (text : String) : (asBytes text).length = text.utf8ByteSize := by
  rw [asBytes, Array.length_toList]
  rfl

/-! Reason phrases. -/

def maxReasonPhraseLen : Nat := 1024

/-- `try_new` lets nothing longer in, and the field is private. -/
structure ReasonPhrase where
  phrase : String
  bounded : phrase.utf8ByteSize ≤ maxReasonPhraseLen
deriving DecidableEq

namespace ReasonPhrase

def tryNew (phrase : String) : Parse ReasonPhrase :=
  if h : phrase.utf8ByteSize ≤ maxReasonPhraseLen then .ok ⟨phrase, h⟩
  else .error (.lengthExceedsMax "ReasonPhrase::try_new" maxReasonPhraseLen phrase.utf8ByteSize)

def serialize (r : ReasonPhrase) : Bytes := putLengthPrefixed (asBytes r.phrase)

/-- The text has the length read before it, so its bound needs no second check in the source:
`try_new` only rebuilds the value here. -/
def deserialize (bytes : Bytes) : Parse (ReasonPhrase × Bytes) := do
  let (len, bytes) ← getVi bytes
  if len.toNat > maxReasonPhraseLen then
    throw (.lengthExceedsMax "reason phrase try_new" maxReasonPhraseLen len.toNat)
  let (raw, bytes) ← copyToBytes "ReasonPhrase::value" len.toNat bytes
  let phrase ← stringFromUtf8 "ReasonPhrase::deserialize" raw
  let reason ← tryNew phrase
  return (reason, bytes)

theorem tryNew_phrase (r : ReasonPhrase) : tryNew r.phrase = .ok r := dif_pos r.bounded

theorem phrase_of_tryNew {phrase : String} {r : ReasonPhrase} (h : tryNew phrase = .ok r) :
    r.phrase = phrase := by
  unfold tryNew at h
  split at h
  · cases h
    rfl
  · cases h

theorem deserialize_reads (r : ReasonPhrase) : Reads deserialize r.serialize r := by
  intro tail
  have hbounded := r.bounded
  have hlength : (asBytes r.phrase).length ≤ 1024 := by
    rw [length_asBytes]
    exact hbounded
  simp only [deserialize, serialize, putLengthPrefixed, List.append_assoc, getVi_putVi,
    except_ok_bind, toNat_ofNat_length (by omega : (asBytes r.phrase).length < 2 ^ 64)]
  rw [if_neg (by unfold maxReasonPhraseLen; omega)]
  simp only [except_pure, copyToBytes_append, except_ok_bind, stringFromUtf8_asBytes, tryNew_phrase]

theorem deserialize_rewrites {bytes rest : Bytes} {r : ReasonPhrase}
    (h : deserialize bytes = .ok (r, rest)) : r.serialize.length + rest.length ≤ bytes.length := by
  obtain ⟨⟨len, left⟩, hvi, h⟩ := except_bind_eq_ok.mp h
  simp only at h
  split at h
  · cases h
  · obtain ⟨⟨raw, left'⟩, hcopy, h⟩ := except_bind_eq_ok.mp h
    obtain ⟨phrase, hphrase, h⟩ := except_bind_eq_ok.mp h
    obtain ⟨reason, hreason, hret⟩ := except_bind_eq_ok.mp h
    cases hret
    obtain ⟨hlen, rfl⟩ := copyToBytes_eq_ok hcopy
    have hconsumed := (getVi_consumes hvi).2
    have hraw := asBytes_of_stringFromUtf8 hphrase
    rw [← phrase_of_tryNew hreason] at hraw
    have hofNat : UInt64.ofNat raw.length = len := by rw [hlen, UInt64.ofNat_toNat]
    simp only [serialize, hraw, putLengthPrefixed, hofNat, List.length_append,
      length_putVi] at hconsumed ⊢
    omega

end ReasonPhrase

/-! URIs, where the empty text stands for none. -/

def putUri : Option String → Bytes
  | some uri => putLengthPrefixed (asBytes uri)
  | none => putVi 0

/-- What follows the length of a URI. -/
def getUri (context utf8Context : String) (length : UInt64) (bytes : Bytes) :
    Parse (Option String × Bytes) :=
  if length = 0 then .ok (none, bytes)
  else do
    let (raw, bytes) ← copyToBytes context length.toNat bytes
    let uri ← stringFromUtf8 utf8Context raw
    return (some uri, bytes)

/-- The length that `putUri` writes. -/
def uriLength : Option String → Nat
  | some uri => (asBytes uri).length
  | none => 0

theorem putUri_eq (uri : Option String) :
    putUri uri = putVi (UInt64.ofNat (uriLength uri)) ++ (uri.map asBytes).getD [] := by
  cases uri with
  | none => rfl
  | some uri => rfl

theorem getUri_reads (context utf8Context : String) {uri : Option String}
    (hne : uri ≠ some "") (hlen : uriLength uri < 2 ^ 64) :
    Reads (getUri context utf8Context (UInt64.ofNat (uriLength uri)))
      ((uri.map asBytes).getD []) uri := by
  intro tail
  cases uri with
  | none => rfl
  | some uri =>
    have hpos : (asBytes uri).length ≠ 0 := by
      intro hzero
      rw [length_asBytes, String.utf8ByteSize_eq_zero_iff] at hzero
      exact hne (congrArg some hzero)
    have hnat : (UInt64.ofNat (asBytes uri).length).toNat = (asBytes uri).length :=
      toNat_ofNat_length hlen
    have hnonzero : UInt64.ofNat (asBytes uri).length ≠ 0 := by
      intro hzero
      rw [hzero] at hnat
      exact hpos hnat.symm
    simp only [getUri, uriLength, Option.map_some, Option.getD_some, if_neg hnonzero, hnat,
      copyToBytes_append, except_ok_bind, stringFromUtf8_asBytes, except_pure]

theorem getUri_rewrites {context utf8Context : String} {length : UInt64} {bytes rest : Bytes}
    {uri : Option String} (h : getUri context utf8Context length bytes = .ok (uri, rest)) :
    uri ≠ some "" ∧ uriLength uri = length.toNat ∧
      ((uri.map asBytes).getD []).length + rest.length = bytes.length := by
  unfold getUri at h
  split at h
  next hzero =>
    cases h
    subst hzero
    exact ⟨Option.some_ne_none _ |>.symm, rfl, by simp⟩
  next hzero =>
    obtain ⟨⟨raw, left⟩, hcopy, h⟩ := except_bind_eq_ok.mp h
    obtain ⟨text, htext, hret⟩ := except_bind_eq_ok.mp h
    cases hret
    obtain ⟨hlen, rfl⟩ := copyToBytes_eq_ok hcopy
    have hraw := asBytes_of_stringFromUtf8 htext
    subst hraw
    refine ⟨?_, hlen, by simp⟩
    intro hempty
    cases hempty
    apply hzero
    rw [← UInt64.toNat_inj, ← hlen]
    rfl

/-! Redirects. -/

structure Redirect where
  connectUri : Option String
  trackNamespace : Tuple
  trackName : TupleField
deriving Repr, DecidableEq

namespace Redirect

def serialize (r : Redirect) : Bytes :=
  putUri r.connectUri ++ r.trackNamespace.serialize ++ putLengthPrefixed r.trackName

def deserialize (bytes : Bytes) : Parse (Redirect × Bytes) := do
  let (uriLen, bytes) ← getVi bytes
  let (connectUri, bytes) ← getUri "Redirect::deserialize(connect_uri)"
    "Redirect::deserialize(connect_uri)" uriLen bytes
  let (trackNamespace, bytes) ← Tuple.deserialize bytes
  let (trackName, bytes) ← getLengthPrefixed "Redirect::deserialize(track_name)" bytes
  return (⟨connectUri, trackNamespace, trackName⟩, bytes)

theorem deserialize_reads {r : Redirect} (hne : r.connectUri ≠ some "")
    (hlen : r.serialize.length < 2 ^ 64) : Reads deserialize r.serialize r := by
  intro tail
  simp only [serialize, putUri_eq, List.length_append, putLengthPrefixed] at hlen
  have huri : uriLength r.connectUri < 2 ^ 64 := by
    have : uriLength r.connectUri = ((r.connectUri.map asBytes).getD []).length := by
      cases r.connectUri <;> rfl
    omega
  simp only [deserialize, serialize, putUri_eq, List.append_assoc, getVi_putVi, except_ok_bind]
  rw [getUri_reads _ _ hne huri, except_ok_bind]
  simp only
  rw [Tuple.deserialize_reads (by omega), except_ok_bind]
  simp only
  rw [getLengthPrefixed_reads _ (by omega), except_ok_bind]
  rfl

theorem deserialize_rewrites {bytes rest : Bytes} {r : Redirect}
    (h : deserialize bytes = .ok (r, rest)) :
    r.connectUri ≠ some "" ∧ r.serialize.length + rest.length ≤ bytes.length := by
  obtain ⟨⟨uriLen, left⟩, hvi, h⟩ := except_bind_eq_ok.mp h
  obtain ⟨⟨connectUri, left'⟩, huri, h⟩ := except_bind_eq_ok.mp h
  obtain ⟨⟨trackNamespace, left''⟩, hnamespace, h⟩ := except_bind_eq_ok.mp h
  obtain ⟨⟨trackName, left'''⟩, hname, hret⟩ := except_bind_eq_ok.mp h
  cases hret
  have hconsumed := (getVi_consumes hvi).2
  obtain ⟨hne, hlength, hsize⟩ := getUri_rewrites huri
  have hofNat : UInt64.ofNat (uriLength connectUri) = uriLen := by
    rw [hlength, UInt64.ofNat_toNat]
  have htuple := Tuple.deserialize_rewrites hnamespace
  have hlast := getLengthPrefixed_rewrites hname
  refine ⟨hne, ?_⟩
  simp only [serialize, putUri_eq, hofNat, List.length_append, length_putVi] at hconsumed ⊢
  omega

end Redirect

end Moqtail
