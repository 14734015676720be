import MediasoupSdk.Foundation.AnnexB

/-! `DummyVideoSource` and `DummyH264Encoder`: frames that are encoded already go through WebRTC as
they are. -/
namespace MediasoupSdk
open Foundation

/-- `webrtc::H264::NaluIndex`. -/
structure NaluIndex where
  startOffset : ℕ
  payloadStartOffset : ℕ
  payloadSize : ℕ

/-- A frame by its buffer: that of `DummyVideoSource` is native, with the encoded data as its Y
plane. -/
structure VideoFrame where
  native : Bool
  width : ℕ
  height : ℕ
  renderTimeMs : ℤ
  data : List UInt8

inductive VideoFrameType where
  | key
  | delta
  deriving DecidableEq, Repr

structure EncodedImage where
  data : List UInt8
  encodedWidth : ℕ
  encodedHeight : ℕ
  captureTimeMs : ℤ
  frameType : VideoFrameType

/-- `DummyVideoSource` with its size. -/
structure DummyVideoSource where
  width : ℕ
  height : ℕ

def DummyVideoSource.inputFrame (source : DummyVideoSource) (timeMillis : ℤ) (data : List UInt8) :
    VideoFrame :=
  { native := true, width := source.width, height := source.height, renderTimeMs := timeMillis
    data }

namespace DummyH264Encoder

inductive VideoCodecStatus where
  | ok
  | errParameter
  | uninitialized
  deriving DecidableEq, Repr

/-- `webrtc::H264::ParseNaluType`. -/
def parseNaluType (b : UInt8) : ℕ := (b &&& 0x1F).toNat

/-- `kIdr`. -/
def idr : ℕ := 5

/-- The loop over the units that were found; it ends at an IDR slice. -/
def frameType (data : List UInt8) : List NaluIndex → VideoFrameType
  | [] => .delta
  | index :: rest =>
    if parseNaluType (data.getD index.payloadStartOffset 0) = idr then .key
    else frameType data rest

/-- The image goes to the callback, if there is one. The size is read as an `int`. -/
def encode (findNaluIndices : List UInt8 → List NaluIndex) (hasCallback : Bool)
    (frame : VideoFrame) : VideoCodecStatus × Option EncodedImage :=
  if !hasCallback then (.uninitialized, none)
  else if !frame.native then (.errParameter, none)
  else
    let data := frame.data.take (frame.data.length % 2 ^ 32)
    (.ok, some {
      data
      encodedWidth := frame.width
      encodedHeight := frame.height
      captureTimeMs := frame.renderTimeMs
      frameType := frameType data (findNaluIndices data) })

/-- `webrtc::H264::FindNaluIndices` finds a unit behind each start code that is not at the end. -/
def FindsUnits (findNaluIndices : List UInt8 → List NaluIndex) : Prop :=
  ∀ data i, (∃ index ∈ findNaluIndices data, index.payloadStartOffset = i) ↔
    StartCode.three.bytes <:+ data.take i ∧ i < data.length

theorem frameType_eq_key_iff {data : List UInt8} {indices : List NaluIndex} :
    frameType data indices = .key ↔
      ∃ index ∈ indices, parseNaluType (data.getD index.payloadStartOffset 0) = idr := by
  induction indices with
  | nil => simp [frameType]
  | cons index rest ih =>
    rw [frameType]
    split_ifs with h
    · exact iff_of_true rfl ⟨index, List.mem_cons_self, h⟩
    · rw [ih]
      constructor
      · rintro ⟨other, hother, htype⟩
        exact ⟨other, List.mem_cons_of_mem index hother, htype⟩
      · rintro ⟨other, hother, htype⟩
        rcases List.mem_cons.mp hother with rfl | hrest
        · exact absurd htype h
        · exact ⟨other, hrest, htype⟩

variable {findNaluIndices : List UInt8 → List NaluIndex} {us : List NalUnit}

/-- A stream is a key frame when one of its units is an IDR slice. -/
theorem frameType_annexB (hfind : FindsUnits findNaluIndices)
    (hus : ∀ u ∈ us, Plain u.payload ∧ u.payload ≠ []) :
    frameType (annexB us) (findNaluIndices (annexB us)) = .key ↔
      ∃ u ∈ us, parseNaluType (u.payload.headD 0) = idr := by
  have hplain : ∀ u ∈ us, Plain u.payload := fun u hu => (hus u hu).1
  have hhead {before after : List NalUnit} {u : NalUnit} (hsplit : us = before ++ u :: after) :
      (annexB us).getD (annexB before ++ u.code.bytes).length 0 = u.payload.headD 0 ∧
        (annexB before ++ u.code.bytes).length < (annexB us).length := by
    have hne := (hus u (by simp [hsplit])).2
    rw [hsplit, annexB_append, annexB_cons, ← List.append_assoc]
    cases hpayload : u.payload with
    | nil => exact absurd hpayload hne
    | cons b payload => simp
  rw [frameType_eq_key_iff]
  constructor
  · rintro ⟨index, hindex, htype⟩
    obtain ⟨hcode, hlt⟩ := (hfind _ _).mp ⟨index, hindex, rfl⟩
    obtain ⟨before, u, after, hsplit, hi⟩ := (three_suffix_take_iff hplain hlt.le).mp hcode
    rw [hi, (hhead hsplit).1] at htype
    exact ⟨u, by simp [hsplit], htype⟩
  · rintro ⟨u, hu, htype⟩
    obtain ⟨before, after, hsplit⟩ := List.append_of_mem hu
    obtain ⟨hget, hlt⟩ := hhead hsplit
    obtain ⟨index, hindex, hi⟩ := (hfind _ _).mpr
      ⟨(three_suffix_take_iff hplain hlt.le).mpr ⟨before, u, after, hsplit, rfl⟩, hlt⟩
    exact ⟨index, hindex, by rw [hi, hget, htype]⟩

end DummyH264Encoder
end MediasoupSdk
