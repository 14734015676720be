import Mathlib.Data.List.Forall2
import MediasoupSdk.Media.VideoEncoder
import MediasoupSdk.Media.VideoTracks
import MediasoupSdk.Sdk.H264Reader

/-! The pusher: the frames of its reader go to the video source of a track, if there is one, and
through WebRTC to the encoder. -/
namespace MediasoupSdk
open Foundation DummyH264Encoder

/-- `_sourceMap` of the media controller. -/
abbrev VideoSources : Type := HashMap String (Option DummyVideoSource)

/-- `MediaController::inputFrame`: a frame for a track without a source is dropped. -/
def VideoSources.inputFrame (trackName : String) (timeMillis : ℤ) (data : List UInt8)
    (sourceMap : VideoSources) : VideoSources × Option VideoFrame :=
  let (ref, sourceMap) := sourceMap.subscript none trackName
  (sourceMap, ref.map fun source => source.inputFrame timeMillis data)

/-- The entries that it leaves are those of `Media.inputFrame`, which only tells whether a track has
a source. -/
theorem VideoSources.inputFrame_lookup (sourceMap : VideoSources) (trackName : String)
    (timeMillis : ℤ) (data : List UInt8) (m : Media)
    (h : ∀ t, m.controller.sourceMap.lookup t = (sourceMap.lookup t).map Option.isSome)
    (t : String) : (m.inputFrame trackName).controller.sourceMap.lookup t =
      ((sourceMap.inputFrame trackName timeMillis data).1.lookup t).map Option.isSome := by
  simp only [Media.inputFrame, VideoSources.inputFrame, HashMap.subscript, h]
  cases hsource : sourceMap.lookup trackName with
  | some source => exact h t
  | none =>
    simp only [Option.map_none, HashMap.lookup_insert_eq_ite, h]
    split_ifs <;> rfl

namespace Pusher

variable {findNaluIndices : List UInt8 → List NaluIndex} {us : List NalUnit}

/-- A moment at which a frame is put in: the sources of the media controller, if there is one. -/
structure Moment where
  mediaController : Option VideoSources
  timeMillis : ℤ

/-- `RtcClient::inputFrame`. -/
def inputFrame (trackName : String) (moment : Moment) (data : List UInt8) : Option VideoFrame := do
  let sourceMap ← moment.mediaController
  (sourceMap.inputFrame trackName moment.timeMillis data).2

/-- The data callback of `main`. -/
def onData (moment : Moment) (data : List UInt8) : Option VideoFrame :=
  if 0 < data.length then inputFrame "front" moment data else none

/-- The frames that WebRTC is given. -/
def sent (moments : List Moment) (frames : List (List UInt8)) : List VideoFrame :=
  (moments.zip frames).filterMap fun p => onData p.1 p.2

/-- WebRTC hands the frames on in their order, with their buffers as they are. It may drop some, and
sets their times. -/
def KeepsBuffers (webrtc : List VideoFrame → List VideoFrame) : Prop :=
  ∀ sent, ∃ kept, kept.Sublist sent ∧
    List.Forall₂ (fun frame before => ∃ time, frame = { before with renderTimeMs := time })
      (webrtc sent) kept

/-- The image of a slice: its frame as it is, a key frame for an IDR slice. -/
def image (source : DummyVideoSource) (timeMillis : ℤ) (data unit : List UInt8) : EncodedImage where
  data
  encodedWidth := source.width
  encodedHeight := source.height
  captureTimeMs := timeMillis
  frameType := if nalType unit = idr then .key else .delta

/-- Whenever the frame goes to the encoder, it becomes the image of this unit. -/
def Encodes (findNaluIndices : List UInt8 → List NaluIndex) (data : List UInt8)
    (item : StartCode × List UInt8) : Prop :=
  ∀ source : DummyVideoSource, ∀ timeMillis,
    encode findNaluIndices true (source.inputFrame timeMillis data) =
      (.ok, some (image source timeMillis data item.2))

/-- The encoder makes of the frame the image of a slice, whose source is the one of the moment at
which the slice was put in. -/
def Shows (findNaluIndices : List UInt8 → List NaluIndex) (frame : VideoFrame)
    (origin : Moment × List UInt8 × StartCode × List UInt8) : Prop :=
  ∃ sourceMap source, origin.1.mediaController = some sourceMap ∧
    sourceMap.lookup "front" = some (some source) ∧
    encode findNaluIndices true frame =
      (.ok, some (image source frame.renderTimeMs origin.2.1 origin.2.2.2))

/-- A parameter set that has been kept is units of a stream, none an IDR slice. -/
structure Units (bytes : List UInt8) : Prop where
  fits : bytes.length < maxBufferSize
  units : ∃ us, bytes = annexB us ∧
    ∀ u ∈ us, (Plain u.payload ∧ u.payload ≠ []) ∧ nalType u.payload ≠ idr

/-- A unit as the reader takes it, unless it is the first with its own code. -/
structure Whole (item : StartCode × List UInt8) : Prop where
  fits : item.1.bytes.length + item.2.length < maxBufferSize
  plain : Plain item.2
  nonempty : item.2 ≠ []

theorem units_nil : Units [] := ⟨maxBufferSize_pos, [], rfl, nofun⟩

theorem Whole.units {item : StartCode × List UInt8} (h : Whole item)
    (htype : nalType item.2 ≠ idr) : Units (item.1.bytes ++ item.2) := by
  refine ⟨?_, [⟨item.1, item.2⟩], by simp [annexB, NalUnit.bytes], ?_⟩
  · rw [List.length_append]
    exact h.fits
  · rintro u hu
    rw [List.mem_singleton.mp hu]
    exact ⟨⟨h.plain, h.nonempty⟩, htype⟩

/-- The encoder sees the units of a frame: those before the slice, and the slice. -/
theorem encodes_frame (hfind : FindsUnits findNaluIndices) (before : List NalUnit)
    {item : StartCode × List UInt8} (hitem : Whole item)
    (hbefore : ∀ u ∈ before, (Plain u.payload ∧ u.payload ≠ []) ∧ nalType u.payload ≠ idr)
    (hfits : (annexB before ++ (item.1.bytes ++ item.2)).length < 2 ^ 32) :
    Encodes findNaluIndices (annexB before ++ (item.1.bytes ++ item.2)) item := by
  have hunits : annexB before ++ (item.1.bytes ++ item.2) =
      annexB (before ++ [⟨item.1, item.2⟩]) := by
    rw [annexB_append]
    simp [annexB, NalUnit.bytes]
  have hplain : ∀ u ∈ before ++ [(⟨item.1, item.2⟩ : NalUnit)],
      Plain u.payload ∧ u.payload ≠ [] := by
    intro u hu
    rcases List.mem_append.mp hu with hu | hu
    · exact (hbefore u hu).1
    · rw [List.mem_singleton.mp hu]
      exact ⟨hitem.plain, hitem.nonempty⟩
  have hslice : (∃ u ∈ before ++ [(⟨item.1, item.2⟩ : NalUnit)],
      parseNaluType (u.payload.headD 0) = idr) ↔ nalType item.2 = idr := by
    constructor
    · rintro ⟨u, hu, htype⟩
      rcases List.mem_append.mp hu with hu | hu
      · exact absurd htype (hbefore u hu).2
      · rw [List.mem_singleton.mp hu] at htype
        exact htype
    · exact fun htype => ⟨⟨item.1, item.2⟩, by simp, htype⟩
  have hkey := (frameType_annexB hfind hplain).trans hslice
  rw [← hunits] at hkey
  have htype : frameType (annexB before ++ (item.1.bytes ++ item.2))
      (findNaluIndices (annexB before ++ (item.1.bytes ++ item.2))) =
        if nalType item.2 = idr then .key else .delta := by
    split_ifs with h
    · exact hkey.mpr h
    · cases hdelta : frameType (annexB before ++ (item.1.bytes ++ item.2))
        (findNaluIndices (annexB before ++ (item.1.bytes ++ item.2))) with
      | key => exact absurd (hkey.mp hdelta) h
      | delta => rfl
  intro source timeMillis
  simp only [encode, DummyVideoSource.inputFrame, Nat.mod_eq_of_lt hfits, List.take_length,
    htype]
  rfl

/-- The parameter sets that a reader keeps. -/
structure Sets (sets : ParameterSets) : Prop where
  sps : Units sets.sps
  pps : Units sets.pps

/-- A unit leaves sound parameter sets, and a slice becomes its image. -/
theorem receive_encodes (hfind : FindsUnits findNaluIndices) {sets : ParameterSets}
    {item : StartCode × List UInt8} (hsets : Sets sets) (hitem : Whole item) :
    Sets (sets.receive item).1 ∧
      ∀ data ∈ (sets.receive item).2, Encodes findNaluIndices data item := by
  have hfits := hitem.fits
  obtain ⟨hspsfits, sps, hsps, hspsunits⟩ := hsets.sps
  obtain ⟨hppsfits, pps, hpps, hppsunits⟩ := hsets.pps
  have hsmall : 3 * maxBufferSize < 2 ^ 32 := by decide
  unfold ParameterSets.receive
  simp only
  split
  · refine ⟨hsets, ?_⟩
    rintro data ⟨⟩
    refine encodes_frame hfind [] hitem nofun ?_
    simp only [List.length_append, show annexB [] = [] from rfl, List.length_nil]
    omega
  · refine ⟨hsets, ?_⟩
    rintro data ⟨⟩
    rw [hsps] at hspsfits
    rw [hpps] at hppsfits
    rw [hsps, hpps, ← annexB_append]
    refine encodes_frame hfind (sps ++ pps) hitem ?_ ?_
    · intro u hu
      rcases List.mem_append.mp hu with hu | hu
      · exact hspsunits u hu
      · exact hppsunits u hu
    · simp only [annexB_append, List.length_append]
      omega
  · next htype => exact ⟨⟨hitem.units (by rw [htype]; decide), hsets.pps⟩, nofun⟩
  · next htype => exact ⟨⟨hsets.sps, hitem.units (by rw [htype]; decide)⟩, nofun⟩
  · exact ⟨hsets, nofun⟩

section Run

open H264Reader

theorem whole_item (hus : Readable us) {k : ℕ} (hk : k ≠ 0) : Whole (item us k) := by
  have hmem := unitAt_mem hus.nonempty k
  have hlong := hus.long _ hmem
  have hfits := hus.fits _ hmem
  have hcode := StartCode.length_le (unitAt us (k + 1)).code
  have hpayload : (item us k).2 = (unitAt us k).payload := by
    rw [item, if_neg hk]
  refine ⟨?_, ?_, ?_⟩
  · rw [hpayload]
    show (unitAt us (k + 1)).code.bytes.length + _ < _
    omega
  · rw [hpayload]
    exact hus.plain _ hmem
  · rw [hpayload]
    exact List.ne_nil_of_length_pos (by omega)

/-- The slices among the first units that the reader takes. -/
def slicesTaken (us : List NalUnit) (k : ℕ) : List (StartCode × List UInt8) :=
  (items us k).filter fun item => IsSlice item.2

theorem received_images (hfind : FindsUnits findNaluIndices) (hus : Readable us) (k : ℕ) :
    Sets (received us k).1 ∧
      List.Forall₂ (Encodes findNaluIndices) (received us k).2 (slicesTaken us k) := by
  induction k with
  | zero => exact ⟨⟨units_nil, units_nil⟩, List.Forall₂.nil⟩
  | succ k ih =>
    obtain ⟨hsets, himages⟩ := ih
    have hitems : slicesTaken us (k + 1) = slicesTaken us k ++
        if IsSlice (item us k).2 then [item us k] else [] := by
      rw [slicesTaken, items, List.range_succ, List.map_append, List.filter_append]
      simp [slicesTaken, items, List.filter_singleton]
    rw [received_succ, hitems]
    by_cases hk : k = 0
    · subst hk
      have htype : nalType (item us 0).2 = 0 := nalType_bytes _
      have hnone : ¬ IsSlice (item us 0).2 := not_isSlice_bytes _
      rw [receive_sets, htype, receive_eq_none _ hnone, if_neg hnone]
      exact ⟨hsets, List.rel_append himages List.Forall₂.nil⟩
    · obtain ⟨hsets', hpush⟩ := receive_encodes hfind hsets (whole_item hus hk)
      refine ⟨hsets', List.rel_append himages ?_⟩
      split_ifs with hslice
      · obtain ⟨data, hdata⟩ := exists_receive (received us k).1 hslice
        rw [hdata] at hpush ⊢
        exact List.Forall₂.cons (hpush data rfl) List.Forall₂.nil
      · rw [receive_eq_none _ hslice]
        exact List.Forall₂.nil

theorem forall₂_filterMap {α β γ : Type*} {R : γ → β → Prop} {f : α → Option β} {l : List α} :
    ∀ {cs : List γ}, List.Forall₂ R cs (l.filterMap f) →
      ∃ l', l'.Sublist l ∧ List.Forall₂ (fun c a => ∃ b, f a = some b ∧ R c b) cs l' := by
  induction l with
  | nil =>
    intro cs h
    cases h
    exact ⟨[], List.Sublist.refl _, .nil⟩
  | cons a l ih =>
    intro cs h
    cases ha : f a with
    | none =>
      rw [List.filterMap_cons_none ha] at h
      obtain ⟨l', hl', hcs⟩ := ih h
      exact ⟨l', hl'.cons a, hcs⟩
    | some b =>
      rw [List.filterMap_cons_some ha] at h
      cases h with
      | cons hc h =>
        obtain ⟨l', hl', hcs⟩ := ih h
        exact ⟨a :: l', hl'.cons_cons a, .cons ⟨b, ha, hc⟩ hcs⟩

/-- A frame that is sent comes from the source of its moment. -/
theorem onData_eq_some {moment : Moment} {data : List UInt8} {frame : VideoFrame}
    (h : onData moment data = some frame) :
    ∃ sourceMap source, moment.mediaController = some sourceMap ∧
      sourceMap.lookup "front" = some (some source) ∧
      frame = source.inputFrame moment.timeMillis data := by
  unfold onData at h
  split_ifs at h with hsize
  obtain ⟨sourceMap, hmap, hframe⟩ := Option.bind_eq_some_iff.mp h
  simp only [VideoSources.inputFrame, HashMap.subscript] at hframe
  cases hlookup : sourceMap.lookup "front" with
  | none =>
    rw [hlookup] at hframe
    cases hframe
  | some ref =>
    rw [hlookup] at hframe
    obtain ⟨source, rfl, rfl⟩ := Option.map_eq_some_iff.mp hframe
    exact ⟨sourceMap, source, hmap, hlookup, rfl⟩

/-- What comes to the encoder shows slices that were put in, in their order. -/
theorem shows_sent {webrtc : List VideoFrame → List VideoFrame} (hwebrtc : KeepsBuffers webrtc)
    {moments : List Moment} {frames : List (List UInt8)} {slices : List (StartCode × List UInt8)}
    (h : List.Forall₂ (Encodes findNaluIndices) frames slices) :
    ∃ shown, shown.Sublist (moments.zip (frames.zip slices)) ∧
      List.Forall₂ (Shows findNaluIndices) (webrtc (sent moments frames)) shown := by
  have hsent : sent moments frames =
      (moments.zip (frames.zip slices)).filterMap fun p => onData p.1 p.2.1 := by
    have hfst : moments.zip frames =
        (moments.zip (frames.zip slices)).map fun p => (p.1, p.2.1) := by
      conv_lhs => rw [← List.map_fst_zip h.length_eq.le, ← List.map_id moments, List.zip_map]
      rfl
    rw [sent, hfst, List.filterMap_map]
    rfl
  obtain ⟨kept, hkept, hbuffers⟩ := hwebrtc (sent moments frames)
  rw [hsent] at hkept
  obtain ⟨taken, htaken, rfl⟩ := List.sublist_filterMap_iff.mp hkept
  obtain ⟨shown, hshown, hframes⟩ := forall₂_filterMap hbuffers
  have hmem : ∀ p ∈ shown, Encodes findNaluIndices p.2.1 p.2.2 := by
    intro p hp
    have hzip := (List.of_mem_zip ((hshown.trans htaken).subset hp)).2
    exact (List.forall₂_iff_zip.mp h).2 hzip
  refine ⟨shown, hshown.trans htaken, List.forall₂_iff_zip.mpr ⟨hframes.length_eq, ?_⟩⟩
  intro frame p hzip
  obtain ⟨before, hbefore, time, rfl⟩ := List.forall₂_zip hframes hzip
  obtain ⟨sourceMap, source, hmap, hsource, rfl⟩ := onData_eq_some hbefore
  exact ⟨sourceMap, source, hmap, hsource, hmem p (List.of_mem_zip hzip).2 source time⟩

/-- Each image that comes of a readable file shows a slice that the reader took, in the order in
which it took them, with the bytes unchanged; the key frames are the IDR slices. Frames are lost
while the track has no source, and where WebRTC drops them. -/
theorem pushed_images {webrtc : List VideoFrame → List VideoFrame}
    (hfind : FindsUnits findNaluIndices) (hwebrtc : KeepsBuffers webrtc) (hus : Readable us)
    (hslice : ∃ u ∈ us, IsSlice u.payload) (moments : List Moment) :
    ∃ fuel k r frames,
      runLoop fuel moments.length { file := annexB us } = some (r, frames) ∧
      frames.length = moments.length ∧ (slicesTaken us k).length = moments.length ∧
      ∃ shown, shown.Sublist (moments.zip (frames.zip (slicesTaken us k))) ∧
        List.Forall₂ (Shows findNaluIndices) (webrtc (sent moments frames)) shown := by
  obtain ⟨fuel, k, r, frames, -, -, hrun, hframes, hlength⟩ :=
    (at_start us).runLoop hus hslice moments.length
  rw [show (received us 0).2 = [] from rfl, List.nil_append] at hframes
  have himages := (received_images hfind hus k).2
  rw [hframes] at himages
  exact ⟨fuel, k, r, frames, hrun, hlength, himages.length_eq ▸ hlength, shows_sent hwebrtc himages⟩

/-- A search from place to place. -/
def findNaluIndices₀ (data : List UInt8) : List NaluIndex :=
  ((List.range data.length).filter fun i => StartCode.three.bytes <:+ data.take i).map fun i =>
    { startOffset := i - 3, payloadStartOffset := i, payloadSize := data.length - i }

/-- The track has its source from the second frame on. -/
def publishing : List Moment :=
  let sourceMap := (∅ : VideoSources).insert "front" (some ⟨1280, 720⟩)
  [⟨some ∅, 0⟩, ⟨some sourceMap, 100⟩, ⟨some sourceMap, 200⟩, ⟨some sourceMap, 300⟩]

/-- The first frame that is put in is dropped. -/
theorem pushed_images_shortFile :
    ∃ fuel k r frames,
      runLoop fuel publishing.length { file := annexB shortFile } = some (r, frames) ∧
      frames.length = publishing.length ∧ (slicesTaken shortFile k).length = publishing.length ∧
      ∃ shown, shown.Sublist (publishing.zip (frames.zip (slicesTaken shortFile k))) ∧
        List.Forall₂ (Shows findNaluIndices₀) ((sent publishing frames).drop 1) shown := by
  have hfind : FindsUnits findNaluIndices₀ := by
    intro data i
    simp [findNaluIndices₀, and_comm]
  have hwebrtc : KeepsBuffers (List.drop 1) := fun frames =>
    ⟨frames.drop 1, List.drop_sublist 1 frames, List.forall₂_same.mpr fun frame _ => ⟨_, rfl⟩⟩
  exact pushed_images hfind hwebrtc readable_shortFile (by decide) publishing

end Run

end Pusher
end MediasoupSdk
