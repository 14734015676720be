import MediasoupSdk.Foundation.Loop
import MediasoupSdk.Sdk.H264Reader

/-! `PCMReader` and `YUVReader`: a thread reads frames of one size from a file, over and over. -/
namespace MediasoupSdk
open Foundation

/-- The frame size is the `size_t` that `fread` gets. -/
structure FrameReader where
  file : List UInt8
  frameSize : ℕ
  pos : ℕ := 0
  deriving DecidableEq

/-- `PCMReader`. -/
def PCMReader (file : List UInt8) (frameSize : ℕ) : FrameReader := { file, frameSize }

/-- `YUVReader`, when the product is an `int`. -/
def YUVReader (file : List UInt8) (width height : ℕ) : FrameReader :=
  { file, frameSize := width * height * 3 / 2 }

namespace FrameReader

/-- One round of `RunLoop`: `none` when `fread` writes behind the buffer. A read that reaches the
end of the file is dropped. -/
def readFrame (r : FrameReader) : FrameReader ⊕ Option (FrameReader × List UInt8) :=
  let data := (r.file.drop r.pos).take r.frameSize
  if maxBufferSize < data.length then .inr none
  else if data.length < r.frameSize then .inl { r with pos := 0 }
  else .inr (some ({ r with pos := r.pos + data.length }, data))

/-- The first frames that the callback gets; `some none` is a write behind the buffer. -/
def runLoop (fuel : ℕ) : ℕ → FrameReader → Option (Option (FrameReader × List (List UInt8)))
  | 0, r => some (some (r, []))
  | frames + 1, r =>
    (loop readFrame fuel r).bind fun
      | none => some none
      | some (r, data) =>
        (runLoop fuel frames r).map fun result => result.map fun (r, rest) => (r, data :: rest)

/-- The `k`-th frame of the file. -/
def frame (file : List UInt8) (frameSize k : ℕ) : List UInt8 :=
  (file.drop (k * frameSize)).take frameSize

variable {r : FrameReader} {file : List UInt8} {frameSize : ℕ}

theorem frame_length {k : ℕ} (h : k < file.length / frameSize) :
    (frame file frameSize k).length = frameSize := by
  have hpos : 0 < frameSize := by
    by_contra hzero
    rw [Nat.eq_zero_of_not_pos hzero, Nat.div_zero] at h
    omega
  have hle : (k + 1) * frameSize ≤ file.length := (Nat.le_div_iff_mul_le hpos).mp h
  rw [Nat.add_mul, Nat.one_mul] at hle
  rw [frame, List.length_take, List.length_drop]
  omega

/-- Behind the last whole frame the file ends. -/
theorem frame_short (hpos : 0 < frameSize) :
    (frame file frameSize (file.length / frameSize)).length < frameSize := by
  have hmod := Nat.mod_lt file.length hpos
  have hdiv := Nat.div_add_mod file.length frameSize
  rw [Nat.mul_comm] at hdiv
  rw [frame, List.length_take, List.length_drop]
  omega

theorem runLoop_mono {fuel fuel' frames : ℕ}
    {result : Option (FrameReader × List (List UInt8))} (hle : fuel ≤ fuel')
    (h : runLoop fuel frames r = some result) : runLoop fuel' frames r = some result := by
  induction frames generalizing r result with
  | zero => exact h
  | succ frames ih =>
    obtain ⟨read, hread, hrest⟩ := Option.bind_eq_some_iff.mp h
    rw [runLoop, loop_mono hread hle, Option.bind_some]
    cases read with
    | none => exact hrest
    | some read =>
      obtain ⟨rest, hloop, heq⟩ := Option.map_eq_some_iff.mp hrest
      exact Option.map_eq_some_iff.mpr ⟨rest, ih hloop, heq⟩

/-- A read from the place of a frame gives the next whole frame of the file. -/
theorem ends_with_frame (hpos : 0 < frameSize) (hsize : frameSize ≤ file.length)
    (hfits : frameSize ≤ maxBufferSize) {j : ℕ} (hj : j ≤ file.length / frameSize) :
    Ends readFrame ⟨file, frameSize, j * frameSize⟩
      (some (⟨file, frameSize, (j % (file.length / frameSize) + 1) * frameSize⟩,
        frame file frameSize (j % (file.length / frameSize)))) := by
  have hframes : 0 < file.length / frameSize := Nat.div_pos hsize hpos
  have hread {k : ℕ} (hk : k < file.length / frameSize) :
      Ends readFrame ⟨file, frameSize, k * frameSize⟩
        (some (⟨file, frameSize, (k + 1) * frameSize⟩, frame file frameSize k)) := by
    have hlength := frame_length hk
    rw [frame] at hlength
    apply ends_of_done
    simp only [readFrame, hlength]
    rw [if_neg (by omega), if_neg (by omega), Nat.add_mul, Nat.one_mul]
    rfl
  rcases Nat.lt_or_eq_of_le hj with hlt | rfl
  · rw [Nat.mod_eq_of_lt hlt]
    exact hread hlt
  · rw [Nat.mod_self]
    have hshort : (frame file frameSize (file.length / frameSize)).length < frameSize :=
      frame_short hpos
    rw [frame] at hshort
    have hgoes : Goes readFrame ⟨file, frameSize, file.length / frameSize * frameSize⟩
        ⟨file, frameSize, 0 * frameSize⟩ := by
      simp only [Goes, readFrame]
      rw [if_neg (by omega), if_pos hshort, Nat.zero_mul]
    exact hgoes.ends_iff.mpr (hread hframes)

/-- The callback gets the whole frames of the file in turn, over and over. -/
theorem whole_frames_in_turn (hpos : 0 < frameSize) (hsize : frameSize ≤ file.length)
    (hfits : frameSize ≤ maxBufferSize) (frames : ℕ) :
    ∃ fuel r, runLoop fuel frames { file, frameSize } = some (some (r,
      (List.range frames).map fun k => frame file frameSize (k % (file.length / frameSize)))) := by
  suffices hfrom : ∀ {j : ℕ}, j ≤ file.length / frameSize →
      ∃ fuel r, runLoop fuel frames ⟨file, frameSize, j * frameSize⟩ = some (some (r,
        (List.range frames).map fun k =>
          frame file frameSize ((j + k) % (file.length / frameSize)))) by
    obtain ⟨fuel, r, hrun⟩ := hfrom (Nat.zero_le _)
    refine ⟨fuel, r, ?_⟩
    simpa only [Nat.zero_mul, Nat.zero_add] using hrun
  have hwhole : 0 < file.length / frameSize := Nat.div_pos hsize hpos
  induction frames with
  | zero => exact fun _ => ⟨0, _, rfl⟩
  | succ frames ih =>
    intro j hj
    obtain ⟨fuel₁, hone⟩ := ends_with_frame hpos hsize hfits hj
    obtain ⟨fuel₂, r, hrest⟩ := ih (Nat.mod_lt j hwhole)
    refine ⟨max fuel₁ fuel₂, r, ?_⟩
    rw [runLoop, loop_mono hone (le_max_left _ _), Option.bind_some]
    simp only [runLoop_mono (le_max_right fuel₁ fuel₂) hrest, Option.map_some,
      List.range_succ_eq_map, List.map_cons, List.map_map, Nat.add_zero]
    refine congrArg (fun rest => some (some (r, _ :: rest))) (List.map_congr_left fun k _ => ?_)
    rw [Function.comp_apply, Nat.succ_add_eq_add_succ, Nat.mod_add_mod]

theorem whole_frames_in_turn_pcm :
    ∃ fuel r, runLoop fuel 5 (PCMReader [1, 2, 3, 4, 5, 6, 7] 3) = some (some (r,
      (List.range 5).map fun k => frame [1, 2, 3, 4, 5, 6, 7] 3 (k % (7 / 3)))) :=
  whole_frames_in_turn (by decide) (by decide) (by decide) 5

section Reads

/-- The reader of a file, wherever it stands. -/
def Of (file : List UInt8) (frameSize : ℕ) (r : FrameReader) : Prop :=
  r.file = file ∧ r.frameSize = frameSize

theorem Of.length_le (h : Of file frameSize r) :
    ((r.file.drop r.pos).take r.frameSize).length ≤ min frameSize file.length := by
  rw [h.1, h.2, List.length_take, List.length_drop]
  omega

theorem Of.goes (h : Of file frameSize r) {r' : FrameReader} (hgoes : Goes readFrame r r') :
    Of file frameSize r' := by
  rw [Goes, readFrame] at hgoes
  split_ifs at hgoes
  cases hgoes
  exact h

/-- What fits in the buffer is never written behind it. -/
theorem Of.ends (h : Of file frameSize r) (hfits : min frameSize file.length ≤ maxBufferSize)
    {fuel : ℕ} {read : Option (FrameReader × List UInt8)}
    (hread : loop readFrame fuel r = some read) :
    ∃ r' data, read = some (r', data) ∧ Of file frameSize r' := by
  refine loop_invariant (I := Of file frameSize)
    (Q := fun read => ∃ r' data, read = some (r', data) ∧ Of file frameSize r') ?_ ?_ h hread
  · exact fun r r' hr hgoes => hr.goes hgoes
  · intro r read hr hdone
    have hlength := hr.length_le
    simp only [readFrame] at hdone
    split_ifs at hdone with hover hshort
    · omega
    · cases hdone
      exact ⟨_, _, rfl, hr⟩

end Reads

/-- Bytes are written behind the buffer exactly if both the frame and the file are larger. -/
theorem runLoop_overruns_iff :
    (∃ fuel frames, runLoop fuel frames { file, frameSize } = some none) ↔
      maxBufferSize < min frameSize file.length := by
  constructor
  · rintro ⟨fuel, frames, hrun⟩
    by_contra hfits
    suffices hnever : ∀ {r : FrameReader}, Of file frameSize r →
        runLoop fuel frames r ≠ some none from hnever ⟨rfl, rfl⟩ hrun
    clear hrun
    induction frames with
    | zero => nofun
    | succ frames ih =>
      intro r hr hrun
      obtain ⟨read, hread, hrest⟩ := Option.bind_eq_some_iff.mp hrun
      obtain ⟨r', data, rfl, hr'⟩ := hr.ends (by omega) hread
      obtain ⟨result, hresult, hnone⟩ := Option.map_eq_some_iff.mp hrest
      rw [Option.map_eq_none_iff.mp hnone] at hresult
      exact ih hr' hresult
  · intro hover
    have hfirst : readFrame { file, frameSize } = .inr none := by
      simp only [readFrame, List.drop_zero, List.length_take]
      rw [if_pos hover]
    refine ⟨1, 1, ?_⟩
    simp [runLoop, loop, hfirst]

/-- A file without a whole frame is read for ever. -/
theorem runLoop_never_returns (hsize : file.length < frameSize)
    (hfits : file.length ≤ maxBufferSize) (fuel : ℕ) :
    runLoop fuel 1 { file, frameSize } = none := by
  have hgoes : ∀ r, Of file frameSize r →
      ∃ r', Relation.TransGen (Goes readFrame) r r' ∧ Of file frameSize r' := by
    intro r hr
    have hlength := hr.length_le
    have hgoes : Goes readFrame r { r with pos := 0 } := by
      simp only [Goes, readFrame]
      rw [if_neg (by omega), if_pos (by rw [hr.2] at hlength ⊢; omega)]
    exact ⟨_, Relation.TransGen.single hgoes, hr⟩
  have hnone := loop_eq_none_of_progress hgoes
    (s := ({ file, frameSize } : FrameReader)) ⟨rfl, rfl⟩ fuel
  rw [runLoop, hnone, Option.bind_none]

end FrameReader
end MediasoupSdk
