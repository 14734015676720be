import MediasoupSdk.Media.Controller
import MediasoupSdk.Signaling.Sharing

/-! What `enableVideo` hands to `SendTransport::Produce`. -/
namespace MediasoupSdk
open Foundation Signaling

/-- The members of `webrtc::RtpEncodingParameters` that are set. -/
structure VideoEncoding where
  rid : String
  active : Bool
  maxBitrateBps : ℤ
  scaleResolutionDownBy : ℕ
  deriving DecidableEq, Repr

/-- The `codecOptions` object. -/
structure CodecOptions where
  videoGoogleStartBitrate : ℤ
  videoGoogleMaxBitrate : ℤ
  videoGoogleMinBitrate : ℤ
  deriving DecidableEq, Repr

/-- The arguments of `Produce`: the name of the track, and pointers that may be null. -/
structure ProduceArguments where
  trackName : String
  encodings : Option (List VideoEncoding)
  codecOptions : CodecOptions
  appData : Json

/-- The encodings that `init` configures. -/
def configVideoEncodings : List VideoEncoding :=
  [⟨"h", true, 5000000, 1⟩, ⟨"m", true, 1000000, 2⟩, ⟨"m", true, 500000, 4⟩]

namespace MediaController

def produceArguments (trackName : String) (mc : MediaController) : Option ProduceArguments := do
  let appData ← SharingAppData.toJson .null ⟨⟨trackName⟩⟩
  return {
    trackName
    encodings := if mc.options.useSimulcast.getD false then some configVideoEncodings else none
    codecOptions := ⟨20 * 1024, 20 * 1024, 0⟩
    appData }

theorem produceArguments_eq (trackName : String) (mc : MediaController) :
    mc.produceArguments trackName = some {
      trackName
      encodings := if mc.options.useSimulcast.getD false then some configVideoEncodings else none
      codecOptions := ⟨20 * 1024, 20 * 1024, 0⟩
      appData := SharingAppData.document trackName } := rfl

end MediaController

namespace Media

/-- The call of `Produce` that `enableVideo` makes, if it makes one. -/
def videoProduce (enabled : Bool) (trackName : String) (m : Media) : Option ProduceArguments :=
  match m.controller.mediasoupDevice with
  | none => none
  | some device =>
    if !device.canProduceVideo then none
    else if m.controller.sendTransport.isNone then none
    else if enabled then
      if (m.controller.producerMap.subscript none trackName).1.isSome then none
      else if (m.controller.sourceMap.subscript false trackName).1 then none
      else m.controller.produceArguments trackName
    else none

variable {m : Media} {enabled : Bool} {trackName : String}

/-- Without a call of `Produce` its result does not matter. -/
theorem enableVideo_independent (h : m.videoProduce enabled trackName = none)
    (produced produced' : Option Producer) :
    m.enableVideo enabled trackName produced = m.enableVideo enabled trackName produced' := by
  unfold videoProduce at h
  unfold enableVideo
  cases hd : m.controller.mediasoupDevice with
  | none => simp [hd]
  | some device =>
    simp only [hd, MediaController.produceArguments_eq] at h
    split_ifs at h with hcan hsend henabled hproducer hsource
    · simp [hd, hcan]
    · simp [hd, hcan, hsend]
    · simp [hd, hcan, hsend, henabled, hproducer]
    · simp [hd, hcan, hsend, henabled, hproducer, hsource]
    · simp [hd, hcan, hsend, henabled]

/-- Where `Produce` is called, `enableVideo` ends as it does. -/
theorem enableVideo_uncaught {arguments : ProduceArguments}
    (h : m.videoProduce enabled trackName = some arguments) :
    m.enableVideo enabled trackName none = .error .uncaught := by
  unfold videoProduce at h
  unfold enableVideo
  cases hd : m.controller.mediasoupDevice with
  | none => simp [hd] at h
  | some device =>
    simp only [hd] at h
    split_ifs at h with hcan hsend henabled hproducer hsource
    simp [hd, hcan, hsend, henabled, hproducer, hsource, bind, Except.bind]

theorem videoProduce_eq_some {arguments : ProduceArguments}
    (h : m.videoProduce enabled trackName = some arguments) :
    m.controller.sendTransport.isSome ∧
      m.controller.produceArguments trackName = some arguments := by
  unfold videoProduce at h
  cases hd : m.controller.mediasoupDevice with
  | none => simp [hd] at h
  | some device =>
    simp only [hd] at h
    split_ifs at h with hcan hsend henabled hproducer hsource
    exact ⟨by simpa [Option.isSome_iff_ne_none] using hsend, h⟩

end Media
end MediasoupSdk
