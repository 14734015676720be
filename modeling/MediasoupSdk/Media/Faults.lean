import MediasoupSdk.Media.Controller

/-! The faults that the operations of the media controller cannot end with: a kind of fault is
avoided as soon as it leaves out the pointers and optionals that the operation reads. -/
namespace MediasoupSdk
open Foundation Signaling

variable {bad : Fault → Prop}

/-- The handlers of the participant controller fault only where their argument does. -/
theorem ParticipantController.updateParticipant_avoids {pid : String}
    {set : Except Fault (Participant → Participant)} {notify : ℕ → List ParticipantEvent}
    (hset : Avoids bad set) (pc : ParticipantController) :
    Avoids bad (pc.updateParticipant pid set notify) := by
  unfold updateParticipant
  split_ifs
  · exact avoids_ok _
  · split
    · exact avoids_ok _
    · exact hset.bind fun _ _ => avoids_pure _

namespace MediaController

theorem closeAll_avoids {V : Type} {p : Pointer} (hp : ¬ bad (.nullPointer p))
    (m : HashMap String (Option V)) : Avoids bad (closeAll p m) := by
  refine avoids_forM (fun e => ?_) m.entries
  exact (avoids_deref fun _ => hp).bind fun _ _ => avoids_pure _

theorem destroy_avoids (hproducer : ¬ bad (.nullPointer .producer))
    (hdata : ¬ bad (.nullPointer .dataConsumer)) (hconsumer : ¬ bad (.nullPointer .consumer))
    (mc : MediaController) : Avoids bad mc.destroy :=
  (closeAll_avoids hproducer _).bind fun _ _ => (closeAll_avoids hdata _).bind fun _ _ =>
    (closeAll_avoids hconsumer _).bind fun _ _ => avoids_pure _

variable (hconsumer : ¬ bad (.nullPointer .consumer))
include hconsumer

theorem getRemoteAudioTracks_avoids (pid : String) (mc : MediaController) :
    Avoids bad (mc.getRemoteAudioTracks pid) := by
  refine avoids_foldlM (fun tracks e => ?_) _ _
  refine (avoids_deref fun _ => hconsumer).bind fun consumer _ => ?_
  split_ifs
  · exact avoids_pure _
  · exact avoids_pure _

theorem getRemoteVideoTracks_avoids (pid : String) (mc : MediaController) :
    Avoids bad (mc.getRemoteVideoTracks pid) := by
  refine Avoids.bind (avoids_foldlM (fun p e => ?_) _ _) fun _ _ => avoids_pure _
  refine (avoids_deref fun _ => hconsumer).bind fun consumer _ => ?_
  split_ifs
  · exact avoids_pure _
  · exact avoids_pure _

end MediaController

namespace Media

variable {m : Media}

theorem notify_avoids {handler : ParticipantController → Except Fault ParticipantController}
    (hh : ∀ pc, Avoids bad (handler pc)) (m : Media) : Avoids bad (m.notify handler) := by
  unfold notify
  split
  · exact avoids_ok _
  · exact (hh _).bind fun _ _ => avoids_pure _

theorem notifyState_avoids (kind : MediaKind) (pid : String) (muted : Bool) (m : Media) :
    Avoids bad (m.notifyState kind pid muted) := by
  cases kind with
  | audio => exact notify_avoids (ParticipantController.updateParticipant_avoids (avoids_ok _)) m
  | video => exact notify_avoids (ParticipantController.updateParticipant_avoids (avoids_ok _)) m

theorem enableAudio_avoids (hu : ¬ bad .uncaught) (enabled : Bool) (produced : Option Producer)
    (m : Media) : Avoids bad (m.enableAudio enabled produced) := by
  unfold enableAudio
  simp only
  split
  · exact avoids_pure _
  · split_ifs
    · exact avoids_pure _
    · exact avoids_pure _
    · exact avoids_pure _
    · exact (avoids_mayThrow hu _).bind fun _ _ => avoids_pure _
    · split
      · exact avoids_pure _
      · exact avoids_pure _

theorem enableVideo_avoids (hu : ¬ bad .uncaught) (enabled : Bool) (trackName : String)
    (produced : Option Producer) (m : Media) :
    Avoids bad (m.enableVideo enabled trackName produced) := by
  unfold enableVideo
  simp only
  split
  · exact avoids_pure _
  · split_ifs
    · exact avoids_pure _
    · exact avoids_pure _
    · exact avoids_pure _
    · exact avoids_pure _
    · exact (avoids_mayThrow hu _).bind fun _ _ => avoids_pure _
    · split
      · exact avoids_pure _
      · exact avoids_pure _

variable (hconsumer : ¬ bad (.nullPointer .consumer))
include hconsumer

theorem notifyVideoTrack_avoids {pid : String}
    {handler : Except Fault Tracks → ParticipantController → Except Fault ParticipantController}
    (hh : ∀ tracks pc, Avoids bad tracks → Avoids bad (handler tracks pc)) (m : Media) :
    Avoids bad (m.notifyVideoTrack handler pid) := by
  have htracks := MediaController.getRemoteVideoTracks_avoids hconsumer pid m.controller
  unfold notifyVideoTrack
  split
  · exact avoids_ok _
  · refine (hh _ _ htracks.map).bind fun _ _ => ?_
    split_ifs
    · exact htracks.bind fun _ _ => avoids_pure _
    · exact avoids_pure _

theorem notifyCreate_avoids (pid tid : String) (track : Track)
    (appData : NewConsumerRequest.AppData.Val) (m : Media) :
    Avoids bad (m.notifyCreate pid tid track appData) := by
  unfold notifyCreate
  split
  · have htracks := MediaController.getRemoteAudioTracks_avoids hconsumer pid m.controller
    exact notify_avoids (ParticipantController.updateParticipant_avoids htracks.map) m
  · exact notifyVideoTrack_avoids hconsumer
      (fun _ pc h => ParticipantController.updateParticipant_avoids h.map pc) m

theorem notifyRemove_avoids (kind : MediaKind) (pid tid : String) (m : Media) :
    Avoids bad (m.notifyRemove kind pid tid) := by
  cases kind with
  | audio =>
    have htracks := MediaController.getRemoteAudioTracks_avoids hconsumer pid m.controller
    exact notify_avoids (ParticipantController.updateParticipant_avoids htracks.map) m
  | video =>
    exact notifyVideoTrack_avoids hconsumer
      (fun _ pc h => ParticipantController.updateParticipant_avoids h.map pc) m

theorem updateConsumer_avoids (tid : String) (paused : Bool) (m : Media) :
    Avoids bad (m.updateConsumer tid paused) := by
  refine avoids_foldlM (fun m e => ?_) _ _
  refine (avoids_deref fun _ => hconsumer).bind fun consumer _ => ?_
  split_ifs
  · exact avoids_pure _
  · exact notifyState_avoids _ _ _ _

theorem closeConsumer_avoids (consumer : Consumer) (m : Media) :
    Avoids bad (m.closeConsumer consumer) :=
  (notifyState_avoids _ _ _ _).bind fun _ _ =>
    (notifyRemove_avoids hconsumer _ _ _ _).bind fun _ _ => avoids_pure _

variable (hd : ¬ bad .disengaged)
include hd

theorem onConsumerClosed_avoids (notification : Notification ConsumerNotification.Data)
    (m : Media) : Avoids bad (m.onConsumerClosed notification) := by
  unfold onConsumerClosed
  generalize m.controller.consumerMap.entries = entries
  induction entries with
  | nil => exact avoids_ok _
  | cons e rest ih =>
    refine (avoids_deref fun _ => hconsumer).bind fun consumer _ => ?_
    refine (avoids_engaged hd _).bind fun data _ => ?_
    split_ifs
    · exact closeConsumer_avoids hconsumer _ _
    · exact ih

theorem createNewConsumer_avoids (hu : ¬ bad .uncaught)
    (request : SfuRequest NewConsumerRequest.Data) (consumed : Option Track) (m : Media) :
    Avoids bad (m.createNewConsumer request consumed) := by
  unfold createNewConsumer
  split_ifs
  · exact avoids_pure _
  · exact avoids_pure _
  · refine (avoids_engaged hd _).bind fun data _ => ?_
    refine (avoids_engaged hd _).bind fun rtpParameters _ => ?_
    refine (avoids_engaged hd _).bind fun appData _ => ?_
    refine (avoids_engaged hd _).bind fun id _ => ?_
    refine (avoids_engaged hd _).bind fun producerId _ => ?_
    refine (avoids_engaged hd _).bind fun kind _ => ?_
    refine (avoids_mayThrow hu _).bind fun track _ => ?_
    refine (avoids_engaged hd _).bind fun producerPaused _ => ?_
    refine (avoids_engaged hd _).bind fun peerId _ => ?_
    refine (notifyCreate_avoids hconsumer _ _ _ _ _).bind fun m₁ _ => ?_
    exact (notifyState_avoids _ _ _ _).bind fun m₂ _ => avoids_pure _

omit hconsumer in
theorem createNewDataConsumer_avoids (hu : ¬ bad .uncaught)
    (request : SfuRequest NewDataConsumerRequest.Data) (consumed : Option Unit) (m : Media) :
    Avoids bad (m.createNewDataConsumer request consumed) := by
  unfold createNewDataConsumer
  split_ifs
  · exact avoids_pure _
  · exact avoids_pure _
  · exact avoids_pure _
  · refine (avoids_engaged hd _).bind fun data _ => ?_
    refine (avoids_engaged hd _).bind fun appData _ => ?_
    refine (avoids_engaged hd _).bind fun id _ => ?_
    refine (avoids_engaged hd _).bind fun dataProducerId _ => ?_
    refine (avoids_engaged hd _).bind fun sctpStreamParameters _ => ?_
    refine (avoids_engaged hd _).bind fun streamId _ => ?_
    refine (avoids_engaged hd _).bind fun label _ => ?_
    refine (avoids_engaged hd _).bind fun protocol _ => ?_
    exact (avoids_mayThrow hu _).bind fun _ _ => avoids_pure _

end Media
end MediasoupSdk
