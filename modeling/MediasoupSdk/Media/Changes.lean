import MediasoupSdk.Media.Controller

/-! The operations of the media controller keep its observer, which stays there or was not there
before, and the settings that the room client gave to the controller. Those on consumers keep all
the rest of the controller too. -/
namespace MediasoupSdk
open Foundation Signaling

def MediaController.withoutConsumers (mc : MediaController) : MediaController :=
  { mc with consumerMap := ∅, dataConsumerMap := ∅, consumerIdToPeerId := ∅ }

namespace Media

variable {m m' : Media}

/-- The participant controller is there afterwards exactly if it was there before. -/
def SameObserver (m m' : Media) : Prop := m'.observer.isSome = m.observer.isSome

/-- What the constructor and the setters of the controller leave is kept. -/
structure SameSettings (mc mc' : MediaController) : Prop where
  options : mc'.options = mc.options
  mediasoupDevice : mc'.mediasoupDevice = mc.mediasoupDevice
  sendTransport : mc'.sendTransport = mc.sendTransport
  recvTransport : mc'.recvTransport = mc.recvTransport

theorem SameSettings.refl (mc : MediaController) : SameSettings mc mc := ⟨rfl, rfl, rfl, rfl⟩

theorem SameSettings.trans {mc₁ mc₂ mc₃ : MediaController} (h₁ : SameSettings mc₁ mc₂)
    (h₂ : SameSettings mc₂ mc₃) : SameSettings mc₁ mc₃ :=
  ⟨h₂.options.trans h₁.options, h₂.mediasoupDevice.trans h₁.mediasoupDevice,
    h₂.sendTransport.trans h₁.sendTransport, h₂.recvTransport.trans h₁.recvTransport⟩

structure Keeps (m m' : Media) : Prop where
  observer : SameObserver m m'
  settings : SameSettings m.controller m'.controller

theorem Keeps.refl (m : Media) : Keeps m m := ⟨rfl, .refl _⟩

theorem Keeps.trans {m₁ m₂ m₃ : Media} (h₁ : Keeps m₁ m₂) (h₂ : Keeps m₂ m₃) : Keeps m₁ m₃ :=
  ⟨Eq.trans h₂.observer h₁.observer, h₁.settings.trans h₂.settings⟩

/-- Only members that the controller owns are changed. -/
theorem keeps_own {m : Media} {mic : Option Producer} {producers : HashMap String (Option Producer)}
    {sources : HashMap String Bool} {consumers : HashMap String (Option Consumer)}
    {dataConsumers : HashMap String (Option DataConsumer)} {peers : HashMap String String}
    {outgoing : List Outgoing} :
    Keeps m { m with
      controller := { m.controller with
        micProducer := mic, producerMap := producers, sourceMap := sources
        consumerMap := consumers, dataConsumerMap := dataConsumers, consumerIdToPeerId := peers }
      outgoing := outgoing } :=
  ⟨rfl, rfl, rfl, rfl, rfl⟩

/-- At most the consumers of the controller change. -/
structure Spares (m m' : Media) : Prop where
  observer : SameObserver m m'
  rest : m'.controller.withoutConsumers = m.controller.withoutConsumers

theorem Spares.refl (m : Media) : Spares m m := ⟨rfl, rfl⟩

theorem Spares.trans {m₁ m₂ m₃ : Media} (h₁ : Spares m₁ m₂) (h₂ : Spares m₂ m₃) : Spares m₁ m₃ :=
  ⟨Eq.trans h₂.observer h₁.observer, h₂.rest.trans h₁.rest⟩

theorem Spares.keeps (h : Spares m m') : Keeps m m' := by
  have hrest := h.rest
  simp only [MediaController.withoutConsumers, MediaController.mk.injEq] at hrest
  obtain ⟨hoptions, hdevice, hsend, hrecv, -⟩ := hrest
  exact ⟨h.observer, hoptions, hdevice, hsend, hrecv⟩

theorem spares_consumers {m : Media} {consumers : HashMap String (Option Consumer)}
    {dataConsumers : HashMap String (Option DataConsumer)} {peers : HashMap String String}
    {outgoing : List Outgoing} :
    Spares m { m with
      controller := { m.controller with
        consumerMap := consumers, dataConsumerMap := dataConsumers, consumerIdToPeerId := peers }
      outgoing := outgoing } :=
  ⟨rfl, rfl⟩

theorem enableAudio_keeps {enabled : Bool} {produced : Option Producer}
    (h : m.enableAudio enabled produced = .ok m') : Keeps m m' := by
  unfold enableAudio at h
  simp only at h
  split at h
  · cases h
    exact .refl m
  · split_ifs at h
    · cases h; exact .refl m
    · cases h; exact .refl m
    · cases h; exact .refl m
    · simp only [bind_ok, pure, Except.pure, Except.ok.injEq] at h
      obtain ⟨producer, -, rfl⟩ := h
      exact keeps_own
    · split at h
      · cases h; exact .refl m
      · cases h; exact keeps_own

theorem muteAudio_keeps (muted : Bool) (m : Media) : Keeps m (m.muteAudio muted) := by
  unfold muteAudio
  split
  · exact .refl m
  · exact keeps_own

theorem enableVideo_keeps {enabled : Bool} {trackName : String} {produced : Option Producer}
    (h : m.enableVideo enabled trackName produced = .ok m') : Keeps m m' := by
  unfold enableVideo at h
  simp only at h
  split at h
  · cases h
    exact .refl m
  · split_ifs at h
    · cases h; exact .refl m
    · cases h; exact .refl m
    · cases h; exact keeps_own
    · cases h; exact keeps_own
    · simp only [bind_ok, pure, Except.pure, Except.ok.injEq] at h
      obtain ⟨producer, -, rfl⟩ := h
      exact keeps_own
    · split at h
      · cases h; exact keeps_own
      · cases h; exact keeps_own

theorem notify_spares {handler : ParticipantController → Except Fault ParticipantController}
    (h : m.notify handler = .ok m') : Spares m m' := by
  unfold notify at h
  cases hm : m.observer with
  | none =>
    rw [hm] at h
    cases h
    exact .refl m
  | some pc =>
    rw [hm] at h
    simp only [bind_ok, pure, Except.pure, Except.ok.injEq] at h
    obtain ⟨pc', -, rfl⟩ := h
    exact ⟨by rw [SameObserver, hm]; rfl, rfl⟩

theorem getRemoteVideoTracks_rest {pid : String} {mc : MediaController}
    {r : Tracks × MediaController} (h : mc.getRemoteVideoTracks pid = .ok r) :
    r.2.withoutConsumers = mc.withoutConsumers := by
  simp only [MediaController.getRemoteVideoTracks, bind_ok, pure, Except.pure,
    Except.ok.injEq] at h
  obtain ⟨tracks, -, rfl⟩ := h
  rfl

theorem notifyVideoTrack_spares {pid : String}
    {handler : Except Fault Tracks → ParticipantController → Except Fault ParticipantController}
    (h : m.notifyVideoTrack handler pid = .ok m') : Spares m m' := by
  unfold notifyVideoTrack at h
  cases hm : m.observer with
  | none =>
    rw [hm] at h
    cases h
    exact .refl m
  | some pc =>
    rw [hm] at h
    simp only [bind_ok] at h
    obtain ⟨pc', -, h⟩ := h
    split_ifs at h
    · simp only [bind_ok, pure, Except.pure, Except.ok.injEq] at h
      obtain ⟨r, hr, rfl⟩ := h
      exact ⟨by rw [SameObserver, hm]; rfl, getRemoteVideoTracks_rest hr⟩
    · cases h
      exact ⟨by rw [SameObserver, hm]; rfl, rfl⟩

theorem notifyState_spares {kind : MediaKind} {pid : String} {muted : Bool}
    (h : m.notifyState kind pid muted = .ok m') : Spares m m' := by
  cases kind with
  | audio => exact notify_spares h
  | video => exact notify_spares h

theorem notifyCreate_spares {pid tid : String} {track : Track}
    {appData : NewConsumerRequest.AppData.Val}
    (h : m.notifyCreate pid tid track appData = .ok m') : Spares m m' := by
  unfold notifyCreate at h
  split at h
  · exact notify_spares h
  · exact notifyVideoTrack_spares h

theorem notifyRemove_spares {kind : MediaKind} {pid tid : String}
    (h : m.notifyRemove kind pid tid = .ok m') : Spares m m' := by
  cases kind with
  | audio => exact notify_spares h
  | video => exact notifyVideoTrack_spares h

theorem createNewConsumer_spares {request : SfuRequest NewConsumerRequest.Data}
    {consumed : Option Track} (h : m.createNewConsumer request consumed = .ok m') :
    Spares m m' := by
  unfold createNewConsumer at h
  split_ifs at h
  · cases h; exact .refl m
  · cases h; exact .refl m
  · simp only [bind_ok, pure, Except.pure, Except.ok.injEq] at h
    obtain ⟨data, -, rtp, -, appData, -, id, -, producerId, -, kind, -, track, -, paused, -,
      peerId, -, m₁, h₁, m₂, h₂, rfl⟩ := h
    have hcreate := notifyCreate_spares h₁
    have hstate := notifyState_spares h₂
    exact (spares_consumers.trans (hcreate.trans hstate)).trans spares_consumers

theorem createNewDataConsumer_spares {request : SfuRequest NewDataConsumerRequest.Data}
    {consumed : Option Unit} (h : m.createNewDataConsumer request consumed = .ok m') :
    Spares m m' := by
  unfold createNewDataConsumer at h
  split_ifs at h
  · cases h; exact .refl m
  · cases h; exact .refl m
  · cases h; exact .refl m
  · simp only [bind_ok, pure, Except.pure, Except.ok.injEq] at h
    obtain ⟨data, -, appData, -, id, -, producerId, -, sctp, -, streamId, -, label, -,
      protocol, -, u, -, rfl⟩ := h
    exact spares_consumers

theorem updateEntry_spares {tid : String} {paused : Bool}
    {e : Sigma fun _ : String => Option Consumer} (h : m.updateEntry tid paused e = .ok m') :
    Spares m m' := by
  simp only [updateEntry, bind_ok] at h
  obtain ⟨consumer, -, h⟩ := h
  split_ifs at h
  · cases h; exact .refl m
  · have hstate := notifyState_spares h
    exact spares_consumers.trans hstate

theorem updateConsumer_spares {tid : String} {paused : Bool}
    (h : m.updateConsumer tid paused = .ok m') : Spares m m' := by
  refine foldlM_keeps (P := Spares m) ?_ (.refl m) h
  intro m₁ h₁ e _ m₂ h₂
  exact h₁.trans (updateEntry_spares h₂)

theorem closeConsumer_spares {consumer : Consumer} (h : m.closeConsumer consumer = .ok m') :
    Spares m m' := by
  simp only [closeConsumer, bind_ok, pure, Except.pure, Except.ok.injEq] at h
  obtain ⟨m₁, h₁, m₂, h₂, rfl⟩ := h
  have hstate := notifyState_spares h₁
  have hremove := notifyRemove_spares h₂
  exact (spares_consumers.trans (hstate.trans hremove)).trans spares_consumers

theorem onConsumerClosed_spares {notification : Notification ConsumerNotification.Data}
    (h : m.onConsumerClosed notification = .ok m') : Spares m m' := by
  unfold onConsumerClosed at h
  generalize m.controller.consumerMap.entries = entries at h
  induction entries with
  | nil =>
    cases h
    exact .refl m
  | cons e rest ih =>
    simp only [onConsumerClosedLoop, bind_ok] at h
    obtain ⟨consumer, -, data, -, h⟩ := h
    split_ifs at h
    · exact closeConsumer_spares h
    · exact ih h

theorem createNewConsumer_keeps {request : SfuRequest NewConsumerRequest.Data}
    {consumed : Option Track} (h : m.createNewConsumer request consumed = .ok m') : Keeps m m' :=
  (createNewConsumer_spares h).keeps

theorem createNewDataConsumer_keeps {request : SfuRequest NewDataConsumerRequest.Data}
    {consumed : Option Unit} (h : m.createNewDataConsumer request consumed = .ok m') :
    Keeps m m' :=
  (createNewDataConsumer_spares h).keeps

theorem updateConsumer_keeps {tid : String} {paused : Bool}
    (h : m.updateConsumer tid paused = .ok m') : Keeps m m' :=
  (updateConsumer_spares h).keeps

theorem onConsumerClosed_keeps {notification : Notification ConsumerNotification.Data}
    (h : m.onConsumerClosed notification = .ok m') : Keeps m m' :=
  (onConsumerClosed_spares h).keeps

end Media
end MediasoupSdk
