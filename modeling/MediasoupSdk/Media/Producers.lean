import MediasoupSdk.Foundation.Mirror
import MediasoupSdk.Media.Consume
import MediasoupSdk.Media.VideoSources

/-! The producers at the SFU. `Produce` opens one there, and the requests of the controller close,
pause and resume them by id. -/
namespace MediasoupSdk
open Foundation Signaling

/-- The calls and events of a controller. Those that use `Produce` come with what it does. -/
inductive ProducerAction where
  | enableAudio (enabled : Bool) (call : ProduceCall)
  | enableVideo (enabled : Bool) (trackName : String) (call : ProduceCall)
  | inputFrame (trackName : String)
  | media (e : MediaEvent)

namespace Media

/-- `enableAudio` calls `Produce`. -/
def audioProduce (enabled : Bool) (m : Media) : Bool :=
  match m.controller.mediasoupDevice with
  | none => false
  | some device =>
    device.canProduceAudio && m.controller.sendTransport.isSome && enabled &&
      m.controller.micProducer.isNone

/-- `enableAudio`, with the state that it leaves when `Produce` throws. -/
def tryEnableAudio (enabled : Bool) (call : ProduceCall) (m : Media) : Except Fault Media :=
  if m.audioProduce enabled then do
    match ← call.produce with
    | some producer => m.enableAudio enabled (some producer)
    | none => return m
  else m.enableAudio enabled none

def producerStep (m : Media) : ProducerAction → Except Fault Media
  | .enableAudio enabled call => m.tryEnableAudio enabled call
  | .enableVideo enabled trackName call => m.tryEnableVideo enabled trackName call
  | .inputFrame trackName => .ok (m.inputFrame trackName)
  | .media e => m.step e

/-- The call of `Produce` that an action makes. -/
def producing (m : Media) : ProducerAction → Option ProduceCall
  | .enableAudio enabled call => if m.audioProduce enabled then some call else none
  | .enableVideo enabled trackName call =>
    if (m.videoProduce enabled trackName).isSome then some call else none
  | _ => none

end Media

/-- The SFU opens a producer when it gives it an id. -/
def ProduceCall.opens (call : ProduceCall) : List (Command String Bool) :=
  match call.produce with
  | .ok (some producer) => if producer.id.isEmpty then [] else [.opened producer.id producer.paused]
  | _ => []

/-- What a message asks of a producer. -/
def Outgoing.command? : Outgoing → Option (Command String Bool)
  | .request (.closeProducer id) => some (.closed id)
  | .request (.pauseProducer id) => some (.flagged id true)
  | .request (.resumeProducer id) => some (.flagged id false)
  | _ => none

/-- The controller and the producers that the SFU has open for it, with their paused flags. -/
structure ProducerSession where
  media : Media
  sfu : Directory String Bool := fun _ => none

inductive ProducerFault where
  | media (f : Fault)
  | refused
  deriving DecidableEq

namespace ProducerSession

/-- What the SFU gets to do during an action. -/
def commands (m : Media) (a : ProducerAction) (m' : Media) : List (Command String Bool) :=
  ((m.producing a).map ProduceCall.opens).getD [] ++
    (m'.outgoing.drop m.outgoing.length).filterMap Outgoing.command?

def step (s : ProducerSession) (a : ProducerAction) : Except ProducerFault ProducerSession :=
  match s.media.producerStep a with
  | .error f => .error (.media f)
  | .ok media =>
    match s.sfu.followAll (commands s.media a media) with
    | none => .error .refused
    | some sfu => .ok { media, sfu }

/-- A call of `Produce` that returns brings an id that is not in use, and the controller is not
destroyed. -/
def ObtainsFresh (s : ProducerSession) (a : ProducerAction) : Prop :=
  (∀ call ∈ s.media.producing a, ∀ producer, call.produce = .ok (some producer) →
    producer.id.isEmpty = false ∧ s.sfu producer.id = none) ∧ a ≠ .media .destroy

/-- The producers that the controller holds. -/
def slots (m : Media) (slot : Option String) : Option (String × Bool) :=
  (m.controller.producerIn slot).map fun producer => (producer.id, producer.paused)

theorem commands_eq {m m' : Media} {a : ProducerAction} {sent : List Outgoing}
    (h : m'.outgoing = m.outgoing ++ sent) :
    commands m a m' =
      ((m.producing a).map ProduceCall.opens).getD [] ++ sent.filterMap Outgoing.command? := by
  rw [commands, h, List.drop_left]

end ProducerSession

namespace Media

variable {m m' : Media}

/-- The producers are left alone, and nothing is asked of the SFU about them. -/
structure SparesProducers (m m' : Media) : Prop where
  slots : ProducerSession.slots m' = ProducerSession.slots m
  sent : ∃ sent, m'.outgoing = m.outgoing ++ sent ∧ sent.filterMap Outgoing.command? = []

theorem slots_congr (hmic : m'.controller.micProducer = m.controller.micProducer)
    (hproducers : m'.controller.producerMap = m.controller.producerMap) :
    ProducerSession.slots m' = ProducerSession.slots m := by
  funext slot
  cases slot with
  | none => rw [ProducerSession.slots, ProducerSession.slots, MediaController.producerIn,
      MediaController.producerIn, hmic]
  | some trackName => rw [ProducerSession.slots, ProducerSession.slots,
      MediaController.producerIn, MediaController.producerIn, hproducers]

theorem Spares.slots (h : Spares m m') :
    ProducerSession.slots m' = ProducerSession.slots m := by
  have hrest := h.rest
  simp only [MediaController.withoutConsumers, MediaController.mk.injEq] at hrest
  obtain ⟨-, -, -, -, hmic, hproducers, -⟩ := hrest
  exact slots_congr hmic hproducers

theorem Spares.sparesProducers (h : Spares m m') {sent : List Outgoing}
    (houtgoing : m'.outgoing = m.outgoing ++ sent)
    (hsent : sent.filterMap Outgoing.command? = []) : SparesProducers m m' :=
  ⟨h.slots, sent, houtgoing, hsent⟩

theorem notifyState_outgoing {kind : MediaKind} {pid : String} {muted : Bool}
    (h : m.notifyState kind pid muted = .ok m') : m'.outgoing = m.outgoing := by
  cases kind with
  | audio => exact notify_outgoing h
  | video => exact notify_outgoing h

theorem notifyRemove_outgoing {kind : MediaKind} {pid tid : String}
    (h : m.notifyRemove kind pid tid = .ok m') : m'.outgoing = m.outgoing := by
  cases kind with
  | audio => exact notify_outgoing h
  | video => exact notifyVideoTrack_outgoing h

theorem createNewConsumer_sparesProducers {request : SfuRequest NewConsumerRequest.Data}
    {consumed : Option Track} (h : m.createNewConsumer request consumed = .ok m') :
    SparesProducers m m' := by
  have hspares := createNewConsumer_spares h
  unfold createNewConsumer at h
  split_ifs at h
  · cases h
    exact hspares.sparesProducers (List.append_nil _).symm rfl
  · cases h
    exact hspares.sparesProducers (List.append_nil _).symm rfl
  · simp only [bind_ok, pure, Except.pure, Except.ok.injEq] at h
    obtain ⟨data, -, rtp, -, appData, -, id, -, producerId, -, kind, -, track, -, paused, -,
      peerId, -, m₁, h₁, m₂, h₂, rfl⟩ := h
    have hcreate := notifyCreate_outgoing h₁
    have hstate := notifyState_outgoing h₂
    have hsent : (m₂.outgoing ++ [.answer request.id]) ++
        [.request (.setConsumerPreferredLayers id 1 1)] = m.outgoing ++ [.answer request.id,
          .request (.setConsumerPreferredLayers id 1 1)] := by
      rw [hstate, hcreate, List.append_assoc]
      rfl
    exact hspares.sparesProducers hsent rfl

theorem createNewDataConsumer_sparesProducers {request : SfuRequest NewDataConsumerRequest.Data}
    {consumed : Option Unit} (h : m.createNewDataConsumer request consumed = .ok m') :
    SparesProducers m m' := by
  have hspares := createNewDataConsumer_spares h
  unfold createNewDataConsumer at h
  split_ifs at h
  · cases h
    exact hspares.sparesProducers (List.append_nil _).symm rfl
  · cases h
    exact hspares.sparesProducers (List.append_nil _).symm rfl
  · cases h
    exact hspares.sparesProducers (List.append_nil _).symm rfl
  · simp only [bind_ok, pure, Except.pure, Except.ok.injEq] at h
    obtain ⟨data, -, appData, -, id, -, producerId, -, sctp, -, streamId, -, label, -,
      protocol, -, u, -, rfl⟩ := h
    exact ⟨hspares.slots, [.answer request.id], rfl, rfl⟩

theorem updateConsumer_outgoing {tid : String} {paused : Bool}
    (h : m.updateConsumer tid paused = .ok m') : m'.outgoing = m.outgoing := by
  refine foldlM_keeps (P := fun m₁ : Media => m₁.outgoing = m.outgoing) ?_ rfl h
  intro m₁ h₁ e _ m₂ h₂
  simp only [updateEntry, bind_ok] at h₂
  obtain ⟨consumer, -, h₂⟩ := h₂
  split_ifs at h₂
  · cases h₂
    exact h₁
  · exact (notifyState_outgoing h₂).trans h₁

theorem updateConsumer_sparesProducers {tid : String} {paused : Bool}
    (h : m.updateConsumer tid paused = .ok m') : SparesProducers m m' :=
  (updateConsumer_spares h).sparesProducers
    ((updateConsumer_outgoing h).trans (List.append_nil _).symm) rfl

theorem onConsumerPaused_sparesProducers {paused : Bool}
    {notification : Notification ConsumerNotification.Data}
    (h : m.onConsumerPaused paused notification = .ok m') : SparesProducers m m' := by
  simp only [onConsumerPaused, bind_ok] at h
  obtain ⟨data, -, h⟩ := h
  split_ifs at h
  · cases h
    exact ⟨rfl, [], (List.append_nil _).symm, rfl⟩
  · exact updateConsumer_sparesProducers h

theorem onConsumerClosed_outgoing {notification : Notification ConsumerNotification.Data}
    (h : m.onConsumerClosed notification = .ok m') : m'.outgoing = m.outgoing := by
  unfold onConsumerClosed at h
  generalize m.controller.consumerMap.entries = entries at h
  induction entries with
  | nil =>
    cases h
    rfl
  | cons e rest ih =>
    simp only [onConsumerClosedLoop, bind_ok] at h
    obtain ⟨consumer, -, data, -, h⟩ := h
    split_ifs at h
    · simp only [closeConsumer, bind_ok, pure, Except.pure, Except.ok.injEq] at h
      obtain ⟨m₁, h₁, m₂, h₂, rfl⟩ := h
      have hstate := notifyState_outgoing h₁
      have hremove := notifyRemove_outgoing h₂
      exact hremove.trans hstate
    · exact ih h

theorem mutePeer_sparesProducers {kind : MediaKind} {pid : String} {muted : Bool}
    (hs : m.controller.Stored) (h : m.mutePeer kind pid muted = .ok m') :
    SparesProducers m m' := by
  rw [mutePeer, muteLoop_eq hs m.controller.consumerIdToPeerId.nodupKeys, Except.ok.injEq] at h
  generalize targets kind pid m.controller m.controller.consumerIdToPeerId.entries = consumers
    at h
  obtain ⟨-, houtgoing, hcontroller⟩ := @foldl_muteConsumer_rest m muted consumers
  rw [h] at houtgoing hcontroller
  refine ⟨slots_congr ?_ ?_, _, houtgoing, ?_⟩
  · rw [hcontroller]
  · rw [hcontroller]
  · rw [List.filterMap_map, List.filterMap_eq_nil_iff]
    intro consumer _
    cases muted <;> rfl

theorem withController_sparesProducers {r : Except Fault MediaController}
    (hr : ∀ mc, r = .ok mc → mc.micProducer = m.controller.micProducer ∧
      mc.producerMap = m.controller.producerMap)
    (h : m.withController r = .ok m') : SparesProducers m m' := by
  simp only [withController, bind_ok, pure, Except.pure, Except.ok.injEq] at h
  obtain ⟨mc, hmc, rfl⟩ := h
  exact ⟨slots_congr (hr mc hmc).1 (hr mc hmc).2, [], (List.append_nil _).symm, rfl⟩

theorem isMuted_sparesProducers {kind : MediaKind} {pid : String} (hs : m.controller.Stored)
    (h : m.withController ((m.controller.isMuted kind pid).map Prod.snd) = .ok m') :
    SparesProducers m m' := by
  refine withController_sparesProducers (fun mc hmc => ?_) h
  obtain ⟨r, hr, rfl⟩ := map_ok.mp hmc
  rw [MediaController.isMuted_eq hs] at hr
  split at hr
  · cases hr
    exact ⟨rfl, rfl⟩
  · split_ifs at hr
    cases hr
    exact ⟨rfl, rfl⟩

/-- Every event of the controller spares its producers, except `muteAudio` and `destroy`. -/
theorem step_sparesProducers {e : MediaEvent} (hs : m.controller.Stored)
    (hmute : ∀ muted, e ≠ .muteAudio muted) (hdestroy : e ≠ .destroy) (h : m.step e = .ok m') :
    SparesProducers m m' := by
  cases e with
  | newConsumer request consumed => exact createNewConsumer_sparesProducers h
  | newDataConsumer request consumed => exact createNewDataConsumer_sparesProducers h
  | consumerClosed notification =>
    exact (onConsumerClosed_spares h).sparesProducers
      ((onConsumerClosed_outgoing h).trans (List.append_nil _).symm) rfl
  | dataConsumerClosed notification =>
    cases h
    exact ⟨rfl, [], (List.append_nil _).symm, rfl⟩
  | consumerPaused notification => exact onConsumerPaused_sparesProducers h
  | consumerResumed notification => exact onConsumerPaused_sparesProducers h
  | muteAudio muted => exact absurd rfl (hmute muted)
  | muteAudioOf pid muted => exact mutePeer_sparesProducers hs h
  | muteVideo pid muted => exact mutePeer_sparesProducers hs h
  | isAudioMuted pid => exact isMuted_sparesProducers hs h
  | isVideoMuted pid => exact isMuted_sparesProducers hs h
  | getRemoteAudioTracks pid =>
    refine withController_sparesProducers (fun mc hmc => ?_) h
    obtain ⟨r, -, rfl⟩ := map_ok.mp hmc
    exact ⟨rfl, rfl⟩
  | getRemoteVideoTracks pid =>
    refine withController_sparesProducers (fun mc hmc => ?_) h
    obtain ⟨r, hr, rfl⟩ := map_ok.mp hmc
    rw [MediaController.getRemoteVideoTracks_eq hs] at hr
    cases hr
    exact ⟨rfl, rfl⟩
  | destroy => exact absurd rfl hdestroy

/-- One slot changes. -/
theorem slots_update {slot : Option String} {producer : Option Producer}
    (h : ∀ slot', m'.controller.producerIn slot' =
      if slot' = slot then producer else m.controller.producerIn slot') :
    ProducerSession.slots m' = Function.update (ProducerSession.slots m) slot
      (producer.map fun producer => (producer.id, producer.paused)) := by
  funext slot'
  rw [Function.update_apply, ProducerSession.slots, h]
  split_ifs <;> rfl

theorem SparesProducers.moves {a : ProducerAction} (h : SparesProducers m m')
    (hproduce : m.producing a = none) :
    Moves (ProducerSession.slots m) (ProducerSession.commands m a m')
      (ProducerSession.slots m') := by
  obtain ⟨sent, houtgoing, hsent⟩ := h.sent
  rw [ProducerSession.commands_eq houtgoing, hproduce, hsent, h.slots]
  exact .stay

theorem slots_mic {producer : Option Producer}
    (h : m'.controller = { m.controller with micProducer := producer }) :
    ProducerSession.slots m' = Function.update (ProducerSession.slots m) none
      (producer.map fun producer => (producer.id, producer.paused)) := by
  refine slots_update fun slot => ?_
  rw [h]
  cases slot <;> rfl

theorem slots_none {producer : Producer} (hmic : m.controller.micProducer = some producer) :
    ProducerSession.slots m none = some (producer.id, producer.paused) := by
  rw [ProducerSession.slots, MediaController.producerIn, hmic, Option.map_some]

/-- An id that a call of `Produce` brings is one. -/
def ProducesId (call : ProduceCall) : Prop :=
  ∀ producer, call.produce = .ok (some producer) → producer.id.isEmpty = false

theorem opens_of_produce {call : ProduceCall} (hid : ProducesId call) {producer : Producer}
    (h : call.produce = .ok (some producer)) :
    call.opens = [.opened producer.id producer.paused] := by
  rw [ProduceCall.opens, h]
  simp only [hid producer h, Bool.false_eq_true, if_false]

/-- Where `Produce` is called, there is no producer yet, and what is returned becomes it. -/
theorem enableAudio_produced {enabled : Bool} (hproduce : m.audioProduce enabled = true)
    (producer : Producer) : m.controller.micProducer = none ∧
      m.enableAudio enabled (some producer) =
        .ok { m with controller := { m.controller with micProducer := some producer } } := by
  unfold audioProduce at hproduce
  unfold enableAudio
  cases hd : m.controller.mediasoupDevice with
  | none => simp [hd] at hproduce
  | some device =>
    simp only [hd, Bool.and_eq_true, Option.isNone_iff_eq_none] at hproduce
    obtain ⟨⟨⟨hcan, hsend⟩, henabled⟩, hmic⟩ := hproduce
    have hsend' : m.controller.sendTransport.isNone = false := by simpa using hsend
    refine ⟨hmic, ?_⟩
    simp [hd, hcan, hsend', henabled, hmic, mayThrow_some, bind, Except.bind, pure, Except.pure]

/-- Elsewhere a call that returns does nothing, or closes the producer that is there. -/
theorem enableAudio_closed {enabled : Bool} (h : m.enableAudio enabled none = .ok m') :
    m' = m ∨ ∃ producer, m.controller.micProducer = some producer ∧
      m' = Media.push (.request (.closeProducer producer.id))
        { m with controller := { m.controller with micProducer := none } } := by
  unfold enableAudio at h
  simp only at h
  split at h
  · cases h
    exact Or.inl rfl
  · split_ifs at h
    · cases h
      exact Or.inl rfl
    · cases h
      exact Or.inl rfl
    · cases h
      exact Or.inl rfl
    · cases h
    · split at h
      · cases h
        exact Or.inl rfl
      · rename_i producer hmic
        cases h
        exact Or.inr ⟨producer, hmic, rfl⟩

theorem enableAudio_moves {enabled : Bool} {call : ProduceCall}
    (hid : m.audioProduce enabled = true → ProducesId call)
    (h : m.tryEnableAudio enabled call = .ok m') :
    Moves (ProducerSession.slots m)
      (ProducerSession.commands m (.enableAudio enabled call) m') (ProducerSession.slots m') := by
  unfold tryEnableAudio at h
  split_ifs at h with hproduce
  · have hproducing : m.producing (.enableAudio enabled call) = some call := if_pos hproduce
    obtain ⟨produced, hcall, h⟩ := bind_ok.mp h
    cases produced with
    | none =>
      cases h
      rw [ProducerSession.commands_eq (List.append_nil _).symm, hproducing, Option.map_some,
        Option.getD_some, ProduceCall.opens, hcall]
      exact .stay
    | some producer =>
      obtain ⟨hmic, hrun⟩ := enableAudio_produced hproduce producer
      have hm' := Except.ok.inj (hrun.symm.trans h)
      have houtgoing : m'.outgoing = m.outgoing ++ [] := by rw [← hm', List.append_nil]
      rw [ProducerSession.commands_eq houtgoing, hproducing, Option.map_some, Option.getD_some,
        opens_of_produce (hid hproduce) hcall,
        slots_mic (congrArg controller hm').symm]
      exact .put (by rw [ProducerSession.slots, MediaController.producerIn, hmic, Option.map_none])
  · have hproducing : m.producing (.enableAudio enabled call) = none := if_neg hproduce
    rcases enableAudio_closed h with rfl | ⟨producer, hmic, hm'⟩
    · exact SparesProducers.moves ⟨rfl, [], (List.append_nil _).symm, rfl⟩ hproducing
    · have houtgoing : m'.outgoing = m.outgoing ++ [.request (.closeProducer producer.id)] :=
        congrArg outgoing hm'
      have hcontroller : m'.controller = { m.controller with micProducer := none } :=
        congrArg controller hm'
      rw [ProducerSession.commands_eq houtgoing, hproducing, slots_mic hcontroller]
      exact .drop (slots_none hmic)

theorem muteAudio_moves (muted : Bool) :
    Moves (ProducerSession.slots m)
      (ProducerSession.commands m (.media (.muteAudio muted)) (m.muteAudio muted))
      (ProducerSession.slots (m.muteAudio muted)) := by
  cases hmic : m.controller.micProducer with
  | none =>
    have hm' : m.muteAudio muted = m := by rw [muteAudio, hmic]
    rw [hm']
    exact SparesProducers.moves ⟨rfl, [], (List.append_nil _).symm, rfl⟩ rfl
  | some producer =>
    have hm' : m.muteAudio muted = Media.push
        (.request (if muted then .pauseProducer producer.id else .resumeProducer producer.id))
        { m with controller := { m.controller with
            micProducer := some { producer with paused := muted } } } := by
      rw [muteAudio, hmic]
    have houtgoing : (m.muteAudio muted).outgoing = m.outgoing ++ [.request
        (if muted then .pauseProducer producer.id else .resumeProducer producer.id)] :=
      congrArg outgoing hm'
    have hcontroller : (m.muteAudio muted).controller = { m.controller with
        micProducer := some { producer with paused := muted } } := congrArg controller hm'
    rw [ProducerSession.commands_eq houtgoing, slots_mic hcontroller]
    cases muted with
    | false => exact .set (slots_none hmic)
    | true => exact .set (slots_none hmic)

/-- A call that closes the producer of its track name tells the SFU, and no other call does. -/
theorem enableVideo_outgoing {enabled : Bool} {trackName : String} {produced : Option Producer}
    (hsend : m.CanSend) (h : m.enableVideo enabled trackName produced = .ok m') :
    m'.outgoing = m.outgoing ++ if enabled then [] else
      (m.pointerAt trackName).toList.map fun producer => .request (.closeProducer producer.id) := by
  have hp : (m.controller.producerMap.subscript none trackName).1 = m.pointerAt trackName :=
    HashMap.subscript_fst none m.controller.producerMap trackName
  obtain ⟨⟨device, hd, hcan⟩, hsend⟩ := hsend
  have hsend' : m.controller.sendTransport.isNone = false := by simpa using hsend
  simp only [enableVideo, hd, hcan, hsend', Bool.not_true, Bool.false_eq_true, if_false, hp] at h
  cases enabled with
  | true =>
    simp only [if_true] at h ⊢
    split_ifs at h
    · cases h
      exact (List.append_nil _).symm
    · cases h
      exact (List.append_nil _).symm
    · simp only [bind_ok, pure, Except.pure, Except.ok.injEq] at h
      obtain ⟨producer, -, rfl⟩ := h
      exact (List.append_nil _).symm
  | false =>
    simp only [Bool.false_eq_true, if_false] at h ⊢
    cases hpointer : m.pointerAt trackName with
    | none =>
      simp only [hpointer] at h
      cases h
      exact (List.append_nil _).symm
    | some producer =>
      simp only [hpointer] at h
      cases h
      rfl

theorem Sets.slots {trackName : String} {producer : Option Producer} {source : Bool}
    (h : Sets trackName producer source m m') :
    ProducerSession.slots m' = Function.update (ProducerSession.slots m) (some trackName)
      (producer.map fun producer => (producer.id, producer.paused)) := by
  refine slots_update fun slot => ?_
  cases slot with
  | none => exact h.rest.1
  | some t =>
    rw [(h.producerIn t).1]
    simp only [Option.some.injEq]

theorem slots_some (m : Media) (trackName : String) :
    ProducerSession.slots m (some trackName) =
      (m.pointerAt trackName).map fun producer => (producer.id, producer.paused) := by
  rw [ProducerSession.slots, pointerAt_eq]

theorem enableVideo_moves {enabled : Bool} {trackName : String} {call : ProduceCall}
    (hid : (m.videoProduce enabled trackName).isSome → ProducesId call)
    (h : m.tryEnableVideo enabled trackName call = .ok m') :
    Moves (ProducerSession.slots m)
      (ProducerSession.commands m (.enableVideo enabled trackName call) m')
      (ProducerSession.slots m') := by
  by_cases hsend : m.CanSend
  · obtain ⟨produced, hcall, hsets⟩ := tryEnableVideo_sets hsend h
    rw [hsets.slots]
    by_cases hproduce : (m.videoProduce enabled trackName).isSome
    · have hproducing : m.producing (.enableVideo enabled trackName call) = some call :=
        if_pos hproduce
      have hproduced := hcall hproduce
      obtain ⟨henabled, hp, hs⟩ := (videoProduce_isSome_iff hsend).mp hproduce
      have houtgoing : m'.outgoing = m.outgoing ++ [] := by
        rw [tryEnableVideo, if_pos hproduce, hproduced] at h
        cases produced with
        | none =>
          cases h
          exact (List.append_nil _).symm
        | some producer =>
          have hsent := enableVideo_outgoing hsend h
          rwa [if_pos henabled] at hsent
      have hempty : ProducerSession.slots m (some trackName) = none := by
        rw [slots_some, hp, Option.map_none]
      rw [ProducerSession.commands_eq houtgoing, hproducing, Option.map_some, Option.getD_some,
        henabled, hp, hs]
      cases produced with
      | none =>
        rw [ProduceCall.opens, hproduced]
        exact .same hempty
      | some producer =>
        rw [opens_of_produce (hid hproduce) hproduced]
        exact .put hempty
    · have hproducing : m.producing (.enableVideo enabled trackName call) = none :=
        if_neg hproduce
      rw [tryEnableVideo, if_neg hproduce] at h
      rw [ProducerSession.commands_eq (enableVideo_outgoing hsend h), hproducing]
      cases enabled with
      | true =>
        have hkept : (entriesAfter true produced (m.pointerAt trackName)
            (m.controller.sourceAt trackName)).1 = m.pointerAt trackName := by
          rw [videoProduce_isSome_iff hsend] at hproduce
          rw [entriesAfter, if_pos rfl, if_pos]
          rw [Bool.or_eq_true, Option.isSome_iff_ne_none]
          by_contra hnot
          simp only [not_or, not_not, Bool.not_eq_true] at hnot
          exact hproduce ⟨rfl, hnot.1, hnot.2⟩
        rw [hkept]
        exact .same (slots_some m trackName)
      | false =>
        have hslot := slots_some m trackName
        cases hp : m.pointerAt trackName with
        | none =>
          rw [hp, Option.map_none] at hslot
          exact .same hslot
        | some producer =>
          rw [hp, Option.map_some] at hslot
          exact .drop hslot
  · rw [tryEnableVideo_blocked hsend, Except.ok.injEq] at h
    subst h
    refine SparesProducers.moves ⟨rfl, [], (List.append_nil _).symm, rfl⟩ ?_
    rw [producing, videoProduce_blocked hsend]
    rfl

theorem inputFrame_moves (trackName : String) :
    Moves (ProducerSession.slots m)
      (ProducerSession.commands m (.inputFrame trackName) (m.inputFrame trackName))
      (ProducerSession.slots (m.inputFrame trackName)) :=
  SparesProducers.moves ⟨slots_congr rfl rfl, [], (List.append_nil _).symm, rfl⟩ rfl

/-- Each action but `destroy` moves the producers as the SFU is told, if the ids that `Produce`
brings are not empty. -/
theorem producerStep_moves {a : ProducerAction} (hs : m.controller.Stored)
    (hid : ∀ call ∈ m.producing a, ProducesId call) (hdestroy : a ≠ .media .destroy)
    (h : m.producerStep a = .ok m') :
    Moves (ProducerSession.slots m) (ProducerSession.commands m a m')
      (ProducerSession.slots m') := by
  cases a with
  | enableAudio enabled call =>
    exact enableAudio_moves (fun hproduce => hid call (if_pos hproduce)) h
  | enableVideo enabled trackName call =>
    exact enableVideo_moves (fun hproduce => hid call (if_pos hproduce)) h
  | inputFrame trackName =>
    cases h
    exact inputFrame_moves trackName
  | media e =>
    by_cases hmute : ∃ muted, e = .muteAudio muted
    · obtain ⟨muted, rfl⟩ := hmute
      cases h
      exact muteAudio_moves muted
    · rw [not_exists] at hmute
      have he : e ≠ .destroy := fun he => hdestroy (he ▸ rfl)
      exact (step_sparesProducers hs hmute he h).moves rfl

/-- What `Produce` opened is what its call brought. -/
theorem opened_mem_commands {a : ProducerAction} {id : String} {paused : Bool}
    (h : .opened id paused ∈ ProducerSession.commands m a m') :
    ∃ call ∈ m.producing a, ∃ producer, call.produce = .ok (some producer) ∧ producer.id = id := by
  rw [ProducerSession.commands, List.mem_append] at h
  rcases h with h | h
  · cases hcall : m.producing a with
    | none => simp [hcall] at h
    | some call =>
      rw [hcall, Option.map_some, Option.getD_some, ProduceCall.opens] at h
      split at h
      · rename_i producer hproduce
        split_ifs at h
        · cases h
        · rw [List.mem_singleton, Command.opened.injEq] at h
          exact ⟨call, rfl, producer, hproduce, h.1.symm⟩
      · cases h
  · obtain ⟨o, -, ho⟩ := List.mem_filterMap.mp h
    unfold Outgoing.command? at ho
    split at ho <;> cases ho

theorem tryEnableAudio_grown {enabled : Bool} {call : ProduceCall}
    (h : m.tryEnableAudio enabled call = .ok m') :
    MediaController.Grown m.controller m'.controller := by
  unfold tryEnableAudio at h
  split_ifs at h with hproduce
  · obtain ⟨produced, -, h⟩ := bind_ok.mp h
    cases produced with
    | none =>
      cases h
      exact ⟨rfl, fun _ ht => ht⟩
    | some producer =>
      have hm' := Except.ok.inj ((enableAudio_produced hproduce producer).2.symm.trans h)
      rw [← hm']
      exact ⟨rfl, fun _ ht => ht⟩
  · rcases enableAudio_closed h with rfl | ⟨producer, -, rfl⟩
    · exact ⟨rfl, fun _ ht => ht⟩
    · exact ⟨rfl, fun _ ht => ht⟩

theorem enableVideo_grown {enabled : Bool} {trackName : String} {produced : Option Producer}
    (h : m.enableVideo enabled trackName produced = .ok m') :
    MediaController.Grown m.controller m'.controller := by
  unfold enableVideo at h
  simp only at h
  split at h
  · cases h
    exact ⟨rfl, fun _ ht => ht⟩
  · split_ifs at h
    · cases h
      exact ⟨rfl, fun _ ht => ht⟩
    · cases h
      exact ⟨rfl, fun _ ht => ht⟩
    · cases h
      exact ⟨rfl, fun _ ht => ht⟩
    · cases h
      exact ⟨rfl, fun _ ht => ht⟩
    · obtain ⟨producer, -, h⟩ := bind_ok.mp h
      cases h
      exact ⟨rfl, fun _ ht => ht⟩
    · split at h
      · cases h
        exact ⟨rfl, fun _ ht => ht⟩
      · cases h
        exact ⟨rfl, fun _ ht => ht⟩

theorem producerStep_stored {a : ProducerAction} (hs : m.controller.Stored)
    (h : m.producerStep a = .ok m') : m'.controller.Stored := by
  cases a with
  | enableAudio enabled call => exact hs.grown (tryEnableAudio_grown h)
  | enableVideo enabled trackName call =>
    simp only [producerStep, tryEnableVideo] at h
    split_ifs at h
    · obtain ⟨produced, -, h⟩ := bind_ok.mp h
      cases produced with
      | none =>
        cases h
        exact hs.grown ⟨rfl, fun _ ht => ht⟩
      | some producer => exact hs.grown (enableVideo_grown h)
    · exact hs.grown (enableVideo_grown h)
  | inputFrame trackName =>
    cases h
    exact hs.grown ⟨rfl, fun _ ht => ht⟩
  | media e => exact step_stored hs h

end Media

namespace ProducerSession

/-- The SFU has open exactly the producers that the controller holds, with their flags. -/
structure Inv (s : ProducerSession) : Prop where
  stored : s.media.controller.Stored
  mirrors : Mirrors (slots s.media) s.sfu

/-- The SFU takes all requests of an action, and has the same producers again. -/
theorem Inv.step {s : ProducerSession} {a : ProducerAction} (hinv : s.Inv)
    (hfresh : s.ObtainsFresh a) :
    (∃ s', s.step a = .ok s' ∧ s'.Inv) ∨ ∃ e, s.step a = .error e ∧ e ≠ .refused := by
  rw [ProducerSession.step]
  cases hstep : s.media.producerStep a with
  | error f => exact Or.inr ⟨.media f, rfl, nofun⟩
  | ok media =>
    have hmoves := Media.producerStep_moves hinv.stored
      (fun call hcall producer hproduce => (hfresh.1 call hcall producer hproduce).1) hfresh.2 hstep
    obtain ⟨sfu, hsfu, hmirrors⟩ := hinv.mirrors.moves hmoves fun id paused hid => by
      obtain ⟨call, hcall, producer, hproduce, rfl⟩ := Media.opened_mem_commands hid
      exact (hfresh.1 call hcall producer hproduce).2
    refine Or.inl ⟨{ media, sfu }, ?_, Media.producerStep_stored hinv.stored hstep, hmirrors⟩
    simp only [hsfu]

theorem Inv.start {m : Media} (hmic : m.controller.micProducer = none)
    (hproducers : m.controller.producerMap = ∅) (hconsumers : m.controller.consumerMap = ∅) :
    Inv { media := m } := by
  have hslots : slots m = fun _ => none := by
    funext slot
    cases slot with
    | none => rw [slots, MediaController.producerIn, hmic, Option.map_none]
    | some trackName =>
      rw [slots, MediaController.producerIn, hproducers, AList.lookup_empty]
      rfl
  refine ⟨⟨?_, ?_⟩, by rw [hslots]; exact .nothing⟩
  · intro tid p hl
    rw [hconsumers] at hl
    cases hl
  · intro tid ht
    rw [hconsumers] at ht
    cases ht

/-- In every run from a controller without producers that does not destroy it and each call of
`Produce` of which brings a new id: the SFU never refuses a request, and it always has open exactly
the producers that the controller holds, paused where they are paused, each in one place. -/
theorem sfu_mirrors_producers {m : Media} (hmic : m.controller.micProducer = none)
    (hproducers : m.controller.producerMap = ∅) (hconsumers : m.controller.consumerMap = ∅)
    {run : List ProducerAction}
    (hfresh : Guarded ProducerSession.step ObtainsFresh { media := m } run) :
    exec ProducerSession.step { media := m } run ≠ .error .refused ∧
      ∀ s, exec ProducerSession.step { media := m } run = .ok s →
        (∀ id paused, s.sfu id = some paused ↔
          ∃ slot, s.media.controller.producerIn slot = some ⟨id, paused⟩) ∧
        ∀ slot slot' producer producer', s.media.controller.producerIn slot = some producer →
          s.media.controller.producerIn slot' = some producer' → producer.id = producer'.id →
          slot = slot' := by
  have hslots (s : ProducerSession) (slot : Option String) (id : String) (paused : Bool) :
      slots s.media slot = some (id, paused) ↔
        s.media.controller.producerIn slot = some ⟨id, paused⟩ := by
    rw [slots, Option.map_eq_some_iff]
    constructor
    · rintro ⟨producer, hproducer, heq⟩
      cases heq
      exact hproducer
    · exact fun hproducer => ⟨_, hproducer, rfl⟩
  have hstep : ∀ s a, Inv s → s.ObtainsFresh a → _ := fun s a hinv hok => hinv.step hok
  have hrun := exec_invariant_or hstep hfresh (Inv.start hmic hproducers hconsumers)
  constructor
  · rcases hrun with ⟨t, ht, -⟩ | ⟨e, he, hne⟩
    · rw [ht]
      nofun
    · rw [he]
      exact fun heq => hne (Except.error.inj heq)
  · intro s hs
    rcases hrun with ⟨t, ht, hinv⟩ | ⟨e, he, -⟩
    · rw [hs, Except.ok.injEq] at ht
      subst ht
      constructor
      · intro id paused
        rw [hinv.mirrors.entry]
        exact exists_congr fun slot => hslots s slot id paused
      · intro slot slot' producer producer' hproducer hproducer' hid
        refine hinv.mirrors.apart slot slot' producer.id producer.paused producer'.paused ?_ ?_
        · exact (hslots _ _ _ _).mpr hproducer
        · rw [hid]
          exact (hslots _ _ _ _).mpr hproducer'
    · rw [hs] at he
      cases he

section Runs

/-- The SFU answers a produce request with this id. -/
def producedId (id : String) : ProduceCall :=
  .exchanged (.replied true ⟨0, "", some ⟨some true, some ⟨some id⟩⟩⟩)

/-- A microphone and a camera are switched on, the one is muted and the other switched off. -/
def cameraRun : List ProducerAction :=
  [.enableAudio true (producedId "p1"), .enableVideo true "cam" (producedId "p2"),
    .media (.muteAudio true), .enableVideo false "cam" .threw]

theorem obtainsFresh_producedId {s : ProducerSession} {a : ProducerAction} (id : String)
    (ha : ∀ call ∈ s.media.producing a, call = producedId id) (hne : a ≠ .media .destroy)
    (hid : id.isEmpty = false) (hfresh : s.sfu id = none) : s.ObtainsFresh a := by
  refine ⟨fun call hcall producer hproduce => ?_, hne⟩
  rw [ha call hcall] at hproduce
  cases hproduce
  exact ⟨hid, hfresh⟩

theorem sfu_mirrors_producers_cameraRun :
    exec ProducerSession.step { media := Media.sendingMedia } cameraRun ≠ .error .refused ∧
      ∃ s, exec ProducerSession.step { media := Media.sendingMedia } cameraRun = .ok s ∧
        s.sfu "p1" = some true ∧ s.sfu "p2" = none := by
  have hguarded : Guarded ProducerSession.step ObtainsFresh
      { media := Media.sendingMedia } cameraRun := by
    refine ⟨obtainsFresh_producedId "p1" (fun _ h => (Option.some.inj h).symm) nofun rfl rfl, ?_⟩
    intro s₁ hs₁
    cases hs₁
    refine ⟨obtainsFresh_producedId "p2" (fun _ h => (Option.some.inj h).symm) nofun rfl rfl, ?_⟩
    intro s₂ hs₂
    cases hs₂
    refine ⟨⟨nofun, nofun⟩, ?_⟩
    intro s₃ hs₃
    cases hs₃
    exact ⟨⟨nofun, nofun⟩, fun _ _ => trivial⟩
  have h := sfu_mirrors_producers rfl rfl rfl hguarded
  exact ⟨h.1, _, rfl, rfl, rfl⟩

end Runs

end ProducerSession
end MediasoupSdk
