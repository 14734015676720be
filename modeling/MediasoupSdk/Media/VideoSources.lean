import MediasoupSdk.Media.VideoTracks

/-! A track name that is switched on in vain. The source is stored before `Produce` is called, and a
producer is stored whatever its id is. -/
namespace MediasoupSdk
open Foundation Signaling

/-- A call on the video tracks, or whatever leaves their two maps alone: the rest of the controller
becomes that of `m`. -/
inductive VideoAction where
  | video (e : VideoEvent)
  | rest (m : Media)

namespace Media

variable {m m' : Media}

def actionStep (m : Media) : VideoAction → Except Fault Media
  | .video e => m.videoStep e
  | .rest m' => .ok { m' with controller := { m'.controller with
      producerMap := m.controller.producerMap
      sourceMap := m.controller.sourceMap } }

/-- The two maps are the same. -/
def SameVideo (m m' : Media) : Prop :=
  m'.controller.producerMap = m.controller.producerMap ∧
    m'.controller.sourceMap = m.controller.sourceMap

theorem SameVideo.actionStep_rest (h : SameVideo m m') : m.actionStep (.rest m') = .ok m' := by
  rw [actionStep, ← h.1, ← h.2]

theorem Spares.sameVideo (h : Spares m m') : SameVideo m m' := by
  have hrest := h.rest
  simp only [MediaController.withoutConsumers, MediaController.mk.injEq] at hrest
  obtain ⟨-, -, -, -, -, hproducers, hsources, -⟩ := hrest
  exact ⟨hproducers, hsources⟩

theorem mutePeer_sameVideo {kind : MediaKind} {pid : String} {muted : Bool}
    (hs : m.controller.Stored) (h : m.mutePeer kind pid muted = .ok m') : SameVideo m m' := by
  rw [mutePeer, muteLoop_eq hs m.controller.consumerIdToPeerId.nodupKeys, Except.ok.injEq] at h
  rw [SameVideo, ← h, (foldl_muteConsumer_rest).2.2]
  exact ⟨rfl, rfl⟩

theorem onConsumerPaused_sameVideo {paused : Bool}
    {notification : Notification ConsumerNotification.Data}
    (h : m.onConsumerPaused paused notification = .ok m') : SameVideo m m' := by
  simp only [onConsumerPaused, bind_ok] at h
  obtain ⟨data, -, h⟩ := h
  split_ifs at h
  · cases h
    exact ⟨rfl, rfl⟩
  · exact (updateConsumer_spares h).sameVideo

theorem isMuted_sameVideo {kind : MediaKind} {pid : String} (hs : m.controller.Stored)
    (h : m.withController ((m.controller.isMuted kind pid).map Prod.snd) = .ok m') :
    SameVideo m m' := by
  obtain ⟨r, hr, he⟩ := map_ok.mp (withController_ok h)
  rw [MediaController.isMuted_eq hs] at hr
  rw [SameVideo, ← he]
  split at hr
  · cases hr
    exact ⟨rfl, rfl⟩
  · split_ifs at hr
    cases hr
    exact ⟨rfl, rfl⟩

/-- Every event of the controller but `destroy` leaves the two maps alone. -/
theorem step_sameVideo {e : MediaEvent} (hs : m.controller.Stored) (he : e ≠ .destroy)
    (h : m.step e = .ok m') : SameVideo m m' := by
  cases e with
  | newConsumer request consumed => exact (createNewConsumer_spares h).sameVideo
  | newDataConsumer request consumed => exact (createNewDataConsumer_spares h).sameVideo
  | consumerClosed notification => exact (onConsumerClosed_spares h).sameVideo
  | dataConsumerClosed notification =>
    cases h
    exact ⟨rfl, rfl⟩
  | consumerPaused notification => exact onConsumerPaused_sameVideo h
  | consumerResumed notification => exact onConsumerPaused_sameVideo h
  | muteAudio muted =>
    cases h
    unfold muteAudio
    split
    · exact ⟨rfl, rfl⟩
    · exact ⟨rfl, rfl⟩
  | muteAudioOf pid muted => exact mutePeer_sameVideo hs h
  | muteVideo pid muted => exact mutePeer_sameVideo hs h
  | isAudioMuted pid => exact isMuted_sameVideo hs h
  | isVideoMuted pid => exact isMuted_sameVideo hs h
  | getRemoteAudioTracks pid =>
    obtain ⟨r, -, hr⟩ := map_ok.mp (withController_ok h)
    rw [SameVideo, ← hr]
    exact ⟨rfl, rfl⟩
  | getRemoteVideoTracks pid =>
    obtain ⟨r, hr, hr'⟩ := map_ok.mp (withController_ok h)
    rw [MediaController.getRemoteVideoTracks_eq hs, Except.ok.injEq] at hr
    rw [SameVideo, ← hr', ← hr]
    exact ⟨rfl, rfl⟩
  | destroy => exact absurd rfl he

/-- The track name has neither a producer nor a source. -/
def EmptyAt (trackName : String) (m : Media) : Prop :=
  m.controller.producerIn (some trackName) = none ∧ m.controller.sourceAt trackName = false

/-- A track name has a source exactly when it has a producer. -/
def Paired (m : Media) : Prop :=
  ∀ trackName, m.controller.sourceAt trackName = true ↔
    (m.controller.producerIn (some trackName)).isSome

/-- If the action calls `Produce` and obtains no id, then the track name is empty afterwards, and
the next call tries again. -/
def Recovers (m : Media) : VideoAction → Prop
  | .video (.enableVideo enabled trackName call) =>
    (m.videoProduce enabled trackName).isSome → ¬ call.Obtains →
      ∃ m', m.actionStep (.video (.enableVideo enabled trackName call)) = .ok m' ∧
        EmptyAt trackName m' ∧ (m'.videoProduce true trackName).isSome
  | _ => True

/-- If the action calls `Produce`, then it obtains an id. -/
def ObtainsId (m : Media) : VideoAction → Prop
  | .video (.enableVideo enabled trackName call) =>
    (m.videoProduce enabled trackName).isSome → call.Obtains
  | _ => True

theorem pointerAt_eq (trackName : String) :
    m.pointerAt trackName = m.controller.producerIn (some trackName) := by
  rw [pointerAt, MediaController.producerIn]
  cases AList.lookup trackName m.controller.producerMap <;> rfl

theorem Sets.producerIn {trackName : String} {producer : Option Producer} {source : Bool}
    (h : Sets trackName producer source m m') (t : String) :
    m'.controller.producerIn (some t) =
        (if t = trackName then producer else m.controller.producerIn (some t)) ∧
      m'.controller.sourceAt t = if t = trackName then source else m.controller.sourceAt t := by
  split_ifs with he
  · have hself := h.self
    rw [videoAt, Prod.mk.injEq] at hself
    rw [he, MediaController.producerIn, hself.1]
    exact ⟨rfl, hself.2⟩
  · have hother := h.other t he
    rw [videoAt, videoAt, Prod.mk.injEq] at hother
    rw [MediaController.producerIn, hother.1]
    exact ⟨rfl, hother.2⟩

/-- A call of `Produce` leaves a source, and with an id it leaves a producer too. -/
theorem paired_after {enabled : Bool} {trackName : String} {call : ProduceCall}
    (hpaired : Paired m)
    (hobtains : (m.videoProduce enabled trackName).isSome → call.Obtains)
    (hrun : m.tryEnableVideo enabled trackName call = .ok m') : Paired m' := by
  by_cases hsend : m.CanSend
  · obtain ⟨produced, hcall, hsets⟩ := tryEnableVideo_sets hsend hrun
    rw [videoProduce_isSome_iff hsend] at hobtains hcall
    intro t
    obtain ⟨hproducer, hsource⟩ := hsets.producerIn t
    rw [hproducer, hsource]
    split_ifs with he
    · rw [pointerAt_eq] at hcall hobtains ⊢
      have hpair := hpaired trackName
      unfold entriesAfter
      split_ifs with henabled hsome
      · exact hpair
      · obtain ⟨hp, hs⟩ : m.controller.producerIn (some trackName) = none ∧
            m.controller.sourceAt trackName = false := by simpa using hsome
        obtain ⟨producer, hproduce, -⟩ := hobtains ⟨henabled, hp, hs⟩
        rw [hcall ⟨henabled, hp, hs⟩, Except.ok.injEq] at hproduce
        rw [hproduce]
        exact iff_of_true rfl rfl
      · exact iff_of_false (by simp) (by simp)
    · exact hpaired t
  · rw [tryEnableVideo_blocked hsend, Except.ok.injEq] at hrun
    exact hrun ▸ hpaired

theorem actionStep_paired {a : VideoAction} (hpaired : Paired m) (hobtains : ObtainsId m a)
    (hstep : m.actionStep a = .ok m') : Paired m' := by
  cases a with
  | rest m₁ =>
    cases hstep
    exact hpaired
  | video e =>
    cases e with
    | enableVideo enabled trackName call => exact paired_after hpaired hobtains hstep
    | inputFrame trackName =>
      cases hstep
      intro t
      show ((m.inputFrame trackName).videoAt t).2 = true ↔
        ((m.inputFrame trackName).videoAt t).1.join.isSome
      rw [inputFrame_videoAt]
      exact hpaired t
    | destroy =>
      have hrun := destroy_ok (withController_ok hstep)
      intro t
      have hsource : m.controller.destroyed.sourceAt t = false :=
        congrArg Prod.snd (@destroyed_videoAt m t)
      rw [hrun, destroyed_producerIn, hsource]
      simp

/-- A call of `Produce` that obtains no id leaves a source behind. -/
theorem recovers_iff (m : Media) (a : VideoAction) : Recovers m a ↔ ObtainsId m a := by
  constructor
  · intro hrecovers
    cases a with
    | rest m₁ => trivial
    | video e =>
      cases e with
      | inputFrame trackName => trivial
      | destroy => trivial
      | enableVideo enabled trackName call =>
        intro hproduce
        by_contra hnot
        obtain ⟨m', hstep, ⟨-, hsource⟩, -⟩ := hrecovers hproduce hnot
        have hsend : m.CanSend := by
          by_contra hsend
          rw [videoProduce_blocked hsend] at hproduce
          cases hproduce
        obtain ⟨henabled, hp, hs⟩ := (videoProduce_isSome_iff hsend).mp hproduce
        obtain ⟨produced, -, hsets⟩ := tryEnableVideo_sets hsend hstep
        have hself := (hsets.producerIn trackName).2
        rw [hsource, if_pos rfl, henabled, hp, hs] at hself
        cases hself
  · intro hobtains
    cases a with
    | rest m₁ => trivial
    | video e =>
      cases e with
      | inputFrame trackName => trivial
      | destroy => trivial
      | enableVideo enabled trackName call =>
        exact fun hproduce hnot => absurd (hobtains hproduce) hnot

/-- In every run from a controller without track names: the calls that fail leave their track name
empty, and in each state a name has a source exactly when it has a producer, if and only if every
call of `Produce` obtains an id. -/
theorem sources_paired_iff (hproducers : m.controller.producerMap = ∅)
    (hsources : m.controller.sourceMap = ∅) (run : List VideoAction) :
    ((∀ pre a, pre ++ [a] <+: run → ∀ t, exec actionStep m pre = .ok t → Recovers t a) ∧
      ∀ pre t, pre <+: run → exec actionStep m pre = .ok t → Paired t) ↔
    ∀ pre a, pre ++ [a] <+: run → ∀ t, exec actionStep m pre = .ok t → ObtainsId t a := by
  have hstart : Paired m := by
    intro t
    rw [MediaController.sourceAt, MediaController.producerIn, hproducers, hsources]
    exact iff_of_false (by simp) (by simp)
  simp only [recovers_iff, and_iff_left_iff_imp]
  intro hobtains pre t hpre hrun
  obtain ⟨rest, rfl⟩ := hpre
  have hguard := guarded_iff_forall_prefix.mpr hobtains
  have hpaired := fun s a s' => @actionStep_paired s s' a
  exact exec_invariant hpaired (guarded_append.mp hguard).1 hstart hrun

section Runs

/-- The connection closes while the produce request waits. -/
def closedProducer : ProduceCall := .exchanged (.replied true ⟨2, "connection closed", none⟩)

def screenProducer : ProduceCall :=
  .exchanged (.replied true ⟨0, "", some ⟨some true, some ⟨some "p2"⟩⟩⟩)

/-- A track that is switched off is not produced. -/
theorem videoProduce_off (m : Media) (trackName : String) :
    m.videoProduce false trackName = none := by
  unfold videoProduce
  split
  · rfl
  · simp

/-- Two tracks are switched on, one of them off and on again, around another use of the
controller. -/
def cameraAndScreen : List VideoAction :=
  [.video (.enableVideo true "cam" madeProducer), .rest sendingMedia,
    .video (.enableVideo true "screen" screenProducer), .video (.inputFrame "cam"),
    .video (.enableVideo false "cam" .threw), .video (.enableVideo true "cam" madeProducer)]

theorem produced_track_paired :
    (∃ t, exec actionStep sendingMedia cameraAndScreen = .ok t ∧
      t.controller.sourceAt "cam" = true ∧ t.controller.sourceAt "screen" = true) ∧
    (∀ pre a, pre ++ [a] <+: cameraAndScreen →
      ∀ t, exec actionStep sendingMedia pre = .ok t → Recovers t a) ∧
    ∀ pre t, pre <+: cameraAndScreen → exec actionStep sendingMedia pre = .ok t → Paired t := by
  refine ⟨⟨_, rfl, rfl, rfl⟩, (sources_paired_iff sendingMedia_noVideo.producers
    sendingMedia_noVideo.sources cameraAndScreen).mpr ?_⟩
  intro pre a hpre t _
  have hall : ∀ a ∈ cameraAndScreen, ∀ m, ObtainsId m a := by
    simp only [cameraAndScreen, List.forall_mem_cons]
    refine ⟨fun m _ => ⟨_, rfl, rfl⟩, fun m => trivial, fun m _ => ⟨_, rfl, rfl⟩, fun m => trivial,
      fun m hproduce => ?_, fun m _ => ⟨_, rfl, rfl⟩, fun _ h => absurd h List.not_mem_nil⟩
    rw [videoProduce_off] at hproduce
    cases hproduce
  exact hall a (hpre.subset (List.mem_append_right pre List.mem_cons_self)) t

/-- `Produce` throws: the source stays, and the next call is refused. The connection closes: a
producer without an id is stored. -/
theorem failed_track_not_empty :
    (∃ t, sendingMedia.actionStep (.video (.enableVideo true "cam" .threw)) = .ok t ∧
      t.controller.sourceAt "cam" = true ∧ t.controller.producerIn (some "cam") = none ∧
      t.videoProduce true "cam" = none ∧ ¬ Paired t) ∧
    (∃ t, sendingMedia.actionStep (.video (.enableVideo true "cam" closedProducer)) = .ok t ∧
      t.controller.producerIn (some "cam") = some ⟨"", false⟩) ∧
    ¬ Recovers sendingMedia (.video (.enableVideo true "cam" .threw)) ∧
    ¬ Recovers sendingMedia (.video (.enableVideo true "cam" closedProducer)) := by
  refine ⟨⟨_, rfl, rfl, rfl, rfl, fun hpaired => ?_⟩, ⟨_, rfl, rfl⟩, ?_, ?_⟩
  · cases (hpaired "cam").mp rfl
  · rw [recovers_iff]
    intro hobtains
    obtain ⟨producer, hproduce, -⟩ := hobtains rfl
    cases hproduce
  · rw [recovers_iff]
    intro hobtains
    obtain ⟨producer, hproduce, hid⟩ := hobtains rfl
    cases hproduce
    simp at hid

end Runs

end Media
end MediasoupSdk
