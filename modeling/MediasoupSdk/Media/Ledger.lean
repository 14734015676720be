import MediasoupSdk.Foundation.Execution
import MediasoupSdk.Media.Sound

/-! The consumers that the controller holds, over runs of its events and calls: when they are
those that were opened and not closed since. -/
namespace MediasoupSdk
open Foundation Signaling

/-- What the SFU sends, with what the media library returns, and what the application calls. -/
inductive MediaEvent where
  | newConsumer (request : SfuRequest NewConsumerRequest.Data) (consumed : Option Track)
  | newDataConsumer (request : SfuRequest NewDataConsumerRequest.Data) (consumed : Option Unit)
  | consumerClosed (notification : Notification ConsumerNotification.Data)
  | dataConsumerClosed (notification : Notification DataConsumerClosedNotification.Data)
  | consumerPaused (notification : Notification ConsumerNotification.Data)
  | consumerResumed (notification : Notification ConsumerNotification.Data)
  | muteAudio (muted : Bool)
  | muteAudioOf (pid : String) (muted : Bool)
  | muteVideo (pid : String) (muted : Bool)
  | isAudioMuted (pid : String)
  | isVideoMuted (pid : String)
  | getRemoteAudioTracks (pid : String)
  | getRemoteVideoTracks (pid : String)
  | destroy

namespace Media

/-- The controller afterwards; what a query returns is dropped. -/
def withController (r : Except Fault MediaController) (m : Media) : Except Fault Media := do
  let controller ← r
  return { m with controller }

def step (m : Media) : MediaEvent → Except Fault Media
  | .newConsumer request consumed => m.createNewConsumer request consumed
  | .newDataConsumer request consumed => m.createNewDataConsumer request consumed
  | .consumerClosed notification => m.onConsumerClosed notification
  | .dataConsumerClosed notification => .ok (m.onDataConsumerClosed notification)
  | .consumerPaused notification => m.onConsumerPaused true notification
  | .consumerResumed notification => m.onConsumerPaused false notification
  | .muteAudio muted => .ok (m.muteAudio muted)
  | .muteAudioOf pid muted => m.muteAudioOf pid muted
  | .muteVideo pid muted => m.muteVideo pid muted
  | .isAudioMuted pid => m.withController ((m.controller.isAudioMuted pid).map Prod.snd)
  | .isVideoMuted pid => m.withController ((m.controller.isVideoMuted pid).map Prod.snd)
  | .getRemoteAudioTracks pid =>
    m.withController ((m.controller.getRemoteAudioTracks pid).map fun _ => m.controller)
  | .getRemoteVideoTracks pid =>
    m.withController ((m.controller.getRemoteVideoTracks pid).map Prod.snd)
  | .destroy => m.withController m.controller.destroy

end Media

namespace MediaController

variable {mc : MediaController} {kind : MediaKind} {pid : String}

/-- The loop of `isMuted` ends at this entry: a consumer of the kind that is not paused, or the
id of no consumer. -/
def StopsAt (kind : MediaKind) (pid : String) (mc : MediaController)
    (e : Sigma fun _ : String => String) : Prop :=
  e.2 = pid ∧ ∀ consumer, mc.consumerOf e.1 = some consumer →
    consumer.track.kind = kind ∧ consumer.paused = false

instance : DecidablePred (StopsAt kind pid mc) := fun e =>
  match h : mc.consumerOf e.1 with
  | none => decidable_of_iff (e.2 = pid) (by simp [StopsAt, h])
  | some consumer =>
    decidable_of_iff (e.2 = pid ∧ consumer.track.kind = kind ∧ consumer.paused = false)
      (by simp [StopsAt, h])

/-- The first entry at which the loop of `isMuted` ends is a data consumer's. -/
def MeetsDataConsumer (kind : MediaKind) (pid : String) (mc : MediaController) : Prop :=
  ∃ e, mc.consumerIdToPeerId.entries.find? (fun e => decide (StopsAt kind pid mc e)) = some e ∧
    mc.consumerOf e.1 = none

instance : Decidable (MeetsDataConsumer kind pid mc) :=
  match h : mc.consumerIdToPeerId.entries.find? (fun e => decide (StopsAt kind pid mc e)) with
  | none => .isFalse (by simp [MeetsDataConsumer, h])
  | some e => decidable_of_iff (mc.consumerOf e.1 = none) (by simp [MeetsDataConsumer, h])

/-- A query leaves the controller alone, or follows a null pointer. -/
theorem isMuted_eq (h : mc.Stored) :
    mc.isMuted kind pid =
      match mc.consumerIdToPeerId.entries.find? (fun e => decide (StopsAt kind pid mc e)) with
      | none => .ok (true, mc)
      | some e => if (mc.consumerOf e.1).isSome then .ok (false, mc)
        else .error (.nullPointer .consumer) := by
  unfold isMuted
  generalize mc.consumerIdToPeerId.entries = l
  induction l with
  | nil => rfl
  | cons e l ih =>
    by_cases hp : e.2 = pid
    · cases hc : mc.consumerOf e.1 with
      | none =>
        have hl := AList.lookup_eq_none.mpr (h.consumerOf_none hc)
        have hstop : StopsAt kind pid mc e := ⟨hp, by simp [hc]⟩
        simp [isMutedLoop, hp, HashMap.subscript_of_absent hl, hstop, hc, bind,
          Except.bind]
      | some consumer =>
        obtain ⟨hl, -⟩ := h.lookup_consumerOf hc
        by_cases hstop : consumer.track.kind = kind ∧ consumer.paused = false
        · have hs : StopsAt kind pid mc e := ⟨hp, by simpa [hc] using hstop⟩
          simp [isMutedLoop, hp, HashMap.subscript_of_lookup hl, hs, hc, hstop,
            bind, Except.bind, pure, Except.pure]
        · have hs : ¬ StopsAt kind pid mc e := fun hs => hstop (hs.2 consumer hc)
          simp [isMutedLoop, hp, HashMap.subscript_of_lookup hl, hs, hstop,
            bind, Except.bind, ih]
    · have hs : ¬ StopsAt kind pid mc e := fun hs => hp hs.1
      simp [isMutedLoop, hp, hs, ih]

/-- Every pointer of the map leads somewhere, so that `destroy` can close them all. -/
theorem closeAll_ok {V : Type} {p : Pointer} {l : HashMap String (Option V)}
    (h : ∀ e ∈ l.entries, e.2.isSome) : closeAll p l = .ok () := by
  unfold closeAll
  generalize l.entries = entries at h
  induction entries with
  | nil => rfl
  | cons e entries ih =>
    obtain ⟨v, hv⟩ := Option.isSome_iff_exists.mp (h e List.mem_cons_self)
    have ih' := ih fun e he => h e (List.mem_cons_of_mem _ he)
    rw [List.forM, hv]
    exact ih'

/-- Nothing is left of the consumers but the map of their peers. -/
def destroyed (mc : MediaController) : MediaController :=
  { mc with
    micProducer := none
    producerMap := mc.producerMap.mapValues fun _ => none
    dataConsumerMap := ∅
    consumerMap := ∅
    sourceMap := mc.sourceMap.mapValues fun _ => false }

theorem destroy_eq (h : mc.Sound) (hp : mc.producerMap = ∅) : mc.destroy = .ok mc.destroyed := by
  have hproducers : closeAll .producer mc.producerMap = .ok () := by
    rw [hp]
    rfl
  have hdata : closeAll .dataConsumer mc.dataConsumerMap = .ok () := by
    refine closeAll_ok fun e he => ?_
    obtain ⟨dataConsumer, hc, -⟩ := h.dataConsumer e.1 e.2 (AList.mem_lookup_iff.mpr he)
    rw [hc]
    rfl
  simp only [destroy, hproducers, hdata, closeAll_ok h.stored.pointers, bind, Except.bind]
  rfl

/-- The ids that are held stay the same. -/
structure SameIds (mc mc' : MediaController) : Prop where
  consumers : ∀ tid, tid ∈ mc'.consumerMap ↔ tid ∈ mc.consumerMap
  dataConsumers : mc'.dataConsumerMap = mc.dataConsumerMap
  peers : mc'.consumerIdToPeerId = mc.consumerIdToPeerId
  producers : mc'.producerMap = mc.producerMap

theorem SameIds.refl (mc : MediaController) : SameIds mc mc := ⟨fun _ => Iff.rfl, rfl, rfl, rfl⟩

theorem SameIds.trans {mc₁ mc₂ mc₃ : MediaController} (h₁ : SameIds mc₁ mc₂)
    (h₂ : SameIds mc₂ mc₃) : SameIds mc₁ mc₃ :=
  ⟨fun tid => (h₂.consumers tid).trans (h₁.consumers tid),
    h₂.dataConsumers.trans h₁.dataConsumers, h₂.peers.trans h₁.peers,
    h₂.producers.trans h₁.producers⟩

theorem sameIds_setPaused {tid : String} {consumer : Consumer} (h : mc.Sound)
    (hc : mc.consumerOf tid = some consumer) (paused : Bool) :
    SameIds mc (mc.setPaused consumer paused) := by
  obtain ⟨hl, rfl⟩ := h.stored.lookup_consumerOf hc
  have hmem : consumer.id ∈ mc.consumerMap := AList.lookup_isSome.mp (by rw [hl]; rfl)
  refine ⟨fun tid => ?_, rfl, rfl, rfl⟩
  simp only [setPaused, AList.mem_insert]
  constructor
  · rintro (rfl | h)
    · exact hmem
    · exact h
  · exact Or.inr

end MediaController

namespace Media

variable {m : Media}

/-- The loop of the mute calls looks a consumer up before it follows the pointer. -/
theorem mutePeer_ok (h : m.controller.Sound) (kind : MediaKind) (pid : String) (muted : Bool) :
    ∃ m', m.mutePeer kind pid muted = .ok m' ∧ m'.controller.Sound ∧
      m.controller.SameIds m'.controller := by
  unfold mutePeer
  generalize m.controller.consumerIdToPeerId.entries = l
  induction l generalizing m with
  | nil => exact ⟨m, rfl, h, .refl _⟩
  | cons e l ih =>
    rw [muteLoop]
    by_cases hp : e.2 = pid
    · rw [if_pos hp]
      cases hc : m.controller.consumerOf e.1 with
      | none =>
        rw [AList.lookup_eq_none.mpr (h.stored.consumerOf_none hc)]
        exact ⟨m, rfl, h, .refl _⟩
      | some consumer =>
        obtain ⟨hl, hid⟩ := h.stored.lookup_consumerOf hc
        have hpaused : ∀ o, ∃ m', muteLoop kind pid muted
            (Media.push o { m with controller := m.controller.setPaused consumer muted }) l =
              .ok m' ∧ m'.controller.Sound ∧ m.controller.SameIds m'.controller := by
          intro o
          obtain ⟨m', hm', hs', hids⟩ := @ih (Media.push o
            { m with controller := m.controller.setPaused consumer muted }) (h.setPaused hc muted)
          exact ⟨m', hm', hs', (MediaController.sameIds_setPaused h hc muted).trans hids⟩
        rw [hl, ← hid]
        simp only [deref_some, bind, Except.bind]
        by_cases hk : consumer.track.kind = kind
        · rw [if_pos hk]
          exact hpaused _
        · rw [if_neg hk]
          exact ih h
    · rw [if_neg hp]
      exact ih h

end Media

/-- The id of the consumer that an event brings. -/
def MediaEvent.consumerId : MediaEvent → Option String
  | .newConsumer request _ => request.data.bind fun data => data.id
  | _ => none

def MediaEvent.dataConsumerId : MediaEvent → Option String
  | .newDataConsumer request _ => request.data.bind fun data => data.id
  | _ => none

/-- The maps in another iteration order: the entries of the given ids come first. -/
def MediaController.reorder (mc : MediaController) (consumers dataConsumers peers : List String) :
    MediaController :=
  { mc with
    consumerMap := mc.consumerMap.arrange consumers
    dataConsumerMap := mc.dataConsumerMap.arrange dataConsumers
    consumerIdToPeerId := mc.consumerIdToPeerId.arrange peers }

def Media.reorder (m : Media) (consumers dataConsumers peers : List String) : Media :=
  { m with controller := m.controller.reorder consumers dataConsumers peers }

theorem MediaController.Sound.reorder {mc : MediaController} (h : mc.Sound)
    (consumers dataConsumers peers : List String) :
    (mc.reorder consumers dataConsumers peers).Sound where
  consumer := fun tid pointer hl =>
    h.consumer tid pointer ((HashMap.lookup_arrange _ _ _).symm.trans hl)
  dataConsumer := fun tid pointer hl =>
    h.dataConsumer tid pointer ((HashMap.lookup_arrange _ _ _).symm.trans hl)
  peers := by
    intro tid
    simp only [MediaController.reorder, HashMap.mem_arrange]
    exact h.peers tid
  disjoint := by
    intro tid
    simp only [MediaController.reorder, HashMap.mem_arrange]
    exact h.disjoint tid

/-- Any other order of the entries is one of these. -/
theorem MediaController.exists_reorder {mc mc' : MediaController}
    (hconsumers : mc.consumerMap.entries.Perm mc'.consumerMap.entries)
    (hdata : mc.dataConsumerMap.entries.Perm mc'.dataConsumerMap.entries)
    (hpeers : mc.consumerIdToPeerId.entries.Perm mc'.consumerIdToPeerId.entries) :
    ∃ consumers dataConsumers peers, mc.reorder consumers dataConsumers peers =
      { mc with
        consumerMap := mc'.consumerMap
        dataConsumerMap := mc'.dataConsumerMap
        consumerIdToPeerId := mc'.consumerIdToPeerId } := by
  refine ⟨mc'.consumerMap.keys, mc'.dataConsumerMap.keys, mc'.consumerIdToPeerId.keys, ?_⟩
  rw [reorder, HashMap.arrange_of_perm hconsumers, HashMap.arrange_of_perm hdata,
    HashMap.arrange_of_perm hpeers]

/-- An event or a call; between two of them the hash maps may take another order. -/
inductive Turn where
  | event (e : MediaEvent)
  | reorder (consumers dataConsumers peers : List String)

def Turn.consumerId : Turn → Option String
  | .event e => e.consumerId
  | .reorder .. => none

def Turn.dataConsumerId : Turn → Option String
  | .event e => e.dataConsumerId
  | .reorder .. => none

/-- The controller next to the ids that are open by the events. -/
structure Ledger where
  media : Media
  consumers : Finset String := ∅
  dataConsumers : Finset String := ∅

namespace Ledger

/-- A consumer is opened when the options and the transport let it through. -/
def consumersAfter (s : Ledger) : MediaEvent → Finset String
  | .newConsumer request _ =>
    if s.media.controller.Consuming then
      (request.data.bind fun data => data.id).elim s.consumers (insert · s.consumers)
    else s.consumers
  | .consumerClosed notification =>
    s.consumers.erase ((notification.data.bind fun data => data.consumerId).getD "")
  | .destroy => ∅
  | _ => s.consumers

def dataConsumersAfter (s : Ledger) : MediaEvent → Finset String
  | .newDataConsumer request _ =>
    if s.media.controller.ConsumingData then
      (request.data.bind fun data => data.id).elim s.dataConsumers (insert · s.dataConsumers)
    else s.dataConsumers
  | .dataConsumerClosed notification =>
    (notification.data.bind fun data => data.dataConsumerId).elim s.dataConsumers
      (s.dataConsumers.erase ·)
  | .destroy => ∅
  | _ => s.dataConsumers

def handle (s : Ledger) (e : MediaEvent) : Except Fault Ledger := do
  let media ← s.media.step e
  return { media, consumers := s.consumersAfter e, dataConsumers := s.dataConsumersAfter e }

def step (s : Ledger) : Turn → Except Fault Ledger
  | .event e => s.handle e
  | .reorder consumers dataConsumers peers =>
    .ok { s with media := s.media.reorder consumers dataConsumers peers }

/-- The maps agree with each other and hold the open ids. -/
structure Agrees (s : Ledger) : Prop where
  sound : s.media.controller.Sound
  consumers : ∀ tid, tid ∈ s.media.controller.consumerMap ↔ tid ∈ s.consumers
  dataConsumers : ∀ tid, tid ∈ s.media.controller.dataConsumerMap ↔ tid ∈ s.dataConsumers

/-- What a run may end with: maps that agree, or a fault other than a null pointer that one of
them held. -/
def Good : Except Fault Ledger → Prop
  | .ok s => s.Agrees
  | .error e => ¬ e.IsNull

/-- The events that the controller handles as it should: no data consumer is closed, a query meets
no data consumer, and nothing is held at the end. -/
def Careful (s : Ledger) : Turn → Prop
  | .event (.dataConsumerClosed notification) =>
    ∀ tid, (notification.data.bind fun data => data.dataConsumerId) = some tid →
      tid ∉ s.dataConsumers
  | .event (.isAudioMuted pid) => ¬ s.media.controller.MeetsDataConsumer .audio pid
  | .event (.isVideoMuted pid) => ¬ s.media.controller.MeetsDataConsumer .video pid
  | .event .destroy => s.consumers = ∅ ∧ s.dataConsumers = ∅
  | _ => True

instance (s : Ledger) : ∀ t, Decidable (s.Careful t)
  | .event (.dataConsumerClosed notification) =>
    inferInstanceAs (Decidable (∀ tid ∈ notification.data.bind fun data => data.dataConsumerId,
      tid ∉ s.dataConsumers))
  | .event (.isAudioMuted _) | .event (.isVideoMuted _) => inferInstanceAs (Decidable (¬ _))
  | .event .destroy => inferInstanceAs (Decidable (_ ∧ _))
  | .event (.newConsumer ..) | .event (.newDataConsumer ..) | .event (.consumerClosed _)
  | .event (.consumerPaused _) | .event (.consumerResumed _) | .event (.muteAudio _)
  | .event (.muteAudioOf ..) | .event (.muteVideo ..) | .event (.getRemoteAudioTracks _)
  | .event (.getRemoteVideoTracks _) | .reorder .. => .isTrue trivial

/-- The ids of data consumers are those of the given set, and no producer is there. -/
structure Inv (isData : Set String) (s : Ledger) : Prop where
  agrees : s.Agrees
  producers : s.media.controller.producerMap = ∅
  consumers : ∀ tid ∈ s.consumers, tid ∉ isData
  dataConsumers : ∀ tid ∈ s.dataConsumers, tid ∈ isData

/-- The event names consumers and data consumers as the set says. -/
def Respects (isData : Set String) (e : MediaEvent) : Prop :=
  (∀ tid, e.consumerId = some tid → tid ∉ isData) ∧
    ∀ tid, e.dataConsumerId = some tid → tid ∈ isData

variable {isData : Set String} {s : Ledger}

theorem handle_ok {e : MediaEvent} {media : Media} (h : s.media.step e = .ok media) :
    s.handle e = .ok { media, consumers := s.consumersAfter e
                       dataConsumers := s.dataConsumersAfter e } := by
  rw [handle, h]
  rfl

theorem handle_error {e : MediaEvent} {f : Fault} (h : s.media.step e = .error f) :
    s.handle e = .error f := by
  rw [handle, h]
  rfl

/-- A step that keeps the ids on both sides. -/
theorem Inv.same {media : Media} (h : s.Inv isData) (hs : media.controller.Sound)
    (hids : s.media.controller.SameIds media.controller) :
    Inv isData { media, consumers := s.consumers, dataConsumers := s.dataConsumers } where
  agrees :=
    { sound := hs
      consumers := fun tid => (hids.consumers tid).trans (h.agrees.consumers tid)
      dataConsumers := by
        intro tid
        show tid ∈ media.controller.dataConsumerMap ↔ _
        rw [hids.dataConsumers]
        exact h.agrees.dataConsumers tid }
  producers := hids.producers.trans h.producers
  consumers := h.consumers
  dataConsumers := h.dataConsumers

theorem Inv.accept {a : Admission} {id : Option (IntN 64)} (h : s.Inv isData)
    (ha : a.tid ∉ isData) :
    Inv isData { media := s.media.accept a id, consumers := insert a.tid s.consumers
                 dataConsumers := s.dataConsumers } := by
  have hd : a.tid ∉ s.media.controller.dataConsumerMap := fun hmem =>
    ha (h.dataConsumers _ ((h.agrees.dataConsumers _).mp hmem))
  refine ⟨⟨h.agrees.sound.store hd a.peerId, fun tid => ?_, h.agrees.dataConsumers⟩, h.producers,
    fun tid htid => ?_, h.dataConsumers⟩
  · show tid ∈ (s.media.controller.store a.consumer a.peerId).consumerMap ↔ _
    simp only [MediaController.store, AList.mem_insert, Finset.mem_insert, h.agrees.consumers]
    exact Iff.rfl
  · rcases Finset.mem_insert.mp htid with rfl | hmem
    · exact ha
    · exact h.consumers tid hmem

theorem Inv.acceptData {a : DataAdmission} {id : Option (IntN 64)} (h : s.Inv isData)
    (ha : a.tid ∈ isData) :
    Inv isData { media := s.media.acceptData a id, consumers := s.consumers
                 dataConsumers := insert a.tid s.dataConsumers } := by
  have hc : a.tid ∉ s.media.controller.consumerMap := fun hmem =>
    h.consumers _ ((h.agrees.consumers _).mp hmem) ha
  refine ⟨⟨h.agrees.sound.storeData hc a.peerId, h.agrees.consumers, fun tid => ?_⟩, h.producers,
    h.consumers, fun tid htid => ?_⟩
  · show tid ∈ (s.media.controller.storeData a.dataConsumer a.peerId).dataConsumerMap ↔ _
    simp only [MediaController.storeData, AList.mem_insert, Finset.mem_insert,
      h.agrees.dataConsumers]
    exact Iff.rfl
  · rcases Finset.mem_insert.mp htid with rfl | hmem
    · exact ha
    · exact h.dataConsumers tid hmem

theorem Inv.removeConsumer {tid : String} {consumer : Consumer} (h : s.Inv isData)
    (hc : s.media.controller.consumerOf tid = some consumer) :
    Inv isData { media := s.media.removeConsumer consumer, consumers := s.consumers.erase tid
                 dataConsumers := s.dataConsumers } := by
  obtain ⟨hl, rfl⟩ := h.agrees.sound.stored.lookup_consumerOf hc
  have hmem : consumer.id ∈ s.media.controller.consumerMap :=
    AList.lookup_isSome.mp (by rw [hl]; rfl)
  refine ⟨⟨h.agrees.sound.drop (h.agrees.sound.disjoint _ hmem), fun tid => ?_,
    h.agrees.dataConsumers⟩, h.producers, fun tid htid => ?_, h.dataConsumers⟩
  · show tid ∈ (s.media.controller.drop consumer.id).consumerMap ↔ _
    simp only [MediaController.drop, AList.mem_erase, Finset.mem_erase, h.agrees.consumers]
  · exact h.consumers tid (Finset.mem_of_mem_erase htid)

theorem admission_tid {request : SfuRequest NewConsumerRequest.Data} {consumed : Option Track}
    {a : Admission} (ha : request.admission consumed = some a) :
    (request.data.bind fun data => data.id) = some a.tid := by
  obtain ⟨data, -, -, hdata, -, -, htid, -⟩ := SfuRequest.admission_cases ha
  rw [hdata]
  exact htid

theorem dataAdmission_tid {request : SfuRequest NewDataConsumerRequest.Data}
    {consumed : Option Unit} {a : DataAdmission} (ha : request.dataAdmission consumed = some a) :
    (request.data.bind fun data => data.id) = some a.tid := by
  obtain ⟨data, -, -, -, -, -, hdata, -, htid, -⟩ := SfuRequest.dataAdmission_cases ha
  rw [hdata]
  exact htid

/-- What a step may end with under the invariant. -/
def Kept (isData : Set String) (r : Except Fault Ledger) : Prop :=
  (∃ s', r = .ok s' ∧ s'.Inv isData) ∨ ∃ f, r = .error f ∧ ¬ f.IsNull

theorem keeps_newConsumer (h : s.Inv isData) {request : SfuRequest NewConsumerRequest.Data}
    {consumed : Option Track} (hr : Respects isData (.newConsumer request consumed)) :
    Kept isData (s.handle (.newConsumer request consumed)) := by
  by_cases hc : s.media.controller.Consuming
  · cases ha : request.admission consumed with
    | none =>
      obtain ⟨f, hf, hnull⟩ := Media.createNewConsumer_incomplete hc ha
      exact Or.inr ⟨f, handle_error hf, hnull⟩
    | some a =>
      have htid := admission_tid ha
      have hnot : a.tid ∉ isData := hr.1 a.tid htid
      have hd : a.tid ∉ s.media.controller.dataConsumerMap := fun hmem =>
        hnot (h.dataConsumers _ ((h.agrees.dataConsumers _).mp hmem))
      refine Or.inl ⟨_, handle_ok (Media.createNewConsumer_admitted h.agrees.sound hc ha hd), ?_⟩
      simp only [consumersAfter, dataConsumersAfter, hc, ↓reduceIte, htid, Option.elim_some]
      exact h.accept hnot
  · refine Or.inl ⟨_, handle_ok (Media.createNewConsumer_refused hc), ?_⟩
    simp only [consumersAfter, dataConsumersAfter, hc, ↓reduceIte]
    exact h

theorem keeps_newDataConsumer (h : s.Inv isData)
    {request : SfuRequest NewDataConsumerRequest.Data} {consumed : Option Unit}
    (hr : Respects isData (.newDataConsumer request consumed)) :
    Kept isData (s.handle (.newDataConsumer request consumed)) := by
  by_cases hc : s.media.controller.ConsumingData
  · cases ha : request.dataAdmission consumed with
    | none =>
      obtain ⟨f, hf, hnull⟩ := Media.createNewDataConsumer_incomplete hc ha
      exact Or.inr ⟨f, handle_error hf, hnull⟩
    | some a =>
      have htid := dataAdmission_tid ha
      refine Or.inl ⟨_, handle_ok (Media.createNewDataConsumer_admitted hc ha), ?_⟩
      simp only [consumersAfter, dataConsumersAfter, hc, ↓reduceIte, htid, Option.elim_some]
      exact h.acceptData (hr.2 a.tid htid)
  · refine Or.inl ⟨_, handle_ok (Media.createNewDataConsumer_refused hc), ?_⟩
    simp only [consumersAfter, dataConsumersAfter, hc, ↓reduceIte]
    exact h

theorem keeps_consumerClosed (h : s.Inv isData)
    (notification : Notification ConsumerNotification.Data) :
    Kept isData (s.handle (.consumerClosed notification)) := by
  have herase {tid : String} (hnone : s.media.controller.consumerOf tid = none) :
      s.consumers.erase tid = s.consumers := by
    refine Finset.erase_eq_of_notMem fun hmem => ?_
    exact h.agrees.sound.stored.consumerOf_none hnone ((h.agrees.consumers tid).mpr hmem)
  cases hdata : notification.data with
  | none =>
    rcases Media.onConsumerClosed_without_data h.agrees.sound.stored hdata with ⟨hempty, hok⟩ | herr
    · refine Or.inl ⟨_, handle_ok hok, ?_⟩
      have hnone : s.media.controller.consumerOf "" = none := by
        rw [MediaController.consumerOf, AList.lookup_eq_none.mpr]
        · rfl
        · rw [AList.mem_keys, AList.keys, hempty]
          simp
      simp only [consumersAfter, dataConsumersAfter, hdata, Option.bind_none, Option.getD_none,
        herase hnone]
      exact h
    · exact Or.inr ⟨_, handle_error herr, id⟩
  | some data =>
    refine Or.inl ⟨_, handle_ok (Media.onConsumerClosed_eq h.agrees.sound.stored hdata), ?_⟩
    simp only [consumersAfter, dataConsumersAfter, hdata, Option.bind_some]
    cases hc : s.media.controller.consumerOf (data.consumerId.getD "") with
    | none =>
      rw [herase hc]
      exact h
    | some consumer => exact h.removeConsumer hc

theorem keeps_paused (h : s.Inv isData) {e : MediaEvent} {paused : Bool}
    {notification : Notification ConsumerNotification.Data}
    (he : s.media.step e = s.media.onConsumerPaused paused notification)
    (hids : s.consumersAfter e = s.consumers ∧ s.dataConsumersAfter e = s.dataConsumers) :
    Kept isData (s.handle e) := by
  cases hdata : notification.data with
  | none =>
    refine Or.inr ⟨.disengaged, handle_error ?_, id⟩
    rw [he, Media.onConsumerPaused, hdata]
    rfl
  | some data =>
    have hrun : s.media.onConsumerPaused paused notification =
        if (data.consumerId.getD "").isEmpty then .ok s.media
        else s.media.updateConsumer (data.consumerId.getD "") paused := by
      rw [Media.onConsumerPaused, hdata]
      rfl
    rw [Media.updateConsumer_eq h.agrees.sound.stored] at hrun
    left
    split_ifs at hrun
    · refine ⟨_, handle_ok (he.trans hrun), ?_⟩
      rw [hids.1, hids.2]
      exact h
    · refine ⟨_, handle_ok (he.trans hrun), ?_⟩
      rw [hids.1, hids.2]
      cases hc : s.media.controller.consumerOf (data.consumerId.getD "") with
      | none => exact h
      | some consumer =>
        exact h.same (h.agrees.sound.setPaused hc paused)
          (MediaController.sameIds_setPaused h.agrees.sound hc paused)

/-- A query that returns. -/
theorem keeps_query (h : s.Inv isData) {e : MediaEvent} {r : Except Fault MediaController}
    (he : s.media.step e = s.media.withController r) (hr : r = .ok s.media.controller)
    (hids : s.consumersAfter e = s.consumers ∧ s.dataConsumersAfter e = s.dataConsumers) :
    Kept isData (s.handle e) := by
  have hstep : s.media.step e = .ok s.media := by
    rw [he, hr]
    rfl
  refine Or.inl ⟨_, handle_ok hstep, ?_⟩
  rw [hids.1, hids.2]
  exact h

theorem isMuted_ok (h : s.Inv isData) {kind : MediaKind} {pid : String}
    (hmeets : ¬ s.media.controller.MeetsDataConsumer kind pid) :
    (s.media.controller.isMuted kind pid).map Prod.snd = .ok s.media.controller := by
  rw [MediaController.isMuted_eq h.agrees.sound.stored]
  split
  · rfl
  · rename_i e he
    have hsome : (s.media.controller.consumerOf e.1).isSome := by
      rw [Option.isSome_iff_ne_none]
      exact fun hnone => hmeets ⟨e, he, hnone⟩
    rw [if_pos hsome]
    rfl

theorem isMuted_null (h : s.Inv isData) {kind : MediaKind} {pid : String}
    (hmeets : s.media.controller.MeetsDataConsumer kind pid) :
    (s.media.controller.isMuted kind pid).map Prod.snd = .error (.nullPointer .consumer) := by
  obtain ⟨e, he, hnone⟩ := hmeets
  rw [MediaController.isMuted_eq h.agrees.sound.stored, he]
  simp only [hnone, Option.isSome_none, Bool.false_eq_true, ↓reduceIte]
  rfl

/-- A query that follows a null pointer. -/
theorem query_breaks {e : MediaEvent} {r : Except Fault MediaController} {p : Pointer}
    (he : s.media.step e = s.media.withController r) (hr : r = .error (.nullPointer p)) :
    ¬ Good (s.handle e) := by
  have hstep : s.media.step e = .error (.nullPointer p) := by
    rw [he, hr]
    rfl
  rw [handle_error hstep]
  simp [Good, Fault.IsNull]

theorem handle_destroy (h : s.Inv isData) :
    s.handle .destroy =
      .ok { media := { s.media with controller := s.media.controller.destroyed } } := by
  have hstep : s.media.step .destroy =
      .ok { s.media with controller := s.media.controller.destroyed } := by
    show s.media.withController s.media.controller.destroy = _
    rw [MediaController.destroy_eq h.agrees.sound h.producers]
    rfl
  exact handle_ok hstep

theorem keeps_destroy (h : s.Inv isData) (hempty : s.consumers = ∅ ∧ s.dataConsumers = ∅) :
    Kept isData (s.handle .destroy) := by
  have hnone : ∀ tid, tid ∉ s.media.controller.consumerIdToPeerId := by
    intro tid hmem
    rcases (h.agrees.sound.peers tid).mp hmem with hmem | hmem
    · simpa [hempty.1] using (h.agrees.consumers tid).mp hmem
    · simpa [hempty.2] using (h.agrees.dataConsumers tid).mp hmem
  refine Or.inl ⟨_, handle_destroy h, ⟨⟨?_, ?_, ?_, ?_⟩, ?_, ?_⟩, ?_, by simp, by simp⟩
  · intro tid pointer hl
    simp [MediaController.destroyed] at hl
  · intro tid pointer hl
    simp [MediaController.destroyed] at hl
  · intro tid
    exact iff_of_false (hnone tid) (by simp [MediaController.destroyed])
  · intro tid hmem
    simp [MediaController.destroyed] at hmem
  · intro tid
    simp [MediaController.destroyed]
  · intro tid
    simp [MediaController.destroyed]
  · simp only [MediaController.destroyed, h.producers]
    rfl

/-- Each kind of event under the guard. -/
theorem handle_keeps {e : MediaEvent} (h : s.Inv isData) (hr : Respects isData e)
    (hcare : s.Careful (.event e)) : Kept isData (s.handle e) := by
  cases e with
  | newConsumer request consumed => exact keeps_newConsumer h hr
  | newDataConsumer request consumed => exact keeps_newDataConsumer h hr
  | consumerClosed notification => exact keeps_consumerClosed h notification
  | dataConsumerClosed notification =>
    refine Or.inl ⟨_, handle_ok rfl, ?_⟩
    have hids : s.dataConsumersAfter (.dataConsumerClosed notification) = s.dataConsumers := by
      unfold dataConsumersAfter
      cases hn : notification.data.bind fun data => data.dataConsumerId with
      | none => simp [hn]
      | some tid => simpa [hn] using Finset.erase_eq_of_notMem (hcare tid hn)
    rw [hids]
    exact h
  | consumerPaused notification => exact keeps_paused h rfl ⟨rfl, rfl⟩
  | consumerResumed notification => exact keeps_paused h rfl ⟨rfl, rfl⟩
  | muteAudio muted =>
    refine Or.inl ⟨_, handle_ok rfl, h.same ?_ ?_⟩
    · unfold Media.muteAudio
      split
      · exact h.agrees.sound
      · obtain ⟨h₁, h₂, h₃, h₄⟩ := h.agrees.sound
        exact ⟨h₁, h₂, h₃, h₄⟩
    · unfold Media.muteAudio
      split
      · exact .refl _
      · exact ⟨fun _ => Iff.rfl, rfl, rfl, rfl⟩
  | muteAudioOf pid muted =>
    obtain ⟨m', hm, hs, hids⟩ := Media.mutePeer_ok h.agrees.sound .audio pid muted
    exact Or.inl ⟨_, handle_ok hm, h.same hs hids⟩
  | muteVideo pid muted =>
    obtain ⟨m', hm, hs, hids⟩ := Media.mutePeer_ok h.agrees.sound .video pid muted
    exact Or.inl ⟨_, handle_ok hm, h.same hs hids⟩
  | isAudioMuted pid => exact keeps_query h rfl (isMuted_ok h hcare) ⟨rfl, rfl⟩
  | isVideoMuted pid => exact keeps_query h rfl (isMuted_ok h hcare) ⟨rfl, rfl⟩
  | getRemoteAudioTracks pid =>
    refine keeps_query h rfl ?_ ⟨rfl, rfl⟩
    rw [MediaController.getRemoteAudioTracks_eq h.agrees.sound.stored]
    rfl
  | getRemoteVideoTracks pid =>
    refine keeps_query h rfl ?_ ⟨rfl, rfl⟩
    rw [MediaController.getRemoteVideoTracks_eq h.agrees.sound.stored]
    rfl
  | destroy => exact keeps_destroy h hcare

/-- The events outside the guard break the correspondence at once. -/
theorem handle_breaks {e : MediaEvent} (h : s.Inv isData) (hcare : ¬ s.Careful (.event e)) :
    ¬ Good (s.handle e) := by
  cases e with
  | dataConsumerClosed notification =>
    simp only [Careful, not_forall, not_not] at hcare
    obtain ⟨tid, hn, hmem⟩ := hcare
    rw [handle_ok rfl]
    intro hgood
    have hids := (hgood.dataConsumers tid).mp ((h.agrees.dataConsumers tid).mpr hmem)
    simp [dataConsumersAfter, hn] at hids
  | isAudioMuted pid => exact query_breaks rfl (isMuted_null h (not_not.mp hcare))
  | isVideoMuted pid => exact query_breaks rfl (isMuted_null h (not_not.mp hcare))
  | destroy =>
    rw [handle_destroy h]
    intro hgood
    -- An id that was held is still in the map of peers.
    have hheld : ∃ tid, tid ∈ s.media.controller.consumerIdToPeerId := by
      simp only [Careful, not_and_or, ← Finset.nonempty_iff_ne_empty, ← ne_eq] at hcare
      rcases hcare with ⟨tid, hmem⟩ | ⟨tid, hmem⟩
      · exact ⟨tid, (h.agrees.sound.peers tid).mpr (Or.inl ((h.agrees.consumers tid).mpr hmem))⟩
      · exact ⟨tid,
          (h.agrees.sound.peers tid).mpr (Or.inr ((h.agrees.dataConsumers tid).mpr hmem))⟩
    obtain ⟨tid, hmem⟩ := hheld
    have hnone := (hgood.sound.peers tid).mp hmem
    simp [MediaController.destroyed] at hnone
  | _ => exact absurd trivial hcare

theorem Inv.reorder (h : s.Inv isData) (consumers dataConsumers peers : List String) :
    Inv isData { s with media := s.media.reorder consumers dataConsumers peers } where
  agrees :=
    { sound := h.agrees.sound.reorder consumers dataConsumers peers
      consumers := fun tid => HashMap.mem_arrange.trans (h.agrees.consumers tid)
      dataConsumers := fun tid => HashMap.mem_arrange.trans (h.agrees.dataConsumers tid) }
  producers := h.producers
  consumers := h.consumers
  dataConsumers := h.dataConsumers

/-- The SFU gives a consumer and a data consumer different ids. -/
def DistinctIds (run : List Turn) : Prop :=
  ∀ t ∈ run, ∀ t' ∈ run, ∀ tid, t.consumerId = some tid → t'.dataConsumerId ≠ some tid

/-- A controller without consumers and producers, whatever its options, transports and
participants are. -/
structure Fresh (m : Media) : Prop where
  consumers : m.controller.consumerMap = ∅
  dataConsumers : m.controller.dataConsumerMap = ∅
  peers : m.controller.consumerIdToPeerId = ∅
  producers : m.controller.producerMap = ∅

theorem Fresh.sound {m : Media} (h : Fresh m) : m.controller.Sound := by
  refine ⟨?_, ?_, ?_, ?_⟩
  · intro tid pointer hl
    simp [h.consumers] at hl
  · intro tid pointer hl
    simp [h.dataConsumers] at hl
  · intro tid
    simp [h.consumers, h.dataConsumers, h.peers]
  · intro tid hmem
    simp [h.consumers] at hmem

theorem Fresh.inv {m : Media} (h : Fresh m) : Inv isData { media := m } := by
  refine ⟨⟨h.sound, ?_, ?_⟩, h.producers, by simp, by simp⟩
  · intro tid
    simp [h.consumers]
  · intro tid
    simp [h.dataConsumers]

/-- The maps agree and hold the ids opened and not closed, all through a run, exactly when no
event of the run closes a data consumer that is held, no query of a peer meets one of its data
consumers in the order that the map has then, and `destroy` comes when nothing is held. -/
theorem agrees_iff_careful (m : Media) (hm : Fresh m) (run : List Turn) (hids : DistinctIds run) :
    (∀ pre, pre <+: run → Good (exec step { media := m } pre)) ↔
      Guarded step Careful { media := m } run := by
  let isData : Set String := {tid | ∃ t ∈ run, t.dataConsumerId = some tid}
  have hrespects : ∀ t ∈ run, ∀ e, t = .event e → Respects isData e := by
    rintro _ ht e rfl
    exact ⟨fun tid htid ⟨t', ht', htid'⟩ => hids _ ht t' ht' tid htid htid',
      fun tid htid => ⟨_, ht, htid⟩⟩
  refine forall_prefix_good_iff_guarded (I := Inv isData) ?_ ?_ ?_ hrespects hm.inv
  · exact fun s hs => hs.agrees
  · intro s t hs hr hc
    cases t with
    | event e => exact handle_keeps hs (hr e rfl) hc
    | reorder consumers dataConsumers peers => exact Or.inl ⟨_, rfl, hs.reorder _ _ _⟩
  · intro s t hs _ hc
    cases t with
    | event e => exact handle_breaks hs hc
    | reorder consumers dataConsumers peers => exact absurd trivial hc

/-- A controller that may consume, without participants. -/
def consumingMedia : Media := { controller := { options := {}, recvTransport := some ⟨"t"⟩ } }

theorem consumingMedia_fresh : Fresh consumingMedia := ⟨rfl, rfl, rfl, rfl⟩

def newVideo (tid peerId : String) : MediaEvent :=
  .newConsumer ⟨some ⟨1, by decide⟩, some ⟨some tid, some peerId, some "video", some "p1",
    some false, some (Fields.fresh _), some (Fields.fresh _)⟩⟩ (some ⟨0, .video⟩)

def newAudio (tid peerId : String) : MediaEvent :=
  .newConsumer ⟨some ⟨1, by decide⟩, some ⟨some tid, some peerId, some "audio", some "p1",
    some false, some (Fields.fresh _), some (Fields.fresh _)⟩⟩ (some ⟨0, .audio⟩)

def newChat (tid peerId : String) : MediaEvent :=
  .newDataConsumer ⟨some ⟨2, by decide⟩, some ⟨some tid, some peerId, some "p2", some "chat",
    some "", some (some ⟨1, by decide⟩, some true, ()), some (Fields.fresh _)⟩⟩ (some ())

/-- The peer of a data consumer is asked about when the map lists its video consumer first. -/
def careRun : List Turn :=
  [.event (newVideo "c1" "bob"), .event (newChat "d1" "bob"), .reorder [] [] ["c1"],
    .event (.isVideoMuted "bob"), .event (.consumerPaused ⟨some ⟨some "c1"⟩⟩),
    .event (.consumerClosed ⟨some ⟨some "c1"⟩⟩)]

theorem careRun_agrees :
    Fresh consumingMedia ∧
      ∀ pre, pre <+: careRun → Good (exec step { media := consumingMedia } pre) :=
  ⟨consumingMedia_fresh,
    (agrees_iff_careful consumingMedia consumingMedia_fresh careRun
      (by simp [DistinctIds, careRun, newChat, newVideo, Turn.consumerId, Turn.dataConsumerId,
        MediaEvent.consumerId, MediaEvent.dataConsumerId])).mpr (by decide +kernel)⟩

/-- A closed data consumer stays in the maps, a query of its peer follows a null pointer in one
order of the peers and not in another, and `destroy` leaves its peer behind. -/
theorem data_consumer_breaks_maps :
    Fresh consumingMedia ∧
      (∃ s, exec step { media := consumingMedia }
          [.event (newChat "d1" "bob"),
            .event (.dataConsumerClosed ⟨some ⟨some "d1"⟩⟩)] = .ok s ∧
        "d1" ∉ s.dataConsumers ∧ "d1" ∈ s.media.controller.dataConsumerMap ∧ ¬ s.Agrees) ∧
      exec step { media := consumingMedia }
          [.event (newVideo "c1" "bob"), .event (newChat "d1" "bob"),
            .event (.isVideoMuted "bob")] = .error (.nullPointer .consumer) ∧
      exec step { media := consumingMedia }
          [.event (newChat "d1" "bob"), .event (newVideo "c1" "bob"), .reorder [] [] ["d1"],
            .event (.isVideoMuted "bob")] = .error (.nullPointer .consumer) ∧
      ∃ s, exec step { media := consumingMedia }
          [.event (newChat "d1" "bob"), .event .destroy] = .ok s ∧
        s.dataConsumers = ∅ ∧ "d1" ∈ s.media.controller.consumerIdToPeerId ∧ ¬ s.Agrees := by
  refine ⟨consumingMedia_fresh, ?_, rfl, rfl, ?_⟩
  · refine ⟨_, rfl, by decide, by decide, fun h => ?_⟩
    exact absurd ((h.dataConsumers "d1").mp (by decide)) (by decide)
  · refine ⟨_, rfl, rfl, by decide, fun h => ?_⟩
    rcases (h.sound.peers "d1").mp (by decide) with hmem | hmem
    · exact absurd hmem (by decide)
    · exact absurd hmem (by decide)

end Ledger
end MediasoupSdk
