import MediasoupSdk.Media.Ledger

/-! The loops of `muteVideo` and `muteAudio` over the consumers of a peer. The map that they walk
also holds the ids of data consumers, and a loop ends at the first of these that is the peer's. -/
namespace MediasoupSdk
open Foundation Signaling

/-- An element that passes is cut off exactly when one that does not stands before it. -/
theorem not_mem_takeWhile_iff {α : Type} {p : α → Bool} {l : List α} (hl : l.Nodup) {a : α}
    (ha : a ∈ l) (hp : p a) :
    a ∉ l.takeWhile p ↔ ∃ b, [b, a].Sublist l ∧ p b = false := by
  induction l with
  | nil => cases ha
  | cons x l ih =>
    obtain ⟨hx, hl⟩ := List.nodup_cons.mp hl
    rw [List.takeWhile_cons]
    cases hpx : p x with
    | false =>
      have hmem : a ∈ l := by
        rcases List.mem_cons.mp ha with rfl | ha
        · rw [hp] at hpx
          cases hpx
        · exact ha
      simp only [Bool.false_eq_true, if_false, List.not_mem_nil, not_false_eq_true, true_iff]
      exact ⟨x, (List.singleton_sublist.mpr hmem).cons_cons x, hpx⟩
    | true =>
      rw [if_pos rfl, List.mem_cons, not_or]
      constructor
      · rintro ⟨hne, hnot⟩
        have hmem := (List.mem_cons.mp ha).resolve_left hne
        obtain ⟨b, hsub, hb⟩ := (ih hl hmem).mp hnot
        exact ⟨b, hsub.cons x, hb⟩
      · rintro ⟨b, hsub, hb⟩
        rcases List.sublist_cons_iff.mp hsub with hsub | ⟨r, hr, hsub⟩
        · have hmem : a ∈ l := hsub.subset (by simp)
          refine ⟨?_, (ih hl hmem).mpr ⟨b, hsub, hb⟩⟩
          rintro rfl
          exact hx hmem
        · cases hr
          rw [hpx] at hb
          cases hb

namespace MediaController

/-- The consumers are the same, and no id loses its peer. -/
structure Grown (mc mc' : MediaController) : Prop where
  consumers : mc'.consumerMap = mc.consumerMap
  peers : ∀ tid, tid ∈ mc.consumerIdToPeerId → tid ∈ mc'.consumerIdToPeerId

variable {mc mc' : MediaController}

theorem Stored.grown (h : mc.Stored) (hg : Grown mc mc') : mc'.Stored := by
  constructor
  · intro tid p hl
    rw [hg.consumers] at hl
    exact h.pointer tid p hl
  · intro tid ht
    rw [hg.consumers] at ht
    exact hg.peers tid (h.peer tid ht)

/-- A consumer that has a peer is stored under its id. -/
theorem Stored.insert (h : mc.Stored) (consumer : Consumer) (peers : HashMap String String)
    (hpeers : ∀ tid, tid ∈ mc.consumerIdToPeerId → tid ∈ peers) (hmem : consumer.id ∈ peers) :
    Stored { mc with
      consumerMap := mc.consumerMap.insert consumer.id (some consumer)
      consumerIdToPeerId := peers } := by
  constructor
  · intro tid p hl
    simp only [HashMap.lookup_insert_eq_ite] at hl
    split_ifs at hl with he
    · cases hl
      exact ⟨consumer, rfl, he.symm⟩
    · exact h.pointer tid p hl
  · intro tid ht
    rcases (AList.mem_insert _).mp ht with rfl | ht
    · exact hmem
    · exact hpeers tid (h.peer tid ht)

theorem Stored.setPaused {consumer : Consumer} (h : mc.Stored)
    (hmem : consumer.id ∈ mc.consumerMap) (paused : Bool) :
    (mc.setPaused consumer paused).Stored :=
  h.insert { consumer with paused } _ (fun _ ht => ht) (h.peer _ hmem)

theorem Stored.drop (h : mc.Stored) (tid : String) : (mc.drop tid).Stored := by
  constructor
  · intro tid' p hl
    simp only [MediaController.drop, HashMap.lookup_erase_eq_ite] at hl
    split_ifs at hl
    exact h.pointer tid' p hl
  · intro tid' ht
    simp only [MediaController.drop, AList.mem_erase] at ht ⊢
    exact ht.imp_right (h.peer tid')

end MediaController
namespace Media

variable {m m' : Media} {kind : MediaKind} {pid tid : String} {muted : Bool}

theorem notify_controller
    {handler : ParticipantController → Except Fault ParticipantController}
    (h : m.notify handler = .ok m') : m'.controller = m.controller := by
  unfold notify at h
  split at h
  · cases h
    rfl
  · simp only [bind_ok, pure, Except.pure, Except.ok.injEq] at h
    obtain ⟨pc, -, rfl⟩ := h
    rfl

theorem notifyState_controller (h : m.notifyState kind pid muted = .ok m') :
    m'.controller = m.controller := by
  cases kind with
  | audio => exact notify_controller h
  | video => exact notify_controller h

theorem createNewConsumer_stored {request : SfuRequest NewConsumerRequest.Data}
    {consumed : Option Track} (hs : m.controller.Stored)
    (h : m.createNewConsumer request consumed = .ok m') : m'.controller.Stored := by
  unfold createNewConsumer at h
  split_ifs at h
  · cases h
    exact hs
  · cases h
    exact hs
  · simp only [bind_ok, pure, Except.pure, Except.ok.injEq] at h
    obtain ⟨data, -, rtp, -, appData, -, id, -, producerId, -, kind, -, track, -, paused, -,
      peerId, -, m₁, h₁, m₂, h₂, rfl⟩ := h
    have hstored := hs.insert { id, producerId, track }
      (m.controller.consumerIdToPeerId.insert id (data.peerId.getD ""))
      (fun _ ht => (AList.mem_insert _).mpr (Or.inr ht)) ((AList.mem_insert _).mpr (Or.inl rfl))
    rw [notifyCreate_eq (by exact hstored)] at h₁
    cases h₁
    show m₂.controller.Stored
    rw [notifyState_controller h₂]
    exact hstored

theorem createNewDataConsumer_stored {request : SfuRequest NewDataConsumerRequest.Data}
    {consumed : Option Unit} (hs : m.controller.Stored)
    (h : m.createNewDataConsumer request consumed = .ok m') : m'.controller.Stored := by
  unfold createNewDataConsumer at h
  split_ifs at h
  · cases h
    exact hs
  · cases h
    exact hs
  · cases h
    exact hs
  · simp only [bind_ok, pure, Except.pure, Except.ok.injEq] at h
    obtain ⟨data, -, appData, -, id, -, producerId, -, sctp, -, streamId, -, label, -,
      protocol, -, u, -, rfl⟩ := h
    exact hs.grown ⟨rfl, fun tid ht => (AList.mem_insert _).mpr (Or.inr ht)⟩

theorem onConsumerClosed_stored {notification : Notification ConsumerNotification.Data}
    (hs : m.controller.Stored) (h : m.onConsumerClosed notification = .ok m') :
    m'.controller.Stored := by
  cases hdata : notification.data with
  | none =>
    rcases onConsumerClosed_without_data hs hdata with ⟨-, hok⟩ | herr
    · rw [hok, Except.ok.injEq] at h
      exact h ▸ hs
    · rw [herr] at h
      cases h
  | some data =>
    rw [onConsumerClosed_eq hs hdata, Except.ok.injEq] at h
    rw [← h]
    cases m.controller.consumerOf (data.consumerId.getD "") with
    | none => exact hs
    | some consumer => exact hs.drop consumer.id

theorem updateConsumer_stored {paused : Bool} (hs : m.controller.Stored)
    (h : m.updateConsumer tid paused = .ok m') : m'.controller.Stored := by
  rw [updateConsumer_eq hs, Except.ok.injEq] at h
  rw [← h]
  cases hc : m.controller.consumerOf tid with
  | none => exact hs
  | some consumer =>
    obtain ⟨hl, rfl⟩ := hs.lookup_consumerOf hc
    exact hs.setPaused (AList.lookup_isSome.mp (by rw [hl]; rfl)) paused

theorem onConsumerPaused_stored {paused : Bool}
    {notification : Notification ConsumerNotification.Data} (hs : m.controller.Stored)
    (h : m.onConsumerPaused paused notification = .ok m') : m'.controller.Stored := by
  simp only [onConsumerPaused, bind_ok] at h
  obtain ⟨data, -, h⟩ := h
  split_ifs at h
  · cases h
    exact hs
  · exact updateConsumer_stored hs h

theorem isMuted_stored {r : Bool × MediaController} (hs : m.controller.Stored)
    (h : m.controller.isMuted kind pid = .ok r) : r.2.Stored := by
  rw [MediaController.isMuted_eq hs] at h
  split at h
  · cases h
    exact hs
  · split_ifs at h
    cases h
    exact hs

/-- A round of the mute loop: the consumer is paused or resumed, and the SFU is asked to. -/
def muteConsumer (muted : Bool) (m : Media) (consumer : Consumer) : Media :=
  Media.push (.request (if muted then .pauseConsumer consumer.id else .resumeConsumer consumer.id))
    { m with controller := m.controller.setPaused consumer muted }

/-- The entries that the loop comes to: it ends at an id of the peer that is no consumer's. -/
def Passes (pid : String) (mc : MediaController) (e : Sigma fun _ : String => String) : Bool :=
  e.2 ≠ pid || (mc.consumerMap.lookup e.1).isSome

/-- The consumer of an entry when it is of the peer and the kind. -/
def target (kind : MediaKind) (pid : String) (mc : MediaController)
    (e : Sigma fun _ : String => String) : Option Consumer :=
  if e.2 = pid then (mc.consumerOf e.1).filter (·.track.kind = kind) else none

/-- The consumers that the loop mutes. -/
def targets (kind : MediaKind) (pid : String) (mc : MediaController)
    (l : List (Sigma fun _ : String => String)) : List Consumer :=
  (l.takeWhile (Passes pid mc)).filterMap (target kind pid mc)

theorem target_eq_some {mc : MediaController} {e : Sigma fun _ : String => String}
    {consumer : Consumer} : target kind pid mc e = some consumer ↔
      e.2 = pid ∧ mc.consumerOf e.1 = some consumer ∧ consumer.track.kind = kind := by
  unfold target
  split_ifs with hp
  · simp [hp, Option.filter_eq_some_iff]
  · simp [hp]

/-- The targets of a list depend on the consumers of its entries only. -/
theorem targets_congr {mc mc' : MediaController} {l : List (Sigma fun _ : String => String)}
    (h : ∀ e ∈ l, mc'.consumerMap.lookup e.1 = mc.consumerMap.lookup e.1) :
    targets kind pid mc' l = targets kind pid mc l := by
  induction l with
  | nil => rfl
  | cons e l ih =>
    have he := h e List.mem_cons_self
    have hpasses : Passes pid mc' e = Passes pid mc e := by rw [Passes, Passes, he]
    have htarget : target kind pid mc' e = target kind pid mc e := by
      rw [target, target, MediaController.consumerOf, MediaController.consumerOf, he]
    have ih' := ih fun e he => h e (List.mem_cons_of_mem _ he)
    unfold targets at ih' ⊢
    rw [List.takeWhile_cons, List.takeWhile_cons, hpasses]
    split_ifs
    · rw [List.filterMap_cons, List.filterMap_cons, htarget, ih']
    · rfl

theorem targets_cons {mc : MediaController} {e : Sigma fun _ : String => String}
    {l : List (Sigma fun _ : String => String)} :
    targets kind pid mc (e :: l) =
      if Passes pid mc e then (target kind pid mc e).toList ++ targets kind pid mc l else [] := by
  unfold targets
  rw [List.takeWhile_cons]
  split_ifs
  · rw [List.filterMap_cons]
    cases target kind pid mc e <;> rfl
  · rfl

/-- The loop mutes its targets in order. -/
theorem muteLoop_eq {l : List (Sigma fun _ : String => String)} (hs : m.controller.Stored)
    (hl : (l.map Sigma.fst).Nodup) :
    m.muteLoop kind pid muted l =
      .ok ((targets kind pid m.controller l).foldl (muteConsumer muted) m) := by
  induction l generalizing m with
  | nil => rfl
  | cons e l ih =>
    rw [List.map_cons, List.nodup_cons] at hl
    rw [muteLoop, targets_cons]
    by_cases hp : e.2 = pid
    · rw [if_pos hp]
      cases hlookup : m.controller.consumerMap.lookup e.1 with
      | none => simp [Passes, hp, hlookup]
      | some pointer =>
        obtain ⟨consumer, rfl, hid⟩ := hs.pointer e.1 pointer hlookup
        have hc : m.controller.consumerOf e.1 = some consumer := by
          rw [MediaController.consumerOf, hlookup]
          rfl
        rw [if_pos (show Passes pid m.controller e = true by simp [Passes, hlookup])]
        simp only [deref_some, bind, Except.bind]
        by_cases hk : consumer.track.kind = kind
        · have hmem : consumer.id ∈ m.controller.consumerMap :=
            AList.lookup_isSome.mp (by rw [hid, hlookup]; rfl)
          have hrest : targets kind pid (muteConsumer muted m consumer).controller l =
              targets kind pid m.controller l := by
            apply targets_congr
            intro e' he'
            have hne : e'.1 ≠ consumer.id := by
              rw [hid]
              exact fun he => hl.1 (he ▸ List.mem_map_of_mem he')
            exact (HashMap.lookup_insert_eq_ite _ _ _ _).trans (if_neg hne)
          have ih' := @ih (muteConsumer muted m consumer) (hs.setPaused hmem muted) hl.2
          rw [hrest] at ih'
          rw [if_pos hk, target_eq_some.mpr ⟨hp, hc, hk⟩, ← hid]
          exact ih'
        · have hnone : target kind pid m.controller e = none := by simp [target, hp, hc, hk]
          rw [if_neg hk, hnone]
          exact ih hs hl.2
    · have hnone : target kind pid m.controller e = none := by simp [target, hp]
      rw [if_neg hp, if_pos (show Passes pid m.controller e = true by simp [Passes, hp]), hnone]
      exact ih hs hl.2

/-- The consumers of the peer, of a kind. -/
def OfPeer (kind : MediaKind) (pid : String) (mc : MediaController) (consumer : Consumer) : Prop :=
  mc.consumerOf consumer.id = some consumer ∧ consumer.track.kind = kind ∧
    mc.consumerIdToPeerId.lookup consumer.id = some pid

def AllPaused (kind : MediaKind) (pid : String) (mc : MediaController) : Prop :=
  ∀ consumer, OfPeer kind pid mc consumer → consumer.paused = true

/-- In the order of the map of peers, an id of the peer that is no consumer's, such as that of a
data consumer, comes before a consumer of the peer of this kind. -/
def CutOff (kind : MediaKind) (pid : String) (mc : MediaController) : Prop :=
  ∃ before e consumer, [before, e].Sublist mc.consumerIdToPeerId.entries ∧
    before.2 = pid ∧ before.1 ∉ mc.consumerMap ∧
    e.2 = pid ∧ mc.consumerOf e.1 = some consumer ∧ consumer.track.kind = kind

section Targets

variable {mc : MediaController}

theorem mem_targets_iff {l : List (Sigma fun _ : String => String)} {consumer : Consumer} :
    consumer ∈ targets kind pid mc l ↔
      ∃ e ∈ l.takeWhile (Passes pid mc), e.2 = pid ∧ mc.consumerOf e.1 = some consumer ∧
        consumer.track.kind = kind := by
  simp only [targets, List.mem_filterMap, target_eq_some]

theorem passes_eq_false {e : Sigma fun _ : String => String} :
    Passes pid mc e = false ↔ e.2 = pid ∧ e.1 ∉ mc.consumerMap := by
  rw [Passes, ← AList.lookup_eq_none]
  simp

theorem ofPeer_of_mem_targets (hs : mc.Stored) {consumer : Consumer}
    (h : consumer ∈ targets kind pid mc mc.consumerIdToPeerId.entries) :
    OfPeer kind pid mc consumer := by
  obtain ⟨e, he, hp, hc, hk⟩ := mem_targets_iff.mp h
  have hid := (hs.lookup_consumerOf hc).2
  have hpeer := AList.mem_lookup_iff.mpr ((List.takeWhile_sublist _).subset he)
  rw [← hid] at hc hpeer
  exact ⟨hc, hk, hp ▸ hpeer⟩

theorem targets_nodup (hs : mc.Stored) :
    ((targets kind pid mc mc.consumerIdToPeerId.entries).map Consumer.id).Nodup := by
  have hsub : ∀ l : List (Sigma fun _ : String => String),
      ((targets kind pid mc l).map Consumer.id).Sublist (l.map Sigma.fst) := by
    intro l
    induction l with
    | nil => exact List.Sublist.refl _
    | cons e l ih =>
      rw [targets_cons]
      split_ifs
      · cases htarget : target kind pid mc e with
        | none => exact ih.cons e.1
        | some consumer =>
          have hid := (hs.lookup_consumerOf (target_eq_some.mp htarget).2.1).2
          rw [Option.toList_some, List.singleton_append, List.map_cons, List.map_cons, hid]
          exact ih.cons_cons e.1
      · exact List.nil_sublist _
  exact (hsub _).nodup mc.consumerIdToPeerId.nodupKeys

/-- The loop passes a consumer of the peer over when another id of the peer comes before it. -/
theorem not_mem_targets_iff (hs : mc.Stored) {consumer : Consumer}
    (hc : OfPeer kind pid mc consumer) :
    consumer ∉ targets kind pid mc mc.consumerIdToPeerId.entries ↔
      ∃ before, [before, ⟨consumer.id, pid⟩].Sublist mc.consumerIdToPeerId.entries ∧
        before.2 = pid ∧ before.1 ∉ mc.consumerMap := by
  have hnodup := mc.consumerIdToPeerId.nodupKeys
  obtain ⟨hof, hk, hpeer⟩ := hc
  have hmem : (⟨consumer.id, pid⟩ : Sigma fun _ : String => String) ∈
      mc.consumerIdToPeerId.entries := AList.mem_lookup_iff.mp hpeer
  have hpasses : Passes pid mc ⟨consumer.id, pid⟩ = true := by
    simp [Passes, (hs.lookup_consumerOf hof).1]
  have htargets : consumer ∈ targets kind pid mc mc.consumerIdToPeerId.entries ↔
      ⟨consumer.id, pid⟩ ∈ mc.consumerIdToPeerId.entries.takeWhile (Passes pid mc) := by
    rw [mem_targets_iff]
    constructor
    · rintro ⟨e, he, hp, hc', -⟩
      have hee : e = ⟨consumer.id, pid⟩ := by
        apply hnodup.eq_of_fst_eq ((List.takeWhile_sublist _).subset he) hmem
        exact (hs.lookup_consumerOf hc').2.symm
      rwa [hee] at he
    · intro he
      exact ⟨_, he, rfl, hof, hk⟩
  rw [htargets, not_mem_takeWhile_iff hnodup.nodup hmem hpasses]
  simp only [passes_eq_false]

/-- The loop comes to all consumers of the peer unless some are cut off. -/
theorem forall_mem_targets_iff (hs : mc.Stored) :
    (∀ consumer, OfPeer kind pid mc consumer →
      consumer ∈ targets kind pid mc mc.consumerIdToPeerId.entries) ↔
        ¬ CutOff kind pid mc := by
  constructor
  · rintro hall ⟨before, ⟨tid, peer⟩, consumer, hsub, hbefore, hnot, hp, hc, hk⟩
    obtain ⟨-, rfl⟩ : _ ∧ consumer.id = tid := hs.lookup_consumerOf hc
    obtain rfl : peer = pid := hp
    have hmem : ⟨consumer.id, peer⟩ ∈ mc.consumerIdToPeerId.entries := hsub.subset (by simp)
    have hof : OfPeer kind peer mc consumer := ⟨hc, hk, AList.mem_lookup_iff.mpr hmem⟩
    exact (not_mem_targets_iff hs hof).mpr ⟨before, hsub, hbefore, hnot⟩ (hall consumer hof)
  · intro hcut consumer hof
    by_contra hout
    obtain ⟨before, hsub, hbefore, hnot⟩ := (not_mem_targets_iff hs hof).mp hout
    exact hcut ⟨before, _, consumer, hsub, hbefore, hnot, rfl, hof.1, hof.2.1⟩

end Targets

def muteRequest (muted : Bool) (id : String) : Outgoing :=
  .request (if muted then .pauseConsumer id else .resumeConsumer id)

/-- Each consumer of the peer of the kind is paused or resumed, the SFU is asked once for each of
them and for nothing else, and everything else stays as it is. -/
structure MutedExactly (kind : MediaKind) (pid : String) (muted : Bool) (m m' : Media) :
    Prop where
  consumer : ∀ consumer, OfPeer kind pid m.controller consumer →
    m'.controller.consumerOf consumer.id = some { consumer with paused := muted }
  other : ∀ tid, (∀ consumer, OfPeer kind pid m.controller consumer → consumer.id ≠ tid) →
    m'.controller.consumerOf tid = m.controller.consumerOf tid
  requests : ∃ consumers : List Consumer, (consumers.map Consumer.id).Nodup ∧
    (∀ consumer, consumer ∈ consumers ↔ OfPeer kind pid m.controller consumer) ∧
    m'.outgoing = m.outgoing ++ consumers.map fun consumer => muteRequest muted consumer.id
  rest : m'.observer = m.observer ∧
    m'.controller = { m.controller with consumerMap := m'.controller.consumerMap }

section Effect

variable {consumers : List Consumer}

theorem muteConsumer_consumerOf (consumer : Consumer) (tid : String) :
    (muteConsumer muted m consumer).controller.consumerOf tid =
      if tid = consumer.id then some { consumer with paused := muted }
      else m.controller.consumerOf tid := by
  show (AList.lookup tid (m.controller.consumerMap.insert _ _)).join = _
  rw [HashMap.lookup_insert_eq_ite]
  split_ifs <;> rfl

theorem foldl_muteConsumer_of_forall_ne {tid : String}
    (h : ∀ consumer ∈ consumers, consumer.id ≠ tid) :
    (consumers.foldl (muteConsumer muted) m).controller.consumerOf tid =
      m.controller.consumerOf tid := by
  induction consumers generalizing m with
  | nil => rfl
  | cons consumer rest ih =>
    rw [List.foldl_cons, ih fun c hc => h c (List.mem_cons_of_mem _ hc), muteConsumer_consumerOf,
      if_neg (h consumer List.mem_cons_self).symm]

theorem foldl_muteConsumer_of_mem (hnodup : (consumers.map Consumer.id).Nodup)
    {consumer : Consumer} (h : consumer ∈ consumers) :
    (consumers.foldl (muteConsumer muted) m).controller.consumerOf consumer.id =
      some { consumer with paused := muted } := by
  induction consumers generalizing m with
  | nil => cases h
  | cons first rest ih =>
    rw [List.map_cons, List.nodup_cons] at hnodup
    rw [List.foldl_cons]
    rcases List.mem_cons.mp h with rfl | h
    · have hne : ∀ c ∈ rest, c.id ≠ consumer.id := by
        intro c hc he
        apply hnodup.1
        rw [← he]
        exact List.mem_map_of_mem hc
      rw [foldl_muteConsumer_of_forall_ne hne, muteConsumer_consumerOf, if_pos rfl]
    · exact ih hnodup.2 h

theorem muteRequest_injective (muted : Bool) : Function.Injective (muteRequest muted) := by
  intro id id' h
  cases muted <;> simpa [muteRequest] using h

theorem foldl_muteConsumer_rest :
    (consumers.foldl (muteConsumer muted) m).observer = m.observer ∧
      (consumers.foldl (muteConsumer muted) m).outgoing =
        m.outgoing ++ consumers.map (fun consumer => muteRequest muted consumer.id) ∧
      (consumers.foldl (muteConsumer muted) m).controller = { m.controller with
        consumerMap := (consumers.foldl (muteConsumer muted) m).controller.consumerMap } := by
  induction consumers generalizing m with
  | nil => simp
  | cons consumer rest ih =>
    obtain ⟨hobserver, houtgoing, hcontroller⟩ := @ih (muteConsumer muted m consumer)
    rw [List.foldl_cons]
    refine ⟨hobserver, ?_, hcontroller⟩
    rw [houtgoing, List.map_cons]
    exact List.append_assoc m.outgoing [muteRequest muted consumer.id] _

end Effect

/-- A mute call reaches exactly the consumers of the peer when none of them is cut off. -/
theorem mutePeer_iff (hs : m.controller.Stored) :
    (∃ m', m.mutePeer kind pid muted = .ok m' ∧ MutedExactly kind pid muted m m') ↔
      ¬ CutOff kind pid m.controller := by
  have hrun : m.muteLoop kind pid muted m.controller.consumerIdToPeerId.entries = _ :=
    muteLoop_eq hs m.controller.consumerIdToPeerId.nodupKeys
  have hnodup : ((targets kind pid m.controller
      m.controller.consumerIdToPeerId.entries).map Consumer.id).Nodup := targets_nodup hs
  have hofPeer : ∀ consumer ∈ targets kind pid m.controller
      m.controller.consumerIdToPeerId.entries, OfPeer kind pid m.controller consumer :=
    fun consumer => ofPeer_of_mem_targets hs
  rw [← forall_mem_targets_iff hs]
  rw [mutePeer, hrun]
  generalize targets kind pid m.controller m.controller.consumerIdToPeerId.entries = consumers
    at hrun hnodup hofPeer ⊢
  obtain ⟨hobserver, houtgoing, hcontroller⟩ :=
    @foldl_muteConsumer_rest m muted consumers
  constructor
  · rintro ⟨m', hm', hmuted⟩ consumer hc
    cases hm'
    obtain ⟨asked, -, hasked, hrequests⟩ := hmuted.requests
    rw [houtgoing, List.append_cancel_left_eq] at hrequests
    have hmem := List.mem_map_of_mem (f := fun c : Consumer => muteRequest muted c.id)
      ((hasked consumer).mpr hc)
    rw [← hrequests] at hmem
    obtain ⟨consumer', hc', hid⟩ := List.mem_map.mp hmem
    have hid := muteRequest_injective muted hid
    have hconsumer := (hofPeer consumer' hc').1
    rw [hid, hc.1, Option.some.injEq] at hconsumer
    rwa [hconsumer]
  · intro hall
    refine ⟨_, rfl, ?_, ?_, ?_, hobserver, hcontroller⟩
    · intro consumer hc
      exact foldl_muteConsumer_of_mem hnodup (hall consumer hc)
    · intro tid hne
      exact foldl_muteConsumer_of_forall_ne fun consumer hc => hne consumer (hofPeer consumer hc)
    · exact ⟨consumers, hnodup, fun consumer => ⟨hofPeer consumer, hall consumer⟩, houtgoing⟩

/-- The maps of consumers and of peers hold the same entries in another order. -/
structure Reordered (m m' : Media) : Prop where
  consumers : m.controller.consumerMap.entries.Perm m'.controller.consumerMap.entries
  peers : m.controller.consumerIdToPeerId.entries.Perm m'.controller.consumerIdToPeerId.entries

/-- The states that the events of the controller lead to from one without consumers. The hash maps
may take any order in between, and what is no consumer's may change. -/
inductive Reachable : Media → Prop
  | fresh {m : Media} (hconsumers : m.controller.consumerMap = ∅)
      (hpeers : m.controller.consumerIdToPeerId = ∅) : Reachable m
  | event {m m' : Media} (e : MediaEvent) (h : Reachable m) (hstep : m.step e = .ok m') :
      Reachable m'
  | reorder {m m' : Media} (h : Reachable m) (horder : Reordered m m') : Reachable m'

theorem Stored.reorder (hs : m.controller.Stored) (h : Reordered m m') : m'.controller.Stored := by
  have hlookup : ∀ tid, m'.controller.consumerMap.lookup tid =
      m.controller.consumerMap.lookup tid := fun tid => AList.perm_lookup h.consumers.symm
  constructor
  · intro tid p hl
    rw [hlookup] at hl
    exact hs.pointer tid p hl
  · intro tid ht
    have hmem : tid ∈ m.controller.consumerMap := (AList.mem_of_perm h.consumers).mpr ht
    exact (AList.mem_of_perm h.peers).mp (hs.peer tid hmem)

theorem mutePeer_stored (hs : m.controller.Stored) (h : m.mutePeer kind pid muted = .ok m') :
    m'.controller.Stored := by
  rw [mutePeer, muteLoop_eq hs m.controller.consumerIdToPeerId.nodupKeys, Except.ok.injEq] at h
  rw [← h]
  have hmem : ∀ consumer ∈ targets kind pid m.controller m.controller.consumerIdToPeerId.entries,
      consumer.id ∈ m.controller.consumerMap := by
    intro consumer hc
    have hlookup := (ofPeer_of_mem_targets hs hc).1
    rw [MediaController.consumerOf, Option.join_eq_some_iff] at hlookup
    exact AList.lookup_isSome.mp (by rw [hlookup]; rfl)
  generalize targets kind pid m.controller m.controller.consumerIdToPeerId.entries = consumers
    at hmem
  clear h
  induction consumers generalizing m with
  | nil => exact hs
  | cons consumer rest ih =>
    apply ih (m := muteConsumer muted m consumer)
    · exact hs.setPaused (hmem consumer List.mem_cons_self) muted
    · intro c hc
      exact (AList.mem_insert _).mpr (Or.inr (hmem c (List.mem_cons_of_mem _ hc)))

theorem withController_ok {r : Except Fault MediaController} (h : m.withController r = .ok m') :
    r = .ok m'.controller := by
  simp only [withController, bind_ok, pure, Except.pure, Except.ok.injEq] at h
  obtain ⟨mc, hr, rfl⟩ := h
  exact hr

theorem step_stored {e : MediaEvent} (hs : m.controller.Stored) (h : m.step e = .ok m') :
    m'.controller.Stored := by
  cases e with
  | newConsumer request consumed => exact createNewConsumer_stored hs h
  | newDataConsumer request consumed => exact createNewDataConsumer_stored hs h
  | consumerClosed notification => exact onConsumerClosed_stored hs h
  | dataConsumerClosed notification =>
    cases h
    exact hs
  | consumerPaused notification => exact onConsumerPaused_stored hs h
  | consumerResumed notification => exact onConsumerPaused_stored hs h
  | muteAudio muted =>
    cases h
    unfold muteAudio
    split
    · exact hs
    · exact hs.grown ⟨rfl, fun _ ht => ht⟩
  | muteAudioOf pid muted => exact mutePeer_stored hs h
  | muteVideo pid muted => exact mutePeer_stored hs h
  | isAudioMuted pid =>
    obtain ⟨r, hr, he⟩ := map_ok.mp (withController_ok h)
    rw [← he]
    exact isMuted_stored hs hr
  | isVideoMuted pid =>
    obtain ⟨r, hr, he⟩ := map_ok.mp (withController_ok h)
    rw [← he]
    exact isMuted_stored hs hr
  | getRemoteAudioTracks pid =>
    obtain ⟨r, -, he⟩ := map_ok.mp (withController_ok h)
    rw [← he]
    exact hs
  | getRemoteVideoTracks pid =>
    obtain ⟨r, hr, he⟩ := map_ok.mp (withController_ok h)
    rw [← he]
    rw [MediaController.getRemoteVideoTracks_eq hs] at hr
    cases hr
    exact hs
  | destroy =>
    have hr := withController_ok h
    simp only [MediaController.destroy, bind_ok, pure, Except.pure, Except.ok.injEq] at hr
    obtain ⟨-, -, -, -, -, -, he⟩ := hr
    rw [← he]
    constructor
    · intro tid p hl
      cases hl
    · intro tid ht
      cases ht

theorem Reachable.stored (h : Reachable m) : m.controller.Stored := by
  induction h with
  | fresh hconsumers hpeers =>
    constructor
    · intro tid p hl
      rw [hconsumers] at hl
      cases hl
    · intro tid ht
      rw [hconsumers] at ht
      cases ht
  | event e _ hstep ih => exact step_stored ih hstep
  | reorder _ horder ih => exact Stored.reorder ih horder

/-- In each reachable state, whatever the order of the hash maps, a call mutes the consumers of the
peer and of the kind, asks the SFU once for each and changes no other, exactly when no other id of
the peer comes before one of them. -/
theorem mute_iff (h : Reachable m) (pid : String) (muted : Bool) :
    ((∃ m', m.muteVideo pid muted = .ok m' ∧ MutedExactly .video pid muted m m') ↔
      ¬ CutOff .video pid m.controller) ∧
    ((∃ m', m.muteAudioOf pid muted = .ok m' ∧ MutedExactly .audio pid muted m m') ↔
      ¬ CutOff .audio pid m.controller) :=
  ⟨mutePeer_iff h.stored, mutePeer_iff h.stored⟩

section Runs

open Ledger

theorem reachable_exec {run : List MediaEvent} (h : Reachable m)
    (hrun : exec Media.step m run = .ok m') : Reachable m' := by
  induction run generalizing m with
  | nil =>
    cases hrun
    exact h
  | cons e run ih =>
    rw [exec] at hrun
    split at hrun
    · rename_i m₁ h₁
      exact ih (h.event e h₁) hrun
    · cases hrun

theorem consumingMedia_reachable : Reachable consumingMedia := .fresh rfl rfl

/-- The data consumer of the peer was there first, so that the loop comes to it last. -/
theorem newVideo_muted : ∃ m, Reachable m ∧
    exec Media.step consumingMedia [newChat "d1" "bob", newVideo "c1" "bob"] = .ok m ∧
    ∃ m', m.muteVideo "bob" true = .ok m' ∧ MutedExactly .video "bob" true m m' := by
  have hrun : exec Media.step consumingMedia [newChat "d1" "bob", newVideo "c1" "bob"] = .ok _ :=
    rfl
  have hreach := reachable_exec consumingMedia_reachable hrun
  refine ⟨_, hreach, rfl, (mute_iff hreach "bob" true).1.mpr ?_⟩
  rintro ⟨before, e, consumer, hsub, -, hnot, -⟩
  have horder : [before, e] = [⟨"c1", "bob"⟩, ⟨"d1", "bob"⟩] := hsub.eq_of_length rfl
  simp only [List.cons.injEq] at horder
  rw [horder.1] at hnot
  exact hnot (by decide)

/-- The data consumer comes first in the map: the call ends there, the consumer plays on and the
SFU is asked for nothing. -/
theorem newChat_cuts_off : ∃ m m', Reachable m ∧
    exec Media.step consumingMedia [newVideo "c1" "bob", newChat "d1" "bob"] = .ok m ∧
    m.muteVideo "bob" true = .ok m' ∧
    (∃ consumer, OfPeer .video "bob" m.controller consumer ∧
      m'.controller.consumerOf consumer.id = some consumer ∧ consumer.paused = false) ∧
    m'.outgoing = m.outgoing ∧ ¬ MutedExactly .video "bob" true m m' := by
  have hrun : exec Media.step consumingMedia [newVideo "c1" "bob", newChat "d1" "bob"] = .ok _ :=
    rfl
  have hreach := reachable_exec consumingMedia_reachable hrun
  refine ⟨_, _, hreach, rfl, rfl, ⟨⟨"c1", "p1", ⟨0, .video⟩, false⟩, ⟨rfl, rfl, rfl⟩, rfl, rfl⟩,
    rfl, ?_⟩
  intro hmuted
  have hpaused := hmuted.consumer ⟨"c1", "p1", ⟨0, .video⟩, false⟩ ⟨rfl, rfl, rfl⟩
  cases hpaused

end Runs

end Media
end MediasoupSdk
