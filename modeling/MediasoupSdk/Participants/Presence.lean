import MediasoupSdk.Participants.Roster

/-! The joins and leaves that the observers of the participants are told, over runs of events. -/
namespace MediasoupSdk
open Foundation Signaling
namespace ParticipantController

/-- A join or a leave of a participant with this id. -/
def isPresence (objects : List Participant) (pid : String) : ParticipantEvent → Bool
  | .onParticipantJoin ref | .onParticipantLeave ref =>
    objects[ref]?.map Participant.id = some pid
  | _ => false

/-- The joins and leaves told of a peer, in order. -/
def presence (pid : String) (pc : ParticipantController) : List ParticipantEvent :=
  pc.notified.filter (isPresence pc.objects pid)

/-- What `isActive()` says of a participant, by its number among the objects. -/
def isActive (pc : ParticipantController) (ref : ℕ) : Option Bool :=
  pc.objects[ref]?.bind Participant.isActive

/-- A stay in the room: a join, and a leave of the same participant. -/
def stay (ref : ℕ) : List ParticipantEvent := [.onParticipantJoin ref, .onParticipantLeave ref]

/-- The peer has been told of in whole stays, and in one join more while its participant is in the
map. That participant is active, and those that left are not. -/
structure Alternates (pc : ParticipantController) (pid : String) (past : List ℕ)
    (present : Option ℕ) : Prop where
  presence : pc.presence pid =
    past.flatMap stay ++ present.toList.map ParticipantEvent.onParticipantJoin
  gone : ∀ ref ∈ past, pc.isActive ref = some false
  here : ∀ ref ∈ present, pc.isActive ref = some true
  entry : (pc.participantMap.lookup pid).join = present

/-- The notification is no join and no leave. -/
def IsUpdate : ParticipantEvent → Prop
  | .onParticipantJoin _ | .onParticipantLeave _ => False
  | _ => True

/-- A setter that touches neither the id nor the activity. -/
def Unobtrusive (set : Participant → Participant) : Prop :=
  ∀ p, (set p).id = p.id ∧ (set p).isActive = p.isActive

/-- What an event does to the controller. -/
inductive Change (pc : ParticipantController) : ParticipantController → Prop
  | same : Change pc pc
  | join (pid displayName : String) (habsent : pc.participantMap.lookup pid = none) :
    Change pc
      { objects := pc.objects ++ [Participant.setActive true { id := pid, displayName }]
        participantMap := pc.participantMap.insert pid (some pc.objects.length)
        notified := pc.notified ++ [.onParticipantJoin pc.objects.length] }
  | null (pid : String) (habsent : pc.participantMap.lookup pid = none) :
    Change pc { pc with participantMap := pc.participantMap.insert pid none }
  | update (ref : ℕ) (set : Participant → Participant) (notify : List ParticipantEvent)
      (hset : Unobtrusive set) (hnotify : ∀ e ∈ notify, IsUpdate e) :
    Change pc
      { pc with objects := pc.objects.modify ref set, notified := pc.notified ++ notify }
  | leave (pid : String) (ref : ℕ) (hentry : pc.participantMap.lookup pid = some (some ref)) :
    Change pc
      { objects := pc.objects.modify ref (Participant.setActive false)
        participantMap := pc.participantMap.erase pid
        notified := pc.notified ++ [.onParticipantLeave ref] }

variable {pc pc' : ParticipantController} {pid : String}

theorem createParticipant_change (pc : ParticipantController) (pid displayName : String) :
    Change pc (pc.createParticipant pid displayName) := by
  unfold createParticipant
  split_ifs with hl
  · exact .same
  · exact .join pid displayName (Option.not_isSome_iff_eq_none.mp hl)

/-- A subscript under which no participant is found. -/
theorem subscript_none_change {participantMap : HashMap String (Option ℕ)}
    (h : pc.participantMap.subscript none pid = (none, participantMap)) :
    Change pc { pc with participantMap } := by
  cases hl : pc.participantMap.lookup pid with
  | none =>
    rw [HashMap.subscript_of_absent hl, Prod.mk.injEq] at h
    rw [← h.2]
    exact .null pid hl
  | some pointer =>
    rw [HashMap.subscript_of_lookup hl, Prod.mk.injEq] at h
    rw [← h.2]
    exact .same

theorem subscript_some {participantMap : HashMap String (Option ℕ)} {ref : ℕ}
    (h : pc.participantMap.subscript none pid = (some ref, participantMap)) :
    pc.participantMap.lookup pid = some (some ref) ∧ participantMap = pc.participantMap := by
  cases hl : pc.participantMap.lookup pid with
  | none =>
    rw [HashMap.subscript_of_absent hl, Prod.mk.injEq] at h
    cases h.1
  | some pointer =>
    rw [HashMap.subscript_of_lookup hl, Prod.mk.injEq] at h
    rw [h.1, h.2]
    exact ⟨rfl, rfl⟩

theorem updateParticipant_change {set : Participant → Participant}
    {notify : ℕ → List ParticipantEvent}
    (h : pc.updateParticipant pid (.ok set) notify = .ok pc') (hset : Unobtrusive set)
    (hnotify : ∀ ref, ∀ e ∈ notify ref, IsUpdate e) : Change pc pc' := by
  unfold updateParticipant at h
  split_ifs at h
  · cases h
    exact .same
  · split at h
    · rename_i participantMap hsub
      cases h
      exact subscript_none_change hsub
    · rename_i ref participantMap hsub
      obtain ⟨-, rfl⟩ := subscript_some hsub
      cases h
      exact .update ref set (notify ref) hset (hnotify ref)

theorem onNewPeer_change {data : NewPeerNotification.Data}
    (h : pc.onNewPeer ⟨some data⟩ = .ok pc') : Change pc pc' := by
  simp only [onNewPeer, engaged_some, bind, Except.bind] at h
  split_ifs at h
  · cases h
    exact .same
  · cases h
    exact .same
  · cases h
    exact createParticipant_change pc _ _

theorem onPeerClosed_change {data : PeerClosedNotification.Data}
    (h : pc.onPeerClosed ⟨some data⟩ = .ok pc') : Change pc pc' := by
  simp only [onPeerClosed, engaged_some, bind, Except.bind] at h
  split_ifs at h
  · cases h
    exact .same
  · split at h
    · rename_i participantMap hsub
      cases h
      exact subscript_none_change hsub
    · rename_i ref participantMap hsub
      obtain ⟨hentry, rfl⟩ := subscript_some hsub
      cases h
      exact .leave _ ref hentry

theorem step_change {e : PeerEvent} (h : pc.step e = .ok pc') : Change pc pc' := by
  cases e with
  | createParticipant pid displayName =>
    cases h
    exact createParticipant_change pc pid displayName
  | onNewPeer data => exact onNewPeer_change h
  | onPeerClosed data => exact onPeerClosed_change h
  | _ =>
    apply updateParticipant_change h
    · intro p
      exact ⟨rfl, rfl⟩
    · simp [IsUpdate]

/-- Entries point to objects under their own ids, notifications are about objects that exist, and
every peer's joins and leaves alternate. -/
structure PresenceInv (pc : ParticipantController) : Prop where
  entry : ∀ pid ref, pc.participantMap.lookup pid = some (some ref) →
    pc.objects[ref]?.map Participant.id = some pid
  joined : ∀ ref, .onParticipantJoin ref ∈ pc.notified → ref < pc.objects.length
  left : ∀ ref, .onParticipantLeave ref ∈ pc.notified → ref < pc.objects.length
  alternates : ∀ pid, ∃ past, pc.Alternates pid past (pc.participantMap.lookup pid).join

theorem presenceInv_start : PresenceInv {} := by
  constructor
  · intro pid ref h
    cases h
  · intro ref h
    cases h
  · intro ref h
    cases h
  · intro pid
    exact ⟨[], rfl, by simp, by simp, rfl⟩

/-- The old notifications are about the same peers, so that the new ones only add to what a peer
was told. -/
theorem presence_append (objects : List Participant) (participantMap : HashMap String (Option ℕ))
    (news : List ParticipantEvent) (h : PresenceInv pc)
    (hids : ∀ ref < pc.objects.length,
      objects[ref]?.map Participant.id = pc.objects[ref]?.map Participant.id) (pid : String) :
    presence pid ⟨objects, participantMap, pc.notified ++ news⟩ =
      pc.presence pid ++ news.filter (isPresence objects pid) := by
  simp only [presence, List.filter_append]
  congr 1
  apply List.filter_congr
  intro e he
  cases e with
  | onParticipantJoin ref => rw [isPresence, isPresence, hids ref (h.joined ref he)]
  | onParticipantLeave ref => rw [isPresence, isPresence, hids ref (h.left ref he)]
  | _ => rfl

theorem filter_isPresence_of_isUpdate {objects : List Participant} {news : List ParticipantEvent}
    (h : ∀ e ∈ news, IsUpdate e) : news.filter (isPresence objects pid) = [] := by
  rw [List.filter_eq_nil_iff]
  intro e he
  have hupdate := h e he
  cases e with
  | onParticipantJoin ref => exact hupdate.elim
  | onParticipantLeave ref => exact hupdate.elim
  | _ => exact Bool.false_ne_true

section Objects

variable {objects : List Participant} {added : Participant} {ref r : ℕ}
  {set : Participant → Participant}

theorem map_id_modify (hset : ∀ p, (set p).id = p.id) :
    (objects.modify ref set)[r]?.map Participant.id = objects[r]?.map Participant.id := by
  rw [List.getElem?_modify]
  split_ifs
  · cases objects[r]? with
    | none => rfl
    | some p => exact congrArg some (hset p)
  · rw [id_map']

theorem isActive_modify (hset : ∀ p, (set p).isActive = p.isActive) :
    (objects.modify ref set)[r]?.bind Participant.isActive =
      objects[r]?.bind Participant.isActive := by
  rw [List.getElem?_modify]
  split_ifs
  · cases objects[r]? with
    | none => rfl
    | some p => exact hset p
  · rw [id_map']

theorem lt_of_isActive {b : Bool} (h : pc.isActive ref = some b) : ref < pc.objects.length := by
  obtain ⟨p, hp, -⟩ := Option.bind_eq_some_iff.mp h
  exact (List.getElem?_eq_some_iff.mp hp).1

end Objects

/-- The invariant after a step, and what it added to each peer's joins and leaves. -/
def Extends (pc pc' : ParticipantController) : Prop :=
  PresenceInv pc' ∧ ∀ pid, pc.presence pid <+: pc'.presence pid

/-- What is told after the step is told of objects that exist then. -/
theorem told_append {told : ℕ → ParticipantEvent} {news : List ParticipantEvent} {n : ℕ}
    (hold : ∀ ref, told ref ∈ pc.notified → ref < pc.objects.length)
    (hle : pc.objects.length ≤ n) (hnew : ∀ ref, told ref ∈ news → ref < n) :
    ∀ ref, told ref ∈ pc.notified ++ news → ref < n := by
  intro ref hr
  rcases List.mem_append.mp hr with hr | hr
  · exact (hold ref hr).trans_le hle
  · exact hnew ref hr

theorem PresenceInv.join (h : PresenceInv pc) {displayName : String}
    (habsent : pc.participantMap.lookup pid = none) :
    Extends pc
      { objects := pc.objects ++ [Participant.setActive true { id := pid, displayName }]
        participantMap := pc.participantMap.insert pid (some pc.objects.length)
        notified := pc.notified ++ [.onParticipantJoin pc.objects.length] } := by
  have hold : ∀ ref < pc.objects.length,
      (pc.objects ++ [Participant.setActive true { id := pid, displayName }])[ref]? =
        pc.objects[ref]? := fun ref hlt => List.getElem?_append_left hlt
  have hpresence := fun other => presence_append _
    (pc.participantMap.insert pid (some pc.objects.length))
    [.onParticipantJoin pc.objects.length] h
    (fun ref hlt => congrArg (Option.map Participant.id) (hold ref hlt)) other
  refine ⟨⟨?_, ?_, ?_, ?_⟩, fun other => ⟨_, (hpresence other).symm⟩⟩
  · intro other ref hl
    rw [HashMap.lookup_insert_eq_ite] at hl
    split_ifs at hl with he
    · cases hl
      rw [he, List.getElem?_concat_length]
      rfl
    · have hid := h.entry other ref hl
      have hlt : ref < pc.objects.length := by
        obtain ⟨p, hp, -⟩ := Option.map_eq_some_iff.mp hid
        exact (List.getElem?_eq_some_iff.mp hp).1
      rw [hold ref hlt, hid]
  · exact told_append h.joined (by simp) (by simp)
  · exact told_append h.left (by simp) (by simp)
  · intro other
    obtain ⟨past, hpresent, hgone, hhere, -⟩ := h.alternates other
    have hactive : ∀ ref b, pc.isActive ref = some b → ParticipantController.isActive
        { objects := pc.objects ++ [Participant.setActive true { id := pid, displayName }]
          participantMap := pc.participantMap.insert pid (some pc.objects.length)
          notified := pc.notified ++ [.onParticipantJoin pc.objects.length] } ref = some b := by
      intro ref b hb
      rw [← hb]
      exact congrArg (Option.bind · Participant.isActive) (hold ref (lt_of_isActive hb))
    refine ⟨past, ?_, fun ref hr => hactive ref _ (hgone ref hr), ?_, rfl⟩
    · rw [hpresence, hpresent, HashMap.lookup_insert_eq_ite]
      split_ifs with he
      · subst he
        simp [habsent, isPresence, Participant.setActive]
      · simp [isPresence, Participant.setActive, Ne.symm he]
    · intro ref hr
      rw [HashMap.lookup_insert_eq_ite] at hr
      split_ifs at hr with he
      · cases hr
        simp [ParticipantController.isActive, Participant.setActive]
      · exact hactive ref _ (hhere ref hr)

theorem PresenceInv.null (h : PresenceInv pc) (habsent : pc.participantMap.lookup pid = none) :
    Extends pc { pc with participantMap := pc.participantMap.insert pid none } := by
  refine ⟨⟨?_, h.joined, h.left, ?_⟩, fun other => List.prefix_refl _⟩
  · intro other ref hl
    rw [HashMap.lookup_insert_eq_ite] at hl
    split_ifs at hl
    · cases hl
    · exact h.entry other ref hl
  · intro other
    obtain ⟨past, hpresent, hgone, hhere, -⟩ := h.alternates other
    have hentry : ((pc.participantMap.insert pid none).lookup other).join =
        (pc.participantMap.lookup other).join := by
      rw [HashMap.lookup_insert_eq_ite]
      split_ifs with he
      · rw [he, habsent]
        rfl
      · rfl
    refine ⟨past, ?_⟩
    rw [hentry]
    exact ⟨hpresent, hgone, hhere, hentry⟩

theorem PresenceInv.update (h : PresenceInv pc) {ref : ℕ} {set : Participant → Participant}
    {notify : List ParticipantEvent} (hset : Unobtrusive set)
    (hnotify : ∀ e ∈ notify, IsUpdate e) :
    Extends pc
      { pc with objects := pc.objects.modify ref set, notified := pc.notified ++ notify } := by
  have hpresence := fun other => presence_append (pc.objects.modify ref set) pc.participantMap
    notify h (fun r _ => map_id_modify fun p => (hset p).1) other
  simp only [filter_isPresence_of_isUpdate hnotify, List.append_nil] at hpresence
  have hactive : ∀ r, ParticipantController.isActive
      { pc with objects := pc.objects.modify ref set, notified := pc.notified ++ notify } r =
        pc.isActive r := fun r => isActive_modify fun p => (hset p).2
  refine ⟨⟨?_, ?_, ?_, ?_⟩, fun other => by rw [hpresence]⟩
  · intro other r hl
    exact (map_id_modify fun p => (hset p).1).trans (h.entry other r hl)
  · exact told_append h.joined (by simp) fun r hr => (hnotify _ hr).elim
  · exact told_append h.left (by simp) fun r hr => (hnotify _ hr).elim
  · intro other
    obtain ⟨past, hpresent, hgone, hhere, -⟩ := h.alternates other
    refine ⟨past, (hpresence other).trans hpresent, ?_, ?_, rfl⟩
    · intro r hr
      rw [hactive, hgone r hr]
    · intro r hr
      rw [hactive, hhere r hr]

theorem setActive_id (b : Bool) (p : Participant) : (p.setActive b).id = p.id := rfl

/-- The controller after the leave of a participant. -/
def afterLeave (pc : ParticipantController) (pid : String) (ref : ℕ) : ParticipantController where
  objects := pc.objects.modify ref (Participant.setActive false)
  participantMap := pc.participantMap.erase pid
  notified := pc.notified ++ [.onParticipantLeave ref]

section Leave

variable {ref : ℕ}

/-- The participant that leaves is inactive, and every other is as it was. -/
theorem isActive_afterLeave {p : Participant} (hp : pc.objects[ref]? = some p) (r : ℕ) :
    (pc.afterLeave pid ref).isActive r = if r = ref then some false else pc.isActive r := by
  simp only [isActive, afterLeave, List.getElem?_modify]
  split_ifs with h₁ h₂ h₂
  · rw [← h₁, hp]
    rfl
  · exact absurd h₁.symm h₂
  · exact absurd h₂.symm h₁
  · rw [id_map']

/-- Only the participant that leaves is told to. -/
theorem PresenceInv.presence_afterLeave (h : PresenceInv pc) {p : Participant}
    (hp : pc.objects[ref]? = some p) (other : String) :
    (pc.afterLeave pid ref).presence other =
      pc.presence other ++ if p.id = other then [.onParticipantLeave ref] else [] := by
  rw [afterLeave, presence_append _ _ _ h fun r _ => map_id_modify (setActive_id false)]
  by_cases hid : p.id = other
  · simp [isPresence, hp, hid, Participant.setActive]
  · simp [isPresence, hp, hid, Participant.setActive]

theorem PresenceInv.alternates_afterLeave (h : PresenceInv pc)
    (hentry : pc.participantMap.lookup pid = some (some ref)) (other : String) :
    ∃ past, (pc.afterLeave pid ref).Alternates other past
      ((pc.afterLeave pid ref).participantMap.lookup other).join := by
  have hid := h.entry pid ref hentry
  obtain ⟨p, hp, hpid⟩ := Option.map_eq_some_iff.mp hid
  have hpresence : (pc.afterLeave pid ref).presence other = _ := h.presence_afterLeave hp other
  have hactive (r : ℕ) : (pc.afterLeave pid ref).isActive r = _ := isActive_afterLeave hp r
  obtain ⟨past, hpresent, hgone, hhere, -⟩ := h.alternates other
  have hgone' : ∀ r ∈ past, (if r = ref then some false else pc.isActive r) = some false := by
    intro r hr
    split_ifs
    · rfl
    · exact hgone r hr
  by_cases he : other = pid
  · subst he
    -- the leave ends the stay that was going on
    refine ⟨past ++ [ref], ?_, ?_, ?_, rfl⟩
    · rw [hpresence, hpresent, if_pos hpid]
      simp [afterLeave, hentry, stay]
    · intro r hr
      rw [hactive]
      rcases List.mem_append.mp hr with hr | hr
      · exact hgone' r hr
      · rw [if_pos (List.mem_singleton.mp hr)]
    · intro r hr
      simp [afterLeave] at hr
  · have hlookup : (pc.afterLeave pid ref).participantMap.lookup other =
        pc.participantMap.lookup other := by
      rw [afterLeave, HashMap.lookup_erase_eq_ite, if_neg he]
    refine ⟨past, ?_, ?_, ?_, rfl⟩
    · rw [hpresence, hpresent, hlookup, hpid, if_neg (Ne.symm he), List.append_nil]
    · intro r hr
      rw [hactive]
      exact hgone' r hr
    · intro r hr
      rw [hlookup] at hr
      have hne : r ≠ ref := by
        rintro rfl
        rw [h.entry other r (Option.join_eq_some_iff.mp hr), Option.some.injEq] at hid
        exact he hid
      rw [hactive, if_neg hne]
      exact hhere r hr

theorem PresenceInv.leave (h : PresenceInv pc)
    (hentry : pc.participantMap.lookup pid = some (some ref)) :
    Extends pc (pc.afterLeave pid ref) := by
  obtain ⟨p, hp, -⟩ := Option.map_eq_some_iff.mp (h.entry pid ref hentry)
  refine ⟨⟨?_, ?_, ?_, h.alternates_afterLeave hentry⟩,
    fun other => ⟨_, (h.presence_afterLeave hp other).symm⟩⟩
  · intro other r hl
    rw [afterLeave, HashMap.lookup_erase_eq_ite] at hl
    split_ifs at hl
    exact (map_id_modify (setActive_id false)).trans (h.entry other r hl)
  · exact told_append h.joined (by simp [afterLeave]) (by simp)
  · have hlt := (List.getElem?_eq_some_iff.mp hp).1
    exact told_append h.left (by simp [afterLeave]) (by simpa [afterLeave] using hlt)

end Leave

theorem PresenceInv.step {e : PeerEvent} (h : PresenceInv pc) (hstep : pc.step e = .ok pc') :
    Extends pc pc' := by
  cases step_change hstep with
  | same => exact ⟨h, fun pid => List.prefix_refl _⟩
  | join pid displayName habsent => exact h.join habsent
  | null pid habsent => exact h.null habsent
  | update ref set notify hset hnotify => exact h.update hset hnotify
  | leave pid ref hentry => exact h.leave hentry

theorem PresenceInv.run {events : List PeerEvent} (h : PresenceInv pc)
    (hrun : exec ParticipantController.step pc events = .ok pc') : Extends pc pc' := by
  induction events generalizing pc with
  | nil =>
    cases hrun
    exact ⟨h, fun pid => List.prefix_refl _⟩
  | cons e events ih =>
    obtain ⟨pc₁, hstep, hrun⟩ := exec_cons_ok.mp hrun
    obtain ⟨h₁, hadded⟩ := h.step hstep
    obtain ⟨h', hadded'⟩ := ih h₁ hrun
    exact ⟨h', fun pid => (hadded pid).trans (hadded' pid)⟩

/-- In every run the joins and leaves told of a peer alternate, from a join on; each leave is of
the participant that joined before, which is active until then and never after. What was told at
some point of the run stays told. -/
theorem presence_alternates (events : List PeerEvent) (pid : String) :
    ∃ pc, exec step {} events = .ok pc ∧ (∃ past present, pc.Alternates pid past present) ∧
      ∀ pre, pre <+: events → ∃ pc₀, exec step {} pre = .ok pc₀ ∧
        pc₀.presence pid <+: pc.presence pid := by
  obtain ⟨pc, hrun⟩ := exec_total step_total {} events
  obtain ⟨past, halternates⟩ := (presenceInv_start.run hrun).1.alternates pid
  refine ⟨pc, hrun, ⟨past, _, halternates⟩, ?_⟩
  rintro pre ⟨post, rfl⟩
  obtain ⟨pc₀, hpre, hpost⟩ := exec_append_ok.mp hrun
  exact ⟨pc₀, hpre, ((presenceInv_start.run hpre).1.run hpost).2 pid⟩

end ParticipantController
end MediasoupSdk
