import MediasoupSdk.Foundation.Execution
import MediasoupSdk.Participants.Controller

/-! The abstract participant table, and when `ParticipantController` refines it. -/
namespace MediasoupSdk
open Foundation Signaling

/-- The events of a room. The tracks are what the media controller reports for the peer. -/
inductive PeerEvent where
  | createParticipant (pid displayName : String)
  | onNewPeer (data : NewPeerNotification.Data)
  | onPeerClosed (data : PeerClosedNotification.Data)
  | onPeerDisplayNameChanged (data : PeerDisplayNameChangedNotification.Data)
  | onActiveSpeaker (data : ActiveSpeakerNotification.Data)
  | onRemoteAudioStateChanged (pid : String) (muted : Bool)
  | onRemoteVideoStateChanged (pid : String) (muted : Bool)
  | onCreateRemoteAudioTrack (pid : String) (tracks : Tracks)
  | onRemoveRemoteAudioTrack (pid : String) (tracks : Tracks)
  | onCreateRemoteVideoTrack (pid tid : String) (track : Option Track)
      (appData : NewConsumerRequest.AppData.Val) (tracks : Tracks)
  | onRemoveRemoteVideoTrack (pid tid : String) (track : Option Track) (tracks : Tracks)

/-- Who is in the room, and whose arrival has been reported. -/
structure Roster where
  table : String → Option Participant
  joined : List String

namespace Roster

def empty : Roster := ⟨fun _ => none, []⟩

/-- A peer is added when it is absent. -/
def add (pid displayName : String) (r : Roster) : Roster :=
  match r.table pid with
  | some _ => r
  | none =>
    { table := Function.update r.table pid
        (some (Participant.setActive true { id := pid, displayName }))
      joined := r.joined ++ [pid] }

def remove (pid : String) (r : Roster) : Roster :=
  { r with table := Function.update r.table pid none }

/-- A present peer is updated; nothing happens to an absent one. -/
def update (pid : String) (set : Participant → Participant) (r : Roster) : Roster :=
  { r with table := Function.update r.table pid ((r.table pid).map set) }

/-- An event whose id is missing or empty is about no peer. -/
def about (pid : String) (change : String → Roster → Roster) (r : Roster) : Roster :=
  if pid.isEmpty then r else change pid r

def step (r : Roster) : PeerEvent → Roster
  | .createParticipant pid displayName => r.add pid displayName
  | .onNewPeer data => r.about (data.id.getD "") fun pid => add pid (data.displayName.getD "")
  | .onPeerClosed data => r.about (data.peerId.getD "") remove
  | .onPeerDisplayNameChanged data => r.about (data.peerId.getD "") fun pid =>
      update pid (Participant.setDisplayName (data.displayName.getD ""))
  | .onActiveSpeaker data => r.about (data.peerId.getD "") fun pid =>
      update pid (Participant.setSpeakingVolume ((data.volume.map Subtype.val).getD 0))
  | .onRemoteAudioStateChanged pid muted => r.about pid fun pid =>
      update pid (Participant.setAudioMuted muted)
  | .onRemoteVideoStateChanged pid muted => r.about pid fun pid =>
      update pid (Participant.setVideoMuted muted)
  | .onCreateRemoteAudioTrack pid tracks => r.about pid fun pid =>
      update pid (Participant.setAudioTracks tracks)
  | .onRemoveRemoteAudioTrack pid tracks => r.about pid fun pid =>
      update pid (Participant.setAudioTracks tracks)
  | .onCreateRemoteVideoTrack pid _ _ _ tracks => r.about pid fun pid =>
      update pid (Participant.setVideoTracks tracks)
  | .onRemoveRemoteVideoTrack pid _ _ tracks => r.about pid fun pid =>
      update pid (Participant.setVideoTracks tracks)

end Roster

namespace ParticipantController

def step (pc : ParticipantController) : PeerEvent → Except Fault ParticipantController
  | .createParticipant pid displayName => .ok (pc.createParticipant pid displayName)
  | .onNewPeer data => pc.onNewPeer ⟨some data⟩
  | .onPeerClosed data => pc.onPeerClosed ⟨some data⟩
  | .onPeerDisplayNameChanged data => pc.onPeerDisplayNameChanged ⟨some data⟩
  | .onActiveSpeaker data => pc.onActiveSpeaker ⟨some data⟩
  | .onRemoteAudioStateChanged pid muted => pc.onRemoteAudioStateChanged pid muted
  | .onRemoteVideoStateChanged pid muted => pc.onRemoteVideoStateChanged pid muted
  | .onCreateRemoteAudioTrack pid tracks => pc.onCreateRemoteAudioTrack pid (.ok tracks)
  | .onRemoveRemoteAudioTrack pid tracks => pc.onRemoveRemoteAudioTrack pid (.ok tracks)
  | .onCreateRemoteVideoTrack pid tid track appData tracks =>
    pc.onCreateRemoteVideoTrack pid tid track appData (.ok tracks)
  | .onRemoveRemoteVideoTrack pid tid track tracks =>
    pc.onRemoveRemoteVideoTrack pid tid track (.ok tracks)

/-- The id of the participant whose arrival a notification reports. -/
def joinedId (objects : List Participant) : ParticipantEvent → Option String
  | .onParticipantJoin ref => objects[ref]?.map Participant.id
  | _ => none

/-- The ids of the participants that `onParticipantJoin` reported, in order. -/
def joined (pc : ParticipantController) : List String :=
  pc.notified.filterMap (joinedId pc.objects)

/-- `getParticipants()` is the abstract table, without null entries, and every arrival in the
table has been reported. -/
def Matches (pc : ParticipantController) (r : Roster) : Prop :=
  (∀ pid, pc.getParticipants pid = (r.table pid).map some) ∧ pc.joined = r.joined

end ParticipantController

/-- The peer whose entry the handler reads with `operator[]`. -/
def PeerEvent.subscripted : PeerEvent → Option String
  | .createParticipant _ _ => none
  | .onNewPeer _ => none
  | .onPeerClosed data => some (data.peerId.getD "")
  | .onPeerDisplayNameChanged data => some (data.peerId.getD "")
  | .onActiveSpeaker data => some (data.peerId.getD "")
  | .onRemoteAudioStateChanged pid _ => some pid
  | .onRemoteVideoStateChanged pid _ => some pid
  | .onCreateRemoteAudioTrack pid _ => some pid
  | .onRemoveRemoteAudioTrack pid _ => some pid
  | .onCreateRemoteVideoTrack pid _ _ _ _ => some pid
  | .onRemoveRemoteVideoTrack pid _ _ _ => some pid

namespace ParticipantController

/-- The event is about no peer, or its handler creates the participant, or the peer has an
entry. -/
def Known (pc : ParticipantController) (e : PeerEvent) : Prop :=
  ∀ pid, e.subscripted = some pid → pid.isEmpty = false → (pc.participantMap.lookup pid).isSome

/-- The invariant behind `Matches`: an entry points to the object with its own id. -/
structure RosterInv (pc : ParticipantController) (r : Roster) : Prop where
  participants : ∀ pid, pc.getParticipants pid = (r.table pid).map some
  ids : ∀ pid p, r.table pid = some p → p.id = pid
  joined : pc.joined = r.joined
  reported : ∀ ref, .onParticipantJoin ref ∈ pc.notified → ref < pc.objects.length

theorem RosterInv.start : RosterInv {} .empty :=
  ⟨fun _ => rfl, (fun _ _ h => nomatch h), rfl, (fun _ h => nomatch h)⟩

theorem RosterInv.matches {pc : ParticipantController} {r : Roster} (h : RosterInv pc r) :
    pc.Matches r := ⟨h.participants, h.joined⟩

theorem RosterInv.lookup_none {pc : ParticipantController} {r : Roster} (h : RosterInv pc r)
    {pid : String} : pc.participantMap.lookup pid = none ↔ r.table pid = none := by
  have hp := h.participants pid
  unfold getParticipants at hp
  cases hl : pc.participantMap.lookup pid with
  | none =>
    rw [hl] at hp
    simp only [Option.map_none] at hp
    simp [Option.map_eq_none_iff.mp hp.symm]
  | some pointer =>
    rw [hl] at hp
    constructor
    · intro hn
      cases hn
    · intro hn
      rw [hn] at hp
      cases hp

theorem RosterInv.lookup_some {pc : ParticipantController} {r : Roster} (h : RosterInv pc r)
    {pid : String} (hs : (pc.participantMap.lookup pid).isSome) :
    ∃ ref p, pc.participantMap.lookup pid = some (some ref) ∧ pc.objects[ref]? = some p ∧
      r.table pid = some p := by
  obtain ⟨pointer, hl⟩ := Option.isSome_iff_exists.mp hs
  have hp := h.participants pid
  unfold getParticipants at hp
  rw [hl] at hp
  cases ht : r.table pid with
  | none =>
    rw [ht] at hp
    cases hp
  | some p =>
    rw [ht] at hp
    simp only [Option.map_some, Option.some.injEq] at hp
    cases pointer with
    | none => cases hp
    | some ref => exact ⟨ref, p, hl, hp, rfl⟩

/-- Another peer's entry points to another object. -/
theorem RosterInv.ref_ne {pc : ParticipantController} {r : Roster} (h : RosterInv pc r)
    {pid other : String} {ref ref' : ℕ} {p : Participant} (hne : other ≠ pid)
    (hl : pc.participantMap.lookup other = some (some ref'))
    (hp : pc.objects[ref]? = some p) (ht : r.table pid = some p) : ref ≠ ref' := by
  intro he
  subst he
  obtain ⟨ref₂, p₂, hl₂, hp₂, ht₂⟩ := h.lookup_some (by rw [hl]; rfl : _ = true)
  rw [hl] at hl₂
  cases hl₂
  rw [hp] at hp₂
  cases hp₂
  exact hne ((h.ids other p ht₂).symm.trans (h.ids pid p ht))

/-- Setters keep the id, so the reported arrivals stay the same. -/
theorem joinedId_modify {objects : List Participant} {ref : ℕ}
    (set : Participant → Participant) (hset : ∀ p, (set p).id = p.id) :
    joinedId (objects.modify ref set) = joinedId objects := by
  funext e
  cases e with
  | onParticipantJoin r =>
    simp only [joinedId, List.getElem?_modify]
    cases objects[r]? with
    | none => rfl
    | some p =>
      by_cases he : ref = r
      · simp [he, hset]
      · simp [he]
  | _ => rfl

/-- An update of the table keeps the ids when the new entry has its own. -/
theorem RosterInv.ids_update {pc : ParticipantController} {r : Roster} (h : RosterInv pc r)
    {pid : String} {entry : Option Participant} (hentry : ∀ p, entry = some p → p.id = pid)
    (other : String) (p : Participant) (hp : Function.update r.table pid entry other = some p) :
    p.id = other := by
  by_cases he : other = pid
  · subst he
    rw [Function.update_self] at hp
    exact hentry p hp
  · rw [Function.update_of_ne he] at hp
    exact h.ids other p hp

/-- A new object is behind no entry yet: all entries keep theirs. -/
theorem RosterInv.append {pc : ParticipantController} {r : Roster} (h : RosterInv pc r)
    (added : Participant) (other : String) :
    (pc.participantMap.lookup other).map
        (fun pointer => pointer.bind ((pc.objects ++ [added])[·]?)) =
      (r.table other).map some := by
  rw [← h.participants other]
  unfold getParticipants
  cases hl : pc.participantMap.lookup other with
  | none => rfl
  | some pointer =>
    obtain ⟨ref, p, hl₂, hp₂, -⟩ := h.lookup_some
      (by rw [hl]; rfl : (pc.participantMap.lookup other).isSome = true)
    rw [hl] at hl₂
    cases hl₂
    have hlt : ref < pc.objects.length := (List.getElem?_eq_some_iff.mp hp₂).1
    simp [List.getElem?_append_left hlt]

/-- The arrivals reported so far are not about a new object. -/
theorem RosterInv.joined_append {pc : ParticipantController} {r : Roster} (h : RosterInv pc r)
    (added : Participant) :
    pc.notified.filterMap (joinedId (pc.objects ++ [added])) = r.joined := by
  rw [← h.joined]
  apply List.filterMap_congr
  intro e he
  cases e with
  | onParticipantJoin ref =>
    simp only [joinedId, List.getElem?_append_left (h.reported ref he)]
  | _ => rfl

theorem RosterInv.create {pc : ParticipantController} {r : Roster} (h : RosterInv pc r)
    (pid displayName : String) :
    RosterInv (pc.createParticipant pid displayName) (r.add pid displayName) := by
  unfold createParticipant Roster.add
  cases ht : r.table pid with
  | some p =>
    have hl : (pc.participantMap.lookup pid).isSome = true := by
      rw [Option.isSome_iff_ne_none]
      intro hn
      rw [h.lookup_none.mp hn] at ht
      cases ht
    simpa only [hl, ↓reduceIte] using h
  | none =>
    have hl := h.lookup_none.mpr ht
    simp only [hl, Option.isSome_none, Bool.false_eq_true, ↓reduceIte]
    refine ⟨?_, ?_, ?_, ?_⟩
    · intro other
      by_cases he : other = pid
      · subst he
        simp [getParticipants]
      · simp only [getParticipants]
        rw [Function.update_of_ne he, HashMap.lookup_insert_eq_ite, if_neg he]
        exact h.append _ other
    · apply h.ids_update
      intro p hp
      cases hp
      rfl
    · unfold ParticipantController.joined
      rw [List.filterMap_append, h.joined_append]
      simp [joinedId, Participant.setActive]
    · intro ref hr
      simp only [List.mem_append, List.mem_singleton, ParticipantEvent.onParticipantJoin.injEq,
        List.length_append, List.length_singleton] at hr ⊢
      rcases hr with hr | rfl
      · exact Nat.lt_succ_of_lt (h.reported ref hr)
      · exact Nat.lt_succ_self _

/-- A setter runs on the object of a known peer: the entries of the others keep theirs. -/
theorem RosterInv.modify {pc : ParticipantController} {r : Roster} (h : RosterInv pc r)
    {pid other : String} {ref : ℕ} {p : Participant} (set : Participant → Participant)
    (hp : pc.objects[ref]? = some p) (ht : r.table pid = some p) (hne : other ≠ pid) :
    (pc.participantMap.lookup other).map
        (fun pointer => pointer.bind ((pc.objects.modify ref set)[·]?)) =
      (r.table other).map some := by
  rw [← h.participants other]
  unfold getParticipants
  cases hl : pc.participantMap.lookup other with
  | none => rfl
  | some pointer =>
    cases pointer with
    | none => rfl
    | some ref' =>
      have hr := h.ref_ne hne hl hp ht
      simp [List.getElem?_modify, hr]

theorem RosterInv.update {pc : ParticipantController} {r : Roster} (h : RosterInv pc r)
    {pid : String} {set : Participant → Participant} {notify : ℕ → List ParticipantEvent}
    (hset : ∀ p, (set p).id = p.id) (hnotify : ∀ ref r, .onParticipantJoin r ∉ notify ref)
    (hknown : pid.isEmpty = false → (pc.participantMap.lookup pid).isSome) :
    ∃ pc', pc.updateParticipant pid (.ok set) notify = .ok pc' ∧
      RosterInv pc' (r.about pid fun pid => Roster.update pid set) := by
  unfold updateParticipant Roster.about
  cases he : pid.isEmpty with
  | true => exact ⟨pc, rfl, h⟩
  | false =>
    obtain ⟨ref, p, hl, hp, ht⟩ := h.lookup_some (hknown he)
    simp only [Bool.false_eq_true, ↓reduceIte, HashMap.subscript_of_lookup hl]
    refine ⟨_, rfl, ?_, ?_, ?_, ?_⟩
    · intro other
      unfold Roster.update
      by_cases ho : other = pid
      · subst ho
        simp [getParticipants, hl, hp, ht]
      · simp only [getParticipants, Function.update_of_ne ho]
        exact h.modify set hp ht ho
    · apply h.ids_update
      intro p' hp'
      rw [ht, Option.map_some, Option.some.injEq] at hp'
      rw [← hp', hset]
      exact h.ids pid p ht
    · have hnone : (notify ref).filterMap (joinedId pc.objects) = [] := by
        rw [List.filterMap_eq_nil_iff]
        intro e hmem
        cases e with
        | onParticipantJoin r => exact absurd hmem (hnotify ref r)
        | _ => rfl
      unfold ParticipantController.joined
      rw [joinedId_modify set hset, List.filterMap_append, hnone, List.append_nil]
      exact h.joined
    · intro r hr
      rw [List.length_modify]
      rcases List.mem_append.mp hr with hr | hr
      · exact h.reported r hr
      · exact absurd hr (hnotify ref r)

theorem RosterInv.close {pc : ParticipantController} {r : Roster} (h : RosterInv pc r)
    {data : PeerClosedNotification.Data}
    (hknown : (data.peerId.getD "").isEmpty = false →
      (pc.participantMap.lookup (data.peerId.getD "")).isSome) :
    ∃ pc', pc.onPeerClosed ⟨some data⟩ = .ok pc' ∧
      RosterInv pc' (r.about (data.peerId.getD "") Roster.remove) := by
  unfold onPeerClosed Roster.about
  simp only [engaged_some, bind, Except.bind, pure, Except.pure]
  generalize data.peerId.getD "" = pid at hknown ⊢
  cases he : pid.isEmpty with
  | true => exact ⟨pc, rfl, h⟩
  | false =>
    obtain ⟨ref, p, hl, hp, ht⟩ := h.lookup_some (hknown he)
    simp only [Bool.false_eq_true, ↓reduceIte, HashMap.subscript_of_lookup hl]
    refine ⟨_, rfl, ?_, ?_, ?_, ?_⟩
    · intro other
      unfold Roster.remove
      by_cases ho : other = pid
      · subst ho
        simp [getParticipants]
      · have hmod := h.modify (Participant.setActive false) hp ht ho
        simp only [getParticipants, HashMap.lookup_erase_eq_ite, if_neg ho,
          Function.update_of_ne ho]
        exact hmod
    · exact h.ids_update nofun
    · unfold ParticipantController.joined
      rw [joinedId_modify (Participant.setActive false) (fun _ => rfl), List.filterMap_append]
      exact (List.append_nil _).trans h.joined
    · intro r hr
      rw [List.length_modify]
      rcases List.mem_append.mp hr with hr | hr
      · exact h.reported r hr
      · simp at hr

theorem RosterInv.newPeer {pc : ParticipantController} {r : Roster} (h : RosterInv pc r)
    (data : NewPeerNotification.Data) :
    ∃ pc', pc.onNewPeer ⟨some data⟩ = .ok pc' ∧
      RosterInv pc' (r.about (data.id.getD "") fun pid => Roster.add pid
        (data.displayName.getD "")) := by
  have hcreate := h.create (data.id.getD "") (data.displayName.getD "")
  unfold onNewPeer Roster.about
  simp only [engaged_some, bind, Except.bind, pure, Except.pure]
  generalize data.id.getD "" = pid at hcreate ⊢
  cases he : pid.isEmpty with
  | true => exact ⟨pc, rfl, h⟩
  | false =>
    refine ⟨_, ?_, hcreate⟩
    by_cases hl : (pc.participantMap.lookup pid).isSome = true
    · simp [hl, createParticipant]
    · simp [hl]

theorem RosterInv.step {pc : ParticipantController} {r : Roster} {e : PeerEvent}
    (h : RosterInv pc r) (hk : pc.Known e) :
    ∃ pc', pc.step e = .ok pc' ∧ RosterInv pc' (r.step e) := by
  cases e with
  | createParticipant pid displayName => exact ⟨_, rfl, h.create pid displayName⟩
  | onNewPeer data => exact h.newPeer data
  | onPeerClosed data => exact h.close (hk _ rfl)
  | onPeerDisplayNameChanged data => exact h.update (fun _ => rfl) (by simp) (hk _ rfl)
  | onActiveSpeaker data => exact h.update (fun _ => rfl) (by simp) (hk _ rfl)
  | onRemoteAudioStateChanged pid muted => exact h.update (fun _ => rfl) (by simp) (hk _ rfl)
  | onRemoteVideoStateChanged pid muted => exact h.update (fun _ => rfl) (by simp) (hk _ rfl)
  | onCreateRemoteAudioTrack pid tracks => exact h.update (fun _ => rfl) (by simp) (hk _ rfl)
  | onRemoveRemoteAudioTrack pid tracks => exact h.update (fun _ => rfl) (by simp) (hk _ rfl)
  | onCreateRemoteVideoTrack pid tid track appData tracks =>
    exact h.update (fun _ => rfl) (by simp) (hk _ rfl)
  | onRemoveRemoteVideoTrack pid tid track tracks =>
    exact h.update (fun _ => rfl) (by simp) (hk _ rfl)

/-- The subscript of an unknown peer leaves a null entry behind. -/
theorem updateParticipant_unknown {pc : ParticipantController} {pid : String}
    (he : pid.isEmpty = false) (hl : pc.participantMap.lookup pid = none)
    (set : Except Fault (Participant → Participant)) (notify : ℕ → List ParticipantEvent) :
    ∃ pc', pc.updateParticipant pid set notify = .ok pc' ∧
      pc'.getParticipants pid = some none := by
  unfold updateParticipant
  simp only [he, Bool.false_eq_true, ↓reduceIte, HashMap.subscript_of_absent hl]
  exact ⟨_, rfl, by simp [getParticipants]⟩

theorem onPeerClosed_unknown {pc : ParticipantController} {data : PeerClosedNotification.Data}
    (he : (data.peerId.getD "").isEmpty = false)
    (hl : pc.participantMap.lookup (data.peerId.getD "") = none) :
    ∃ pc', pc.onPeerClosed ⟨some data⟩ = .ok pc' ∧
      pc'.getParticipants (data.peerId.getD "") = some none := by
  unfold onPeerClosed
  simp only [engaged_some, bind, Except.bind, pure, Except.pure]
  generalize data.peerId.getD "" = pid at he hl ⊢
  simp only [he, Bool.false_eq_true, ↓reduceIte, HashMap.subscript_of_absent hl]
  exact ⟨_, rfl, by simp [getParticipants]⟩

theorem step_unknown {pc : ParticipantController} {e : PeerEvent} (hk : ¬ pc.Known e) :
    ∃ pc' pid, pc.step e = .ok pc' ∧ pc'.getParticipants pid = some none := by
  simp only [Known, not_forall] at hk
  obtain ⟨pid, hsub, he, hsome⟩ := hk
  have hl : pc.participantMap.lookup pid = none := Option.not_isSome_iff_eq_none.mp hsome
  cases e with
  | createParticipant pid displayName => cases hsub
  | onNewPeer data => cases hsub
  | onPeerClosed data =>
    cases hsub
    obtain ⟨pc', hs, hp⟩ := onPeerClosed_unknown he hl
    exact ⟨pc', _, hs, hp⟩
  | _ =>
    cases hsub
    obtain ⟨pc', hs, hp⟩ := updateParticipant_unknown he hl _ _
    exact ⟨pc', _, hs, hp⟩

/-- The controller and the abstract table, fed with the same event. -/
def stepBoth (s : ParticipantController × Roster) (e : PeerEvent) :
    Except Fault (ParticipantController × Roster) :=
  (s.1.step e).map fun pc => (pc, s.2.step e)

theorem stepBoth_ok {s t : ParticipantController × Roster} {e : PeerEvent} :
    stepBoth s e = .ok t ↔ s.1.step e = .ok t.1 ∧ t.2 = s.2.step e := by
  obtain ⟨pc, r⟩ := t
  unfold stepBoth
  cases s.1.step e with
  | error f => simp [Except.map]
  | ok pc' => simp [Except.map, eq_comm]

theorem updateParticipant_total (pc : ParticipantController) (pid : String)
    (set : Participant → Participant) (notify : ℕ → List ParticipantEvent) :
    ∃ pc', pc.updateParticipant pid (.ok set) notify = .ok pc' := by
  unfold updateParticipant
  split_ifs
  · exact ⟨_, rfl⟩
  · split
    · exact ⟨_, rfl⟩
    · exact ⟨_, rfl⟩

theorem step_total (pc : ParticipantController) (e : PeerEvent) : ∃ pc', pc.step e = .ok pc' := by
  cases e with
  | createParticipant pid displayName => exact ⟨_, rfl⟩
  | onNewPeer data =>
    simp only [step, onNewPeer, engaged_some, bind, Except.bind, pure, Except.pure]
    split_ifs
    · exact ⟨_, rfl⟩
    · exact ⟨_, rfl⟩
    · exact ⟨_, rfl⟩
  | onPeerClosed data =>
    simp only [step, onPeerClosed, engaged_some, bind, Except.bind, pure, Except.pure]
    split_ifs
    · exact ⟨_, rfl⟩
    · split
      · exact ⟨_, rfl⟩
      · exact ⟨_, rfl⟩
  | _ => exact updateParticipant_total _ _ _ _

theorem stepBoth_total (s : ParticipantController × Roster) (e : PeerEvent) :
    ∃ t, stepBoth s e = .ok t := by
  obtain ⟨pc, hs⟩ := step_total s.1 e
  exact ⟨(pc, s.2.step e), stepBoth_ok.mpr ⟨hs, rfl⟩⟩

/-- Every run of events completes, and `getParticipants()` is the abstract table all along it
if and only if each event that reads a peer's entry with `operator[]` comes while that entry
exists. -/
theorem participants_refine_iff (events : List PeerEvent) :
    (∃ t, exec stepBoth ({}, .empty) events = .ok t) ∧
    ((∀ pre t, pre <+: events → exec stepBoth ({}, .empty) pre = .ok t → t.1.Matches t.2) ↔
      Guarded stepBoth (fun s e => s.1.Known e) ({}, .empty) events) := by
  refine ⟨exec_total stepBoth_total _ _, ?_⟩
  apply forall_prefix_iff_guarded (I := fun s => RosterInv s.1 s.2)
  · intro s h
    exact h.matches
  · intro s e s' h hk hs
    obtain ⟨hstep, hr⟩ := stepBoth_ok.mp hs
    obtain ⟨pc', hpc, hinv⟩ := h.step hk
    rw [hstep] at hpc
    cases hpc
    rw [hr]
    exact hinv
  · intro s e h hk
    obtain ⟨pc', pid, hs, hnull⟩ := step_unknown hk
    refine ⟨(pc', s.2.step e), stepBoth_ok.mpr ⟨hs, rfl⟩, ?_⟩
    intro hm
    have hp := hm.1 pid
    rw [hnull] at hp
    cases ht : (s.2.step e).table pid with
    | none =>
      rw [ht] at hp
      cases hp
    | some p =>
      rw [ht] at hp
      cases hp
  · exact RosterInv.start

/-- An active speaker that is not announced yet stays out: its later `newPeer` is ignored. -/
theorem activeSpeaker_blocks_newPeer :
    ∃ t, exec stepBoth ({}, .empty)
        [.onActiveSpeaker ⟨some "bob", none⟩, .onNewPeer ⟨some "bob", some "Bob"⟩] = .ok t ∧
      t.1.getParticipants "bob" = some none ∧ t.1.joined = [] ∧ t.2.joined = ["bob"] ∧
      ¬ t.1.Matches t.2 := by
  refine ⟨_, rfl, rfl, rfl, rfl, ?_⟩
  intro hm
  have hj := hm.2
  cases hj

end ParticipantController
end MediasoupSdk
