import MediasoupSdk.Media.MutePeer
import MediasoupSdk.Media.Tracks

/-! The tracks that the media controller reports for a peer. The video tracks are chosen by kind and
peer, the audio tracks by kind alone. -/
namespace MediasoupSdk
open Foundation Signaling

/-- `hasAudio()` -/
def Participant.hasAudio (p : Participant) : Bool := !p.audioTracks.entries.isEmpty

namespace MediaController

variable {mc : MediaController} {kind : MediaKind} {pid tid : String} {track : Track}
  {tracks : Tracks}

/-- The tracks of exactly the open consumers of the peer, of a kind. -/
def TracksOf (kind : MediaKind) (pid : String) (mc : MediaController) (tracks : Tracks) : Prop :=
  ∀ tid track, tracks.lookup tid = some track ↔
    ∃ consumer, Media.OfPeer kind pid mc consumer ∧ consumer.id = tid ∧ consumer.track = track

/-- Every open audio consumer is the peer's. -/
def AudioOnlyOf (pid : String) (mc : MediaController) : Prop :=
  ∀ consumer, mc.consumerOf consumer.id = some consumer → consumer.track.kind = .audio →
    mc.consumerIdToPeerId.lookup consumer.id = some pid

/-- What the controller reports as the tracks of the peer, of both kinds. -/
def Reported (pid : String) (mc : MediaController) (tid : String) : Prop :=
  ∃ tracks, (mc.getRemoteAudioTracks pid = .ok tracks ∨
    (mc.getRemoteVideoTracks pid).map Prod.fst = .ok tracks) ∧ tid ∈ tracks

end MediaController

namespace ParticipantController

/-- The handlers that refresh the audio tracks of a participant. -/
def audioHandlers (pid : String) (tracks : Except Fault Tracks) :
    List (ParticipantController → Except Fault ParticipantController) :=
  [onCreateRemoteAudioTrack pid tracks, onRemoveRemoteAudioTrack pid tracks]

/-- Those that refresh the video tracks, for the track that comes or goes. -/
def videoHandlers (pid tid : String) (track : Option Track)
    (appData : NewConsumerRequest.AppData.Val) (tracks : Except Fault Tracks) :
    List (ParticipantController → Except Fault ParticipantController) :=
  [onCreateRemoteVideoTrack pid tid track appData tracks,
    onRemoveRemoteVideoTrack pid tid track tracks]

/-- A participant of the peer is there after the handler, and it has what `has` asks for exactly
when `P` holds. -/
def Refreshes (pid : String) (has : Participant → Bool) (P : Prop)
    (handler : ParticipantController → Except Fault ParticipantController) : Prop :=
  ∀ pc p, pc.getParticipant pid = some p → ∃ pc' p', handler pc = .ok pc' ∧
    pc'.getParticipant pid = some p' ∧ (has p' = true ↔ P)

variable {pid : String} {has : Participant → Bool} {P : Prop} {set : Participant → Participant}

/-- The handlers store the tracks in the participant. -/
theorem refreshes_updateParticipant (hpid : pid.isEmpty = false)
    (hset : ∀ p, has (set p) = true ↔ P) (notify : ℕ → List ParticipantEvent) :
    Refreshes pid has P (updateParticipant pid (.ok set) notify) := by
  intro pc p hp
  exact ⟨_, _, updateParticipant_ok pid set notify pc, touch_getParticipant_self hpid hp, hset p⟩

end ParticipantController
namespace MediaController

variable {mc : MediaController} {kind : MediaKind} {pid tid : String} {track : Track}
  {tracks : Tracks}

/-- For each of the peers the controller reports the tracks of exactly its open consumers, each
track for one peer only, and a participant that is refreshed has audio or video exactly when its
peer has a consumer of the kind. -/
structure ReportsTracks (peers : Set String) (mc : MediaController) : Prop where
  audio : ∀ pid ∈ peers, ∃ tracks, mc.getRemoteAudioTracks pid = .ok tracks ∧
    TracksOf .audio pid mc tracks
  video : ∀ pid ∈ peers, ∃ tracks, mc.getRemoteVideoTracks pid = .ok (tracks, mc) ∧
    TracksOf .video pid mc tracks
  once : ∀ pid ∈ peers, ∀ other ∈ peers, ∀ tid, Reported pid mc tid → Reported other mc tid →
    pid = other
  hasAudio : ∀ pid ∈ peers, pid.isEmpty = false →
    ∀ handler ∈ ParticipantController.audioHandlers pid (mc.getRemoteAudioTracks pid),
      ParticipantController.Refreshes pid Participant.hasAudio
        (∃ consumer, Media.OfPeer .audio pid mc consumer) handler
  hasVideo : ∀ pid ∈ peers, pid.isEmpty = false → ∀ tid track appData,
    ∀ handler ∈ ParticipantController.videoHandlers pid tid track appData
        ((mc.getRemoteVideoTracks pid).map Prod.fst),
      ParticipantController.Refreshes pid Participant.hasVideo
        (∃ consumer, Media.OfPeer .video pid mc consumer) handler

theorem lookup_remoteAudioTracks : mc.remoteAudioTracks.lookup tid = some track ↔
    ∃ consumer, mc.consumerOf tid = some consumer ∧ consumer.track.kind = .audio ∧
      consumer.track = track := by
  rw [remoteAudioTracks, HashMap.lookup_collect, consumerOf]
  cases mc.consumerMap.lookup tid with
  | none => simp
  | some pointer =>
    cases pointer with
    | none => simp
    | some consumer => simp

theorem lookup_remoteVideoTracks : (mc.remoteVideoTracks pid).lookup tid = some track ↔
    ∃ consumer, mc.consumerOf tid = some consumer ∧ consumer.track.kind = .video ∧
      mc.peerOf tid = pid ∧ consumer.track = track := by
  rw [remoteVideoTracks, HashMap.lookup_collect, consumerOf]
  cases mc.consumerMap.lookup tid with
  | none => simp
  | some pointer =>
    cases pointer with
    | none => simp
    | some consumer => simp [and_assoc]

theorem Stored.peerOf_eq_iff (hs : mc.Stored) {consumer : Consumer}
    (hc : mc.consumerOf tid = some consumer) :
    mc.peerOf tid = pid ↔ mc.consumerIdToPeerId.lookup tid = some pid := by
  have hmem : tid ∈ mc.consumerMap :=
    AList.lookup_isSome.mp (by rw [(hs.lookup_consumerOf hc).1]; rfl)
  obtain ⟨peer, hl⟩ := Option.isSome_iff_exists.mp (AList.lookup_isSome.mpr (hs.peer tid hmem))
  rw [peerOf, hl, Option.getD_some, Option.some.injEq]

theorem tracksOf_video (hs : mc.Stored) (pid : String) :
    TracksOf .video pid mc (mc.remoteVideoTracks pid) := by
  intro tid track
  rw [lookup_remoteVideoTracks]
  constructor
  · rintro ⟨consumer, hc, hk, hp, ht⟩
    obtain rfl := (hs.lookup_consumerOf hc).2
    exact ⟨consumer, ⟨hc, hk, (hs.peerOf_eq_iff hc).mp hp⟩, rfl, ht⟩
  · rintro ⟨consumer, ⟨hc, hk, hp⟩, rfl, ht⟩
    exact ⟨consumer, hc, hk, (hs.peerOf_eq_iff hc).mpr hp, ht⟩

/-- The audio tracks are right for a peer that has all the audio consumers. -/
theorem tracksOf_audio_iff (hs : mc.Stored) :
    TracksOf .audio pid mc mc.remoteAudioTracks ↔ AudioOnlyOf pid mc := by
  constructor
  · intro h consumer hc hk
    obtain ⟨c, hof, hid, -⟩ := (h consumer.id consumer.track).mp
      (lookup_remoteAudioTracks.mpr ⟨consumer, hc, hk, rfl⟩)
    rw [← hid]
    exact hof.2.2
  · intro h tid track
    rw [lookup_remoteAudioTracks]
    constructor
    · rintro ⟨consumer, hc, hk, ht⟩
      obtain rfl := (hs.lookup_consumerOf hc).2
      exact ⟨consumer, ⟨hc, hk, h consumer hc hk⟩, rfl, ht⟩
    · rintro ⟨consumer, ⟨hc, hk, -⟩, rfl, ht⟩
      exact ⟨consumer, hc, hk, ht⟩

theorem TracksOf.nonempty_iff (h : TracksOf kind pid mc tracks) :
    (!tracks.entries.isEmpty) = true ↔ ∃ consumer, Media.OfPeer kind pid mc consumer := by
  rw [tracks_nonempty_iff]
  constructor
  · rintro ⟨tid, ht⟩
    obtain ⟨track, hl⟩ := Option.isSome_iff_exists.mp (AList.lookup_isSome.mpr ht)
    obtain ⟨consumer, hof, -⟩ := (h tid track).mp hl
    exact ⟨consumer, hof⟩
  · rintro ⟨consumer, hof⟩
    refine ⟨consumer.id, AList.lookup_isSome.mp ?_⟩
    rw [(h consumer.id consumer.track).mpr ⟨consumer, hof, rfl, rfl⟩]
    rfl

/-- A track that is reported is that of one of the peer's consumers. -/
theorem exists_ofPeer_of_reported (hs : mc.Stored) (haudio : AudioOnlyOf pid mc)
    (h : Reported pid mc tid) : mc.consumerIdToPeerId.lookup tid = some pid := by
  obtain ⟨tracks, hget, hmem⟩ := h
  have hof : ∃ kind, TracksOf kind pid mc tracks := by
    rcases hget with hget | hget
    · rw [getRemoteAudioTracks_eq hs, Except.ok.injEq] at hget
      exact ⟨.audio, hget ▸ (tracksOf_audio_iff hs).mpr haudio⟩
    · rw [getRemoteVideoTracks_eq hs, Except.map, Except.ok.injEq] at hget
      exact ⟨.video, hget ▸ tracksOf_video hs pid⟩
  obtain ⟨kind, hof⟩ := hof
  obtain ⟨track, hl⟩ := Option.isSome_iff_exists.mp (AList.lookup_isSome.mpr hmem)
  obtain ⟨consumer, hpeer, rfl, -⟩ := (hof tid track).mp hl
  exact hpeer.2.2

theorem reportsTracks_iff (hs : mc.Stored) {peers : Set String} :
    ReportsTracks peers mc ↔ ∀ pid ∈ peers, AudioOnlyOf pid mc := by
  constructor
  · intro h pid hpid
    obtain ⟨tracks, hget, hof⟩ := h.audio pid hpid
    rw [getRemoteAudioTracks_eq hs, Except.ok.injEq] at hget
    exact (tracksOf_audio_iff hs).mp (hget ▸ hof)
  · intro h
    have haudio := fun pid hpid => (tracksOf_audio_iff hs).mpr (h pid hpid)
    refine ⟨fun pid hpid => ⟨_, getRemoteAudioTracks_eq hs pid, haudio pid hpid⟩,
      fun pid _ => ⟨_, getRemoteVideoTracks_eq hs pid, tracksOf_video hs pid⟩, ?_, ?_, ?_⟩
    · intro pid hpid other hother tid hr hr'
      have hself := exists_ofPeer_of_reported hs (h pid hpid) hr
      rw [exists_ofPeer_of_reported hs (h other hother) hr', Option.some.injEq] at hself
      exact hself.symm
    · intro pid hpid hne handler hmem
      rw [getRemoteAudioTracks_eq hs] at hmem
      have hset (p : Participant) : (p.setAudioTracks mc.remoteAudioTracks).hasAudio = true ↔
          ∃ consumer, Media.OfPeer .audio pid mc consumer := (haudio pid hpid).nonempty_iff
      have hrefresh := ParticipantController.refreshes_updateParticipant hne hset fun _ => []
      simp only [ParticipantController.audioHandlers, List.mem_cons, List.not_mem_nil,
        or_false] at hmem
      rcases hmem with rfl | rfl
      · exact hrefresh
      · exact hrefresh
    · intro pid _ hne tid track appData handler hmem
      rw [getRemoteVideoTracks_eq hs] at hmem
      have hset (p : Participant) : (p.setVideoTracks (mc.remoteVideoTracks pid)).hasVideo = true ↔
          ∃ consumer, Media.OfPeer .video pid mc consumer := (tracksOf_video hs pid).nonempty_iff
      have hrefresh := ParticipantController.refreshes_updateParticipant hne hset
      simp only [ParticipantController.videoHandlers, List.mem_cons, List.not_mem_nil,
        or_false] at hmem
      rcases hmem with rfl | rfl
      · exact hrefresh _
      · exact hrefresh _

end MediaController
namespace Media

open MediaController

variable {m : Media}

/-- In each reachable state and for all peers alike: the tracks and the flags of the peers are right
exactly when no open audio consumer is another peer's. -/
theorem tracks_reported_iff (h : Reachable m) (peers : Set String) :
    ReportsTracks peers m.controller ↔ ∀ pid ∈ peers, AudioOnlyOf pid m.controller :=
  reportsTracks_iff h.stored

section Runs

open Ledger

/-- Bob is the only one who is heard; Carol is seen. -/
theorem one_speaker_reported : ∃ m, Reachable m ∧
    exec Media.step consumingMedia [newAudio "a1" "bob", newVideo "v1" "carol"] = .ok m ∧
    ReportsTracks {"bob"} m.controller := by
  have hrun : exec Media.step consumingMedia
    [newAudio "a1" "bob", newVideo "v1" "carol"] = .ok _ := rfl
  have hreach := reachable_exec consumingMedia_reachable hrun
  refine ⟨_, hreach, rfl, (tracks_reported_iff hreach {"bob"}).mpr ?_⟩
  rintro pid rfl consumer hc hk
  obtain ⟨hl, -⟩ := hreach.stored.lookup_consumerOf hc
  have hmem := AList.mem_lookup_iff.mp hl
  rcases List.mem_cons.mp hmem with he | hmem
  · rw [Sigma.mk.inj_iff] at he
    obtain ⟨-, hconsumer⟩ := he
    rw [Option.some.inj (eq_of_heq hconsumer)] at hk
    cases hk
  · have he := List.mem_singleton.mp hmem
    rw [Sigma.mk.inj_iff] at he
    rw [he.1]
    rfl

/-- Bob's audio track is reported for Carol as well, who then has audio. -/
theorem audio_reported_for_others : ∃ m, Reachable m ∧
    exec Media.step consumingMedia [newAudio "a1" "bob", newVideo "v1" "carol"] = .ok m ∧
    (∃ tracks, m.controller.getRemoteAudioTracks "carol" = .ok tracks ∧
      tracks.lookup "a1" = some ⟨0, .audio⟩ ∧
      m.controller.consumerIdToPeerId.lookup "a1" = some "bob") ∧
    ¬ ReportsTracks {"bob", "carol"} m.controller := by
  have hrun : exec Media.step consumingMedia
    [newAudio "a1" "bob", newVideo "v1" "carol"] = .ok _ := rfl
  have hreach := reachable_exec consumingMedia_reachable hrun
  refine ⟨_, hreach, rfl, ⟨_, rfl, rfl, rfl⟩, fun h => ?_⟩
  obtain ⟨tracks, ⟨⟩, hof⟩ := h.audio "carol" (by simp)
  obtain ⟨consumer, hpeer, hid, -⟩ := (hof "a1" ⟨0, .audio⟩).mp rfl
  have hl := hpeer.2.2
  rw [hid] at hl
  have hnames : some "bob" = some "carol" := hl
  simp at hnames

end Runs

end Media
end MediasoupSdk
