import MediasoupSdk.Signaling.Client

/-! `ParticipantController`: the participants of a room, fed by notifications of the SFU and by
events of the media controller. -/
namespace MediasoupSdk
open Foundation Signaling

inductive MediaKind where
  | audio
  | video
  deriving DecidableEq, Repr

/-- A track object of the media library. -/
structure Track where
  serial : ℕ
  kind : MediaKind
  deriving DecidableEq, Repr

abbrev Tracks := HashMap String Track

/-- The constructor sets the id and the name; the other members of a native type keep no value
until their setter runs. -/
structure Participant where
  id : String
  displayName : String
  isActive : Option Bool := none
  isAudioMuted : Option Bool := none
  isVideoMuted : Option Bool := none
  volume : Option ℤ := none
  audioTracks : Tracks := ∅
  videoTracks : Tracks := ∅

namespace Participant

def setDisplayName (name : String) (p : Participant) : Participant := { p with displayName := name }

def setActive (isActive : Bool) (p : Participant) : Participant :=
  { p with isActive := some isActive }

def setAudioMuted (muted : Bool) (p : Participant) : Participant :=
  { p with isAudioMuted := some muted }

def setVideoMuted (muted : Bool) (p : Participant) : Participant :=
  { p with isVideoMuted := some muted }

def setSpeakingVolume (volume : ℤ) (p : Participant) : Participant :=
  { p with volume := some volume }

def setAudioTracks (tracks : Tracks) (p : Participant) : Participant :=
  { p with audioTracks := tracks }

def setVideoTracks (tracks : Tracks) (p : Participant) : Participant :=
  { p with videoTracks := tracks }

end Participant

/-- What the observers are told. A participant is passed by pointer: its number among the
objects of the controller. -/
inductive ParticipantEvent where
  | onParticipantJoin (participant : ℕ)
  | onParticipantLeave (participant : ℕ)
  | onDisplayNameChanged (participant : ℕ)
  | onRemoteActiveSpeaker (participant : ℕ) (volume : ℤ)
  | onRemoteAudioStateChanged (participant : ℕ) (muted : Bool)
  | onRemoteVideoStateChanged (participant : ℕ) (muted : Bool)
  | onCreateRemoteVideoTrack (participant : ℕ) (tid : String) (track : Option Track)
      (appData : NewConsumerRequest.AppData.Val)
  | onRemoveRemoteVideoTrack (participant : ℕ) (tid : String) (track : Option Track)

/-- `objects` are all participants made so far; the map holds pointers to them, or null. -/
structure ParticipantController where
  objects : List Participant := []
  participantMap : HashMap String (Option ℕ) := ∅
  notified : List ParticipantEvent := []

namespace ParticipantController

def destroy (pc : ParticipantController) : ParticipantController := { pc with participantMap := ∅ }

/-- The entry of `getParticipants()` under `pid`: missing, null or a participant. -/
def getParticipants (pc : ParticipantController) (pid : String) : Option (Option Participant) :=
  (pc.participantMap.lookup pid).map fun pointer => pointer.bind (pc.objects[·]?)

def createParticipant (pid displayName : String) (pc : ParticipantController) :
    ParticipantController :=
  if (pc.participantMap.lookup pid).isSome then pc
  else
    let ref := pc.objects.length
    { objects := pc.objects ++ [Participant.setActive true { id := pid, displayName }]
      participantMap := pc.participantMap.insert pid (some ref)
      notified := pc.notified ++ [.onParticipantJoin ref] }

/-- The common shape of the handlers: `_participantMap[pid]`, a return on null, one setter
and one notification. -/
def updateParticipant (pid : String) (set : Except Fault (Participant → Participant))
    (notify : ℕ → List ParticipantEvent) (pc : ParticipantController) :
    Except Fault ParticipantController :=
  if pid.isEmpty then .ok pc
  else
    match pc.participantMap.subscript none pid with
    | (none, participantMap) => .ok { pc with participantMap }
    | (some ref, participantMap) => do
      let set ← set
      return { objects := pc.objects.modify ref set
               participantMap
               notified := pc.notified ++ notify ref }

def onNewPeer (notification : Notification NewPeerNotification.Data)
    (pc : ParticipantController) : Except Fault ParticipantController := do
  let data ← engaged notification.data
  let pid := data.id.getD ""
  if pid.isEmpty then return pc
  if (pc.participantMap.lookup pid).isSome then return pc
  return pc.createParticipant pid (data.displayName.getD "")

/-- Like `updateParticipant`, and the entry is erased afterwards. -/
def onPeerClosed (notification : Notification PeerClosedNotification.Data)
    (pc : ParticipantController) : Except Fault ParticipantController := do
  let data ← engaged notification.data
  let pid := data.peerId.getD ""
  if pid.isEmpty then return pc
  match pc.participantMap.subscript none pid with
  | (none, participantMap) => return { pc with participantMap }
  | (some ref, participantMap) =>
    return { objects := pc.objects.modify ref (Participant.setActive false)
             participantMap := participantMap.erase pid
             notified := pc.notified ++ [.onParticipantLeave ref] }

def onPeerDisplayNameChanged
    (notification : Notification PeerDisplayNameChangedNotification.Data)
    (pc : ParticipantController) : Except Fault ParticipantController := do
  let data ← engaged notification.data
  pc.updateParticipant (data.peerId.getD "")
    (.ok (Participant.setDisplayName (data.displayName.getD "")))
    fun ref => [.onDisplayNameChanged ref]

def onActiveSpeaker (notification : Notification ActiveSpeakerNotification.Data)
    (pc : ParticipantController) : Except Fault ParticipantController := do
  let data ← engaged notification.data
  let volume := (data.volume.map Subtype.val).getD 0
  pc.updateParticipant (data.peerId.getD "") (.ok (Participant.setSpeakingVolume volume))
    fun ref => [.onRemoteActiveSpeaker ref volume]

def onRemoteAudioStateChanged (pid : String) (muted : Bool) :
    ParticipantController → Except Fault ParticipantController :=
  updateParticipant pid (.ok (Participant.setAudioMuted muted))
    fun ref => [.onRemoteAudioStateChanged ref muted]

def onRemoteVideoStateChanged (pid : String) (muted : Bool) :
    ParticipantController → Except Fault ParticipantController :=
  updateParticipant pid (.ok (Participant.setVideoMuted muted))
    fun ref => [.onRemoteVideoStateChanged ref muted]

/-- The audio handlers store what `getRemoteAudioTracks(pid)` returns; it is asked only when
there is a participant. -/
def onCreateRemoteAudioTrack (pid : String) (tracks : Except Fault Tracks) :
    ParticipantController → Except Fault ParticipantController :=
  updateParticipant pid (tracks.map Participant.setAudioTracks) fun _ => []

def onRemoveRemoteAudioTrack (pid : String) (tracks : Except Fault Tracks) :
    ParticipantController → Except Fault ParticipantController :=
  updateParticipant pid (tracks.map Participant.setAudioTracks) fun _ => []

def onCreateRemoteVideoTrack (pid tid : String) (track : Option Track)
    (appData : NewConsumerRequest.AppData.Val) (tracks : Except Fault Tracks) :
    ParticipantController → Except Fault ParticipantController :=
  updateParticipant pid (tracks.map Participant.setVideoTracks)
    fun ref => [.onCreateRemoteVideoTrack ref tid track appData]

def onRemoveRemoteVideoTrack (pid tid : String) (track : Option Track)
    (tracks : Except Fault Tracks) :
    ParticipantController → Except Fault ParticipantController :=
  updateParticipant pid (tracks.map Participant.setVideoTracks)
    fun ref => [.onRemoveRemoteVideoTrack ref tid track]

end ParticipantController
end MediasoupSdk
