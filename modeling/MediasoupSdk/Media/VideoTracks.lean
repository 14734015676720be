import MediasoupSdk.Media.Changes
import MediasoupSdk.Media.MutePeer
import MediasoupSdk.Media.Produce
import MediasoupSdk.Signaling.Reply

/-! The producers and the sources of the video tracks: what the calls of `enableVideo` and
`inputFrame` leave in the two maps, and what `destroy` closes. -/
namespace MediasoupSdk
open Foundation Signaling

/-- A call of `OnProduce` that returns. The room client or its API is gone, the request could not
be built, or the callback of the request is called. -/
inductive ProduceExchange where
  | roomGone
  | noApi
  | notBuilt
  | replied (alive : Bool) (reply : MediasoupApi.Reply (Response ProduceResponse.Data))

/-- What the future gets, through `_onProduce`. -/
def ProduceExchange.onProduce : ProduceExchange → Except Fault String
  | .roomGone => .ok ""
  | .noApi => .ok ""
  | .notBuilt => .ok ""
  | .replied alive reply => MediasoupApi.onProduceReply alive reply

/-- A call of `SendTransport::Produce`, which throws or hands the track to `OnProduce`. -/
inductive ProduceCall where
  | threw
  | exchanged (exchange : ProduceExchange)

namespace ProduceCall

/-- The producer that is returned has the id that `OnProduce` gave, whatever it is. -/
def produce : ProduceCall → Except Fault (Option Producer)
  | .threw => .ok none
  | .exchanged exchange => do
    let id ← exchange.onProduce
    return some { id }

/-- The call obtains the id of a producer from the SFU. -/
def Obtains (call : ProduceCall) : Prop :=
  ∃ producer, call.produce = .ok (some producer) ∧ producer.id.isEmpty = false

/-- Only an answer that carries an id is one; the member `ok` may be false. -/
theorem obtains_iff {call : ProduceCall} : call.Obtains ↔
    ∃ reply response data id, call = .exchanged (.replied true reply) ∧ reply.errorCode = 0 ∧
      reply.response = some response ∧ response.ok.isSome ∧ response.data = some data ∧
      data.id = some id ∧ id.isEmpty = false := by
  constructor
  · rintro ⟨producer, hproduce, hid⟩
    cases call with
    | threw => cases hproduce
    | exchanged exchange =>
      simp only [produce, bind_ok, pure, Except.pure, Except.ok.injEq, Option.some.injEq]
        at hproduce
      obtain ⟨id, hex, rfl⟩ := hproduce
      have hne : exchange.onProduce ≠ .ok "" := by
        intro hempty
        rw [hex, Except.ok.injEq] at hempty
        rw [hempty] at hid
        simp at hid
      cases exchange with
      | roomGone => exact absurd rfl hne
      | noApi => exact absurd rfl hne
      | notBuilt => exact absurd rfl hne
      | replied alive reply =>
        simp only [ProduceExchange.onProduce, MediasoupApi.onProduceReply] at hex hne
        split_ifs at hex hne with halive hcode
        · exact absurd rfl hne
        · exact absurd rfl hne
        · cases hresponse : reply.response with
          | none => simp [hresponse] at hne
          | some response =>
            simp only [hresponse] at hex hne
            split_ifs at hex hne with hok
            · exact absurd rfl hne
            · simp only [bind_ok, engaged_eq_ok, pure, Except.pure, Except.ok.injEq] at hex
              obtain ⟨data, hdata, rfl⟩ := hex
              cases hdid : data.id with
              | none => simp [hdid] at hid
              | some id =>
                refine ⟨reply, response, data, id, ?_, by simpa using hcode, hresponse, ?_, hdata,
                  hdid, by simpa [hdid] using hid⟩
                · have htrue : alive = true := by simpa using halive
                  rw [htrue]
                · simpa [Option.isSome_iff_ne_none] using hok
  · rintro ⟨reply, response, data, id, rfl, hcode, hresponse, hok, hdata, hdid, hid⟩
    obtain ⟨b, hb⟩ := Option.isSome_iff_exists.mp hok
    refine ⟨{ id }, ?_, hid⟩
    simp [produce, ProduceExchange.onProduce, MediasoupApi.onProduceReply, hcode, hresponse, hb,
      hdata, hdid, bind, Except.bind, pure, Except.pure]

end ProduceCall

namespace MediaController

/-- The producer of a slot: that of the microphone, or that of a track name. -/
def producerIn (mc : MediaController) : Option String → Option Producer
  | none => mc.micProducer
  | some trackName => (mc.producerMap.lookup trackName).join

/-- The track name has a video source. -/
def sourceAt (trackName : String) (mc : MediaController) : Bool :=
  (mc.sourceMap.lookup trackName).getD false

/-- The loop of `closeAll`, with what it closes. -/
def closing {V : Type} (p : Pointer) (m : HashMap String (Option V)) :
    Except Fault (List (String × V)) :=
  m.entries.mapM fun e => (deref p e.2).map fun v => (e.1, v)

/-- `destroy`, with the producers that it closes. -/
def destroyClosing (mc : MediaController) :
    Except Fault (List (Option String × Producer) × MediaController) := do
  let producers ← closing .producer mc.producerMap
  closeAll .dataConsumer mc.dataConsumerMap
  closeAll .consumer mc.consumerMap
  return (mc.micProducer.toList.map (fun producer => (none, producer)) ++
    producers.map (fun e => (some e.1, e.2)), mc.destroyed)

theorem closing_map {V : Type} (p : Pointer) (m : HashMap String (Option V)) :
    (closing p m).map (fun _ => ()) = closeAll p m := by
  unfold closing closeAll
  induction m.entries with
  | nil => rfl
  | cons e l ih =>
    rw [List.forM, ← ih, List.mapM_cons]
    cases e.2 with
    | none => rfl
    | some v =>
      cases l.mapM fun e => (deref p e.2).map fun v => (e.1, v) with
      | error fault => rfl
      | ok closed => rfl

/-- The list of what is closed adds nothing to `destroy`. -/
theorem destroyClosing_map (mc : MediaController) :
    mc.destroyClosing.map Prod.snd = mc.destroy := by
  unfold destroyClosing destroy
  rw [← closing_map .producer mc.producerMap]
  cases closing .producer mc.producerMap with
  | error fault => rfl
  | ok producers =>
    simp only [bind, Except.bind, Except.map]
    cases closeAll .dataConsumer mc.dataConsumerMap with
    | error fault => rfl
    | ok _ =>
      cases closeAll .consumer mc.consumerMap with
      | error fault => rfl
      | ok _ => rfl

/-- The loop ends well when no pointer of the map is null, and closes each entry once. -/
theorem closing_ok_iff {V : Type} {p : Pointer} {m : HashMap String (Option V)}
    {closed : List (String × V)} :
    closing p m = .ok closed ↔
      m.entries.map (fun e => (e.1, e.2)) = closed.map fun e => (e.1, some e.2) := by
  rw [closing, mapM_ok, ← List.forall₂_eq_eq_eq, List.forall₂_map_left_iff,
    List.forall₂_map_right_iff]
  have hentry (e : (_ : String) × Option V) (c : String × V) :
      (deref p e.2).map (fun v => (e.1, v)) = .ok c ↔ (e.1, e.2) = (c.1, some c.2) := by
    simp only [map_ok, deref_eq_ok, Prod.ext_iff]
    constructor
    · rintro ⟨v, hv, hkey, hvalue⟩
      exact ⟨hkey, hvalue ▸ hv⟩
    · rintro ⟨hkey, hvalue⟩
      exact ⟨c.2, hvalue, hkey, rfl⟩
  simp only [hentry]

section Closed

variable {V : Type} {p : Pointer} {m : HashMap String (Option V)} {closed : List (String × V)}

theorem closing_keys (h : closing p m = .ok closed) :
    closed.map Prod.fst = m.entries.map Sigma.fst := by
  have hfst := congrArg (List.map Prod.fst) (closing_ok_iff.mp h)
  simp only [List.map_map, Function.comp_def] at hfst
  exact hfst.symm

theorem mem_closing_iff (h : closing p m = .ok closed) {key : String} {v : V} :
    (key, v) ∈ closed ↔ m.lookup key = some (some v) := by
  have hmap : (key, some v) ∈ closed.map (fun e => (e.1, some e.2)) ↔ (key, v) ∈ closed := by
    simp
  rw [← hmap, ← closing_ok_iff.mp h]
  constructor
  · intro hin
    obtain ⟨e, he, heq⟩ := List.mem_map.mp hin
    rw [Prod.mk.injEq] at heq
    rw [← heq.1, ← heq.2]
    exact AList.mem_lookup_iff.mpr he
  · intro hl
    exact List.mem_map_of_mem (AList.mem_lookup_iff.mp hl)

/-- Without null pointers the loop ends well. -/
theorem closing_total (hsome : ∀ e ∈ m.entries, e.2.isSome) :
    ∃ closed, closing p m = .ok closed := by
  have hall := closeAll_ok (p := p) hsome
  rw [← closing_map] at hall
  obtain ⟨closed, hclosed, -⟩ := map_ok.mp hall
  exact ⟨closed, hclosed⟩

theorem closing_engaged (h : closing p m = .ok closed) : ∀ e ∈ m.entries, e.2.isSome := by
  intro e he
  have hmem : (e.1, e.2) ∈ closed.map fun e => (e.1, some e.2) := by
    rw [← closing_ok_iff.mp h]
    exact List.mem_map_of_mem he
  obtain ⟨e', -, he'⟩ := List.mem_map.mp hmem
  rw [← (Prod.mk.inj he').2]
  rfl

end Closed

end MediaController
namespace Media

/-- What `enableVideo` leaves when its call of `Produce` throws: the source was stored before. -/
def sourceStored (trackName : String) (m : Media) : Media :=
  { m with controller := { m.controller with
      producerMap := (m.controller.producerMap.subscript none trackName).2
      sourceMap := (m.controller.sourceMap.subscript false trackName).2.insert trackName true } }

/-- `enableVideo`, with the state that it leaves when it throws. -/
def tryEnableVideo (enabled : Bool) (trackName : String) (call : ProduceCall) (m : Media) :
    Except Fault Media :=
  if (m.videoProduce enabled trackName).isSome then do
    match ← call.produce with
    | some producer => m.enableVideo enabled trackName (some producer)
    | none => return m.sourceStored trackName
  else m.enableVideo enabled trackName none

def inputFrame (trackName : String) (m : Media) : Media :=
  { m with controller := { m.controller with
      sourceMap := (m.controller.sourceMap.subscript false trackName).2 } }

end Media

inductive VideoEvent where
  | enableVideo (enabled : Bool) (trackName : String) (call : ProduceCall)
  | inputFrame (trackName : String)
  | destroy

def Media.videoStep (m : Media) : VideoEvent → Except Fault Media
  | .enableVideo enabled trackName call => m.tryEnableVideo enabled trackName call
  | .inputFrame trackName => .ok (m.inputFrame trackName)
  | .destroy => m.withController m.controller.destroy

namespace Media

variable {m m' : Media} {enabled : Bool} {trackName : String} {call : ProduceCall}

/-- The device and the transport let a video track be sent. -/
def CanSend (m : Media) : Prop :=
  (∃ device, m.controller.mediasoupDevice = some device ∧ device.canProduceVideo = true) ∧
    m.controller.sendTransport.isSome

instance : DecidablePred CanSend := fun m =>
  match h : m.controller.mediasoupDevice with
  | none => isFalse (by simp [CanSend, h])
  | some device =>
    decidable_of_iff (device.canProduceVideo = true ∧ m.controller.sendTransport.isSome)
      (by simp [CanSend, h])

/-- The entries of a track name in the two maps. -/
def videoAt (trackName : String) (m : Media) : Option (Option Producer) × Bool :=
  (m.controller.producerMap.lookup trackName, m.controller.sourceAt trackName)

/-- A call changes the entries of one track name at most. -/
structure Sets (trackName : String) (producer : Option Producer) (source : Bool) (m m' : Media) :
    Prop where
  self : m'.videoAt trackName = (some producer, source)
  other : ∀ other, other ≠ trackName → m'.videoAt other = m.videoAt other
  keeps : Keeps m m'
  rest : m'.controller.micProducer = m.controller.micProducer ∧
    m'.controller.consumerMap = m.controller.consumerMap ∧
    m'.controller.dataConsumerMap = m.controller.dataConsumerMap

theorem sets_of_lookup {producer : Option Producer} {source : Bool} (hkeeps : Keeps m m')
    (hproducer : ∀ t, m'.controller.producerMap.lookup t =
      if t = trackName then some producer else m.controller.producerMap.lookup t)
    (hsource : ∀ t, m'.controller.sourceMap.lookup t =
      if t = trackName then some source else m.controller.sourceMap.lookup t)
    (hrest : m'.controller.micProducer = m.controller.micProducer ∧
      m'.controller.consumerMap = m.controller.consumerMap ∧
      m'.controller.dataConsumerMap = m.controller.dataConsumerMap) :
    Sets trackName producer source m m' := by
  refine ⟨?_, fun other hne => ?_, hkeeps, hrest⟩
  · simp [videoAt, MediaController.sourceAt, hproducer, hsource]
  · simp [videoAt, MediaController.sourceAt, hproducer, hsource, hne]

theorem lookup_insert_subscript {V : Type} (d v : V) (m : HashMap String V) (t : String) :
    ((m.subscript d trackName).2.insert trackName v).lookup t =
      if t = trackName then some v else m.lookup t := by
  rw [HashMap.lookup_insert_eq_ite, HashMap.lookup_subscript]
  split_ifs
  · rfl
  · rfl

/-- The pointer and the source of a track name, as `operator[]` reads them. -/
def pointerAt (trackName : String) (m : Media) : Option Producer :=
  (m.controller.producerMap.lookup trackName).getD none

/-- Without a device or a transport the call returns at once. -/
theorem enableVideo_blocked (h : ¬ m.CanSend) (produced : Option Producer) :
    m.enableVideo enabled trackName produced = .ok m := by
  unfold enableVideo
  cases hd : m.controller.mediasoupDevice with
  | none => simp [hd, pure, Except.pure]
  | some device =>
    by_cases hcan : device.canProduceVideo = true
    · have hsend : m.controller.sendTransport.isNone = true := by
        by_contra hsend
        exact h ⟨⟨device, hd, hcan⟩, by simpa [Option.isSome_iff_ne_none] using hsend⟩
      simp [hd, hcan, hsend, pure, Except.pure]
    · simp [hd, hcan, pure, Except.pure]

theorem videoProduce_blocked (h : ¬ m.CanSend) : m.videoProduce enabled trackName = none := by
  by_contra hsome
  obtain ⟨arguments, harguments⟩ := Option.ne_none_iff_exists'.mp hsome
  have herror := enableVideo_uncaught harguments
  rw [enableVideo_blocked h] at herror
  cases herror

theorem tryEnableVideo_blocked (h : ¬ m.CanSend) :
    m.tryEnableVideo enabled trackName call = .ok m := by
  rw [tryEnableVideo, videoProduce_blocked h]
  exact enableVideo_blocked h none

/-- `Produce` is called for a name that has neither a producer nor a source. -/
theorem videoProduce_isSome_iff (h : m.CanSend) :
    (m.videoProduce enabled trackName).isSome ↔
      enabled = true ∧ m.pointerAt trackName = none ∧ m.controller.sourceAt trackName = false := by
  obtain ⟨⟨device, hd, hcan⟩, hsend⟩ := h
  have hsend' : m.controller.sendTransport.isNone = false := by simpa using hsend
  simp only [videoProduce, hd, hcan, hsend', HashMap.subscript_fst, pointerAt,
    MediaController.sourceAt, MediaController.produceArguments_eq]
  cases enabled with
  | false => simp
  | true =>
    cases (AList.lookup trackName m.controller.producerMap).getD none with
    | some producer => simp
    | none =>
      cases (AList.lookup trackName m.controller.sourceMap).getD false with
      | true => simp
      | false => simp

/-- The entries of a track name after a call that is let through; `produced` is what `Produce`
returns if it is called. -/
def entriesAfter (enabled : Bool) (produced pointer : Option Producer) (source : Bool) :
    Option Producer × Bool :=
  if enabled then if pointer.isSome || source then (pointer, source) else (produced, true)
  else (none, false)

/-- A call of `enableVideo` that returns. -/
theorem enableVideo_sets (h : m.CanSend) {produced : Option Producer}
    (hrun : m.enableVideo enabled trackName produced = .ok m') :
    Sets trackName (entriesAfter enabled produced (m.pointerAt trackName)
        (m.controller.sourceAt trackName)).1
      (entriesAfter enabled produced (m.pointerAt trackName)
        (m.controller.sourceAt trackName)).2 m m' := by
  have hkeeps := enableVideo_keeps hrun
  have hp : (m.controller.producerMap.subscript none trackName).1 = m.pointerAt trackName :=
    HashMap.subscript_fst none m.controller.producerMap trackName
  have hs : (m.controller.sourceMap.subscript false trackName).1 =
      m.controller.sourceAt trackName :=
    HashMap.subscript_fst false m.controller.sourceMap trackName
  have htouched := HashMap.lookup_subscript none m.controller.producerMap trackName
  have hsources := HashMap.lookup_subscript false m.controller.sourceMap trackName
  obtain ⟨⟨device, hd, hcan⟩, hsend⟩ := h
  have hsend' : m.controller.sendTransport.isNone = false := by simpa using hsend
  simp only [enableVideo, hd, hcan, hsend', Bool.not_true, Bool.false_eq_true, if_false, hp,
    hs] at hrun
  unfold entriesAfter
  split_ifs at hrun with henabled hsome hsource
  · cases hrun
    simp only [henabled, hsome, Bool.true_or, if_true]
    exact sets_of_lookup hkeeps htouched hsources ⟨rfl, rfl, rfl⟩
  · cases hrun
    simp only [henabled, hsource, Bool.or_true, if_true]
    exact sets_of_lookup hkeeps htouched (hsource ▸ hsources) ⟨rfl, rfl, rfl⟩
  · simp only [bind_ok, pure, Except.pure, Except.ok.injEq] at hrun
    obtain ⟨producer, hproduced, rfl⟩ := hrun
    have hsome' : (m.pointerAt trackName).isSome = false := by simpa using hsome
    have hsource' : m.controller.sourceAt trackName = false := by simpa using hsource
    have hproduced' : produced = some producer := by
      cases produced with
      | none => cases hproduced
      | some _ => exact congrArg some (Except.ok.inj hproduced)
    simp only [henabled, hsome', hsource', hproduced', Bool.or_false, Bool.false_eq_true, if_true,
      if_false]
    exact sets_of_lookup hkeeps (lookup_insert_subscript none _ _)
      (lookup_insert_subscript false _ _) ⟨rfl, rfl, rfl⟩
  · have henabled' : enabled = false := by simpa using henabled
    simp only [henabled', Bool.false_eq_true, if_false]
    split at hrun
    · rename_i hnone
      cases hrun
      refine sets_of_lookup hkeeps (fun t => ?_) (lookup_insert_subscript false _ _)
        ⟨rfl, rfl, rfl⟩
      have hl : (m.controller.producerMap.lookup trackName).getD none = none := hnone
      exact (htouched t).trans (by rw [hl])
    · cases hrun
      exact sets_of_lookup hkeeps (lookup_insert_subscript none _ _)
        (lookup_insert_subscript false _ _) ⟨rfl, rfl, rfl⟩

/-- The call, whether it returns or throws. -/
theorem tryEnableVideo_sets (h : m.CanSend)
    (hrun : m.tryEnableVideo enabled trackName call = .ok m') :
    ∃ produced, ((m.videoProduce enabled trackName).isSome → call.produce = .ok produced) ∧
      Sets trackName (entriesAfter enabled produced (m.pointerAt trackName)
          (m.controller.sourceAt trackName)).1
        (entriesAfter enabled produced (m.pointerAt trackName)
          (m.controller.sourceAt trackName)).2 m m' := by
  unfold tryEnableVideo at hrun
  split_ifs at hrun with hproduce
  · simp only [bind_ok] at hrun
    obtain ⟨produced, hcall, hrun⟩ := hrun
    cases produced with
    | some producer => exact ⟨_, fun _ => hcall, enableVideo_sets h hrun⟩
    | none =>
      cases hrun
      obtain ⟨henabled, hpointer, hsource⟩ := (videoProduce_isSome_iff h).mp hproduce
      refine ⟨none, fun _ => hcall, ?_⟩
      simp only [entriesAfter, henabled, hpointer, hsource, Option.isSome_none, Bool.or_false,
        Bool.false_eq_true, if_true, if_false]
      refine sets_of_lookup keeps_own (fun t => ?_) (lookup_insert_subscript false _ _)
        ⟨rfl, rfl, rfl⟩
      rw [← hpointer]
      exact HashMap.lookup_subscript none m.controller.producerMap trackName t
  · exact ⟨none, fun hsome => absurd hsome hproduce, enableVideo_sets h hrun⟩

theorem inputFrame_videoAt (t : String) : (m.inputFrame trackName).videoAt t = m.videoAt t := by
  show (_, (AList.lookup t (m.controller.sourceMap.subscript false trackName).2).getD false) = _
  rw [HashMap.lookup_subscript]
  split_ifs with he
  · rw [he]
    rfl
  · rfl

end Media

/-- A track name that was switched on or off: it was left with a producer, without one, or with a
source alone, because `Produce` threw. -/
inductive TrackStatus where
  | producing
  | closed
  | stuck
  deriving DecidableEq

/-- The status of a name after a call of `enableVideo` that is let through. -/
def TrackStatus.after (enabled : Bool) (call : ProduceCall) (status : Option TrackStatus) :
    TrackStatus :=
  if enabled then
    match status with
    | some .producing => .producing
    | some .stuck => .stuck
    | _ =>
      match call.produce with
      | .ok (some _) => .producing
      | _ => .stuck
  else .closed

/-- The entries of a name in the two maps. -/
inductive TrackStatus.Entries : Option TrackStatus → Option (Option Producer) × Bool → Prop
  | unnamed : Entries none (none, false)
  | producing (producer : Producer) : Entries (some .producing) (some (some producer), true)
  | closed : Entries (some .closed) (some none, false)
  | stuck : Entries (some .stuck) (some none, true)

abbrev TrackHistory := String → Option TrackStatus

def TrackHistory.after (canSend : Prop) [Decidable canSend] (h : TrackHistory) :
    VideoEvent → TrackHistory
  | .enableVideo enabled trackName call =>
    if canSend then
      Function.update h trackName (some (TrackStatus.after enabled call (h trackName)))
    else h
  | .inputFrame _ => h
  | .destroy => fun trackName => (h trackName).map fun _ => .closed

/-- Every name that was switched is left with a producer. -/
def TrackHistory.AllProducing (h : TrackHistory) : Prop :=
  ∀ trackName status, h trackName = some status → status = .producing

namespace Media

variable {m m' : Media} {h : TrackHistory}

/-- The history of a run that begins without track names. -/
def history (m : Media) (run : List VideoEvent) : TrackHistory :=
  run.foldl (TrackHistory.after m.CanSend) fun _ => none

/-- There is no track name yet, and no consumer is null. -/
structure NoVideo (m : Media) : Prop where
  producers : m.controller.producerMap = ∅
  sources : m.controller.sourceMap = ∅
  consumers : ∀ e ∈ m.controller.consumerMap.entries, e.2.isSome
  dataConsumers : ∀ e ∈ m.controller.dataConsumerMap.entries, e.2.isSome

/-- The maps are as the history has it. -/
structure VideoInv (start m : Media) (h : TrackHistory) : Prop where
  entries : ∀ trackName, TrackStatus.Entries (h trackName) (m.videoAt trackName)
  canSend : m.CanSend ↔ start.CanSend
  consumers : ∀ e ∈ m.controller.consumerMap.entries, e.2.isSome
  dataConsumers : ∀ e ∈ m.controller.dataConsumerMap.entries, e.2.isSome

theorem Keeps.canSend (hkeeps : Keeps m m') : m'.CanSend ↔ m.CanSend := by
  rw [CanSend, CanSend, hkeeps.settings.mediasoupDevice, hkeeps.settings.sendTransport]

theorem NoVideo.inv (hm : NoVideo m) : VideoInv m m fun _ => none := by
  refine ⟨fun trackName => ?_, Iff.rfl, hm.consumers, hm.dataConsumers⟩
  rw [videoAt, MediaController.sourceAt, hm.producers, hm.sources]
  exact .unnamed

theorem destroyed_videoAt (trackName : String) :
    Media.videoAt trackName { m with controller := m.controller.destroyed } =
      ((m.videoAt trackName).1.map fun _ => none, false) := by
  simp only [videoAt, MediaController.sourceAt, MediaController.destroyed,
    HashMap.lookup_mapValues]
  cases AList.lookup trackName m.controller.sourceMap <;> rfl

/-- A destroyed controller, if `destroy` returns. -/
theorem destroy_ok {mc mc' : MediaController} (hrun : mc.destroy = .ok mc') :
    mc' = mc.destroyed := by
  simp only [MediaController.destroy, bind_ok, pure, Except.pure, Except.ok.injEq] at hrun
  obtain ⟨-, -, -, -, -, -, rfl⟩ := hrun
  rfl

/-- The entries of the name that a call switches. -/
theorem entries_after {enabled : Bool} {trackName : String} {call : ProduceCall}
    {status : Option TrackStatus} {produced : Option Producer}
    (hentries : TrackStatus.Entries status (m.videoAt trackName)) (hsend : m.CanSend)
    (hcall : (m.videoProduce enabled trackName).isSome → call.produce = .ok produced) :
    TrackStatus.Entries (some (TrackStatus.after enabled call status))
      (some (entriesAfter enabled produced (m.pointerAt trackName)
        (m.controller.sourceAt trackName)).1,
      (entriesAfter enabled produced (m.pointerAt trackName)
        (m.controller.sourceAt trackName)).2) := by
  rw [videoProduce_isSome_iff hsend] at hcall
  have hpointer : m.pointerAt trackName = (m.videoAt trackName).1.getD none := rfl
  have hsource : m.controller.sourceAt trackName = (m.videoAt trackName).2 := rfl
  rw [hpointer, hsource] at hcall ⊢
  generalize m.videoAt trackName = entries at hentries hcall
  cases enabled with
  | false => exact .closed
  | true =>
    have hnew (hnone : entries.1.getD none = none) (hfalse : entries.2 = false) :
        TrackStatus.Entries (some (match call.produce with
          | .ok (some _) => .producing
          | _ => .stuck)) (some produced, true) := by
      rw [hcall ⟨rfl, hnone, hfalse⟩]
      cases produced with
      | none => exact .stuck
      | some producer => exact .producing producer
    cases hentries with
    | unnamed => exact hnew rfl rfl
    | producing producer => exact .producing producer
    | closed => exact hnew rfl rfl
    | stuck => exact .stuck

theorem VideoInv.step {start : Media} {e : VideoEvent} (hinv : VideoInv start m h)
    (hstep : m.videoStep e = .ok m') : VideoInv start m' (h.after start.CanSend e) := by
  cases e with
  | enableVideo enabled trackName call =>
    have hrun : m.tryEnableVideo enabled trackName call = .ok m' := hstep
    rw [TrackHistory.after]
    by_cases hsend : m.CanSend
    · obtain ⟨produced, hcall, hsets⟩ := tryEnableVideo_sets hsend hrun
      rw [if_pos (hinv.canSend.mp hsend)]
      refine ⟨fun other => ?_, hsets.keeps.canSend.trans hinv.canSend, ?_, ?_⟩
      · by_cases he : other = trackName
        · rw [he, Function.update_self, hsets.self]
          exact entries_after (hinv.entries trackName) hsend hcall
        · rw [Function.update_of_ne he, hsets.other other he]
          exact hinv.entries other
      · rw [hsets.rest.2.1]
        exact hinv.consumers
      · rw [hsets.rest.2.2]
        exact hinv.dataConsumers
    · rw [tryEnableVideo_blocked hsend, Except.ok.injEq] at hrun
      rw [if_neg fun hs => hsend (hinv.canSend.mpr hs), ← hrun]
      exact hinv
  | inputFrame trackName =>
    cases hstep
    refine ⟨fun other => ?_, hinv.canSend, hinv.consumers, hinv.dataConsumers⟩
    rw [inputFrame_videoAt]
    exact hinv.entries other
  | destroy =>
    have hrun := destroy_ok (withController_ok hstep)
    simp only [videoStep, withController, bind_ok, pure, Except.pure, Except.ok.injEq] at hstep
    obtain ⟨mc, -, rfl⟩ := hstep
    obtain rfl : mc = m.controller.destroyed := hrun
    refine ⟨fun trackName => ?_, hinv.canSend, ?_, ?_⟩
    · rw [destroyed_videoAt]
      have hentries := hinv.entries trackName
      show TrackStatus.Entries ((h trackName).map fun _ => .closed) _
      generalize h trackName = status at hentries
      generalize m.videoAt trackName = entries at hentries
      cases hentries with
      | unnamed => exact .unnamed
      | producing producer => exact .closed
      | closed => exact .closed
      | stuck => exact .closed
    · simp [MediaController.destroyed]
    · simp [MediaController.destroyed]

theorem VideoInv.run {start : Media} {run : List VideoEvent} (hinv : VideoInv start m h)
    (hrun : exec videoStep m run = .ok m') :
    VideoInv start m' (run.foldl (TrackHistory.after start.CanSend) h) := by
  induction run generalizing m h with
  | nil =>
    cases hrun
    exact hinv
  | cons e run ih =>
    obtain ⟨m₁, hstep, hrun⟩ := exec_cons_ok.mp hrun
    exact ih (hinv.step hstep) hrun

/-- The call closes each producer that was made and not closed since, once, and leaves none. -/
def Destroys (h : TrackHistory) (m : Media) : Prop :=
  ∃ closed mc, m.controller.destroyClosing = .ok (closed, mc) ∧
    (closed.map Prod.fst).Nodup ∧
    (∀ slot producer, (slot, producer) ∈ closed ↔
      m.controller.producerIn slot = some producer) ∧
    (∀ trackName, some trackName ∈ closed.map Prod.fst ↔ h trackName = some .producing) ∧
    ∀ slot, mc.producerIn slot = none

theorem destroyed_producerIn (mc : MediaController) (slot : Option String) :
    mc.destroyed.producerIn slot = none := by
  cases slot with
  | none => rfl
  | some trackName =>
    simp only [MediaController.producerIn, MediaController.destroyed, HashMap.lookup_mapValues]
    cases AList.lookup trackName mc.producerMap <;> rfl

/-- The names with a producer are those that the history leaves with one. -/
theorem VideoInv.producerIn_isSome_iff {start : Media} (hinv : VideoInv start m h)
    (trackName : String) :
    (m.controller.producerIn (some trackName)).isSome ↔ h trackName = some .producing := by
  have hentries := hinv.entries trackName
  have hp : m.controller.producerIn (some trackName) = (m.videoAt trackName).1.join := rfl
  rw [hp]
  generalize h trackName = status at hentries
  generalize m.videoAt trackName = entries at hentries
  cases hentries with
  | unnamed => simp
  | producing producer => simp
  | closed => simp
  | stuck => simp

/-- A null entry is that of a name that was switched and has no producer. -/
theorem VideoInv.allProducing_iff {start : Media} (hinv : VideoInv start m h) :
    h.AllProducing ↔ ∀ e ∈ m.controller.producerMap.entries, e.2.isSome := by
  have hnull (trackName : String) : m.controller.producerMap.lookup trackName = some none ↔
      ∃ status, h trackName = some status ∧ status ≠ .producing := by
    have hentries := hinv.entries trackName
    have hp : m.controller.producerMap.lookup trackName = (m.videoAt trackName).1 := rfl
    rw [hp]
    generalize h trackName = status at hentries
    generalize m.videoAt trackName = entries at hentries
    cases hentries with
    | unnamed => simp
    | producing producer => simp
    | closed => simp
    | stuck => simp
  constructor
  · intro hall e he
    rw [Option.isSome_iff_ne_none]
    intro hnone
    have hl := AList.mem_lookup_iff.mpr he
    rw [hnone] at hl
    obtain ⟨status, hstatus, hne⟩ := (hnull e.1).mp hl
    exact hne (hall e.1 status hstatus)
  · intro hsome trackName status hstatus
    by_contra hne
    have hl := (hnull trackName).mpr ⟨status, hstatus, hne⟩
    have he := hsome ⟨trackName, none⟩ (AList.mem_lookup_iff.mp hl)
    cases he

/-- `destroy` follows no null producer exactly when every name that was switched has one. -/
theorem VideoInv.destroys_iff {start : Media} (hinv : VideoInv start m h) :
    Destroys h m ↔ h.AllProducing := by
  rw [hinv.allProducing_iff]
  constructor
  · rintro ⟨closed, mc, hrun, -⟩
    simp only [MediaController.destroyClosing, bind_ok] at hrun
    obtain ⟨producers, hclosing, -⟩ := hrun
    exact MediaController.closing_engaged hclosing
  · intro hsome
    have hdata := MediaController.closeAll_ok (p := .dataConsumer) hinv.dataConsumers
    have hconsumers := MediaController.closeAll_ok (p := .consumer) hinv.consumers
    obtain ⟨producers, hclosing⟩ := MediaController.closing_total (p := .producer) hsome
    have hmem (trackName : String) (producer : Producer) : (trackName, producer) ∈ producers ↔
        m.controller.producerIn (some trackName) = some producer := by
      rw [MediaController.mem_closing_iff hclosing, MediaController.producerIn,
        Option.join_eq_some_iff]
    have hfst : (m.controller.micProducer.toList.map (fun producer => (none, producer)) ++
        producers.map (fun e : String × Producer => (some e.1, e.2))).map Prod.fst =
          m.controller.micProducer.toList.map (fun _ => none) ++ producers.map (some ·.1) := by
      rw [List.map_append, List.map_map, List.map_map]
      rfl
    have hrun : m.controller.destroyClosing =
        .ok (m.controller.micProducer.toList.map (fun producer => (none, producer)) ++
          producers.map (fun e => (some e.1, e.2)), m.controller.destroyed) := by
      simp only [MediaController.destroyClosing, hclosing, hdata, hconsumers, bind, Except.bind]
      rfl
    refine ⟨_, _, hrun, ?_, ?_, ?_, destroyed_producerIn m.controller⟩
    · rw [hfst, List.nodup_append]
      refine ⟨?_, ?_, ?_⟩
      · cases m.controller.micProducer <;> simp
      · have hnodup : (producers.map Prod.fst).Nodup := by
          rw [MediaController.closing_keys hclosing]
          exact m.controller.producerMap.nodupKeys
        have hsomes := hnodup.map (Option.some_injective String)
        rw [List.map_map] at hsomes
        exact hsomes
      · intro slot hslot slot' hslot' he
        obtain ⟨-, -, hnone⟩ := List.mem_map.mp hslot
        obtain ⟨e, -, hsome⟩ := List.mem_map.mp hslot'
        rw [← hnone, ← hsome] at he
        cases he
    · intro slot producer
      cases slot with
      | none => simp [MediaController.producerIn]
      | some trackName => simp [hmem]
    · intro trackName
      rw [← hinv.producerIn_isSome_iff, hfst, Option.isSome_iff_exists]
      simp [← hmem]

/-- For every sequence of calls: each `destroy` closes the producers that are open, each once, and
follows no null pointer, exactly when the calls before it left every name that was switched with
a producer. -/
theorem destroy_iff (hm : NoVideo m) (run : List VideoEvent) :
    (∀ pre t, pre ++ [.destroy] <+: run → exec videoStep m pre = .ok t →
      Destroys (m.history pre) t) ↔
    ∀ pre t, pre ++ [.destroy] <+: run → exec videoStep m pre = .ok t →
      (m.history pre).AllProducing :=
  forall₄_congr fun _ _ _ hrun => (hm.inv.run hrun).destroys_iff

section Runs

def sendingMedia : Media :=
  { controller := {
      options := {}
      mediasoupDevice := some ⟨"", "", true, true⟩
      sendTransport := some ⟨"s"⟩ } }

/-- The SFU answers a produce request with an id. -/
def madeProducer : ProduceCall :=
  .exchanged (.replied true ⟨0, "", some ⟨some true, some ⟨some "p1"⟩⟩⟩)

theorem sendingMedia_noVideo : NoVideo sendingMedia :=
  ⟨rfl, rfl, by simp [sendingMedia], by simp [sendingMedia]⟩

theorem enabled_track_destroyed : NoVideo sendingMedia ∧
    ∀ pre t, pre ++ [.destroy] <+: [.enableVideo true "cam" madeProducer, .destroy] →
      exec videoStep sendingMedia pre = .ok t → Destroys (sendingMedia.history pre) t := by
  refine ⟨sendingMedia_noVideo, (destroy_iff sendingMedia_noVideo _).mpr ?_⟩
  rintro pre t hpre - trackName status hstatus
  have hlen : pre.length + 1 ≤ 2 := by simpa using hpre.length_le
  rcases pre with _ | ⟨e, _ | ⟨e', pre⟩⟩
  · cases hstatus
  · obtain ⟨rfl, -⟩ := List.cons_prefix_cons.mp hpre
    have hcam : history sendingMedia [.enableVideo true "cam" madeProducer] =
        Function.update (fun _ => none) "cam" (some .producing) := rfl
    rw [hcam] at hstatus
    by_cases he : trackName = "cam"
    · rw [he, Function.update_self, Option.some.injEq] at hstatus
      exact hstatus.symm
    · rw [Function.update_of_ne he] at hstatus
      cases hstatus
  · simp only [List.length_cons] at hlen
    omega

theorem not_destroys {fault : Fault} (hfault : m.controller.destroy = .error fault) :
    ¬ Destroys h m := by
  rintro ⟨closed, mc, hrun, -⟩
  rw [← MediaController.destroyClosing_map, hrun] at hfault
  cases hfault

/-- A camera that is switched off without having been on, and a second `destroy` after a session
with a camera. -/
theorem null_producers_followed : NoVideo sendingMedia ∧
    (∃ t, exec videoStep sendingMedia [.enableVideo false "cam" .threw] = .ok t ∧
      t.controller.destroy = .error (.nullPointer .producer) ∧
      ¬ Destroys (sendingMedia.history [.enableVideo false "cam" .threw]) t) ∧
    ∃ t, exec videoStep sendingMedia [.enableVideo true "cam" madeProducer, .destroy] = .ok t ∧
      t.controller.destroy = .error (.nullPointer .producer) ∧
      ¬ Destroys (sendingMedia.history [.enableVideo true "cam" madeProducer, .destroy]) t :=
  ⟨sendingMedia_noVideo, ⟨_, rfl, rfl, not_destroys rfl⟩, _, rfl, rfl, not_destroys rfl⟩

end Runs

end Media
end MediasoupSdk
