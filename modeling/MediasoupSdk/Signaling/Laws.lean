import MediasoupSdk.Json.Accessors
import MediasoupSdk.Json.Image
import MediasoupSdk.Json.Spelling
import MediasoupSdk.Signaling.Catalogue

/-! What the mapping engine does with the structs of the signaling models: which values survive
a document, and which documents are read into which values. -/
namespace MediasoupSdk
namespace Signaling
namespace Catalogue

/-- What the laws of the mapping engine ask of a struct. -/
theorem structs_checked : ∀ d ∈ structs, d.WellMapped ∧ d.fields.Distinct ∧
    (d.fields.mapped ≠ [] ∧ d.fields.Populated) ∧ d.fields.mapless := by decide +kernel

theorem distinct {d : Declaration} (hd : d ∈ structs) : d.fields.Distinct :=
  (structs_checked d hd).2.1

theorem populated {d : Declaration} (hd : d ∈ structs) :
    d.fields.mapped ≠ [] ∧ d.fields.Populated :=
  (structs_checked d hd).2.2.1

set_option maxRecDepth 20000 in
/-- The macros leave out two members. -/
theorem flatMap_leftOut :
    structs.flatMap Declaration.leftOut = [int "apt", int64 "rtpRecvBitrate"] := rfl

theorem noHiddenDefault (id : RequestId) {d : Declaration} (hd : d ∈ structs) :
    d.fields.NoHiddenDefault (d.initial id) := by
  apply Declaration.noHiddenDefault
  intro m hm
  have hmem : m ∈ structs.flatMap Declaration.leftOut := List.mem_flatMap.mpr ⟨d, hd, hm⟩
  rw [flatMap_leftOut] at hmem
  rcases List.mem_cons.mp hmem with rfl | hmem
  · rfl
  · rw [List.mem_singleton.mp hmem]

/-- A new object reads a value back from its document exactly when no member is engaged that a
`FIELDS_MAP` leaves out. -/
theorem structs_jdeserialize_jserialize (id : RequestId) :
    structs.flatMap Declaration.leftOut = [int "apt", int64 "rtpRecvBitrate"] ∧
      JoinRequest.Parameters.leftOut = [int "apt"] ∧
      GetTransportStatsResponse.Data.leftOut = [int64 "rtpRecvBitrate"] ∧
      ∀ d ∈ structs, d.WellMapped ∧ ∀ v : d.fields.Val, d.fields.NulFree v →
        d.fields.DefaultsEngaged (d.initial id) v →
        (d.fields.jdeserialize (d.initial id) (d.fields.jserialize v) = .ok v ↔
          d.fields.Lossless v) := by
  refine ⟨flatMap_leftOut, rfl, rfl, fun d hd => ⟨(structs_checked d hd).1, ?_⟩⟩
  intro v hnul hengaged
  exact Fields.jdeserialize_jserialize_iff (distinct hd) (noHiddenDefault id hd) hengaged hnul

/-- The strings that come back from a document and from its text: a field, an element or a map
value without NUL, and every key of a map. What a model gives back is laid over its new object. -/
theorem structs_strings_iff (id : RequestId) {d : Declaration} (hd : d ∈ structs) (R : Rapidjson)
    (write : Json → String) (v : d.fields.Val)
    (hescaped : '\x00' ∉ (write (d.fields.jserialize v)).toList)
    (hparse : R.parse (write (d.fields.jserialize v)) = some (d.fields.jserialize v)) :
    (∀ (t : Native) (name : String) (w : t.Val),
        JsonValueAdapter t name (JsonValueAdapter.set t w) = .ok w ↔ t.NulFree w) ∧
      (d.fields.jdeserialize (d.initial id) (d.fields.jserialize v) =
          .ok (d.fields.overlay (d.initial id) v) ↔ d.fields.NulFree v) ∧
      (fromJsonString R d.fields (d.initial id) (toJsonStr write d.fields v) =
          .ok (d.fields.overlay (d.initial id) v) ↔ d.fields.NulFree v) ∧
      (∀ (t : Native) (name : String) (m : Foundation.OrderedMap String t.Val),
        ∃ m', JsonValueAdapter (.map t) name (JsonValueAdapter.set (.map t) m) = .ok m' ∧
          m'.keys = m.keys) ∧
      ∀ (name : String) (m : Foundation.OrderedMap String d.fields.Val),
        ∃ m', (FieldType.map d.fields).backward name ((FieldType.map d.fields).forward m) =
          .ok m' ∧ m'.keys = m.keys := by
  have hdocument : d.fields.jdeserialize (d.initial id) (d.fields.jserialize v) =
      .ok (d.fields.overlay (d.initial id) v) ↔ d.fields.NulFree v := by
    rw [Fields.jserialize, Fields.jdeserialize_members d.fields (distinct hd), Except.ok.injEq,
      Fields.overlay_cut_eq_iff]
  refine ⟨?_, hdocument, ?_, JsonValueAdapter_keys,
    FieldType.backward_keys (distinct hd)⟩
  · intro t name w
    rw [JsonValueAdapter_set, Except.ok.injEq, Native.cut_eq_self_iff]
  · rw [fromJsonString_toJsonStr hescaped hparse]
    exact hdocument

/-- The data of a notification that a peer has left. -/
def leftPeer (peerId : String) : PeerClosedNotification.Data.fields.Val := (some peerId, ())

theorem peerClosedData_mem : PeerClosedNotification.Data ∈ structs := by simp [structs]

def leftPeerText : String := "\x7b\n    \"peerId\": \"p\"\n\x7d"

theorem leftPeer_comes_back :
    fromJsonString (MediasoupApi.reader leftPeerText
        (PeerClosedNotification.Data.fields.jserialize (leftPeer "p")))
      PeerClosedNotification.Data.fields (PeerClosedNotification.Data.initial MediasoupApi.seventh)
      (toJsonStr (fun _ => leftPeerText) PeerClosedNotification.Data.fields (leftPeer "p")) =
        .ok (leftPeer "p") := by
  have hstrings := structs_strings_iff MediasoupApi.seventh peerClosedData_mem
    (MediasoupApi.reader leftPeerText
      (PeerClosedNotification.Data.fields.jserialize (leftPeer "p")))
    (fun _ => leftPeerText) (leftPeer "p") (by decide) (by simp [MediasoupApi.reader])
  apply hstrings.2.2.1.mpr
  change Signaling.PeerClosedNotification.DataFields.NulFree (leftPeer "p")
  simp [Fields.NulFree, FieldType.NulFree, Native.NulFree, leftPeer]

/-- An id with a NUL comes back without what follows it. -/
theorem peerId_cut :
    JsonValueAdapter .string "peerId" (JsonValueAdapter.set .string "p\x00q") ≠ .ok "p\x00q" ∧
      PeerClosedNotification.Data.fields.jdeserialize
        (PeerClosedNotification.Data.initial MediasoupApi.seventh)
        (PeerClosedNotification.Data.fields.jserialize (leftPeer "p\x00q")) ≠
          .ok (leftPeer "p\x00q") := by
  have hcut : cStr "p\x00q" ≠ "p\x00q" := by decide
  constructor
  · rw [JsonValueAdapter_set]
    exact fun h => hcut (Except.ok.inj h)
  · change Except.ok (leftPeer (cStr "p\x00q")) ≠ Except.ok (leftPeer "p\x00q")
    intro h
    have hid := congrArg Prod.fst (Except.ok.inj h)
    exact hcut (Option.some.inj hid)

theorem joinParameters_mem : JoinRequest.Parameters ∈ structs := by simp [structs]

theorem joinCapabilities_mem : JoinRequest.RTPCapabilities ∈ structs := by simp [structs]

/-- The parameters of a codec in the join request, with the member that the macro leaves out. -/
def codecParameters (profile : Option String) (apt : Option (IntN 32)) :
    Signaling.JoinRequest.Parameters.Val :=
  ((Json.int 1).getInt 32, (Json.int 1).getInt 32, profile, none, none, none, none, apt, ())

/-- The capabilities of a device with an H264 codec and a header extension. -/
def deviceCapabilities : Signaling.JoinRequest.RTPCapabilities.Val :=
  (some [(some "video", some "video/H264", (Json.int 90000).getInt 32, none,
      some [(some "nack", some "pli", ()), (some "goog-remb", some "", ())],
      some (codecParameters (some "42e01f") none), (Json.int 107).getInt 32, ())],
    some [(some "video", some "urn:ietf:params:rtp-hdrext:sdes:mid", (Json.int 4).getInt 32,
      some false, some "sendrecv", ())], ())

theorem deviceCapabilities_nulFree :
    JoinRequest.RTPCapabilities.fields.NulFree deviceCapabilities := by
  change Signaling.JoinRequest.RTPCapabilities.NulFree deviceCapabilities
  simp [Fields.NulFree, FieldType.NulFree, Native.NulFree, deviceCapabilities, codecParameters,
    -Prod.forall]

theorem deviceCapabilities_lossless :
    JoinRequest.RTPCapabilities.fields.Lossless deviceCapabilities := by
  change Signaling.JoinRequest.RTPCapabilities.Lossless deviceCapabilities
  simp [Fields.Lossless, FieldType.Lossless, deviceCapabilities, codecParameters, -Prod.forall]

theorem deviceCapabilities_jdeserialize :
    JoinRequest.RTPCapabilities.fields.jdeserialize
        (JoinRequest.RTPCapabilities.initial MediasoupApi.seventh)
        (JoinRequest.RTPCapabilities.fields.jserialize deviceCapabilities) =
      .ok deviceCapabilities := by
  have h := ((structs_jdeserialize_jserialize MediasoupApi.seventh).2.2.2 _
    joinCapabilities_mem).2 deviceCapabilities deviceCapabilities_nulFree
    ⟨fun _ => rfl, fun _ => rfl, trivial⟩
  exact h.mpr deviceCapabilities_lossless

section Sample

variable (id : RequestId) (profile : Option String) (apt : Option (IntN 32))

theorem codecParameters_nulFree (h : ∀ s ∈ profile, '\x00' ∉ s.toList) :
    JoinRequest.Parameters.fields.NulFree (codecParameters profile apt) := by
  change Signaling.JoinRequest.Parameters.NulFree (codecParameters profile apt)
  simpa [Fields.NulFree, FieldType.NulFree, Native.NulFree, codecParameters] using h

theorem codecParameters_defaultsEngaged :
    JoinRequest.Parameters.fields.DefaultsEngaged (JoinRequest.Parameters.initial id)
      (codecParameters profile apt) := by
  change Signaling.JoinRequest.Parameters.DefaultsEngaged
    (none, none, none, none, none, none, none, none, ()) (codecParameters profile apt)
  simp [Fields.DefaultsEngaged, codecParameters]

end Sample

theorem apt_lost :
    JoinRequest.Parameters ∈ structs ∧ JoinRequest.Parameters.leftOut = [int "apt"] ∧
      ∃ v : JoinRequest.Parameters.fields.Val, JoinRequest.Parameters.fields.NulFree v ∧
        JoinRequest.Parameters.fields.DefaultsEngaged
          (JoinRequest.Parameters.initial MediasoupApi.seventh) v ∧
        JoinRequest.Parameters.fields.jdeserialize
            (JoinRequest.Parameters.initial MediasoupApi.seventh)
            (JoinRequest.Parameters.fields.jserialize v) ≠ .ok v := by
  refine ⟨joinParameters_mem, rfl, codecParameters none ((Json.int 96).getInt 32),
    codecParameters_nulFree _ _ (by simp), codecParameters_defaultsEngaged _ _ _, ?_⟩
  change Except.ok (codecParameters none none) ≠
    Except.ok (codecParameters none ((Json.int 96).getInt 32))
  simp [codecParameters, Json.getInt]

/-- The decoder of a struct: what it rejects, with which exception, what it returns, on what the
outcome depends, and that no accessor is applied to a value of the wrong kind. -/
theorem structs_decode (id : RequestId) {d : Declaration} (hd : d ∈ structs) (j : Json) :
    ((∃ e, d.fields.jdeserialize (d.initial id) j = .error e) ↔
        (∀ members, j ≠ .object members) ∨ ∃ members, j = .object members ∧
          ∃ e ∈ d.fields.mapped, ∃ member, members.lookup e.1 = some member ∧
            member ≠ .null ∧ ¬ e.2.Decodable member) ∧
      (∀ e, d.fields.jdeserialize (d.initial id) j = .error e → e.IsMismatch) ∧
      (∀ members v, j = .object members →
        (d.fields.jdeserialize (d.initial id) j = .ok v ↔
          d.fields.Reads (d.initial id) members v)) ∧
      (∀ members members', j = .object members → d.fields.Agree members members' →
        d.fields.jdeserialize (d.initial id) j =
          d.fields.jdeserialize (d.initial id) (.object members')) ∧
      completed (d.fields.decode (d.initial id) j) =
        lifted (d.fields.jdeserialize (d.initial id) j) ∧
      ∀ (R : Rapidjson) (data : String), ∃ value error,
        decodeText R d.fields (d.initial id) data = .ok (value, error) ∧
          ∀ v, fromJsonString R d.fields (d.initial id) data = .ok v ↔
            error = none ∧ value = v := by
  obtain ⟨hmaps, hpopulated⟩ := populated hd
  refine ⟨Fields.jdeserialize_fails_iff hmaps hpopulated,
    fun e => Fields.jdeserialize_error d.fields (d.initial id) j e, ?_, ?_,
    Fields.decode_eq d.fields (d.initial id) j, fun R data => decodeText_returns R _ _ data⟩
  · rintro members v rfl
    exact Fields.jdeserialize_ok d.fields hpopulated (d.initial id) members v
  · rintro members members' rfl hagree
    exact Fields.jdeserialize_congr d.fields (d.initial id) members members' hagree

/-- A number where the struct has a string. -/
theorem peerClosedData_decode :
    ∃ e, PeerClosedNotification.Data.fields.jdeserialize
      (PeerClosedNotification.Data.initial MediasoupApi.seventh)
      (.object [("peerId", .int 5), ("peerId", .string "p")]) = .error e := by
  apply (structs_decode MediasoupApi.seventh peerClosedData_mem _).1.mpr
  exact Or.inr ⟨_, rfl, ("peerId", .string), List.mem_singleton.mpr rfl, .int 5, rfl,
    Json.noConfusion, id⟩

/-- Two spellings of one document are decoded alike exactly if the struct cannot hold its values,
or both or neither are written as the fields read them with no number too big, and the parser
takes the floats and doubles of both to the same values. -/
theorem structs_decodedAlike_iff (id : RequestId) {d : Declaration} (hd : d ∈ structs)
    {doc doc' : Document} (h : doc.Respelled doc') :
    (d.fields.DecodedAlike (d.initial id) doc doc' ↔
        ((FieldType.model d.fields).Admits doc →
          (doc.InRange ∧ (FieldType.model d.fields).Spelled doc ↔
              doc'.InRange ∧ (FieldType.model d.fields).Spelled doc') ∧
            (doc.InRange ∧ (FieldType.model d.fields).Spelled doc →
              (FieldType.model d.fields).ReadAlike doc doc'))) ∧
      ∀ (t : Native) (name : String) (member : Document) (j : Json), member.parse = some j →
        (FieldType.native t).Admits member →
        ((∃ v, JsonValueAdapter t name j = .ok v) ↔ (FieldType.native t).Spelled member) := by
  obtain ⟨hmaps, hpopulated⟩ := populated hd
  constructor
  · exact Fields.decodedAlike_iff hmaps hpopulated (structs_checked d hd).2.2.2 h
  · intro t name member j hj hadmits
    rw [JsonValueAdapter_exists_ok hj, and_iff_right hadmits]

theorem encoding_mem : ProduceRequest.Encoding ∈ structs := by simp [structs]

/-- The encoding of a layer that is sent at the given scale, with a number that no field reads. -/
def scaledLayer (priority scale : NumberText) : Document :=
  .object [("networkPriority", .number priority), ("scaleResolutionDownBy", .number scale)]

def digit (n : ℕ) : Fin 10 := ⟨n % 10, by omega⟩

/-- The digit `n + 1`. -/
def leading (n : ℕ) : Fin 10 := Fin.succ ⟨n % 9, by omega⟩

theorem leading_ne_zero (n : ℕ) (rest : List (Fin 10)) : leading n = 0 → rest = [] :=
  fun h => absurd h (Fin.succ_ne_zero _)

/-- The text of a number that begins with the digit `n + 1`. -/
def unsigned (n : ℕ) (rest frac : List (Fin 10)) (exp : Option ExponentText) : NumberText :=
  ⟨false, leading n, rest, frac, exp, leading_ne_zero n rest⟩

/-- The texts `1`, `1.0`, `2.5` and `25e-1`. -/
def plainOne : NumberText := unsigned 0 [] [] none
def pointOne : NumberText := unsigned 0 [] [digit 0] none
def pointScale : NumberText := unsigned 1 [] [digit 5] none
def exponentScale : NumberText := unsigned 1 [digit 5] [] (some ⟨true, digit 1, []⟩)

theorem scaledLayer_spelled (priority : NumberText) {scale : NumberText} (h : ¬ scale.IsInteger) :
    (FieldType.model ProduceRequest.Encoding.fields).Spelled (scaledLayer priority scale) := by
  change Fields.Every Native.Spelled True Signaling.ProduceRequest.Encoding _
  simp [Fields.Every, FieldType.Every, Native.Every, Native.Spelled, List.lookup_cons,
    List.lookup_nil, h]

theorem scaledLayer_readAlike (priority priority' : NumberText) {scale scale' : NumberText}
    (h : scale.Short) (h' : scale'.Short) (heq : scale.value = scale'.value) :
    (FieldType.model ProduceRequest.Encoding.fields).ReadAlike (scaledLayer priority scale)
      (scaledLayer priority' scale') := by
  change Fields.ReadAlike Signaling.ProduceRequest.Encoding _ _
  simp only [Fields.ReadAlike, FieldType.ReadAlike, List.lookup_cons, List.lookup_nil]
  simp [Native.ReadAlike]
  exact fun x x' hx hx' => (h.same h' heq hx hx').convert

theorem scaledLayer_decodedAlike :
    ProduceRequest.Encoding.fields.DecodedAlike
      (ProduceRequest.Encoding.initial MediasoupApi.seventh)
      (scaledLayer plainOne pointScale) (scaledLayer pointOne exponentScale) := by
  apply (structs_decodedAlike_iff MediasoupApi.seventh encoding_mem ?_).1.mpr
  · intro _
    constructor
    · exact iff_of_true ⟨by decide +kernel, scaledLayer_spelled _ (by decide +kernel)⟩
        ⟨by decide +kernel, scaledLayer_spelled _ (by decide +kernel)⟩
    · intro _
      exact scaledLayer_readAlike _ _ (by decide +kernel) (by decide +kernel) (by decide +kernel)
  · have hpriority : plainOne.value = pointOne.value := by decide +kernel
    have hscale : pointScale.value = exponentScale.value := by decide +kernel
    exact .object rfl (.cons (.number hpriority) (.cons (.number hscale) .nil))

theorem producerStatsData_mem : GetProducerStatsResponse.Data ∈ structs := by simp [structs]

/-- The texts `12` and `12.0`. -/
def plainTwelve : NumberText := unsigned 0 [digit 2] [] none
def pointTwelve : NumberText := unsigned 0 [digit 2] [digit 0] none

def roundTrip (n : NumberText) : Document := .object [("roundTripTime", .number n)]

theorem roundTrip_parse {n : NumberText} {j : Json} (h : n.ParseNumber = some j) :
    (roundTrip n).parse = some (.object [("roundTripTime", j)]) := by
  simp [roundTrip, Document.parse, Document.parseMembers, h]

/-- A round trip of twelve milliseconds, as a server that prints no fraction writes it. -/
theorem roundTripTime_rejected :
    GetProducerStatsResponse.Data ∈ structs ∧ ∃ doc doc' : Document, doc.Respelled doc' ∧
      ¬ GetProducerStatsResponse.Data.fields.DecodedAlike
        (GetProducerStatsResponse.Data.initial MediasoupApi.seventh) doc doc' := by
  refine ⟨producerStatsData_mem, roundTrip plainTwelve, roundTrip pointTwelve, ?_, ?_⟩
  · have htwelve : plainTwelve.value = pointTwelve.value := by decide +kernel
    exact .object rfl (.cons (.number htwelve) .nil)
  · rintro ⟨haccepted, -⟩
    simp only [Fields.decodeDocument_ok] at haccepted
    have hpoint := NumberText.ParseNumber_short (n := pointTwelve) (by decide +kernel)
      (by decide +kernel)
    obtain ⟨v, j, hj, hv⟩ := haccepted.mpr ⟨_, _, roundTrip_parse hpoint, rfl⟩
    cases (roundTrip_parse (j := .int 12) rfl).symm.trans hj
    cases hv

/-- What a default holds is written and read back as it is. -/
def KeptDefault (id : RequestId) (m : Member) : Prop :=
  ∀ v ∈ m.initial id, m.type.NulFree v ∧ m.type.Lossless v

/-- The default of a member that is a string. -/
def defaultString (id : RequestId) : Member → Option String
  | ⟨_, .native .string, initial⟩ => initial id
  | _ => none

/-- A member that is neither a string, a flag nor an id has a default. -/
def otherDefault (id : RequestId) : Member → Bool
  | ⟨_, .native .string, _⟩ | ⟨_, .native .bool, _⟩ | ⟨_, .native .int64, _⟩ => false
  | ⟨_, _, initial⟩ => (initial id).isSome

theorem keptDefault_of {id : RequestId} {m : Member}
    (hstring : ∀ s ∈ defaultString id m, '\x00' ∉ s.toList) (hother : otherDefault id m = false) :
    KeptDefault id m := by
  obtain ⟨name, type, initial⟩ := m
  intro v hv
  have hinitial : initial id = some v := hv
  cases type with
  | native t =>
    cases t with
    | string => exact ⟨hstring v hv, trivial⟩
    | bool => exact ⟨trivial, trivial⟩
    | int64 => exact ⟨trivial, trivial⟩
    | _ =>
      have hnone : (initial id).isSome = false := hother
      rw [hinitial] at hnone
      cases hnone
  | _ =>
    have hnone : (initial id).isSome = false := hother
    rw [hinitial] at hnone
    cases hnone

set_option maxRecDepth 20000 in
theorem filter_otherDefault (id : RequestId) :
    (structs.flatMap Declaration.members).filter (otherDefault id) = [] := rfl

set_option maxRecDepth 20000 in
theorem filterMap_defaultString (id : RequestId) :
    (structs.flatMap Declaration.members).filterMap (defaultString id) =
      (structs.flatMap Declaration.members).filterMap (defaultString MediasoupApi.seventh) := rfl

theorem defaultString_nulFree : ∀ s ∈ (structs.flatMap Declaration.members).filterMap
    (defaultString MediasoupApi.seventh), '\x00' ∉ s.toList := by decide +kernel

theorem keptDefault (id : RequestId) {d : Declaration} (hd : d ∈ structs) {m : Member}
    (hm : m ∈ d.members) : KeptDefault id m := by
  have hmem : m ∈ structs.flatMap Declaration.members := List.mem_flatMap.mpr ⟨d, hd, hm⟩
  apply keptDefault_of
  · intro s hs
    apply defaultString_nulFree
    rw [← filterMap_defaultString id]
    exact List.mem_filterMap.mpr ⟨m, hmem, hs⟩
  · by_contra hother
    have hfilter := List.mem_filter.mpr ⟨hmem, Bool.of_not_eq_false hother⟩
    rw [filter_otherDefault] at hfilter
    cases hfilter

theorem unmappedInitial_nulFree (id : RequestId) : (leftOut : List Member) →
    (Declaration.unmappedFields leftOut).NulFree (Declaration.unmappedInitial id leftOut)
  | [] => trivial
  | _ :: rest => unmappedInitial_nulFree id rest

theorem unmappedInitial_lossless (id : RequestId) : (leftOut : List Member) →
    (Declaration.unmappedFields leftOut).NoHiddenDefault
      (Declaration.unmappedInitial id leftOut) →
    (Declaration.unmappedFields leftOut).Lossless (Declaration.unmappedInitial id leftOut)
  | [], _ => trivial
  | _ :: rest, h => ⟨h.1, unmappedInitial_lossless id rest h.2⟩

/-- A new object is kept, if its defaults are. -/
theorem initialOf_kept (id : RequestId) {leftOut : List Member} :
    (mapped : List (String × Member)) → (∀ e ∈ mapped, KeptDefault id e.2) →
    (Declaration.fieldsOf leftOut mapped).NoHiddenDefault
      (Declaration.initialOf id leftOut mapped) →
    (Declaration.fieldsOf leftOut mapped).NulFree (Declaration.initialOf id leftOut mapped) ∧
      (Declaration.fieldsOf leftOut mapped).Lossless (Declaration.initialOf id leftOut mapped)
  | [], _, hhidden =>
    ⟨unmappedInitial_nulFree id leftOut, unmappedInitial_lossless id leftOut hhidden⟩
  | (_, m) :: rest, h, hhidden => by
    obtain ⟨hm, hrest⟩ := List.forall_mem_cons.mp h
    have ih := initialOf_kept id rest hrest hhidden
    exact ⟨⟨fun v hv => (hm v hv).1, ih.1⟩, fun v hv => (hm v hv).2, ih.2⟩

theorem mapped_mem {d : Declaration} {e : String × Member} (he : e ∈ d.mapped) :
    e.2 ∈ d.members := by
  obtain ⟨entry, -, he⟩ := List.mem_filterMap.mp he
  obtain ⟨m, hm, rfl⟩ := Option.map_eq_some_iff.mp he
  exact List.mem_of_find?_eq_some hm

/-- The values that a struct is read into: no string has a NUL, no member is engaged that a
`FIELDS_MAP` leaves out, and every default is still engaged. Each of them is read back from its own
document, and no two have the same document. -/
theorem structs_normal_form (id : RequestId) {d : Declaration} (hd : d ∈ structs)
    (v : d.fields.Val) :
    ((∃ j, d.fields.jdeserialize (d.initial id) j = .ok v) ↔
        d.fields.NulFree v ∧ d.fields.Lossless v ∧ d.fields.DefaultsEngaged (d.initial id) v) ∧
      ((∃ j, d.fields.jdeserialize (d.initial id) j = .ok v) ↔
        d.fields.jdeserialize (d.initial id) (d.fields.jserialize v) = .ok v) ∧
      ∀ v' : d.fields.Val, (∃ j, d.fields.jdeserialize (d.initial id) j = .ok v) →
        (∃ j, d.fields.jdeserialize (d.initial id) j = .ok v') →
        d.fields.jserialize v = d.fields.jserialize v' → v = v' := by
  obtain ⟨hmaps, hpopulated⟩ := populated hd
  have hhidden := noHiddenDefault id hd
  obtain ⟨hnul, hlossless⟩ := initialOf_kept id d.mapped
    (fun e he => keptDefault id hd (mapped_mem he)) hhidden
  have hdecoded := Fields.decoded_iff hmaps hpopulated (distinct hd) hhidden hnul hlossless
  refine ⟨(hdecoded v).1, (hdecoded v).2, fun v' hv hv' heq => ?_⟩
  have hback := (hdecoded v).2.mp hv
  rw [heq, (hdecoded v').2.mp hv'] at hback
  exact (Except.ok.inj hback).symm

theorem leftPeer_normal_form :
    PeerClosedNotification.Data.fields.jdeserialize
      (PeerClosedNotification.Data.initial MediasoupApi.seventh)
      (PeerClosedNotification.Data.fields.jserialize (leftPeer "p")) = .ok (leftPeer "p") :=
  (structs_normal_form MediasoupApi.seventh peerClosedData_mem (leftPeer "p")).2.1.mp
    ⟨.object [("peerId", .string "p"), ("left", .bool true)], rfl⟩

end Catalogue

end Signaling
end MediasoupSdk
