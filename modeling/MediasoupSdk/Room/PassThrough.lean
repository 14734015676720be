import Mathlib.Data.List.TakeWhile
import MediasoupSdk.Room.System
import MediasoupSdk.Signaling.Requests

/-! What of the media library's RTP objects reaches the SFU: `_onProduce` and `joinImpl` read
them into typed models and write them again. -/
namespace MediasoupSdk
open Foundation Signaling

namespace Rtp

/-- The value of a codec parameter. -/
inductive ParameterValue where
  | int (i : IntN 32)
  | string (s : String)

structure RtcpFeedback where
  type : String
  parameter : String

/-- A codec as `OnProduce` gets it. -/
structure CodecParameters where
  mimeType : String
  payloadType : IntN 32
  clockRate : IntN 32
  channels : Option (IntN 32)
  parameters : HashMap String ParameterValue
  rtcpFeedback : List RtcpFeedback

structure HeaderExtensionParameters where
  uri : String
  id : IntN 32
  encrypt : Bool

/-- `rtx` is the `ssrc` of the member of that name. -/
structure EncodingParameters where
  ssrc : Option (IntN 64)
  rid : Option String
  rtx : Option (IntN 64)
  dtx : Option Bool
  scalabilityMode : Option String

structure RtcpParameters where
  cname : String
  reducedSize : Bool

structure Parameters where
  mid : Option String
  codecs : List CodecParameters
  headerExtensions : List HeaderExtensionParameters
  encodings : List EncodingParameters
  rtcp : RtcpParameters

/-- A codec as `GetRtpCapabilities` returns it. -/
structure CodecCapability where
  kind : String
  mimeType : String
  preferredPayloadType : IntN 32
  clockRate : IntN 32
  channels : Option (IntN 32)
  parameters : HashMap String ParameterValue
  rtcpFeedback : List RtcpFeedback

structure HeaderExtension where
  kind : String
  uri : String
  preferredId : IntN 32
  preferredEncrypt : Bool
  direction : String

structure Capabilities where
  codecs : List CodecCapability
  headerExtensions : List HeaderExtension

/-- A member that may be missing. -/
def optional {α : Type} (key : String) (o : Option α) (f : α → Json) : List (String × Json) :=
  o.toList.map fun v => (key, f v)

def ParameterValue.toJson : ParameterValue → Json
  | .int i => .int i.val
  | .string s => .string s

def parametersMembers (m : HashMap String ParameterValue) : List (String × Json) :=
  m.entries.map fun e => (e.1, e.2.toJson)

def RtcpFeedback.toJson (f : RtcpFeedback) : Json :=
  .object [("parameter", .string f.parameter), ("type", .string f.type)]

def CodecParameters.members (c : CodecParameters) : List (String × Json) :=
  optional "channels" c.channels (fun n => .int n.val) ++
    [("clockRate", .int c.clockRate.val), ("mimeType", .string c.mimeType),
      ("parameters", .object (parametersMembers c.parameters)),
      ("payloadType", .int c.payloadType.val),
      ("rtcpFeedback", .array (c.rtcpFeedback.map RtcpFeedback.toJson))]

def EncodingParameters.members (e : EncodingParameters) : List (String × Json) :=
  optional "dtx" e.dtx .bool ++ optional "rid" e.rid .string ++
    optional "rtx" e.rtx (fun ssrc => .object [("ssrc", .int ssrc.val)]) ++
    optional "scalabilityMode" e.scalabilityMode .string ++
    optional "ssrc" e.ssrc (fun ssrc => .int ssrc.val)

/-- The members of an extension; the library adds `parameters`, an empty object. -/
def HeaderExtensionParameters.members (x : HeaderExtensionParameters) : List (String × Json) :=
  [("encrypt", .bool x.encrypt), ("id", .int x.id.val), ("uri", .string x.uri)]

def RtcpParameters.members (r : RtcpParameters) : List (String × Json) :=
  [("cname", .string r.cname), ("reducedSize", .bool r.reducedSize)]

/-- The document with the given further members in each header extension. -/
def Parameters.document (extra : List (String × Json)) (p : Parameters) : Json :=
  .object (optional "mid" p.mid .string ++
    [("codecs", .array (p.codecs.map fun c => .object c.members)),
      ("encodings", .array (p.encodings.map fun e => .object e.members)),
      ("headerExtensions", .array (p.headerExtensions.map fun x => .object (x.members ++ extra))),
      ("rtcp", .object p.rtcp.members)])

/-- What the library hands to `OnProduce`. -/
def Parameters.toJson (p : Parameters) : Json := p.document [("parameters", .object [])]

/-- The members that the SFU needs. -/
def Parameters.listed (p : Parameters) : Json := p.document []

def CodecCapability.members (c : CodecCapability) : List (String × Json) :=
  optional "channels" c.channels (fun n => .int n.val) ++
    [("clockRate", .int c.clockRate.val), ("kind", .string c.kind),
      ("mimeType", .string c.mimeType),
      ("parameters", .object (parametersMembers c.parameters)),
      ("preferredPayloadType", .int c.preferredPayloadType.val),
      ("rtcpFeedback", .array (c.rtcpFeedback.map RtcpFeedback.toJson))]

def HeaderExtension.members (x : HeaderExtension) : List (String × Json) :=
  [("direction", .string x.direction), ("kind", .string x.kind),
    ("preferredEncrypt", .bool x.preferredEncrypt), ("preferredId", .int x.preferredId.val),
    ("uri", .string x.uri)]

def Capabilities.toJson (c : Capabilities) : Json :=
  .object [("codecs", .array (c.codecs.map fun c => .object c.members)),
    ("headerExtensions", .array (c.headerExtensions.map fun x => .object x.members))]

/-- `GetString` is read up to the first NUL. -/
def NulFree (s : String) : Prop := '\x00' ∉ s.toList

instance (s : String) : Decidable (NulFree s) :=
  inferInstanceAs (Decidable ('\x00' ∉ s.toList))

theorem nulFree_ofList {l : List Char} (h : '\x00' ∉ l) : NulFree (String.ofList l) := by
  rwa [NulFree, String.toList_ofList]

/-- A model with these integer parameters, and with `profile-level-id` as its only text,
carries the parameter. -/
def ParameterValue.Fits (ints : List String) (name : String) : ParameterValue → Prop
  | .int _ => name ∈ ints
  | .string s => name = "profile-level-id" ∧ NulFree s

def produceIntegers : List String :=
  ["apt", "sprop-stereo", "usedtx", "minptime", "useinbandfec", "level-asymmetry-allowed",
    "packetization-mode", "x-google-start-bitrate", "profile-id"]

/-- `apt` is not among them. -/
def joinIntegers : List String :=
  ["level-asymmetry-allowed", "packetization-mode", "x-google-start-bitrate", "minptime",
    "useinbandfec", "profile-id"]

def RtcpFeedback.Carried (f : RtcpFeedback) : Prop := NulFree f.type ∧ NulFree f.parameter

def CodecParameters.Carried (c : CodecParameters) : Prop :=
  NulFree c.mimeType ∧ (∀ f ∈ c.rtcpFeedback, f.Carried) ∧
    ∀ e ∈ c.parameters.entries, e.2.Fits produceIntegers e.1

/-- No model of the produce request has a member for `rtx`. -/
def EncodingParameters.Carried (e : EncodingParameters) : Prop :=
  e.rtx = none ∧ (∀ s ∈ e.rid, NulFree s) ∧ ∀ s ∈ e.scalabilityMode, NulFree s

def Parameters.Carried (p : Parameters) : Prop :=
  (∀ c ∈ p.codecs, c.Carried) ∧ (∀ e ∈ p.encodings, e.Carried) ∧
    (∀ x ∈ p.headerExtensions, NulFree x.uri) ∧ NulFree p.rtcp.cname ∧ ∀ s ∈ p.mid, NulFree s

def CodecCapability.Carried (c : CodecCapability) : Prop :=
  NulFree c.kind ∧ NulFree c.mimeType ∧ (∀ f ∈ c.rtcpFeedback, f.Carried) ∧
    ∀ e ∈ c.parameters.entries, e.2.Fits joinIntegers e.1

def HeaderExtension.Carried (x : HeaderExtension) : Prop :=
  NulFree x.direction ∧ NulFree x.kind ∧ NulFree x.uri

def Capabilities.Carried (c : Capabilities) : Prop :=
  (∀ x ∈ c.codecs, x.Carried) ∧ ∀ x ∈ c.headerExtensions, x.Carried

section Carries
open FieldType

variable {key : String}

theorem forall_optional {α : Type} {name : String} {o : Option α} {f : α → Json}
    {P : String × Json → Prop} :
    (∀ e ∈ optional name o f, P e) ↔ ∀ v ∈ o, P (name, f v) := by
  cases o with
  | none => simp [optional]
  | some v => simp [optional]

/-- The parameters of a codec. -/
theorem parameters_carries_iff {fields : Fields} {ints : List String}
    (hd : (fields.mapped.map Prod.fst).Nodup)
    (hfields : ∀ name t, fields.mapped.lookup name = some t ↔
      (name ∈ ints ∧ t = .int) ∨ (name = "profile-level-id" ∧ t = .string))
    (m : HashMap String ParameterValue) :
    (model fields).Carries key (.object (parametersMembers m)) (.object (parametersMembers m)) ↔
      ∀ e ∈ m.entries, e.2.Fits ints e.1 := by
  have hkeys : ((parametersMembers m).map Prod.fst).Nodup := by
    simpa [parametersMembers, List.NodupKeys, List.keys, Function.comp_def] using m.nodupKeys
  rw [carries_self_iff hd hkeys, parametersMembers, List.forall_mem_map]
  refine forall₂_congr fun e _ => ?_
  cases hv : e.2 with
  | int i =>
    constructor
    · rintro ⟨t, ht, -, hc⟩
      rcases (hfields _ _).mp ht with ⟨hmem, rfl⟩ | ⟨-, rfl⟩
      · exact hmem
      · exact absurd hc not_carries_string_int
    · intro hmem
      exact ⟨.int, (hfields _ _).mpr (Or.inl ⟨hmem, rfl⟩), Json.noConfusion, carries_int i⟩
  | string s =>
    constructor
    · rintro ⟨t, ht, -, hc⟩
      rcases (hfields _ _).mp ht with ⟨-, rfl⟩ | ⟨hname, rfl⟩
      · exact absurd hc not_carries_int_string
      · exact ⟨hname, cStr_eq_self_iff.mp (carries_string_iff.mp hc)⟩
    · rintro ⟨hname, hs⟩
      exact ⟨.string, (hfields _ _).mpr (Or.inr ⟨hname, rfl⟩), Json.noConfusion,
        carries_string_iff.mpr (cStr_eq_self_iff.mpr hs)⟩

theorem string_carries_iff {s : String} :
    FieldType.string.Carries key (.string s) (.string s) ↔ NulFree s :=
  carries_string_iff.trans cStr_eq_self_iff

/-- All request models describe the feedback alike. -/
theorem rtcpFeedback_carries_iff (f : RtcpFeedback) :
    (model ProduceRequest.RTCPFeedback).Carries key f.toJson f.toJson ↔ f.Carried := by
  rw [RtcpFeedback.toJson, carries_self_iff (by decide) (by simp)]
  simp [Fields.mapped, lookup_cons_eq_ite, string_carries_iff, RtcpFeedback.Carried, and_comm]

/-- An array is carried when each of its objects is. -/
theorem vector_carries_iff {α : Type} {fields : Fields} {l : List α} {f g : α → Json}
    {P : α → Prop} (h : ∀ a, (model fields).Carries key (f a) (g a) ↔ P a) :
    (vector fields).Carries key (.array (l.map f)) (.array (l.map g)) ↔ ∀ a ∈ l, P a := by
  rw [carries_vector_iff, List.forall₂_map_left_iff, List.forall₂_map_right_iff,
    List.forall₂_same]
  exact forall₂_congr fun a _ => h a

theorem feedback_carries_iff (fs : List RtcpFeedback) :
    (vector ProduceRequest.RTCPFeedback).Carries key (.array (fs.map RtcpFeedback.toJson))
        (.array (fs.map RtcpFeedback.toJson)) ↔ ∀ f ∈ fs, f.Carried :=
  vector_carries_iff rtcpFeedback_carries_iff

theorem codecParameters_carries_iff (c : CodecParameters) :
    (model ProduceRequest.Codec).Carries key (.object c.members) (.object c.members) ↔
      c.Carried := by
  have hkeys : (c.members.map Prod.fst).Nodup := by
    cases hc : c.channels <;> simp [CodecParameters.members, optional, hc]
  have hparameters : (model ProduceRequest.Parameters).Carries "parameters"
      (.object (parametersMembers c.parameters)) (.object (parametersMembers c.parameters)) ↔
      ∀ e ∈ c.parameters.entries, e.2.Fits produceIntegers e.1 := by
    refine parameters_carries_iff (by decide) (fun name t => ?_) c.parameters
    rw [lookup_eq_some_iff_mem (by decide)]
    simp only [Fields.mapped, produceIntegers, List.mem_cons, Prod.mk.injEq, List.not_mem_nil,
      or_false]
    grind
  rw [carries_self_iff (by decide) hkeys, CodecParameters.members, List.forall_mem_append,
    forall_optional]
  simp only [List.forall_mem_cons]
  simp [Fields.mapped, lookup_cons_eq_ite, carries_int, string_carries_iff, hparameters,
    feedback_carries_iff, CodecParameters.Carried, and_comm]

theorem encodingParameters_carries_iff (e : EncodingParameters) :
    (model ProduceRequest.Encoding).Carries key (.object e.members) (.object e.members) ↔
      e.Carried := by
  have hkeys : (e.members.map Prod.fst).Nodup := by
    cases hd : e.dtx <;> cases hr : e.rid <;> cases hx : e.rtx <;> cases hm : e.scalabilityMode <;>
      cases hs : e.ssrc <;> simp [EncodingParameters.members, optional, hd, hr, hx, hm, hs]
  rw [carries_self_iff (by decide) hkeys, EncodingParameters.members]
  simp only [List.forall_mem_append, forall_optional]
  simp [Fields.mapped, lookup_cons_eq_ite, carries_bool, carries_int64, string_carries_iff,
    EncodingParameters.Carried, Option.eq_none_iff_forall_not_mem]
  tauto

theorem headerExtension_carries_iff (x : HeaderExtensionParameters) :
    (model ProduceRequest.HeaderExtension).Carries key
        (.object (x.members ++ [("parameters", .object [])])) (.object x.members) ↔
      NulFree x.uri := by
  have h := @carries_object_iff ProduceRequest.HeaderExtension key
    [("encrypt", .bool x.encrypt, .bool x.encrypt), ("id", .int x.id.val, .int x.id.val),
      ("uri", .string x.uri, .string x.uri)] [("parameters", .object [])] (by decide) (by simp)
    (by simp [Fields.mapped, lookup_cons_eq_ite])
  simp only [List.forall_mem_cons] at h
  refine h.trans ?_
  simp [Fields.mapped, lookup_cons_eq_ite, carries_bool, carries_int, string_carries_iff]

theorem rtcp_carries_iff (r : RtcpParameters) :
    (model ProduceRequest.Rtcp).Carries key (.object r.members) (.object r.members) ↔
      NulFree r.cname := by
  rw [carries_self_iff (by decide) (by simp [RtcpParameters.members]), RtcpParameters.members]
  simp only [List.forall_mem_cons]
  simp [Fields.mapped, lookup_cons_eq_ite, carries_bool, string_carries_iff]

/-- The document next to its listed members, row by row. -/
def Parameters.rows (p : Parameters) : List (String × Json × Json) :=
  p.mid.toList.map (fun m => ("mid", .string m, .string m)) ++
    [("codecs", .array (p.codecs.map fun c => .object c.members),
        .array (p.codecs.map fun c => .object c.members)),
      ("encodings", .array (p.encodings.map fun e => .object e.members),
        .array (p.encodings.map fun e => .object e.members)),
      ("headerExtensions",
        .array (p.headerExtensions.map fun x => .object (x.members ++ [("parameters", .object [])])),
        .array (p.headerExtensions.map fun x => .object x.members)),
      ("rtcp", .object p.rtcp.members, .object p.rtcp.members)]

/-- The produce request carries the listed members exactly when each field can. -/
theorem parameters_passed_iff (p : Parameters) :
    (model ProduceRequest.RTPParameters).Carries key p.toJson p.listed ↔ p.Carried := by
  have hjson : p.toJson = .object (p.rows.map (fun r => (r.1, r.2.1)) ++ []) := by
    cases hm : p.mid <;>
      simp [Parameters.toJson, Parameters.document, Parameters.rows, optional, hm]
  have hlisted : p.listed = .object (p.rows.map fun r => (r.1, r.2.2)) := by
    cases hm : p.mid <;>
      simp [Parameters.listed, Parameters.document, Parameters.rows, optional, hm]
  have hkeys : (p.rows.map Prod.fst).Nodup := by
    cases hm : p.mid <;> simp [Parameters.rows, hm]
  rw [hjson, hlisted, carries_object_iff (by decide) hkeys (by simp), Parameters.rows,
    List.forall_mem_append, List.forall_mem_map]
  simp only [List.forall_mem_cons]
  simp [Fields.mapped, lookup_cons_eq_ite, string_carries_iff,
    vector_carries_iff codecParameters_carries_iff,
    vector_carries_iff encodingParameters_carries_iff,
    vector_carries_iff headerExtension_carries_iff, rtcp_carries_iff, Parameters.Carried]
  tauto

theorem codecCapability_carries_iff (c : CodecCapability) :
    (model JoinRequest.Codec).Carries key (.object c.members) (.object c.members) ↔
      c.Carried := by
  have hkeys : (c.members.map Prod.fst).Nodup := by
    cases hc : c.channels <;> simp [CodecCapability.members, optional, hc]
  have hparameters : (model JoinRequest.Parameters).Carries "parameters"
      (.object (parametersMembers c.parameters)) (.object (parametersMembers c.parameters)) ↔
      ∀ e ∈ c.parameters.entries, e.2.Fits joinIntegers e.1 := by
    refine parameters_carries_iff (by decide) (fun name t => ?_) c.parameters
    rw [lookup_eq_some_iff_mem (by decide)]
    simp only [Fields.mapped, joinIntegers, List.mem_cons, Prod.mk.injEq, List.not_mem_nil,
      or_false]
    grind
  rw [carries_self_iff (by decide) hkeys, CodecCapability.members, List.forall_mem_append,
    forall_optional]
  simp only [List.forall_mem_cons]
  simp [Fields.mapped, lookup_cons_eq_ite, carries_int, string_carries_iff, hparameters,
    feedback_carries_iff, CodecCapability.Carried]
  tauto

theorem headerExtensionCapability_carries_iff (x : HeaderExtension) :
    (model JoinRequest.HeaderExtension).Carries key (.object x.members) (.object x.members) ↔
      x.Carried := by
  rw [carries_self_iff (by decide) (by simp [HeaderExtension.members]), HeaderExtension.members]
  simp only [List.forall_mem_cons]
  simp [Fields.mapped, lookup_cons_eq_ite, carries_bool, carries_int, string_carries_iff,
    HeaderExtension.Carried]

/-- The join request carries the capabilities exactly when each field can. -/
theorem capabilities_passed_iff (c : Capabilities) :
    (model JoinRequest.RTPCapabilities).Carries key c.toJson c.toJson ↔ c.Carried := by
  rw [Capabilities.toJson, carries_self_iff (by decide) (by simp)]
  simp only [List.forall_mem_cons]
  simp [Fields.mapped, lookup_cons_eq_ite, vector_carries_iff codecCapability_carries_iff,
    vector_carries_iff headerExtensionCapability_carries_iff, Capabilities.Carried]

end Carries

end Rtp

namespace RoomClient

variable (J : JsonText)

/-- The request that `_onProduce` builds, when the parameters decode. -/
def produceRequest (transportId kind rtpParameters : String) (trackName : Option String) :
    Option ApiRequest :=
  (readCapabilities J ProduceRequest.RTPParameters rtpParameters).map fun rtp =>
    .produce transportId kind rtp trackName

theorem listen_onProduce {transportId kind rtpParameters : String} {trackName : Option String}
    {o : Oracle} {c : RoomClient} (h : c.hasApi = true) :
    c.listen J (.onProduce transportId kind rtpParameters trackName) o =
      match produceRequest J transportId kind rtpParameters trackName with
      | none => .ok c
      | some r => c.request J o r .produce := by
  simp only [listen, h, produceRequest]
  cases readCapabilities J ProduceRequest.RTPParameters rtpParameters with
  | none => rfl
  | some rtp => rfl

/-- The request that `joinImpl` builds, when the capabilities that it needs decode. -/
def joinRequest (device : Device) (options : Options) (displayName : String) :
    Option ApiRequest :=
  let rtp := if options.consume.getD false then
      (readCapabilities J JoinRequest.RTPCapabilities device.rtpCapabilities).map some
    else some none
  let sctp := if options.datachannel.getD false then
      (readCapabilities J JoinRequest.SCTPCapabilities device.sctpCapabilities).map some
    else some none
  rtp.bind fun rtp => sctp.map fun sctp => .join displayName rtp sctp

theorem joinImpl_eq {device : Device} {o : Oracle} {c : RoomClient} (h : c.hasApi = true)
    (hd : c.mediasoupDevice = some device) :
    c.joinImpl J o =
      match joinRequest J device c.options c.displayName with
      | none => .ok c
      | some r => c.request J o r .join := by
  have hwith (rtp : Option JoinRequest.RTPCapabilities.Val) : c.joinWith J rtp o =
      match (if c.options.datachannel.getD false then
          (readCapabilities J JoinRequest.SCTPCapabilities device.sctpCapabilities).map some
        else some none) with
      | none => .ok c
      | some sctp => c.request J o (.join c.displayName rtp sctp) .join := by
    simp only [joinWith, hd, deref_some, bind, Except.bind]
    split_ifs
    · cases readCapabilities J JoinRequest.SCTPCapabilities device.sctpCapabilities <;> rfl
    · rfl
  simp only [joinImpl, h, hd, deref_some, hwith, joinRequest, bind, Except.bind, Option.bind,
    Bool.not_true, Bool.false_eq_true, ↓reduceIte]
  by_cases hc : c.options.consume.getD false = true
  · simp only [hc, ↓reduceIte]
    cases readCapabilities J JoinRequest.RTPCapabilities device.rtpCapabilities with
    | none => rfl
    | some rtp =>
      by_cases hs : c.options.datachannel.getD false = true
      · simp only [hs, ↓reduceIte]
        cases readCapabilities J JoinRequest.SCTPCapabilities device.sctpCapabilities <;> rfl
      · simp [hs]
  · simp only [hc, Bool.false_eq_true, ↓reduceIte]
    by_cases hs : c.options.datachannel.getD false = true
    · simp only [hs, ↓reduceIte]
      cases readCapabilities J JoinRequest.SCTPCapabilities device.sctpCapabilities <;> rfl
    · simp [hs]

/-- `dump` never gives the empty text, and rapidjson reads from its text what it was given. -/
structure Dumps (R : Rapidjson) (text : String) (j : Json) : Prop where
  nonempty : text.isEmpty = false
  reads : R.parse (cStr text) = some j

/-- The member `name` of the request's data contains the listed members. -/
def Passes (name : String) (listed : Json) (r : ApiRequest) : Prop :=
  ∀ id, ∃ out, ((MediasoupApi.ofApiRequest r).document id).get? [.key "data", .key name] =
    some out ∧ out.Contains listed

variable {J}

theorem readCapabilities_dumped {fields : Fields} {text : String} {j : Json}
    (h : Dumps J.rapidjson text j) :
    readCapabilities J fields text = (fields.jdeserialize fields.fresh j).toOption := by
  simp only [readCapabilities, h.nonempty, fromJsonString, stringToJson, h.reads]
  rfl

/-- What is read of a document and written again contains the listed members when the model
carries them. -/
theorem exists_read_iff {fields : Fields} {text : String} {j listed : Json}
    (h : Dumps J.rapidjson text j) :
    (∃ v, readCapabilities J fields text = some v ∧
        Json.Contains (.object (fields.members v)) listed) ↔
      (FieldType.model fields).Carries "" j listed := by
  rw [readCapabilities_dumped h, FieldType.Carries]
  simp only [FieldType.backward, FieldType.forward]
  cases fields.jdeserialize fields.fresh j with
  | error e => simp [Except.toOption]
  | ok v => simp [Except.toOption]

/-- A member of the data of a request, in its document. -/
theorem get?_data {D : Fields} {m : RequestModel D} {d : D.Val} (h : m.data = some d)
    (name : String) :
    m.document.get? [.key "data", .key name] = (D.members d).lookup name := by
  rw [RequestModel.document, Fields.jserialize, Json.get?_object, RequestModel.lookup_members, h]
  simp only [String.reduceEq, ↓reduceIte, Option.map_some, Option.bind_some]
  rw [Json.get?_object]
  cases (D.members d).lookup name with
  | none => rfl
  | some j => simp

theorem passes_iff {name : String} {listed out : Json} {r : ApiRequest}
    (hget : ∀ id, ((MediasoupApi.ofApiRequest r).document id).get? [.key "data", .key name] =
      some out) : Passes name listed r ↔ out.Contains listed := by
  constructor
  · intro h
    obtain ⟨w, hw, hc⟩ := h ⟨0, by decide⟩
    rw [hget, Option.some.injEq] at hw
    exact hw ▸ hc
  · exact fun h id => ⟨out, hget id, h⟩

theorem produce_passes_iff {transportId kind : String} {rtp : ProduceRequest.RTPParameters.Val}
    {trackName : Option String} {listed : Json} :
    Passes "rtpParameters" listed (.produce transportId kind rtp trackName) ↔
      Json.Contains (.object (ProduceRequest.RTPParameters.members rtp)) listed := by
  apply passes_iff
  intro id
  show (RequestModel.document { ProduceRequest.new id with data := some _ }).get? _ = _
  rw [get?_data rfl]
  rfl

theorem join_passes_iff {displayName : String} {rtp : JoinRequest.RTPCapabilities.Val}
    {sctp : Option JoinRequest.SCTPCapabilities.Val} {listed : Json} :
    Passes "rtpCapabilities" listed (.join displayName (some rtp) sctp) ↔
      Json.Contains (.object (JoinRequest.RTPCapabilities.members rtp)) listed := by
  apply passes_iff
  intro id
  show (RequestModel.document { JoinRequest.new id with data := some _ }).get? _ = _
  rw [get?_data rfl]
  rfl

theorem produceRequest_passes_iff {p : Rtp.Parameters} {text : String}
    (h : Dumps J.rapidjson text p.toJson) (transportId kind : String) (trackName : Option String) :
    (∃ r, produceRequest J transportId kind text trackName = some r ∧
        Passes "rtpParameters" p.listed r) ↔ p.Carried := by
  rw [← Rtp.parameters_passed_iff, ← exists_read_iff h]
  simp only [produceRequest, Option.map_eq_some_iff]
  constructor
  · rintro ⟨r, ⟨rtp, hrtp, rfl⟩, hpass⟩
    exact ⟨rtp, hrtp, produce_passes_iff.mp hpass⟩
  · rintro ⟨rtp, hrtp, hc⟩
    exact ⟨_, ⟨rtp, hrtp, rfl⟩, produce_passes_iff.mpr hc⟩

theorem joinRequest_passes_iff {caps : Rtp.Capabilities} {device : Device} {options : Options}
    (h : Dumps J.rapidjson device.rtpCapabilities caps.toJson)
    (hconsume : options.consume.getD false = true)
    (hsctp : options.datachannel.getD false = true →
      (readCapabilities J JoinRequest.SCTPCapabilities device.sctpCapabilities).isSome)
    (displayName : String) :
    (∃ r, joinRequest J device options displayName = some r ∧
        Passes "rtpCapabilities" caps.toJson r) ↔ caps.Carried := by
  obtain ⟨sctp, hsome⟩ : ∃ sctp, (if options.datachannel.getD false then
      (readCapabilities J JoinRequest.SCTPCapabilities device.sctpCapabilities).map some
      else some none) = some sctp := by
    split_ifs with hd
    · obtain ⟨v, hv⟩ := Option.isSome_iff_exists.mp (hsctp hd)
      exact ⟨some v, by rw [hv]; rfl⟩
    · exact ⟨none, rfl⟩
  have hrequest : joinRequest J device options displayName =
      (readCapabilities J JoinRequest.RTPCapabilities device.rtpCapabilities).map fun rtp =>
        .join displayName (some rtp) sctp := by
    simp only [joinRequest, hconsume, ↓reduceIte, hsome]
    cases readCapabilities J JoinRequest.RTPCapabilities device.rtpCapabilities <;> rfl
  rw [← Rtp.capabilities_passed_iff, ← exists_read_iff h, hrequest]
  simp only [Option.map_eq_some_iff]
  constructor
  · rintro ⟨r, ⟨rtp, hrtp, rfl⟩, hpass⟩
    exact ⟨rtp, hrtp, join_passes_iff.mp hpass⟩
  · rintro ⟨rtp, hrtp, hc⟩
    exact ⟨_, ⟨rtp, hrtp, rfl⟩, join_passes_iff.mpr hc⟩

/-- The produce request carries the RTP parameters of the library, and the join request its RTP
capabilities, exactly when the models have a field of the right type for each member: no encoding
has `rtx`, and no codec a parameter outside the lists. -/
theorem rtp_passed_through_iff (J : JsonText) (p : Rtp.Parameters) (text : String)
    (hp : Dumps J.rapidjson text p.toJson) (transportId kind : String) (trackName : Option String)
    (caps : Rtp.Capabilities) (device : Device)
    (hcaps : Dumps J.rapidjson device.rtpCapabilities caps.toJson) (options : Options)
    (hconsume : options.consume.getD false = true)
    (hsctp : options.datachannel.getD false = true →
      (readCapabilities J JoinRequest.SCTPCapabilities device.sctpCapabilities).isSome)
    (displayName : String) :
    ((∃ r, produceRequest J transportId kind text trackName = some r ∧
        Passes "rtpParameters" p.listed r) ↔ p.Carried) ∧
      ((∃ r, joinRequest J device options displayName = some r ∧
        Passes "rtpCapabilities" caps.toJson r) ↔ caps.Carried) :=
  ⟨produceRequest_passes_iff hp transportId kind trackName,
    joinRequest_passes_iff hcaps hconsume hsctp displayName⟩

/-- The texts of the library's objects, read by rapidjson. -/
def sampleJson (documents : List (String × Json)) : JsonText :=
  { sessionJson with rapidjson := ⟨fun text => documents.lookup text⟩ }

def receiveOnly : Options :=
  { produce := some false, consume := some true, datachannel := some false }

theorem sampleJson_dumps {documents : List (String × Json)} {text : String} {j : Json}
    (htext : text.isEmpty = false) (hnul : Rtp.NulFree text)
    (hmem : documents.lookup text = some j) : Dumps (sampleJson documents).rapidjson text j :=
  ⟨htext, by rw [cStr_eq_self_iff.mpr hnul]; exact hmem⟩

/-- The parameters of an H264 codec. -/
def h264Parameters : HashMap String Rtp.ParameterValue :=
  (((∅ : HashMap String Rtp.ParameterValue).insert "profile-level-id" (.string "42e01f")).insert
    "packetization-mode" (.int (MediasoupApi.toInt32 1))).insert
    "level-asymmetry-allowed" (.int (MediasoupApi.toInt32 1))

def keyframeFeedback : Rtp.RtcpFeedback := ⟨"nack", "pli"⟩

/-- What the library asks to produce for an H264 track with one encoding. -/
def h264Produced : Rtp.Parameters where
  mid := none
  codecs := [⟨"video/H264", ⟨107, by decide⟩, ⟨90000, by decide⟩, none, h264Parameters,
    [keyframeFeedback]⟩]
  headerExtensions := [⟨"urn:ietf:params:rtp-hdrext:sdes:mid", ⟨4, by decide⟩, false⟩]
  encodings := [⟨(Json.int 1111).getInt 64, some "r0", none, some false, some "L1T3"⟩]
  rtcp := ⟨"alice", true⟩

def h264ProducedText : String :=
  "\x7b\"codecs\":[\x7b\"clockRate\":90000,\"mimeType\":\"video/H264\",\"parameters\":\x7b\"level-asymmetry-allowed\":1,\"packetization-mode\":1,\"profile-level-id\":\"42e01f\"\x7d,\"payloadType\":107,\"rtcpFeedback\":[\x7b\"parameter\":\"pli\",\"type\":\"nack\"\x7d]\x7d],\"encodings\":[\x7b\"dtx\":false,\"rid\":\"r0\",\"scalabilityMode\":\"L1T3\",\"ssrc\":1111\x7d],\"headerExtensions\":[\x7b\"encrypt\":false,\"id\":4,\"uri\":\"urn:ietf:params:rtp-hdrext:sdes:mid\",\"parameters\":\x7b\x7d\x7d],\"rtcp\":\x7b\"cname\":\"alice\",\"reducedSize\":true\x7d\x7d"

/-- The capabilities of a device that receives H264. -/
def h264Capabilities : Rtp.Capabilities where
  codecs := [⟨"video", "video/H264", ⟨107, by decide⟩, ⟨90000, by decide⟩, none, h264Parameters,
    [keyframeFeedback]⟩]
  headerExtensions := [⟨"video", "urn:ietf:params:rtp-hdrext:sdes:mid", ⟨4, by decide⟩, false,
    "sendrecv"⟩]

def h264CapabilitiesText : String :=
  "\x7b\"codecs\":[\x7b\"clockRate\":90000,\"kind\":\"video\",\"mimeType\":\"video/H264\",\"parameters\":\x7b\"level-asymmetry-allowed\":1,\"packetization-mode\":1,\"profile-level-id\":\"42e01f\"\x7d,\"preferredPayloadType\":107,\"rtcpFeedback\":[\x7b\"parameter\":\"pli\",\"type\":\"nack\"\x7d]\x7d],\"headerExtensions\":[\x7b\"direction\":\"sendrecv\",\"kind\":\"video\",\"preferredEncrypt\":false,\"preferredId\":4,\"uri\":\"urn:ietf:params:rtp-hdrext:sdes:mid\"\x7d]\x7d"

set_option maxRecDepth 4000 in
theorem nulFree_h264Texts : Rtp.NulFree h264ProducedText ∧ Rtp.NulFree h264CapabilitiesText := by
  unfold h264ProducedText h264CapabilitiesText
  exact ⟨Rtp.nulFree_ofList (by decide +kernel), Rtp.nulFree_ofList (by decide +kernel)⟩

def h264Documents : List (String × Json) :=
  [(h264ProducedText, h264Produced.toJson), (h264CapabilitiesText, h264Capabilities.toJson)]

theorem h264Parameters_fit (ints : List String) (hlevel : "level-asymmetry-allowed" ∈ ints)
    (hmode : "packetization-mode" ∈ ints) :
    ∀ e ∈ h264Parameters.entries, e.2.Fits ints e.1 := by
  intro e he
  have hentries : h264Parameters.entries =
      [⟨"level-asymmetry-allowed", .int (MediasoupApi.toInt32 1)⟩,
        ⟨"packetization-mode", .int (MediasoupApi.toInt32 1)⟩,
        ⟨"profile-level-id", .string "42e01f"⟩] := by rfl
  rw [hentries] at he
  simp only [List.mem_cons, List.not_mem_nil, or_false] at he
  rcases he with rfl | rfl | rfl
  · exact hlevel
  · exact hmode
  · exact ⟨rfl, by decide⟩

theorem keyframeFeedback_carried : keyframeFeedback.Carried :=
  ⟨by decide, by decide⟩

theorem h264Produced_carried : h264Produced.Carried := by
  refine ⟨?_, ?_, ?_, by decide, by simp [h264Produced]⟩
  · intro c hc
    rw [List.mem_singleton.mp hc]
    refine ⟨by decide, ?_, h264Parameters_fit _ (by decide) (by decide)⟩
    intro f hf
    rw [List.mem_singleton.mp hf]
    exact keyframeFeedback_carried
  · intro e he
    rw [List.mem_singleton.mp he]
    exact ⟨rfl, by decide, by decide⟩
  · intro x hx
    rw [List.mem_singleton.mp hx]
    decide

theorem h264Capabilities_carried : h264Capabilities.Carried := by
  constructor
  · intro c hc
    rw [List.mem_singleton.mp hc]
    refine ⟨by decide, by decide, ?_, h264Parameters_fit _ (by decide) (by decide)⟩
    intro f hf
    rw [List.mem_singleton.mp hf]
    exact keyframeFeedback_carried
  · intro x hx
    rw [List.mem_singleton.mp hx]
    exact ⟨by decide, by decide, by decide⟩

/-- All that an H264 track and an H264 device have to say reaches the SFU. -/
theorem h264_passed_through :
    (∃ r, produceRequest (sampleJson h264Documents) "t" "video" h264ProducedText none = some r ∧
        Passes "rtpParameters" h264Produced.listed r) ∧
      ∃ r, joinRequest (sampleJson h264Documents) ⟨h264CapabilitiesText, "null", true, true⟩
          receiveOnly "alice" = some r ∧
        Passes "rtpCapabilities" h264Capabilities.toJson r := by
  have hne : h264CapabilitiesText ≠ h264ProducedText := by
    simp [h264CapabilitiesText, h264ProducedText]
  have h := rtp_passed_through_iff (sampleJson h264Documents) h264Produced h264ProducedText
    (sampleJson_dumps (by simp [h264ProducedText]) nulFree_h264Texts.1
      (by simp [h264Documents]))
    "t" "video" none h264Capabilities ⟨h264CapabilitiesText, "null", true, true⟩
    (sampleJson_dumps (by simp [h264CapabilitiesText]) nulFree_h264Texts.2
      (by simp [h264Documents, lookup_cons_eq_ite, hne]))
    receiveOnly rfl (by simp [receiveOnly]) "alice"
  exact ⟨h.1.mpr h264Produced_carried, h.2.mpr h264Capabilities_carried⟩

/-- Parameters with the given encodings and no codec. -/
def sampleParameters (encodings : List Rtp.EncodingParameters) : Rtp.Parameters :=
  ⟨none, [], [], encodings, ⟨"alice", true⟩⟩

/-- An encoding with its retransmission stream. -/
def rtxEncoding : Rtp.EncodingParameters :=
  { ssrc := (Json.int 1).getInt 64, rid := none, rtx := (Json.int 2).getInt 64, dtx := none
    scalabilityMode := none }

def rtxParametersText : String :=
  "\x7b\"codecs\":[],\"encodings\":[\x7b\"rtx\":\x7b\"ssrc\":2\x7d,\"ssrc\":1\x7d],\"headerExtensions\":[],\"rtcp\":\x7b\"cname\":\"alice\",\"reducedSize\":true\x7d\x7d"

/-- The codec for the retransmission of payload type 96. -/
def rtxCodec : Rtp.CodecCapability :=
  ⟨"video", "video/rtx", ⟨97, by decide⟩, ⟨90000, by decide⟩, none,
    (∅ : HashMap String Rtp.ParameterValue).insert "apt" (.int ⟨96, by decide⟩), []⟩

def rtxCapabilitiesText : String :=
  "\x7b\"codecs\":[\x7b\"clockRate\":90000,\"kind\":\"video\",\"mimeType\":\"video/rtx\",\"parameters\":\x7b\"apt\":96\x7d,\"preferredPayloadType\":97,\"rtcpFeedback\":[]\x7d],\"headerExtensions\":[]\x7d"

set_option maxRecDepth 2000 in
theorem nulFree_rtxTexts : Rtp.NulFree rtxParametersText ∧ Rtp.NulFree rtxCapabilitiesText := by
  unfold rtxParametersText rtxCapabilitiesText
  exact ⟨Rtp.nulFree_ofList (by decide +kernel), Rtp.nulFree_ofList (by decide +kernel)⟩

def rtxDocuments : List (String × Json) :=
  [(rtxParametersText, (sampleParameters [rtxEncoding]).toJson),
    (rtxCapabilitiesText, (⟨[rtxCodec], []⟩ : Rtp.Capabilities).toJson)]

/-- Neither the `rtx` of an encoding nor the `apt` of a codec reaches the SFU. -/
theorem rtx_dropped :
    (¬ ∃ r, produceRequest (sampleJson rtxDocuments) "t" "video" rtxParametersText none = some r ∧
      Passes "rtpParameters" (sampleParameters [rtxEncoding]).listed r) ∧
    ¬ ∃ r, joinRequest (sampleJson rtxDocuments) ⟨rtxCapabilitiesText, "null", true, true⟩
      receiveOnly "alice" = some r ∧
      Passes "rtpCapabilities" (⟨[rtxCodec], []⟩ : Rtp.Capabilities).toJson r := by
  have hp : Dumps (sampleJson rtxDocuments).rapidjson rtxParametersText
      (sampleParameters [rtxEncoding]).toJson :=
    sampleJson_dumps (by simp [rtxParametersText]) nulFree_rtxTexts.1
      (by simp [rtxDocuments])
  have hne : rtxCapabilitiesText ≠ rtxParametersText := by
    simp [rtxCapabilitiesText, rtxParametersText]
  have hc : Dumps (sampleJson rtxDocuments).rapidjson rtxCapabilitiesText
      (⟨[rtxCodec], []⟩ : Rtp.Capabilities).toJson :=
    sampleJson_dumps (by simp [rtxCapabilitiesText]) nulFree_rtxTexts.2
      (by simp [rtxDocuments, lookup_cons_eq_ite, hne])
  constructor
  · rw [produceRequest_passes_iff hp]
    rintro ⟨-, hencodings, -⟩
    have h := (hencodings rtxEncoding (by simp [sampleParameters])).1
    simp [rtxEncoding, Json.getInt] at h
  · rw [joinRequest_passes_iff hc rfl (by simp [receiveOnly])]
    rintro ⟨hcodecs, -⟩
    have h := (hcodecs rtxCodec (by simp)).2.2.2 ⟨"apt", .int ⟨96, by decide⟩⟩ List.mem_cons_self
    simp [Rtp.ParameterValue.Fits, Rtp.joinIntegers] at h

end RoomClient
end MediasoupSdk
