import MediasoupSdk.Signaling.RequestTable

/-! The entry under which a request waits. `WebsocketRequest::id` narrows the id to 32 bits, and
`handleResponse` looks it up as the response carries it. -/
namespace MediasoupSdk
open Foundation
namespace SignalingClient

variable {κ : Type}

/-- Some request with the id waits in the table. -/
def Pending (sc : SignalingClient κ) (id : ℤ) : Prop :=
  ∃ k r, sc.requestMap.lookup k = some r ∧ r.id = id

/-- The request waits in the table, under its own key and no other. -/
def Waits (sc : SignalingClient κ) (r : WebsocketRequest κ) : Prop :=
  ∀ k, sc.requestMap.lookup k = some r ↔ k = r.key

/-- A response with the id of the request finds the request, resolves it and nothing else, and
takes it out of the table. -/
def Answers (R : Rapidjson) (sc : SignalingClient κ) (r : WebsocketRequest κ) : Prop :=
  sc.requestMap.lookup r.id = some r ∧
    ∀ json, responseId R json = some r.id → sc.handleResponse R json =
      ({ sc with requestMap := sc.requestMap.erase r.id }, r.resolveWith json)

/-- The two requests occupy different entries. -/
def HoldsBoth (sc : SignalingClient κ) (r r' : WebsocketRequest κ) : Prop :=
  ∃ k k', k ≠ k' ∧ sc.requestMap.lookup k = some r ∧ sc.requestMap.lookup k' = some r'

theorem not_pending_iff {sc : SignalingClient κ} {id : ℤ} :
    ¬ sc.Pending id ↔ ∀ k r, sc.requestMap.lookup k = some r → r.id ≠ id := by
  simp only [Pending, not_exists, not_and, ne_eq]

theorem handleResponse_of_lookup {R : Rapidjson} {sc : SignalingClient κ} {json : String} {id : ℤ}
    {r : WebsocketRequest κ} (hid : responseId R json = some id)
    (hr : sc.requestMap.lookup id = some r) : sc.handleResponse R json =
      ({ sc with requestMap := sc.requestMap.erase id }, r.resolveWith json) := by
  simp only [handleResponse, hid, takeRequest, hr]

theorem answers_iff_lookup {R : Rapidjson} {sc : SignalingClient κ} {r : WebsocketRequest κ} :
    sc.Answers R r ↔ sc.requestMap.lookup r.id = some r := by
  constructor
  · exact And.left
  · intro h
    exact ⟨h, fun json hid => handleResponse_of_lookup hid h⟩

section Send

variable {R : Rapidjson} {sc sc' : SignalingClient κ} {r : WebsocketRequest κ}

/-- What a send leaves under a key. -/
theorem lookup_send (ht : r.text.isEmpty = false)
    (h : sc.send r.text r.id r.resolve r.reject = .ok sc') (k : ℤ) :
    sc'.requestMap.lookup k = if k = r.key then some r else sc.requestMap.lookup k := by
  rw [send_ok ht h]
  exact HashMap.lookup_insert_eq_ite _ _ _ _

theorem send_waits (ht : r.text.isEmpty = false)
    (h : sc.send r.text r.id r.resolve r.reject = .ok sc') (hnew : ¬ sc.Pending r.id) :
    sc'.Waits r := by
  intro k
  rw [lookup_send ht h]
  split_ifs with hk
  · exact iff_of_true rfl hk
  · refine iff_of_false (fun hr => ?_) hk
    exact not_pending_iff.mp hnew k r hr rfl

/-- A request that waits is found under its id when narrowing leaves the id alone. -/
theorem Waits.answers_iff (h : sc.Waits r) : sc.Answers R r ↔ r.key = r.id := by
  rw [answers_iff_lookup, h r.id]
  exact eq_comm

theorem holdsBoth_send_iff {first : WebsocketRequest κ} (ht : r.text.isEmpty = false)
    (h : sc.send r.text r.id r.resolve r.reject = .ok sc') (hfirst : sc.Waits first)
    (hnew : ¬ sc.Pending r.id) : sc'.HoldsBoth first r ↔ first.key ≠ r.key := by
  have hwaits := send_waits ht h hnew
  have hne : first ≠ r := by
    intro he
    exact not_pending_iff.mp hnew first.key first ((hfirst first.key).mpr rfl) (congrArg _ he)
  constructor
  · rintro ⟨k, k', hkk, hk, hk'⟩ hkeys
    rw [lookup_send ht h] at hk
    split_ifs at hk with hkey
    · exact hne (Option.some.inj hk).symm
    · rw [(hfirst k).mp hk] at hkey
      exact hkey hkeys
  · intro hkeys
    refine ⟨first.key, r.key, hkeys, ?_, (hwaits r.key).mpr rfl⟩
    rw [lookup_send ht h, if_neg hkeys]
    exact (hfirst first.key).mpr rfl

/-- A request of a new id waits under its key. This key is the id, so that the response is found,
exactly for the ids below `2 ^ 31`; and it leaves a request that waits already in its own entry
exactly when the two ids differ in their low 32 bits. -/
theorem send_answered_iff (R : Rapidjson) {t : IntN 64} {text : String} {scb fcb : Option κ}
    (ht : 0 ≤ t.val) (htext : text.isEmpty = false) (hnew : ¬ sc.Pending t.val)
    (hsend : sc.send text t.val scb fcb = .ok sc') :
    sc'.Waits ⟨t.val, text, scb, fcb⟩ ∧
      ((⟨t.val, text, scb, fcb⟩ : WebsocketRequest κ).key = t.val ∧
          sc'.Answers R ⟨t.val, text, scb, fcb⟩ ↔ t.val < 2 ^ 31) ∧
      ∀ first : WebsocketRequest κ, sc.Waits first →
        (sc'.HoldsBoth first ⟨t.val, text, scb, fcb⟩ ↔ first.id % 2 ^ 32 ≠ t.val % 2 ^ 32) := by
  have hwaits := @send_waits κ sc sc' ⟨t.val, text, scb, fcb⟩ htext hsend hnew
  refine ⟨hwaits, ?_, ?_⟩
  · have hkey : (⟨t.val, text, scb, fcb⟩ : WebsocketRequest κ).key = t.val ↔ t.val < 2 ^ 31 := by
      rw [WebsocketRequest.key, wrap_eq_self_iff (by norm_num)]
      norm_num
      omega
    rw [hwaits.answers_iff, and_self, hkey]
  · intro first hfirst
    rw [holdsBoth_send_iff htext hsend hfirst hnew]
    exact not_congr wrap_eq_wrap_iff

end Send

/-- The SFU's answer to a request. -/
def accepted (id : ℤ) : Json :=
  .object [("response", .bool true), ("id", .int id), ("ok", .bool true)]

theorem produce_answered :
    ∃ sc', idle.send "produce" 7 (some "resolve") (some "reject") = .ok sc' ∧
      sc'.handleResponse ⟨fun _ => some (accepted 7)⟩ "accepted" =
        ({ sc' with requestMap := sc'.requestMap.erase 7 },
          [.resolved "resolve" "accepted"]) := by
  refine ⟨_, rfl, ?_⟩
  have h := @send_answered_iff String idle _ ⟨fun _ => some (accepted 7)⟩ ⟨7, by decide⟩ "produce"
    (some "resolve") (some "reject") (by decide) rfl (by simp [Pending, idle]) rfl
  exact ((h.2.1.mpr (by decide)).2.2 "accepted" rfl)

/-- The least id that is narrowed: its response finds nothing. The id 7 + 2 ^ 32 takes the entry
of the id 7. -/
theorem wide_ids_lost :
    (∃ sc', idle.send "produce" (2 ^ 31) (some "resolve") (some "reject") = .ok sc' ∧
      ¬ idle.Pending (2 ^ 31) ∧
      sc'.handleResponse ⟨fun _ => some (accepted (2 ^ 31))⟩ "accepted" = (sc', [])) ∧
    ∃ sc' sc'', idle.send "produce" 7 (some "resolve") (some "reject") = .ok sc' ∧
      sc'.send "answer" (7 + 2 ^ 32) none none = .ok sc'' ∧
      sc''.requestMap.values = [⟨7 + 2 ^ 32, "answer", none, none⟩] := by
  refine ⟨⟨_, rfl, by simp [Pending, idle], rfl⟩, _, _, rfl, rfl, rfl⟩

end SignalingClient
end MediasoupSdk
