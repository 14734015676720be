import MediasoupSdk.Json.Value

/-! Paths into a document, and when one document contains the members of another. -/
namespace MediasoupSdk
namespace Json

inductive Step where
  | key (name : String)
  | index (i : ℕ)
  deriving DecidableEq, Repr

/-- The value at a path; of a repeated name the first member counts. -/
def get? : Json → List Step → Option Json
  | j, [] => some j
  | .object members, .key name :: path =>
    match members.lookup name with
    | some j => j.get? path
    | none => none
  | .array items, .index i :: path =>
    match items[i]? with
    | some j => j.get? path
    | none => none
  | _, _ :: _ => none
termination_by structural _ path => path

/-- A value without its children: of an array the length is left. -/
inductive Head where
  | null
  | bool (b : Bool)
  | int (i : ℤ)
  | double (x : Foundation.binary64.Value)
  | string (s : String)
  | array (length : ℕ)
  | object
  deriving DecidableEq

def head : Json → Head
  | .null => .null
  | .bool b => .bool b
  | .int i => .int i
  | .double x => .double x
  | .string s => .string s
  | .array items => .array items.length
  | .object _ => .object

/-- Every member of `j`, at any depth, is in `out` at the same path with the same value. -/
def Contains (out j : Json) : Prop :=
  ∀ path v, j.get? path = some v → ∃ w, out.get? path = some w ∧ w.head = v.head

@[simp] theorem get?_nil (j : Json) : j.get? [] = some j := by
  unfold get?
  rfl

theorem get?_object (members : List (String × Json)) (name : String) (path : List Step) :
    (object members).get? (.key name :: path) = (members.lookup name).bind (·.get? path) := by
  rw [get?]
  cases members.lookup name with
  | none => rfl
  | some j => rfl

theorem get?_array (items : List Json) (i : ℕ) (path : List Step) :
    (array items).get? (.index i :: path) = items[i]?.bind (·.get? path) := by
  rw [get?]
  cases items[i]? with
  | none => rfl
  | some j => rfl

theorem Contains.head_eq {out j : Json} (h : Contains out j) : out.head = j.head := by
  obtain ⟨w, hw, he⟩ := h [] j (get?_nil j)
  rw [get?_nil, Option.some.injEq] at hw
  exact hw ▸ he

/-- An object is contained member by member. -/
theorem contains_object_iff {outs members : List (String × Json)} :
    Contains (object outs) (object members) ↔
      ∀ name v, members.lookup name = some v →
        ∃ w, outs.lookup name = some w ∧ Contains w v := by
  constructor
  · intro h name v hv
    obtain ⟨w, hw, -⟩ := h [.key name] v (by rw [get?_object, hv]; simp)
    rw [get?_object] at hw
    cases ho : outs.lookup name with
    | none => simp [ho] at hw
    | some w' =>
      refine ⟨w', rfl, fun path x hx => ?_⟩
      obtain ⟨y, hy, he⟩ := h (.key name :: path) x (by rw [get?_object, hv]; exact hx)
      rw [get?_object, ho] at hy
      exact ⟨y, hy, he⟩
  · intro h path x hx
    cases path with
    | nil =>
      rw [get?_nil, Option.some.injEq] at hx
      exact ⟨object outs, get?_nil _, by rw [← hx]; rfl⟩
    | cons s path =>
      cases s with
      | index i =>
        rw [get?] at hx
        · cases hx
        all_goals simp
      | key name =>
        rw [get?_object] at hx
        obtain ⟨v, hv, hxv⟩ := Option.bind_eq_some_iff.mp hx
        obtain ⟨w, hw, hc⟩ := h name v hv
        obtain ⟨y, hy, he⟩ := hc path x hxv
        exact ⟨y, by rw [get?_object, hw]; exact hy, he⟩

/-- An array is contained item by item. -/
theorem contains_array_iff {outs items : List Json} :
    Contains (array outs) (array items) ↔ List.Forall₂ Contains outs items := by
  rw [List.forall₂_iff_get]
  constructor
  · intro h
    have hlen : outs.length = items.length := by
      have := h.head_eq
      simpa [head] using this
    refine ⟨hlen, fun i hi hi' path x hx => ?_⟩
    obtain ⟨y, hy, he⟩ := h (.index i :: path) x (by
      rw [get?_array, List.getElem?_eq_getElem hi']
      exact hx)
    rw [get?_array, List.getElem?_eq_getElem hi] at hy
    exact ⟨y, hy, he⟩
  · rintro ⟨hlen, h⟩ path x hx
    cases path with
    | nil =>
      rw [get?_nil, Option.some.injEq] at hx
      exact ⟨array outs, get?_nil _, by rw [← hx, head, head, hlen]⟩
    | cons s path =>
      cases s with
      | key name =>
        rw [get?] at hx
        · cases hx
        all_goals simp
      | index i =>
        rw [get?_array] at hx
        obtain ⟨v, hv, hxv⟩ := Option.bind_eq_some_iff.mp hx
        obtain ⟨hi, rfl⟩ := List.getElem?_eq_some_iff.mp hv
        obtain ⟨y, hy, he⟩ := h i (by omega) hi path x hxv
        refine ⟨y, ?_, he⟩
        rw [get?_array, List.getElem?_eq_getElem (by omega)]
        exact hy

theorem contains_refl (j : Json) : Contains j j := fun _ v hv => ⟨v, hv, rfl⟩

@[simp] theorem contains_bool_iff {out : Json} {b : Bool} :
    Contains out (bool b) ↔ out = bool b := by
  constructor
  · intro h
    have hh := h.head_eq
    cases out <;> simp_all [head]
  · rintro rfl
    exact contains_refl _

@[simp] theorem contains_int_iff {out : Json} {i : ℤ} : Contains out (int i) ↔ out = int i := by
  constructor
  · intro h
    have hh := h.head_eq
    cases out <;> simp_all [head]
  · rintro rfl
    exact contains_refl _

@[simp] theorem contains_string_iff {out : Json} {s : String} :
    Contains out (string s) ↔ out = string s := by
  constructor
  · intro h
    have hh := h.head_eq
    cases out <;> simp_all [head]
  · rintro rfl
    exact contains_refl _

end Json
end MediasoupSdk
