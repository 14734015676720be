import MediasoupSdk.Json.Decoder
import MediasoupSdk.Json.Number

/-! Documents with their numbers as they are written, and two of them that differ in nothing
else. -/
namespace MediasoupSdk

open Foundation

inductive Document where
  | null
  | bool (b : Bool)
  | number (n : NumberText)
  | string (s : String)
  | array (items : List Document)
  | object (members : List (String × Document))

/-- Members with the same names and related values have related first members of a name. -/
theorem lookup_forall₂ {α β : Type} {R : α → β → Prop} {members : List (String × α)}
    {members' : List (String × β)}
    (h : List.Forall₂ (fun e e' => e.1 = e'.1 ∧ R e.2 e'.2) members members') (key : String) :
    Option.Rel R (members.lookup key) (members'.lookup key) := by
  induction h with
  | nil => exact Option.Rel.none
  | @cons e e' rest rest' he _ ih =>
    obtain ⟨k, a⟩ := e
    obtain ⟨k', b⟩ := e'
    obtain ⟨rfl, hab⟩ : k = k' ∧ R a b := he
    rw [lookup_cons_eq_ite, lookup_cons_eq_ite]
    split_ifs
    · exact Option.Rel.some hab
    · exact ih

theorem lookup_none {α β : Type} {R : α → β → Prop} {o : Option α} {o' : Option β}
    (h : Option.Rel R o o') (ho : o = none) : o' = none := by
  subst ho
  cases h
  rfl

theorem lookup_read {α β : Type} {R : α → β → Prop} {o : Option α} {o' : Option β}
    (h : Option.Rel R o o') {a : α} (ha : o = some a) : ∃ b, o' = some b ∧ R a b := by
  subst ha
  cases h with
  | some hab => exact ⟨_, rfl, hab⟩

namespace Document

mutual

/-- What rapidjson stores; one number that is too big fails the whole document. -/
def parse : Document → Option Json
  | .null => some .null
  | .bool b => some (.bool b)
  | .number n => n.ParseNumber
  | .string s => some (.string s)
  | .array items => (parseItems items).map .array
  | .object members => (parseMembers members).map .object

def parseItems : List Document → Option (List Json)
  | [] => some []
  | d :: rest => d.parse.bind fun j => (parseItems rest).map (j :: ·)

def parseMembers : List (String × Document) → Option (List (String × Json))
  | [] => some []
  | (k, d) :: rest => d.parse.bind fun j => (parseMembers rest).map ((k, j) :: ·)

end

/-- No number is too big for the parser. -/
def InRange (d : Document) : Prop := d.parse.isSome

instance (d : Document) : Decidable d.InRange := inferInstanceAs (Decidable (_ = true))

theorem parseItems_eq_some {items : List Document} {js : List Json} :
    parseItems items = some js ↔ List.Forall₂ (fun d j => parse d = some j) items js := by
  induction items generalizing js with
  | nil => simp [parseItems, eq_comm]
  | cons d rest ih =>
    simp only [parseItems, Option.bind_eq_some_iff, Option.map_eq_some_iff, ih,
      List.forall₂_cons_left_iff]
    grind

theorem parseMembers_eq_some {members : List (String × Document)} {js : List (String × Json)} :
    parseMembers members = some js ↔
      List.Forall₂ (fun e e' => e.1 = e'.1 ∧ parse e.2 = some e'.2) members js := by
  induction members generalizing js with
  | nil => simp [parseMembers, eq_comm]
  | cons e rest ih =>
    simp only [parseMembers, Option.bind_eq_some_iff, Option.map_eq_some_iff, ih,
      List.forall₂_cons_left_iff]
    grind

/-- The members of an object and what is stored for them. -/
def ParsedMembers (members : List (String × Document)) (js : List (String × Json)) : Prop :=
  List.Forall₂ (fun e e' => e.1 = e'.1 ∧ parse e.2 = some e'.2) members js

theorem ParsedMembers.lookup {members : List (String × Document)} {js : List (String × Json)}
    (h : ParsedMembers members js) (key : String) :
    Option.Rel (fun d j => parse d = some j) (members.lookup key) (js.lookup key) :=
  lookup_forall₂ (R := fun d j => parse d = some j) h key

/-- What is stored for a document: the parser keeps every value but a number as it is. -/
inductive Stored : Document → Json → Prop
  | null : Stored .null .null
  | bool (b : Bool) : Stored (.bool b) (.bool b)
  | string (s : String) : Stored (.string s) (.string s)
  | int {n : NumberText} {i : ℤ} (h : n.IsInteger) (hi : n.value = i) : Stored (.number n) (.int i)
  | double {n : NumberText} {x : binary64.Value} (h : ¬ n.IsInteger)
      (hx : n.ParseNumber = some (.double x)) : Stored (.number n) (.double x)
  | array {items : List Document} {js : List Json}
      (h : List.Forall₂ (fun d j => parse d = some j) items js) : Stored (.array items) (.array js)
  | object {members : List (String × Document)} {js : List (String × Json)}
      (h : ParsedMembers members js) : Stored (.object members) (.object js)

theorem stored {d : Document} {j : Json} (h : d.parse = some j) : d.Stored j := by
  cases d with
  | number n =>
    rcases NumberText.ParseNumber_cases h with ⟨i, rfl, hinteger, hi⟩ | ⟨x, rfl, hdouble⟩
    · exact .int hinteger hi
    · exact .double hdouble h
  | array items =>
    rw [parse, Option.map_eq_some_iff] at h
    obtain ⟨js, hjs, rfl⟩ := h
    exact .array (parseItems_eq_some.mp hjs)
  | object members =>
    rw [parse, Option.map_eq_some_iff] at h
    obtain ⟨js, hjs, rfl⟩ := h
    exact .object (parseMembers_eq_some.mp hjs)
  | _ =>
    cases h
    constructor

theorem Stored.null_iff {d : Document} {j : Json} (h : d.Stored j) : d = .null ↔ j = .null := by
  cases h <;> simp

/-- Two documents that differ only in how numerically equal numbers are written. -/
inductive Respelled : Document → Document → Prop
  | same (d : Document) : Respelled d d
  | number {n n' : NumberText} (h : n.value = n'.value) : Respelled (.number n) (.number n')
  | array {items items' : List Document} (h : List.Forall₂ Respelled items items') :
      Respelled (.array items) (.array items')
  | object {members members' : List (String × Document)}
      (hnames : members.map Prod.fst = members'.map Prod.fst)
      (h : List.Forall₂ Respelled (members.map Prod.snd) (members'.map Prod.snd)) :
      Respelled (.object members) (.object members')

theorem Respelled.symm {d d' : Document} (h : Respelled d d') : Respelled d' d :=
  @Respelled.rec (fun d d' _ => Respelled d' d)
    (fun items items' _ => List.Forall₂ Respelled items' items)
    .same (fun h => .number h.symm) (fun _ ih => .array ih)
    (fun hnames _ ih => .object hnames.symm ih) .nil (fun _ _ ih ihs => .cons ih ihs) d d' h

/-- Members with the same names and respelled values. -/
def RespelledMembers (members members' : List (String × Document)) : Prop :=
  List.Forall₂ (fun e e' => e.1 = e'.1 ∧ Respelled e.2 e'.2) members members'

theorem respelledMembers_of {members members' : List (String × Document)}
    (hnames : members.map Prod.fst = members'.map Prod.fst)
    (h : List.Forall₂ Respelled (members.map Prod.snd) (members'.map Prod.snd)) :
    RespelledMembers members members' := by
  induction members generalizing members' with
  | nil =>
    rw [List.map_nil, eq_comm, List.map_eq_nil_iff] at hnames
    rw [hnames]
    exact List.Forall₂.nil
  | cons e rest ih =>
    cases members' with
    | nil => simp at hnames
    | cons e' rest' =>
      simp only [List.map_cons, List.cons.injEq, List.forall₂_cons] at hnames h
      exact List.Forall₂.cons ⟨hnames.1, h.1⟩ (ih hnames.2 h.2)

theorem respelledMembers_refl (members : List (String × Document)) :
    RespelledMembers members members :=
  List.forall₂_same.mpr fun e _ => ⟨rfl, .same e.2⟩

namespace Respelled

variable {items : List Document} {members : List (String × Document)} {d d' : Document}

theorem array_left (h : Respelled (.array items) d) :
    ∃ items', d = .array items' ∧ List.Forall₂ Respelled items items' := by
  cases h with
  | same => exact ⟨items, rfl, List.forall₂_same.mpr fun d _ => .same d⟩
  | array h => exact ⟨_, rfl, h⟩

theorem object_left (h : Respelled (.object members) d) :
    ∃ members', d = .object members' ∧ RespelledMembers members members' := by
  cases h with
  | same => exact ⟨members, rfl, respelledMembers_refl members⟩
  | object hnames h => exact ⟨_, rfl, respelledMembers_of hnames h⟩

theorem number_left {n : NumberText} (h : Respelled (.number n) d) :
    ∃ n', d = .number n' ∧ n.value = n'.value := by
  cases h with
  | same => exact ⟨n, rfl, rfl⟩
  | number h => exact ⟨_, rfl, h⟩

theorem null_iff (h : Respelled d d') : d = .null ↔ d' = .null := by
  cases h <;> simp

end Respelled

end Document

end MediasoupSdk
