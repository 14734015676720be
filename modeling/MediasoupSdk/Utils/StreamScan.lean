import MediasoupSdk.Utils.SDPUtils

/-! What the scan of a description finds of a stream. A line that a parser takes is taken by no
other, so that the attributes are read independently of each other. -/
namespace MediasoupSdk
open Foundation
namespace SDPUtils

/-- What is read of a stream once its ssrc is known. -/
inductive Attribute where
  | cname | mslabel | label
  deriving DecidableEq, Repr

namespace Attribute

def name : Attribute → String
  | cname => " cname:"
  | mslabel => " mslabel:"
  | label => " label:"

def parse : Attribute → String → Option (String × String)
  | cname => parseCname
  | mslabel => parseMslabel
  | label => parseLabel

/-- The value in a line of the given ssrc. -/
def valueIn (a : Attribute) (ssrc line : String) : Option String := ofSsrc ssrc (a.parse line)

end Attribute

/-- The line names the ssrc of a stream. -/
def Names (line ssrc : String) : Prop :=
  (∃ ssrcFid, parseFid line = some (ssrc, ssrcFid)) ∨ ∃ cname, parseCname line = some (ssrc, cname)

variable {line ssrc x y : String} {a b : Attribute} {lines : List String} {s : Stream}
  {pieces : List (Piece Char)} {v : String × String}

theorem parsePair_eq_some (h : parsePair pieces line = some (x, y)) :
    matchPieces Char.toLower pieces line.toList = some ([x.toList, y.toList], []) := by
  unfold parsePair at h
  split at h
  · rw [Option.some.injEq, Prod.mk.injEq] at h
    obtain ⟨rfl, rfl⟩ := h
    simpa using ‹_›
  · exact absurd h (Option.some_ne_none _).symm

theorem parsePair_ne_empty (h : parsePair pieces line = some (x, y)) : x ≠ "" ∧ y ≠ "" := by
  have hcaptures := (matchPieces_sound (parsePair_eq_some h)).captures_ne_nil
  constructor
  · rintro rfl
    exact hcaptures (by simp)
  · rintro rfl
    exact hcaptures (by simp)

theorem parsePair_eq_none (h : matchPieces Char.toLower pieces line.toList = none) :
    parsePair pieces line = none := by
  rw [parsePair, h]

theorem Attribute.parse_eq : a.parse line = parsePair (attributePieces a.name) line := by
  cases a <;> rfl

theorem Attribute.parse_clash (hne : a ≠ b) (h : a.parse line = some v) : b.parse line = none := by
  rw [Attribute.parse_eq] at h ⊢
  have hclash : Clash Char.toLower a.name.toList b.name.toList := by
    cases a <;> cases b <;> first | exact absurd rfl hne | decide
  exact parsePair_eq_none (matchPieces_clash hclash (parsePair_eq_some h))

theorem Attribute.parse_of_fid (h : parseFid line = some v) : a.parse line = none := by
  have hclash : Clash Char.toLower "a=ssrc-group:FID ".toList "a=ssrc:".toList := by decide
  rw [Attribute.parse_eq]
  exact parsePair_eq_none (matchPieces_clash_literal hclash (parsePair_eq_some h))

theorem parseFid_of_sim (h : isSimLine line = true) : parseFid line = none := by
  have hstarts := List.isPrefixOf_iff_prefix.mp h
  have hclash : Clash Char.toLower "a=ssrc-group:SIM ".toList "a=ssrc-group:FID ".toList := by
    decide
  exact parsePair_eq_none (matchPieces_clash_literal hclash (matchPieces_of_starts hstarts))

theorem Attribute.parse_of_sim (h : isSimLine line = true) : a.parse line = none := by
  have hstarts := List.isPrefixOf_iff_prefix.mp h
  have hclash : Clash Char.toLower "a=ssrc-group:SIM ".toList "a=ssrc:".toList := by decide
  rw [Attribute.parse_eq]
  exact parsePair_eq_none (matchPieces_clash_literal hclash (matchPieces_of_starts hstarts))

theorem Attribute.valueIn_eq_some (h : a.valueIn ssrc line = some x) :
    a.parse line = some (ssrc, x) := by
  unfold Attribute.valueIn ofSsrc at h
  split at h
  · split_ifs at h with hssrc
    rw [← hssrc, ← Option.some.inj h]
    assumption
  · exact absurd h (Option.some_ne_none _).symm

theorem Attribute.parse_ne_empty (h : a.parse line = some (x, y)) : y ≠ "" := by
  rw [Attribute.parse_eq] at h
  exact (parsePair_ne_empty h).2

theorem Attribute.valueIn_ne_empty (h : a.valueIn ssrc line = some x) : x ≠ "" :=
  Attribute.parse_ne_empty (Attribute.valueIn_eq_some h)

theorem Attribute.valueIn_of_none (h : a.parse line = none) : a.valueIn ssrc line = none := by
  rw [Attribute.valueIn, h]
  rfl

namespace Stream

def value (s : Stream) : Attribute → String
  | .cname => s.cname
  | .mslabel => s.mslabel
  | .label => s.label

@[simp] theorem value_checkSim : (s.checkSim line).value a = s.value a := by
  unfold checkSim
  split_ifs <;> cases a <;> rfl

@[simp] theorem ssrc_checkSim : (s.checkSim line).ssrc = s.ssrc := by
  unfold checkSim
  split_ifs <;> rfl

@[simp] theorem ssrcFid_checkSim : (s.checkSim line).ssrcFid = s.ssrcFid := by
  unfold checkSim
  split_ifs <;> rfl

@[simp] theorem hasSimulcast_checkSim :
    (s.checkSim line).hasSimulcast = (s.hasSimulcast || isSimLine line) := by
  unfold checkSim
  split_ifs with h
  · simp [h]
  · simp [h]

def set (s : Stream) (x : String) : Attribute → Stream
  | .cname => { s with cname := x }
  | .mslabel => { s with mslabel := x }
  | .label => { s with label := x }

theorem value_set_self : (s.set x a).value a = x := by
  cases a <;> rfl

theorem value_set_of_ne (hne : a ≠ b) : (s.set x a).value b = s.value b := by
  cases a <;> cases b <;> first | exact absurd rfl hne | rfl

@[simp] theorem ssrc_set : (s.set x a).ssrc = s.ssrc := by
  cases a <;> rfl

@[simp] theorem ssrcFid_set : (s.set x a).ssrcFid = s.ssrcFid := by
  cases a <;> rfl

@[simp] theorem hasSimulcast_set : (s.set x a).hasSimulcast = s.hasSimulcast := by
  cases a <;> rfl

/-- What a line can do once the ssrc is known: give one attribute, or none that is missing. -/
theorem readAttributes_cases (hs : s.ssrc ≠ "") (line : String) :
    (∃ a x, s.value a = "" ∧ a.valueIn s.ssrc line = some x ∧
        s.readAttributes line = s.set x a) ∨
      (∀ a, s.value a = "" → a.valueIn s.ssrc line = none) ∧
        s.readAttributes line = s.checkSim line := by
  have htaken {a : Attribute} {x : String}
      (h : (if s.value a = "" then a.valueIn s.ssrc line else none) = some x) :
      s.value a = "" ∧ a.valueIn s.ssrc line = some x := by
    split_ifs at h with hvalue
    exact ⟨hvalue, h⟩
  have hleft {a : Attribute}
      (h : (if s.value a = "" then a.valueIn s.ssrc line else none) = none)
      (hvalue : s.value a = "") : a.valueIn s.ssrc line = none := by
    rwa [if_pos hvalue] at h
  unfold readAttributes
  rw [if_neg hs]
  split
  · next cname h =>
    obtain ⟨hvalue, hin⟩ := htaken (a := .cname) h
    exact .inl ⟨.cname, cname, hvalue, hin, rfl⟩
  · next hcname =>
    split
    · next mslabel h =>
      obtain ⟨hvalue, hin⟩ := htaken (a := .mslabel) h
      exact .inl ⟨.mslabel, mslabel, hvalue, hin, rfl⟩
    · next hmslabel =>
      split
      · next label h =>
        obtain ⟨hvalue, hin⟩ := htaken (a := .label) h
        exact .inl ⟨.label, label, hvalue, hin, rfl⟩
      · next hlabel =>
        refine .inr ⟨?_, rfl⟩
        intro a hvalue
        cases a with
        | cname => exact hleft hcname hvalue
        | mslabel => exact hleft hmslabel hvalue
        | label => exact hleft hlabel hvalue

/-- Each attribute is read on its own. -/
theorem value_readAttributes (hs : s.ssrc ≠ "") (a : Attribute) :
    (s.readAttributes line).value a ≠ "" ↔
      s.value a ≠ "" ∨ (a.valueIn s.ssrc line).isSome := by
  rcases readAttributes_cases hs line with ⟨b, x, hb, hx, heq⟩ | ⟨hnone, heq⟩
  · rw [heq]
    rcases eq_or_ne b a with rfl | hne
    · simp [value_set_self, hx, Attribute.valueIn_ne_empty hx]
    · have hother : a.valueIn s.ssrc line = none :=
        Attribute.valueIn_of_none (Attribute.parse_clash hne (Attribute.valueIn_eq_some hx))
      simp [value_set_of_ne hne, hother]
  · rw [heq, value_checkSim]
    by_cases hvalue : s.value a = ""
    · simp [hvalue, hnone a hvalue]
    · simp [hvalue]

theorem readAttributes_ssrc :
    (s.readAttributes line).ssrc = s.ssrc ∧ (s.readAttributes line).ssrcFid = s.ssrcFid := by
  by_cases hs : s.ssrc = ""
  · simp [readAttributes, hs]
  · rcases readAttributes_cases hs line with ⟨b, x, -, -, heq⟩ | ⟨-, heq⟩
    · simp [heq]
    · simp [heq]

theorem hasSimulcast_readAttributes :
    (s.readAttributes line).hasSimulcast = (s.hasSimulcast || isSimLine line) := by
  by_cases hs : s.ssrc = ""
  · simp [readAttributes, hs]
  · rcases readAttributes_cases hs line with ⟨b, x, -, hx, heq⟩ | ⟨-, heq⟩
    · cases hsim : isSimLine line with
      | false => simp [heq]
      | true =>
        rw [Attribute.valueIn_of_none (Attribute.parse_of_sim hsim)] at hx
        exact absurd hx (Option.some_ne_none x).symm
    · simp [heq]

theorem read_known (hs : s.ssrc ≠ "") : s.read line = s.readAttributes line := by
  rw [read, if_neg hs]

theorem read_fid (hs : s.ssrc = "") (h : parseFid line = some (x, y)) :
    s.read line = { s with ssrc := x, ssrcFid := y } := by
  rw [read, if_pos hs, h]

theorem read_cname (hs : s.ssrc = "") (h : parseCname line = some (x, y)) :
    s.read line = { s with ssrc := x, cname := y }.readAttributes line := by
  have hfid : parseFid line = none := by
    by_contra hfid
    obtain ⟨v, hfid⟩ := Option.ne_none_iff_exists'.mp hfid
    have hcname : parseCname line = none := Attribute.parse_of_fid (a := .cname) hfid
    exact absurd (h.symm.trans hcname) (Option.some_ne_none (x, y))
  rw [read, if_pos hs, hfid, h]

theorem read_unnamed (hs : s.ssrc = "") (h : ∀ ssrc, ¬ Names line ssrc) :
    s.read line = s.checkSim line := by
  have hfid : parseFid line = none :=
    Option.eq_none_iff_forall_ne_some.mpr fun v hv => h v.1 (.inl ⟨v.2, hv⟩)
  have hcname : parseCname line = none :=
    Option.eq_none_iff_forall_ne_some.mpr fun v hv => h v.1 (.inr ⟨v.2, hv⟩)
  rw [read, if_pos hs, hfid, hcname]
  simp [readAttributes, hs]

theorem read_names (hs : s.ssrc = "") (h : Names line ssrc) :
    (s.read line).ssrc = ssrc ∧
      ∀ a, (s.read line).value a ≠ "" ↔ s.value a ≠ "" ∨ (a.valueIn ssrc line).isSome := by
  rcases h with ⟨y, hfid⟩ | ⟨y, hcname⟩
  · rw [read_fid hs hfid]
    refine ⟨rfl, fun a => ?_⟩
    rw [Attribute.valueIn_of_none (Attribute.parse_of_fid hfid)]
    cases a <;> simp [value]
  · obtain ⟨hssrc, hy⟩ := parsePair_ne_empty hcname
    rw [read_cname hs hcname]
    refine ⟨readAttributes_ssrc.1, fun a => ?_⟩
    rw [value_readAttributes (s := { s with ssrc := ssrc, cname := y }) hssrc a]
    have hin : Attribute.cname.valueIn ssrc line = some y := by
      simp [Attribute.valueIn, Attribute.parse, hcname, ofSsrc]
    cases a <;> simp [value, hy, hin]

theorem value_readAttributes_eq (hs : s.ssrc ≠ "") (a : Attribute) :
    (s.readAttributes line).value a = s.value a ∨
      ∃ ssrc, a.parse line = some (ssrc, (s.readAttributes line).value a) := by
  rcases readAttributes_cases hs line with ⟨b, x, -, hx, heq⟩ | ⟨-, heq⟩
  · rw [heq]
    rcases eq_or_ne b a with rfl | hne
    · rw [value_set_self]
      exact .inr ⟨s.ssrc, Attribute.valueIn_eq_some hx⟩
    · exact .inl (value_set_of_ne hne)
  · rw [heq]
    exact .inl value_checkSim

/-- A value stays, or is the one parsed from the line. -/
theorem value_read_eq (a : Attribute) :
    (s.read line).value a = s.value a ∨
      ∃ ssrc, a.parse line = some (ssrc, (s.read line).value a) := by
  by_cases hs : s.ssrc = ""
  · by_cases hn : ∃ ssrc, Names line ssrc
    · obtain ⟨ssrc, ⟨y, hfid⟩ | ⟨y, hcname⟩⟩ := hn
      · rw [read_fid hs hfid]
        cases a <;> exact .inl rfl
      · rw [read_cname hs hcname]
        have hssrc := (parsePair_ne_empty hcname).1
        rcases value_readAttributes_eq (s := { s with ssrc := ssrc, cname := y }) hssrc a
          with hsame | hparsed
        · rw [hsame]
          cases a with
          | cname => exact .inr ⟨ssrc, hcname⟩
          | mslabel => exact .inl rfl
          | label => exact .inl rfl
        · exact .inr hparsed
    · push Not at hn
      rw [read_unnamed hs hn]
      exact .inl value_checkSim
  · rw [read_known hs]
    exact value_readAttributes_eq hs a

theorem hasSimulcast_read :
    (s.read line).hasSimulcast = (s.hasSimulcast || isSimLine line) := by
  by_cases hs : s.ssrc = ""
  · by_cases hn : ∃ ssrc, Names line ssrc
    · obtain ⟨ssrc, ⟨y, hfid⟩ | ⟨y, hcname⟩⟩ := hn
      · have hsim : isSimLine line = false := by
          by_contra hsim
          rw [Bool.not_eq_false] at hsim
          exact absurd (hfid.symm.trans (parseFid_of_sim hsim)) (Option.some_ne_none (ssrc, y))
        simp [read_fid hs hfid, hsim]
      · rw [read_cname hs hcname, hasSimulcast_readAttributes]
    · push Not at hn
      rw [read_unnamed hs hn, hasSimulcast_checkSim]
  · rw [read_known hs, hasSimulcast_readAttributes]

theorem hasSimulcast_foldl :
    (lines.foldl read s).hasSimulcast = (s.hasSimulcast || lines.any isSimLine) := by
  induction lines generalizing s with
  | nil => simp
  | cons line lines ih => rw [List.foldl_cons, ih, hasSimulcast_read, List.any_cons, Bool.or_assoc]

theorem foldl_known (hs : s.ssrc ≠ "") (lines : List String) :
    (lines.foldl read s).ssrc = s.ssrc ∧
      ∀ a, (lines.foldl read s).value a ≠ "" ↔
        s.value a ≠ "" ∨ ∃ line ∈ lines, (a.valueIn s.ssrc line).isSome := by
  induction lines generalizing s with
  | nil => simp
  | cons line lines ih =>
    have hssrc : (s.read line).ssrc = s.ssrc := by rw [read_known hs, readAttributes_ssrc.1]
    obtain ⟨hkeep, hvalue⟩ := ih (hssrc.trans_ne hs)
    refine ⟨hkeep.trans hssrc, fun a => ?_⟩
    rw [List.foldl_cons, hvalue, hssrc, read_known hs, value_readAttributes hs]
    simp [or_assoc]

theorem foldl_unnamed (hs : s.ssrc = "") (h : ∀ line ∈ lines, ∀ ssrc, ¬ Names line ssrc) :
    (lines.foldl read s).ssrc = "" ∧ ∀ a, (lines.foldl read s).value a = s.value a := by
  induction lines generalizing s with
  | nil => simp [hs]
  | cons line lines ih =>
    rw [List.forall_mem_cons] at h
    have hread := read_unnamed hs h.1
    have hssrc : (s.read line).ssrc = "" := by rw [hread, ssrc_checkSim, hs]
    obtain ⟨hkeep, hvalue⟩ := ih hssrc h.2
    refine ⟨hkeep, fun a => ?_⟩
    rw [List.foldl_cons, hvalue, hread, value_checkSim]

end Stream

/-- The lines name a stream, and from the line that names it on give each of its attributes. -/
def Describes (lines : List String) : Prop :=
  ∃ before first after ssrc, lines = before ++ first :: after ∧
    (∀ line ∈ before, ∀ ssrc, ¬ Names line ssrc) ∧ Names first ssrc ∧
    ∀ a : Attribute, ∃ line ∈ first :: after, (a.valueIn ssrc line).isSome

theorem exists_first_names (h : ∃ line ∈ lines, ∃ ssrc, Names line ssrc) :
    ∃ before first after ssrc, lines = before ++ first :: after ∧
      (∀ line ∈ before, ∀ ssrc, ¬ Names line ssrc) ∧ Names first ssrc := by
  induction lines with
  | nil => simp at h
  | cons line lines ih =>
    by_cases hline : ∃ ssrc, Names line ssrc
    · obtain ⟨ssrc, hn⟩ := hline
      exact ⟨[], line, lines, ssrc, rfl, by simp, hn⟩
    · rw [List.exists_mem_cons_iff] at h
      obtain ⟨before, first, after, ssrc, rfl, hb, hn⟩ := ih (h.resolve_left hline)
      push Not at hline
      exact ⟨line :: before, first, after, ssrc, rfl, List.forall_mem_cons.mpr ⟨hline, hb⟩, hn⟩

theorem Names.ne_empty (h : Names line ssrc) : ssrc ≠ "" := by
  rcases h with ⟨y, hfid⟩ | ⟨y, hcname⟩
  · exact (parsePair_ne_empty hfid).1
  · exact (parsePair_ne_empty hcname).1

namespace Stream

theorem foldl_named {before : List String} {first : String} (hs : s.ssrc = "")
    (hb : ∀ line ∈ before, ∀ ssrc, ¬ Names line ssrc) (hn : Names first ssrc)
    (after : List String) :
    ((before ++ first :: after).foldl read s).ssrc = ssrc ∧
      ∀ a, ((before ++ first :: after).foldl read s).value a ≠ "" ↔
        s.value a ≠ "" ∨ ∃ line ∈ first :: after, (a.valueIn ssrc line).isSome := by
  obtain ⟨hempty, hsame⟩ := foldl_unnamed hs hb
  obtain ⟨hssrc, hfirst⟩ := read_names hempty hn
  obtain ⟨hkeep, hvalue⟩ := foldl_known (hssrc.trans_ne hn.ne_empty) after
  rw [List.foldl_append, List.foldl_cons]
  refine ⟨hkeep.trans hssrc, fun a => ?_⟩
  rw [hvalue, hfirst, hsame, hssrc]
  simp [or_assoc]

theorem ssrc_foldl (hs : s.ssrc = "") :
    (lines.foldl read s).ssrc = "" ↔ ∀ line ∈ lines, ∀ ssrc, ¬ Names line ssrc := by
  constructor
  · intro h
    by_contra hn
    push Not at hn
    obtain ⟨before, first, after, ssrc, rfl, hb, hfirst⟩ := exists_first_names hn
    exact hfirst.ne_empty ((foldl_named hs hb hfirst after).1.symm.trans h)
  · intro h
    exact (foldl_unnamed hs h).1

theorem complete_iff : s.Complete ↔ s.ssrc ≠ "" ∧ ∀ a, s.value a ≠ "" := by
  constructor
  · intro ⟨hssrc, hcname, hmslabel, hlabel⟩
    refine ⟨hssrc, fun a => ?_⟩
    cases a with
    | cname => exact hcname
    | mslabel => exact hmslabel
    | label => exact hlabel
  · intro ⟨hssrc, hvalue⟩
    exact ⟨hssrc, hvalue .cname, hvalue .mslabel, hvalue .label⟩

/-- The scan finds all it needs exactly if the lines it reads describe a stream. -/
theorem complete_foldl (hs : s.ssrc = "") (hvalue : ∀ a, s.value a = "") :
    (lines.foldl read s).Complete ↔ Describes lines := by
  rw [complete_iff]
  constructor
  · intro ⟨hssrc, hall⟩
    have hn : ∃ line ∈ lines, ∃ ssrc, Names line ssrc := by
      by_contra hn
      push Not at hn
      exact hssrc ((ssrc_foldl hs).mpr hn)
    obtain ⟨before, first, after, ssrc, rfl, hb, hfirst⟩ := exists_first_names hn
    refine ⟨before, first, after, ssrc, rfl, hb, hfirst, fun a => ?_⟩
    have ha := ((foldl_named hs hb hfirst after).2 a).mp (hall a)
    exact ha.resolve_left (not_not_intro (hvalue a))
  · rintro ⟨before, first, after, ssrc, rfl, hb, hfirst, hall⟩
    obtain ⟨hssrc, hiff⟩ := foldl_named hs hb hfirst after
    exact ⟨hssrc.trans_ne hfirst.ne_empty, fun a => (hiff a).mpr (.inr (hall a))⟩

end Stream

variable {st : ScanState} {i k : ℕ}

/-- A line of a section that is read goes to the stream, and no other line does. -/
theorem scanLine_stream :
    (scanLine i st line).stream =
      if parseMline line = none ∧ st.video then st.stream.read line else st.stream := by
  unfold scanLine
  cases hm : parseMline line with
  | none => cases hv : st.video <;> simp
  | some type => cases hv : st.video <;> by_cases htype : type = "video" <;> simp [htype]

theorem scanFrom_append {more : List String} :
    scanFrom i st (lines ++ more) = scanFrom (i + lines.length) (scanFrom i st lines) more := by
  induction lines generalizing i st with
  | nil => rfl
  | cons line lines ih =>
    rw [List.cons_append, scanFrom, scanFrom, ih, List.length_cons, Nat.add_right_comm,
      Nat.add_assoc]

theorem scan_append {more : List String} :
    scan (lines ++ more) = scanFrom lines.length (scan lines) more := by
  rw [scan, scanFrom_append, Nat.zero_add, scan]

theorem scan_take_succ (h : i < lines.length) :
    scan (lines.take (i + 1)) = scanLine i (scan (lines.take i)) lines[i] := by
  rw [List.take_add_one, List.getElem?_eq_getElem h, Option.toList_some, scan_append,
    List.length_take_of_le h.le]
  rfl

/-- The field is found in line `i`. -/
def TakenAt (f : Stream → String) (lines : List String) (i : ℕ) : Prop :=
  f (scan (lines.take i)).stream = "" ∧ f (scan (lines.take (i + 1))).stream ≠ ""

/-- The ssrc is found in a line that gives a second one for retransmission. -/
def SsrcFromFid (lines : List String) : Prop :=
  ∃ i line, TakenAt Stream.ssrc lines i ∧ lines[i]? = some line ∧ (parseFid line).isSome

end SDPUtils
end MediasoupSdk
