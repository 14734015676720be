import MediasoupSdk.Utils.Renegotiation

/-! The injected lines, read back. In the patterns each run is stopped by the literal after it, so
that a line written with a stream's values is parsed as these values. -/
namespace MediasoupSdk
open Foundation
namespace SDPUtils

variable {line lit ssrc x y : String} {a : Attribute} {lines : List String} {s : Stream}
  {pieces : List (Piece Char)} {draws : ℕ → Draw} {n : ℕ}

/-- Only letters are changed, and they become small letters. -/
theorem eq_of_toLower {c d : Char} (h : c.toLower = d) (hd : d.toNat < 97) : c = d := by
  rw [← h] at hd
  delta Char.toLower at h hd
  split_ifs at h hd with hcase
  · obtain ⟨hlow, hhigh⟩ := hcase
    simp only [Char.toNat, ge_iff_le, UInt32.le_iff_toNat_le, UInt32.toNat_add] at hlow hhigh hd
    have hsmall : 'A'.val.toNat = 65 ∧ 'Z'.val.toNat = 90 ∧ ('a'.val - 'A'.val).toNat = 32 := by
      decide
    omega
  · exact h

/-- A blank or a line end, which differ in no case, stop both kinds of runs. -/
theorem stops_of_control {p : Char → Bool} {c : Char} {text : List Char} (hc : c.toNat < 65)
    (hp : p c = false) : Stops Char.toLower p (.literal (c :: text) :: pieces) := by
  intro b hb
  have hsame : c.toLower = c := by
    delta Char.toLower
    rw [dif_neg]
    rintro ⟨hlow, -⟩
    rw [ge_iff_le, UInt32.le_iff_toNat_le] at hlow
    have hsmall : 'A'.val.toNat = 65 := by decide
    rw [Char.toNat] at hc
    omega
  rw [hsame] at hb
  rw [eq_of_toLower hb (by omega), hp]

theorem separated_mline : Separated Char.toLower mlinePieces :=
  ⟨stops_of_control (by decide) (by decide), trivial⟩

theorem separated_fid : Separated Char.toLower fidPieces :=
  ⟨stops_of_control (by decide) (by decide), stops_of_control (by decide) (by decide), trivial⟩

theorem separated_attribute (a : Attribute) :
    Separated Char.toLower (attributePieces a.name) := by
  have hname : ∃ rest, a.name.toList = ' ' :: rest := by
    cases a <;> exact ⟨_, rfl⟩
  obtain ⟨rest, hname⟩ := hname
  rw [attributePieces, hname]
  exact ⟨stops_of_control (by decide) (by decide), stops_of_control (by decide) (by decide),
    trivial⟩

theorem parsePair_iff (hs : Separated Char.toLower pieces) :
    parsePair pieces line = some (x, y) ↔
      Matches Char.toLower pieces line.toList [x.toList, y.toList] [] := by
  rw [← matchPieces_iff hs]
  constructor
  · exact parsePair_eq_some
  · intro h
    rw [parsePair, h]
    simp

theorem parseMline_iff :
    parseMline line = some x ↔
      ∃ rest, Matches Char.toLower mlinePieces line.toList [x.toList] rest := by
  simp only [← matchPieces_iff separated_mline]
  unfold parseMline
  constructor
  · intro h
    split at h
    · next type rest hmatch =>
      rw [← Option.some.inj h, String.toList_ofList]
      exact ⟨rest, hmatch⟩
    · exact absurd h (Option.some_ne_none x).symm
  · rintro ⟨rest, hmatch⟩
    rw [hmatch]
    simp

/-- One or more characters of a class. -/
def AllOf (p : Char → Bool) (str : String) : Prop := str ≠ "" ∧ ∀ c ∈ str.toList, p c

theorem AllOf.toList_ne_nil {p : Char → Bool} (h : AllOf p x) : x.toList ≠ [] := by
  intro hnil
  exact h.1 (String.toList_inj.mp hnil)

/-- A line with the values of an attribute is parsed as these values. -/
theorem Attribute.parse_written (hx : AllOf Char.isDigit x) (hy : AllOf notSpace y) :
    a.parse ("a=ssrc:" ++ x ++ a.name ++ y ++ "\r") = some (x, y) := by
  rw [Attribute.parse_eq, parsePair_iff (separated_attribute a)]
  simp only [String.toList_append, List.append_assoc]
  exact .literal rfl (.run hx.toList_ne_nil hx.2
    (.literal rfl (.run hy.toList_ne_nil hy.2 (.literal rfl (.nil [])))))

theorem parseFid_written (hx : AllOf Char.isDigit x) (hy : AllOf Char.isDigit y) :
    parseFid ("a=ssrc-group:FID " ++ x ++ " " ++ y ++ "\r") = some (x, y) := by
  rw [parseFid, parsePair_iff separated_fid]
  simp only [String.toList_append, List.append_assoc]
  exact .literal rfl (.run hx.toList_ne_nil hx.2
    (.literal rfl (.run hy.toList_ne_nil hy.2 (.literal rfl (.nil [])))))

/-- A parsed value has no white space. -/
theorem Attribute.parse_allOf (h : a.parse line = some (x, y)) : AllOf notSpace y := by
  rw [Attribute.parse_eq] at h
  have hclasses := (matchPieces_sound (parsePair_eq_some h)).captures_inClass
  obtain ⟨-, hclasses⟩ := List.forall₂_cons.mp hclasses
  exact ⟨(parsePair_ne_empty h).2, (List.forall₂_cons.mp hclasses).1⟩

theorem genSsrc_allOf (draw : Draw) : AllOf Char.isDigit (genSsrc draw) := by
  constructor
  · intro hempty
    have hlength := congrArg (fun str : String => str.toList.length) hempty
    simp only [genSsrc, String.toList_ofList, List.length_leftpad, String.toList_empty,
      List.length_nil] at hlength
    omega
  · intro c hc
    rw [genSsrc, String.toList_ofList, List.leftpad, List.mem_append] at hc
    rcases hc with hzero | hdigit
    · rw [List.eq_of_mem_replicate hzero]
      rfl
    · rw [Nat.toString_eq_repr, Nat.toList_repr] at hdigit
      exact Nat.isDigit_of_mem_toDigits (by decide) (by decide) hdigit

namespace Stream

theorem value_foldl (h : ∀ a, s.value a = "" ∨ AllOf notSpace (s.value a)) (a : Attribute) :
    (lines.foldl read s).value a = "" ∨ AllOf notSpace ((lines.foldl read s).value a) := by
  induction lines generalizing s with
  | nil => exact h a
  | cons line lines ih =>
    apply ih
    intro b
    rcases @value_read_eq line s b with hsame | ⟨ssrc, hparsed⟩
    · rw [hsame]
      exact h b
    · exact .inr (Attribute.parse_allOf hparsed)

end Stream

theorem value_scan (a : Attribute) (h : (scan lines).stream.value a ≠ "") :
    AllOf notSpace ((scan lines).stream.value a) := by
  have hempty : ∀ b, ({} : Stream).value b = "" ∨ AllOf notSpace (({} : Stream).value b) := by
    intro b
    cases b <;> exact .inl rfl
  have hscan := (scanAt_lines (Description.ofLines lines)).stream
  rw [Description.ofLines_lines] at hscan
  rw [hscan] at h ⊢
  exact (Stream.value_foldl hempty a).resolve_left h

theorem isSimLine_ssrc (rest : String) : isSimLine ("a=ssrc:" ++ rest) = false := by
  have hclash : Clash Char.toLower "a=ssrc-group:SIM ".toList "a=ssrc:".toList := by decide
  have hstarts : "a=ssrc:".toList <+: ("a=ssrc:" ++ rest).toList := by
    rw [String.toList_append]
    exact List.prefix_append _ _
  by_contra hsim
  rw [Bool.not_eq_false, isSimLine, List.isPrefixOf_iff_prefix] at hsim
  have hnone : matchPieces Char.toLower [.literal "a=ssrc:".toList] ("a=ssrc:" ++ rest).toList =
      none := matchPieces_clash_literal hclash (matchPieces_of_starts hsim)
  rw [matchPieces_of_starts hstarts] at hnone
  exact absurd hnone (Option.some_ne_none _)

/-- The line that gives the names of stream and track at once is not parsed. -/
theorem Attribute.parse_msid (hx : AllOf Char.isDigit x) (rest : String) :
    a.parse ("a=ssrc:" ++ x ++ " msid:" ++ rest) = none := by
  have hclash : Clash Char.toLower " msid:".toList a.name.toList := by cases a <;> decide
  have hsep : Separated Char.toLower
      ([.literal "a=ssrc:".toList, .run Char.isDigit] ++ [.literal " msid:".toList]) :=
    ⟨stops_of_control (by decide) (by decide), trivial⟩
  have hmatch : Matches Char.toLower
      ([.literal "a=ssrc:".toList, .run Char.isDigit] ++ [.literal " msid:".toList])
      ("a=ssrc:" ++ x ++ " msid:" ++ rest).toList [x.toList] rest.toList := by
    simp only [String.toList_append, List.append_assoc]
    exact .literal rfl (.run hx.toList_ne_nil hx.2 (.literal rfl (.nil rest.toList)))
  rw [Attribute.parse_eq]
  exact parsePair_eq_none (matchPieces_clash hclash (matchPieces_complete hsep hmatch))

namespace Stream

/-- A line that gives none of the missing attributes. -/
theorem readAttributes_same (hs : s.ssrc ≠ "") (hnone : ∀ a, s.value a = "" → a.parse line = none)
    (hsim : isSimLine line = false) : s.readAttributes line = s := by
  rcases readAttributes_cases hs line with ⟨b, x, hb, hx, -⟩ | ⟨-, heq⟩
  · rw [Attribute.valueIn_of_none (hnone b hb)] at hx
    exact absurd hx (Option.some_ne_none x).symm
  · rw [heq, checkSim, hsim]
    rfl

/-- A line that gives a missing attribute. -/
theorem readAttributes_set (hs : s.ssrc ≠ "") (hmissing : s.value a = "")
    (hparse : a.parse line = some (s.ssrc, y)) : s.readAttributes line = s.set y a := by
  have hin : a.valueIn s.ssrc line = some y := by
    rw [Attribute.valueIn, hparse, ofSsrc, if_pos rfl]
  rcases readAttributes_cases hs line with ⟨b, x, -, hx, heq⟩ | ⟨hnone, -⟩
  · have hb : b = a := by
      by_contra hne
      have hclash := Attribute.parse_clash hne (Attribute.valueIn_eq_some hx)
      rw [hparse] at hclash
      exact absurd hclash (Option.some_ne_none _)
    subst hb
    rw [hin, Option.some.injEq] at hx
    rw [heq, hx]
  · rw [hnone a hmissing] at hin
    exact absurd hin (Option.some_ne_none y).symm

/-- Once all is found, the lines only tell whether there is a simulcast. -/
theorem foldl_complete (hs : s.Complete) (lines : List String) :
    lines.foldl read s = { s with hasSimulcast := s.hasSimulcast || lines.any isSimLine } := by
  induction lines generalizing s with
  | nil => simp
  | cons line lines ih =>
    obtain ⟨hssrc, hvalue⟩ := complete_iff.mp hs
    have hread : s.read line = s.checkSim line := by
      rw [read_known hssrc]
      rcases readAttributes_cases hssrc line with ⟨b, x, hb, -, -⟩ | ⟨-, heq⟩
      · exact absurd hb (hvalue b)
      · exact heq
    have hcomplete : (s.checkSim line).Complete := by
      rw [complete_iff, ssrc_checkSim]
      exact ⟨hssrc, fun a => by rw [value_checkSim]; exact hvalue a⟩
    rw [List.foldl_cons, hread, ih hcomplete, hasSimulcast_checkSim, List.any_cons, Bool.or_assoc]
    unfold checkSim
    split_ifs <;> rfl

/-- The lines after the one with the canonical name. -/
theorem foldl_ssrcLines {t : Stream} (hx : AllOf Char.isDigit s.ssrc)
    (hvalue : ∀ a, AllOf notSpace (t.value a)) (hmslabel : s.mslabel = "") (hlabel : s.label = "") :
    (ssrcLines t s.ssrc).tail.foldl read s =
      { s with mslabel := t.mslabel, label := t.label } := by
  have hmsid : s.read ("a=ssrc:" ++ s.ssrc ++ " msid:" ++ t.mslabel ++ " " ++ t.label ++ "\r") =
      s := by
    rw [read_known hx.1]
    refine readAttributes_same hx.1 (fun a _ => ?_) ?_
    · simpa only [String.append_assoc] using
        Attribute.parse_msid (a := a) hx (t.mslabel ++ (" " ++ (t.label ++ "\r")))
    · simpa only [String.append_assoc] using isSimLine_ssrc _
  have hms : s.read ("a=ssrc:" ++ s.ssrc ++ " mslabel:" ++ t.mslabel ++ "\r") =
      s.set t.mslabel .mslabel := by
    rw [read_known hx.1]
    exact readAttributes_set hx.1 hmslabel (Attribute.parse_written hx (hvalue .mslabel))
  have hl : (s.set t.mslabel .mslabel).read ("a=ssrc:" ++ s.ssrc ++ " label:" ++ t.label ++ "\r") =
      (s.set t.mslabel .mslabel).set t.label .label := by
    have hne : (s.set t.mslabel .mslabel).ssrc ≠ "" := hx.1
    rw [read_known hne]
    exact readAttributes_set hne hlabel (Attribute.parse_written hx (hvalue .label))
  simp only [ssrcLines, List.tail_cons, List.foldl_cons, List.foldl_nil, hmsid, hms, hl]
  rfl

/-- The lines of an ssrc, read when it is known or not. -/
theorem foldl_ssrcLines_first {t : Stream} (hx : AllOf Char.isDigit x)
    (hvalue : ∀ a, AllOf notSpace (t.value a)) (hs : s.ssrc = "" ∨ s.ssrc = x)
    (hempty : ∀ a, s.value a = "") :
    (ssrcLines t x).foldl read s =
      { s with ssrc := x, cname := t.cname, mslabel := t.mslabel, label := t.label } := by
  have hparse : Attribute.cname.parse ("a=ssrc:" ++ x ++ " cname:" ++ t.cname ++ "\r") =
      some (x, t.cname) := Attribute.parse_written hx (hvalue .cname)
  have hfirst : s.read ("a=ssrc:" ++ x ++ " cname:" ++ t.cname ++ "\r") =
      { s with ssrc := x, cname := t.cname } := by
    rcases hs with hs | hs
    · rw [read_cname hs hparse]
      refine readAttributes_same hx.1 (fun a ha => ?_) ?_
      · cases a with
        | cname => exact absurd ha (hvalue .cname).1
        | mslabel => exact Attribute.parse_clash Attribute.noConfusion hparse
        | label => exact Attribute.parse_clash Attribute.noConfusion hparse
      · simpa only [String.append_assoc] using isSimLine_ssrc _
    · subst hs
      rw [read_known hx.1]
      exact readAttributes_set hx.1 (hempty .cname) hparse
  have htail := foldl_ssrcLines (s := { s with ssrc := x, cname := t.cname }) hx hvalue
    (hempty .mslabel) (hempty .label)
  rw [ssrcLines, List.foldl_cons, hfirst]
  exact htail

/-- A group of lines is read as the stream that it was written for, under its own ssrcs. -/
theorem foldl_groupLines {t : Stream} {fid : Bool} {rest : List String}
    (hx : AllOf Char.isDigit x) (hy : AllOf Char.isDigit y)
    (hvalue : ∀ a, AllOf notSpace (t.value a)) :
    (groupLines t fid (x, y) ++ rest).foldl read {} =
      { t with
        ssrc := x
        ssrcFid := if fid then y else ""
        hasSimulcast := (groupLines t fid (x, y) ++ rest).any isSimLine } := by
  have hempty (u : Stream) (hu : u.cname = "" ∧ u.mslabel = "" ∧ u.label = "") :
      ∀ a, u.value a = "" := by
    intro a
    cases a with
    | cname => exact hu.1
    | mslabel => exact hu.2.1
    | label => exact hu.2.2
  have hssrc (z : String) : (ssrcLines t z).any isSimLine = false := by
    simp only [ssrcLines, List.any_cons, List.any_nil, String.append_assoc, isSimLine_ssrc]
    rfl
  have hcomplete (u : Stream) (hu : u.ssrc = x ∧ ∀ a, u.value a = t.value a) : u.Complete := by
    rw [complete_iff, hu.1]
    exact ⟨hx.1, fun a => by rw [hu.2]; exact (hvalue a).1⟩
  cases fid with
  | true =>
    have hfid := parseFid_written hx hy
    have hsim : isSimLine ("a=ssrc-group:FID " ++ x ++ " " ++ y ++ "\r") = false := by
      by_contra hsim
      rw [Bool.not_eq_false] at hsim
      rw [parseFid_of_sim hsim] at hfid
      exact absurd hfid (Option.some_ne_none _).symm
    have hread : ({} : Stream).read ("a=ssrc-group:FID " ++ x ++ " " ++ y ++ "\r") =
        { ssrc := x, ssrcFid := y } := read_fid rfl hfid
    simp only [groupLines, if_true, List.append_assoc, List.cons_append, List.nil_append]
    rw [List.foldl_cons, hread, List.foldl_append,
      foldl_ssrcLines_first hx hvalue (Or.inr rfl) (hempty _ ⟨rfl, rfl, rfl⟩),
      foldl_complete (hcomplete _ ⟨rfl, fun a => by cases a <;> rfl⟩)]
    simp [hssrc, hsim]
  | false =>
    simp only [groupLines, Bool.false_eq_true, if_false]
    rw [List.foldl_append, foldl_ssrcLines_first hx hvalue (Or.inl rfl) (hempty _ ⟨rfl, rfl, rfl⟩),
      foldl_complete (hcomplete _ ⟨rfl, fun a => by cases a <;> rfl⟩)]
    simp [hssrc]

end Stream

/-- What is injected for a stream that was found is read as this stream, under the first ssrcs that
were drawn and with a simulcast: the parsers undo the writers. -/
theorem simulcastLines_read_back (h : (scan lines).stream.Complete) :
    (simulcastLines (scan lines).stream (n + 1) draws).foldl Stream.read {} =
      { (scan lines).stream with
        ssrc := genSsrc (draws 0)
        ssrcFid := if (scan lines).stream.ssrcFid = "" then "" else genSsrc (draws 1)
        hasSimulcast := true } := by
  have hvalue := (Stream.complete_iff.mp h).2
  have hsim : (simulcastLines (scan lines).stream (n + 1) draws).any isSimLine = true :=
    any_isSimLine
  rw [simulcastLines_eq, drawnSsrcs, List.flatMap_cons, List.append_assoc] at hsim ⊢
  rw [Stream.foldl_groupLines (genSsrc_allOf _) (genSsrc_allOf _)
    fun a => value_scan a (hvalue a), hsim]
  simp

/-- With two streams injected for the ssrc 7, the first that was drawn is read. -/
theorem simulcastLines_read_back_twoVideos :
    (simulcastLines (scan twoVideos).stream 2 drawOne).foldl Stream.read {} =
      { ssrc := genSsrc (drawOne 0), cname := "c", mslabel := "m", label := "l",
        hasSimulcast := true } := by
  have hcomplete : (scan twoVideos).stream.Complete := by decide
  have hstream : (scan twoVideos).stream =
      { ssrc := "7", cname := "c", mslabel := "m", label := "l" } := by decide
  rw [simulcastLines_read_back hcomplete, hstream]
  rfl

end SDPUtils
end MediasoupSdk
