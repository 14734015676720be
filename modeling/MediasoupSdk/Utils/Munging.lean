import MediasoupSdk.Utils.StreamScan

/-! What the munging of a description adds to it, and what it leaves as it was. -/
namespace MediasoupSdk
open Foundation
namespace SDPUtils

variable {s : Stream} {line group : String} {lines : List String} {draws : ℕ → Draw} {n k : ℕ}
  {simulcast : ℤ}

theorem Stream.ssrcFid_read :
    (s.read line).ssrcFid ≠ "" ↔
      s.ssrcFid ≠ "" ∨ s.ssrc = "" ∧ (s.read line).ssrc ≠ "" ∧ (parseFid line).isSome := by
  by_cases hs : s.ssrc = ""
  · cases hfid : parseFid line with
    | some v =>
      obtain ⟨hx, hy⟩ := parsePair_ne_empty hfid
      simp [read_fid hs hfid, hs, hx, hy]
    | none =>
      cases hcname : parseCname line with
      | some v => simp [read_cname hs hcname, readAttributes_ssrc.2]
      | none =>
        have hn : ∀ ssrc, ¬ Names line ssrc := by simp [Names, hfid, hcname]
        simp [read_unnamed hs hn]
  · simp [read_known hs, readAttributes_ssrc.2, hs]

theorem ssrcFid_scan_take (hk : k ≤ lines.length) :
    (scan (lines.take k)).stream.ssrcFid ≠ "" ↔
      ∃ i < k, ∃ line, TakenAt Stream.ssrc lines i ∧ lines[i]? = some line ∧
        (parseFid line).isSome := by
  induction k with
  | zero => simp [scan, scanFrom]
  | succ k ih =>
    have hlast : lines[k]? = some lines[k] := List.getElem?_eq_getElem hk
    have hstep : (scan (lines.take (k + 1))).stream.ssrcFid ≠ "" ↔
        (scan (lines.take k)).stream.ssrcFid ≠ "" ∨
          TakenAt Stream.ssrc lines k ∧ (parseFid lines[k]).isSome := by
      unfold TakenAt
      rw [scan_take_succ hk, scanLine_stream]
      split_ifs
      · rw [Stream.ssrcFid_read, and_assoc]
      · simp
    rw [hstep, ih (Nat.le_of_succ_le hk), Nat.exists_lt_succ_right]
    simp [hlast]

theorem ssrcFid_scan : (scan lines).stream.ssrcFid ≠ "" ↔ SsrcFromFid lines := by
  have hall := ssrcFid_scan_take (le_refl lines.length)
  rw [List.take_length] at hall
  rw [hall, SsrcFromFid]
  constructor
  · rintro ⟨i, -, hi⟩
    exact ⟨i, hi⟩
  · rintro ⟨i, line, htaken, hline, hfid⟩
    exact ⟨i, (List.getElem?_eq_some_iff.mp hline).1, line, htaken, hline, hfid⟩

/-- The lines that give the attributes of a stream to an ssrc. -/
def ssrcLines (s : Stream) (ssrc : String) : List String :=
  ["a=ssrc:" ++ ssrc ++ " cname:" ++ s.cname ++ "\r",
    "a=ssrc:" ++ ssrc ++ " msid:" ++ s.mslabel ++ " " ++ s.label ++ "\r",
    "a=ssrc:" ++ ssrc ++ " mslabel:" ++ s.mslabel ++ "\r",
    "a=ssrc:" ++ ssrc ++ " label:" ++ s.label ++ "\r"]

/-- The lines of one injected stream, given its primary and its second ssrc. -/
def groupLines (s : Stream) (fid : Bool) (ssrcs : String × String) : List String :=
  if fid then
    ["a=ssrc-group:FID " ++ ssrcs.1 ++ " " ++ ssrcs.2 ++ "\r"] ++ ssrcLines s ssrcs.1 ++
      ssrcLines s ssrcs.2
  else ssrcLines s ssrcs.1

/-- The line that groups the primary ssrcs with the original one. -/
def simLine (s : Stream) (primaries : List String) : String :=
  "a=ssrc-group:SIM " ++ " ".intercalate (s.ssrc :: primaries) ++ "\r"

theorem simLine_eq {primaries : List String} :
    simLine s primaries =
      "a=ssrc-group:SIM " ++ (" ".intercalate (s.ssrc :: primaries) ++ "\r") :=
  String.append_assoc

/-- The pairs that a run of the generator draws. -/
def drawnSsrcs : ℕ → (ℕ → Draw) → List (String × String)
  | 0, _ => []
  | n + 1, draws => (genSsrc (draws 0), genSsrc (draws 1)) :: drawnSsrcs n fun k => draws (k + 2)

@[simp] theorem length_drawnSsrcs : (drawnSsrcs n draws).length = n := by
  induction n generalizing draws with
  | zero => rfl
  | succ n ih => rw [drawnSsrcs, List.length_cons, ih]

theorem injectSsrcAndFid_eq {fid : Bool} :
    injectSsrcAndFid draws lines s.cname s.mslabel s.label fid =
      (genSsrc (draws 0),
        lines ++ groupLines s fid (genSsrc (draws 0), genSsrc (draws 1))) := by
  cases fid with
  | true => simp [injectSsrcAndFid, injectSsrc, groupLines, ssrcLines]
  | false => simp [injectSsrcAndFid, injectSsrc, groupLines, ssrcLines]

theorem simulcastLoop_eq :
    simulcastLoop s n draws lines group =
      (lines ++ (drawnSsrcs n draws).flatMap (groupLines s (s.ssrcFid ≠ "")),
        ((drawnSsrcs n draws).map Prod.fst).foldl (fun r ssrc => r ++ " " ++ ssrc) group) := by
  induction n generalizing draws lines group with
  | zero => simp [simulcastLoop, drawnSsrcs]
  | succ n ih =>
    simp only [simulcastLoop, injectSsrcAndFid_eq, ih, drawnSsrcs, List.flatMap_cons,
      List.map_cons, List.foldl_cons, List.append_assoc]

/-- Texts added one by one after a separator. -/
theorem foldl_separated {separator start first : String} :
    lines.foldl (fun r line => r ++ separator ++ line) (start ++ first) =
      start ++ separator.intercalate (first :: lines) := by
  induction lines generalizing first with
  | nil => simp
  | cons line lines ih =>
    rw [List.foldl_cons, String.append_assoc, String.append_assoc, ih,
      String.intercalate_cons_append, String.intercalate_cons_append,
      String.intercalate_cons_cons, String.append_assoc]

theorem simulcastLines_eq :
    simulcastLines s n draws =
      (drawnSsrcs n draws).flatMap (groupLines s (s.ssrcFid ≠ "")) ++
        [simLine s ((drawnSsrcs n draws).map Prod.fst)] := by
  rw [simulcastLines, simulcastLoop_eq]
  dsimp only
  rw [foldl_separated, List.nil_append]
  rfl

theorem injectSimulcast_eq :
    injectSimulcast simulcast lines draws = lines ∨
      (simulcast = 1 ∨ simulcast = 2) ∧
        injectSimulcast simulcast lines draws =
          lines.take (insertAt lines) ++
              simulcastLines (scan lines).stream simulcast.toNat draws ++
            lines.drop (insertAt lines) := by
  unfold injectSimulcast
  dsimp only
  split_ifs with hrange
  · exact .inl rfl
  · exact .inr ⟨by omega, rfl⟩
  · exact .inl rfl

/-- Lines are injected exactly if the scan has found a stream and no simulcast. -/
theorem injectSimulcast_ne_iff :
    injectSimulcast simulcast lines draws ≠ lines ↔
      (simulcast = 1 ∨ simulcast = 2) ∧ (scan lines).stream.hasSimulcast = false ∧
        (scan lines).stream.Complete := by
  unfold injectSimulcast
  dsimp only
  split_ifs with hrange hfound
  · have hn : ¬ (simulcast = 1 ∨ simulcast = 2) := by omega
    simp [hn]
  · have hn : simulcast = 1 ∨ simulcast = 2 := by omega
    have hne : lines.take (insertAt lines) ++
        simulcastLines (scan lines).stream simulcast.toNat draws ++
          lines.drop (insertAt lines) ≠ lines := by
      intro heq
      have hlength := congrArg List.length heq
      rw [simulcastLines_eq] at hlength
      simp only [List.length_append, List.length_take, List.length_drop, List.length_singleton]
        at hlength
      omega
    exact iff_of_true hne ⟨hn, hfound⟩
  · simp only [ne_eq, not_true_eq_false, false_iff, not_and]
    intro _ hsim hcomplete
    exact hfound ⟨hsim, hcomplete⟩

/-- The description keeps its lines in their order around the lines that are injected, which are
one group for each simulcast stream and the line that groups them. -/
theorem injectSimulcast_frame (simulcast : ℤ) (lines : List String) (draws : ℕ → Draw) :
    injectSimulcast simulcast lines draws = lines ∨
      (simulcast = 1 ∨ simulcast = 2) ∧ ∃ (before block after : List String)
          (ssrcs : List (String × String)) (fid : Bool),
        lines = before ++ after ∧
        injectSimulcast simulcast lines draws = before ++ block ++ after ∧
        (ssrcs.length : ℤ) = simulcast ∧ (fid = true ↔ SsrcFromFid lines) ∧
        block = ssrcs.flatMap (groupLines (scan lines).stream fid) ++
          [simLine (scan lines).stream (ssrcs.map Prod.fst)] := by
  refine injectSimulcast_eq.imp id fun ⟨hrange, heq⟩ => ⟨hrange, lines.take (insertAt lines),
    simulcastLines (scan lines).stream simulcast.toNat draws, lines.drop (insertAt lines),
    drawnSsrcs simulcast.toNat draws, decide ((scan lines).stream.ssrcFid ≠ ""), ?_, heq, ?_, ?_,
    simulcastLines_eq⟩
  · rw [List.take_append_drop]
  · rw [length_drawnSsrcs]
    omega
  · rw [decide_eq_true_iff, ssrcFid_scan]

theorem join_eq {separator : String} : join lines separator = separator.intercalate lines := by
  have hrest (i : ℕ) (result : String) (lines : List String) :
      joinFrom separator (i + 1) result lines =
        lines.foldl (fun r line => r ++ separator ++ line) result := by
    induction lines generalizing i result with
    | nil => rfl
    | cons line lines ih => simp [joinFrom, ih]
  cases lines with
  | nil => simp [join, joinFrom]
  | cons first lines =>
    have hfirst : "" ++ first = first := String.empty_append
    rw [join, joinFrom, hrest, if_neg (not_not_intro rfl)]
    exact foldl_separated.trans String.empty_append

theorem toList_join {delim : Char} :
    (join lines delim.toString).toList = [delim].intercalate (lines.map String.toList) := by
  rw [join_eq, String.toList_intercalate]
  simp

/-- A text without the delimiter at its end, if there is one. -/
def unterminated (delim : Char) (str : String) : String := .ofList (chomp delim str.toList)

theorem join_split {str : String} {delim : Char} :
    join (split str delim) delim.toString = unterminated delim str := by
  rw [← String.toList_inj, toList_join, split, List.map_map, unterminated, String.toList_ofList,
    ← intercalate_delimited]
  simp [Function.comp_def]

theorem map_dropFinalEmpty :
    (dropFinalEmpty (lines.map String.toList)).map String.ofList =
      if lines.getLast? = some "" then lines.dropLast else lines := by
  have hlast : (lines.map String.toList).getLast? = some [] ↔ lines.getLast? = some "" := by
    simp [List.getLast?_map]
  unfold dropFinalEmpty
  simp only [hlast]
  split_ifs
  · simp [← List.map_dropLast, Function.comp_def]
  · simp [Function.comp_def]

theorem split_join {delim : Char} (h : ∀ line ∈ lines, delim ∉ line.toList) :
    split (join lines delim.toString) delim =
      if lines.getLast? = some "" then lines.dropLast else lines := by
  have hitems : ∀ item ∈ lines.map String.toList, delim ∉ item := by
    simpa using h
  rw [split, toList_join, delimited_intercalate hitems, map_dropFinalEmpty]

/-- Splitting and joining undo each other up to a delimiter at the end of the text, or an empty
last line, and with the injection between them only the injected lines are added. -/
theorem munging_exact (str : String) (delim : Char) (lines : List String) (simulcast : ℤ)
    (draws : ℕ → Draw) :
    join (split str delim) delim.toString = unterminated delim str ∧
      ((∀ line ∈ lines, delim ∉ line.toList) →
        split (join lines delim.toString) delim =
          if lines.getLast? = some "" then lines.dropLast else lines) ∧
      ∃ before block after : List String, split str delim = before ++ after ∧
        injectSimulcast simulcast (split str delim) draws = before ++ block ++ after ∧
        join (before ++ after) delim.toString = unterminated delim str := by
  refine ⟨join_split, split_join, ?_⟩
  rcases @injectSimulcast_eq (split str delim) draws simulcast with hsame | ⟨-, heq⟩
  · refine ⟨split str delim, [], [], (List.append_nil _).symm, ?_, ?_⟩
    · rw [hsame, List.append_nil, List.append_nil]
    · rw [List.append_nil, join_split]
  · refine ⟨_, _, _, (List.take_append_drop (insertAt (split str delim)) _).symm, heq, ?_⟩
    rw [List.take_append_drop, join_split]

example : join (split "v=0\n\nm=\n" '\n') "\n" = "v=0\n\nm=" := by decide

end SDPUtils
end MediasoupSdk
