import MediasoupSdk.Foundation.Lines
import MediasoupSdk.Foundation.Pattern

/-! Munging of session descriptions: the lines of a text, and the injection of simulcast streams
next to the video stream that a description has. -/
namespace MediasoupSdk
open Foundation
namespace SDPUtils

/-- `\S` in the C locale. -/
def notSpace (c : Char) : Bool := c ≠ ' ' ∧ ¬ ('\t' ≤ c ∧ c ≤ '\r')

/-- A whole line with two captures. -/
def parsePair (pieces : List (Piece Char)) (line : String) : Option (String × String) :=
  match matchPieces Char.toLower pieces line.toList with
  | some ([first, second], []) => some (.ofList first, .ofList second)
  | _ => none

def mlinePieces : List (Piece Char) := [.literal "m=".toList, .run notSpace, .literal [' ']]

/-- The type; what comes after it is not looked at. -/
def parseMline (line : String) : Option String :=
  match matchPieces Char.toLower mlinePieces line.toList with
  | some ([type], _) => some (.ofList type)
  | _ => none

def fidPieces : List (Piece Char) :=
  [.literal "a=ssrc-group:FID ".toList, .run Char.isDigit, .literal [' '], .run Char.isDigit,
    .literal ['\r']]

def parseFid (line : String) : Option (String × String) := parsePair fidPieces line

/-- A line of a stream with one of its attributes. -/
def attributePieces (name : String) : List (Piece Char) :=
  [.literal "a=ssrc:".toList, .run Char.isDigit] ++
    .literal name.toList :: [.run notSpace, .literal ['\r']]

def parseCname (line : String) : Option (String × String) :=
  parsePair (attributePieces " cname:") line

def parseMslabel (line : String) : Option (String × String) :=
  parsePair (attributePieces " mslabel:") line

def parseLabel (line : String) : Option (String × String) :=
  parsePair (attributePieces " label:") line

/-- The range of the distribution. -/
def Draw : Type := { value : ℕ // 1 ≤ value ∧ value ≤ 0xFFFFFFFF }

/-- At least nine digits. -/
def genSsrc (draw : Draw) : String := .ofList ((toString draw.val).toList.leftpad 9 '0')

def injectSsrc (lines : List String) (ssrc cname mslabel label : String) : List String :=
  let assrc := "a=ssrc:" ++ ssrc
  lines ++ [assrc ++ " cname:" ++ cname ++ "\r",
    assrc ++ " msid:" ++ mslabel ++ " " ++ label ++ "\r",
    assrc ++ " mslabel:" ++ mslabel ++ "\r", assrc ++ " label:" ++ label ++ "\r"]

/-- Two ssrcs are drawn in any case; the first is returned. -/
def injectSsrcAndFid (draws : ℕ → Draw) (lines : List String) (cname mslabel label : String)
    (fid : Bool) : String × List String :=
  let ssrc := genSsrc (draws 0)
  let ssrcFid := genSsrc (draws 1)
  let lines :=
    if fid then lines ++ ["a=ssrc-group:FID " ++ ssrc ++ " " ++ ssrcFid ++ "\r"] else lines
  let lines := injectSsrc lines ssrc cname mslabel label
  (ssrc, if fid then injectSsrc lines ssrcFid cname mslabel label else lines)

/-- `std::getline` up to the end of the text. -/
def split (str : String) (delim : Char) : List String :=
  (delimited delim [] str.toList).map .ofList

/-- The loop from index `i` on. -/
def joinFrom (separator : String) (i : ℕ) (result : String) : List String → String
  | [] => result
  | line :: lines =>
    joinFrom separator (i + 1) ((if i ≠ 0 then result ++ separator else result) ++ line) lines

def join (lines : List String) (separator : String) : String := joinFrom separator 0 "" lines

/-- What the scan has found of the stream. -/
structure Stream where
  ssrc : String := ""
  ssrcFid : String := ""
  cname : String := ""
  mslabel : String := ""
  label : String := ""
  hasSimulcast : Bool := false
  deriving DecidableEq, Repr

structure ScanState where
  stream : Stream := {}
  index2inject : ℕ := 0
  video : Bool := false
  deriving DecidableEq, Repr

def isSimLine (line : String) : Bool := "a=ssrc-group:SIM ".toList.isPrefixOf line.toList

/-- The value in a line of the given ssrc. -/
def ofSsrc (ssrc : String) : Option (String × String) → Option String
  | some (tmpSsrc, value) => if tmpSsrc = ssrc then some value else none
  | none => none

namespace Stream

def checkSim (s : Stream) (line : String) : Stream :=
  if isSimLine line then { s with hasSimulcast := true } else s

/-- The first value of each attribute is kept. -/
def readAttributes (s : Stream) (line : String) : Stream :=
  if s.ssrc = "" then s.checkSim line
  else
    match if s.cname = "" then ofSsrc s.ssrc (parseCname line) else none with
    | some cname => { s with cname }
    | none =>
      match if s.mslabel = "" then ofSsrc s.ssrc (parseMslabel line) else none with
      | some mslabel => { s with mslabel }
      | none =>
        match if s.label = "" then ofSsrc s.ssrc (parseLabel line) else none with
        | some label => { s with label }
        | none => s.checkSim line

/-- A line of a section that is read. -/
def read (s : Stream) (line : String) : Stream :=
  if s.ssrc = "" then
    match parseFid line with
    | some (ssrc, ssrcFid) => { s with ssrc, ssrcFid }
    | none =>
      match parseCname line with
      | some (ssrc, cname) => { s with ssrc, cname }.readAttributes line
      | none => s.readAttributes line
  else s.readAttributes line

def Complete (s : Stream) : Prop :=
  s.ssrc ≠ "" ∧ s.cname ≠ "" ∧ s.mslabel ≠ "" ∧ s.label ≠ ""

instance (s : Stream) : Decidable s.Complete := inferInstanceAs (Decidable (_ ∧ _))

end Stream

def scanLine (i : ℕ) (st : ScanState) (line : String) : ScanState :=
  if parseMline line = some "video" ∧ ¬ st.video then { st with video := true }
  else if (parseMline line).isSome ∧ st.video then
    { st with video := false, index2inject := i - 1 }
  else if ¬ st.video then st
  else { st with stream := st.stream.read line }

/-- The loop from index `i` on. -/
def scanFrom (i : ℕ) (st : ScanState) : List String → ScanState
  | [] => st
  | line :: lines => scanFrom (i + 1) (scanLine i st line) lines

def scan (lines : List String) : ScanState := scanFrom 0 {} lines

/-- The loop that makes the streams, with the lines and the group so far. -/
def simulcastLoop (s : Stream) :
    ℕ → (ℕ → Draw) → List String → String → List String × String
  | 0, _, lines, group => (lines, group)
  | n + 1, draws, lines, group =>
    let (assrc, lines) := injectSsrcAndFid draws lines s.cname s.mslabel s.label (s.ssrcFid ≠ "")
    simulcastLoop s n (fun k => draws (k + 2)) lines (group ++ " " ++ assrc)

def simulcastLines (s : Stream) (n : ℕ) (draws : ℕ → Draw) : List String :=
  let (lines, group) := simulcastLoop s n draws [] ("a=ssrc-group:SIM " ++ s.ssrc)
  lines ++ [group ++ "\r"]

/-- Where the lines go: the end of the description if the index is 0. -/
def insertAt (lines : List String) : ℕ :=
  if (scan lines).index2inject = 0 then lines.length else (scan lines).index2inject

def injectSimulcast (simulcast : ℤ) (lines : List String) (draws : ℕ → Draw) : List String :=
  if simulcast < 1 ∨ simulcast > 2 then lines
  else
    let s := (scan lines).stream
    if s.hasSimulcast = false ∧ s.Complete then
      lines.take (insertAt lines) ++ simulcastLines s simulcast.toNat draws ++
        lines.drop (insertAt lines)
    else lines

end SDPUtils
end MediasoupSdk
