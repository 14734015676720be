import MediasoupSdk.Foundation.CString
import Mathlib.Data.List.Basic

/-! The check of the server's certificate against the host name, when the TLS connection of the
endpoint is set up. -/
namespace MediasoupSdk
open Foundation

/-- The types of a GENERAL_NAME. -/
inductive GeneralNameType where
  | otherName | email | dns | x400 | dirName | ediParty | uri | ipAdd | rid
  deriving DecidableEq, Repr

structure GeneralName where
  type : GeneralNameType
  data : List UInt8
  deriving DecidableEq

/-- An entry of the subject field. -/
structure NameEntry where
  nid : ℕ
  data : Option (List UInt8)
  deriving DecidableEq

def nidCommonName : ℕ := 13

/-- What the X509 accessors return of a certificate. -/
structure Certificate where
  subjectAltName : Option (List GeneralName) := none
  subject : List NameEntry := []
  deriving DecidableEq

/-- The loop over the alternative names, with its `result`. -/
def verifyNames (hostname : CString) : List GeneralName → Bool → Bool
  | [], result => result
  | name :: names, result =>
    if name.type ≠ .dns then verifyNames hostname names result
    -- an embedded NUL ends the loop, and the last result stands
    else if name.data.length ≠ (CString.ofBuffer name.data).strlen then result
    else verifyNames hostname names (hostname.strcasecmp (.ofBuffer name.data) = 0)

def verifySubjectAlternativeName (hostname : CString) (cert : Certificate) : Bool :=
  match cert.subjectAltName with
  | none => false
  | some names => verifyNames hostname names false

def verifyCommonName (hostname : CString) (cert : Certificate) : Bool :=
  match cert.subject.findIdx? (·.nid = nidCommonName) with
  | none => false
  | some loc =>
    match cert.subject[loc]? with
    | none => false
    | some entry =>
      match entry.data with
      | none => false
      | some data =>
        if data.length ≠ (CString.ofBuffer data).strlen then false
        else hostname.strcasecmp (.ofBuffer data) = 0

def verifyCertificate (hostname : CString) (preverified : Bool) (depth : ℕ)
    (cert : Certificate) : Bool :=
  if depth = 0 ∧ preverified then
    if verifySubjectAlternativeName hostname cert then true
    else if verifyCommonName hostname cert then true
    else false
  else preverified

/-- The name is the host's, up to case. -/
def IsHost (hostname : CString) (data : List UInt8) : Prop :=
  hostname.bytes.map tolower = data.map tolower

instance (hostname : CString) (data : List UInt8) : Decidable (IsHost hostname data) :=
  inferInstanceAs (Decidable (_ = _))

def GeneralName.IsDns (name : GeneralName) : Prop := name.type = .dns

instance : DecidablePred GeneralName.IsDns := fun name =>
  inferInstanceAs (Decidable (name.type = .dns))

/-- An entry that vouches for the host. -/
def GeneralName.Vouches (hostname : CString) (name : GeneralName) : Prop :=
  name.IsDns ∧ IsHost hostname name.data

namespace Certificate

def altNames (cert : Certificate) : List GeneralName := cert.subjectAltName.getD []

def commonName (cert : Certificate) : Option (List UInt8) :=
  (cert.subject.find? (·.nid = nidCommonName)).bind (·.data)

def CommonNameIs (hostname : CString) (cert : Certificate) : Prop :=
  ∃ data, cert.commonName = some data ∧ IsHost hostname data

end Certificate

variable {hostname : CString} {names : List GeneralName} {cert : Certificate}

theorem strcasecmp_iff_isHost {data : List UInt8} (h : 0 ∉ data) :
    hostname.strcasecmp (.ofBuffer data) = 0 ↔ IsHost hostname data := by
  rw [CString.strcasecmp_eq_zero_iff, CString.ofBuffer_bytes h, IsHost]

/-- A name with an embedded NUL is no host name. -/
theorem IsHost.noNul {data : List UInt8} (h : IsHost hostname data) : 0 ∉ data := by
  intro hnul
  have hmem : (0 : UInt8) ∈ hostname.bytes.map tolower := by
    rw [h]
    exact List.mem_map.mpr ⟨0, hnul, rfl⟩
  obtain ⟨b, hb, hzero⟩ := List.mem_map.mp hmem
  rw [tolower_eq_zero_iff] at hzero
  exact hostname.noNul (hzero ▸ hb)

/-- Each DNS name overwrites the result of those before it. -/
theorem verifyNames_eq (h : ∀ name ∈ names, name.IsDns → 0 ∉ name.data) (result : Bool) :
    verifyNames hostname names result =
      (names.filter (·.IsDns)).getLast?.elim result fun name => IsHost hostname name.data := by
  induction names generalizing result with
  | nil => rfl
  | cons name names ih =>
    have ih := ih (fun other ho => h other (List.mem_cons_of_mem name ho))
    by_cases hd : name.IsDns
    · have hnul := h name List.mem_cons_self hd
      have hlength := CString.strlen_ofBuffer.mpr hnul
      have hd' : name.type = .dns := hd
      simp only [verifyNames, hd', hlength, ne_eq, not_true_eq_false, if_false, ih,
        strcasecmp_iff_isHost hnul, List.filter_cons, hd, decide_true, if_true]
      cases hlast : (names.filter (·.IsDns)).getLast? with
      | none => simp [List.getLast?_eq_none_iff.mp hlast]
      | some last => simp [List.getLast?_cons, hlast]
    · have hd' : name.type ≠ .dns := hd
      simp [verifyNames, hd', ih, hd]

/-- The last DNS name vouches for the host, or none does. -/
def LastDecides (hostname : CString) (names : List GeneralName) : Prop :=
  (∃ last ∈ (names.filter (·.IsDns)).getLast?, last.Vouches hostname) ∨
    ∀ name ∈ names, ¬ name.Vouches hostname

theorem verifyNames_iff (h : ∀ name ∈ names, name.IsDns → 0 ∉ name.data) :
    verifyNames hostname names false = true ↔
      ∃ last ∈ (names.filter (·.IsDns)).getLast?, last.Vouches hostname := by
  rw [verifyNames_eq h]
  cases hlast : (names.filter (·.IsDns)).getLast? with
  | none => simp
  | some last =>
    have hdns := List.of_mem_filter (List.mem_of_getLast? hlast)
    rw [decide_eq_true_eq] at hdns
    simp [GeneralName.Vouches, hdns]

/-- The last DNS name is one of the names. -/
theorem exists_vouches_of_last
    (h : ∃ last ∈ (names.filter (·.IsDns)).getLast?, last.Vouches hostname) :
    ∃ name ∈ names, name.Vouches hostname := by
  obtain ⟨last, hlast, hv⟩ := h
  exact ⟨last, List.mem_of_mem_filter (List.mem_of_getLast? hlast), hv⟩

/-- If the names agree about the host, the last is as good as any. -/
theorem last_iff_exists
    (hagree : (∀ name ∈ names, name.IsDns → name.Vouches hostname) ∨
      ∀ name ∈ names, ¬ name.Vouches hostname) :
    (∃ last ∈ (names.filter (·.IsDns)).getLast?, last.Vouches hostname) ↔
      ∃ name ∈ names, name.Vouches hostname := by
  constructor
  · exact exists_vouches_of_last
  · intro ⟨name, hm, hv⟩
    have hall := hagree.resolve_right fun hnone => hnone name hm hv
    have hdns : name ∈ names.filter (·.IsDns) := List.mem_filter.mpr ⟨hm, by simpa using hv.1⟩
    cases hlast : (names.filter (·.IsDns)).getLast? with
    | none => exact absurd (List.getLast?_eq_none_iff.mp hlast) (List.ne_nil_of_mem hdns)
    | some last =>
      obtain ⟨hlm, hld⟩ := List.mem_filter.mp (List.mem_of_getLast? hlast)
      exact ⟨last, rfl, hall last hlm (by simpa using hld)⟩

theorem last_iff_exists_iff :
    ((∃ last ∈ (names.filter (·.IsDns)).getLast?, last.Vouches hostname) ↔
        ∃ name ∈ names, name.Vouches hostname) ↔ LastDecides hostname names := by
  constructor
  · intro hiff
    by_cases hv : ∃ name ∈ names, name.Vouches hostname
    · exact .inl (hiff.mpr hv)
    · push Not at hv
      exact .inr hv
  · intro hdecides
    rcases hdecides with hlast | hnone
    · exact iff_of_true hlast (exists_vouches_of_last hlast)
    · exact last_iff_exists (.inr hnone)

theorem verifySubjectAlternativeName_eq :
    verifySubjectAlternativeName hostname cert = verifyNames hostname cert.altNames false := by
  unfold verifySubjectAlternativeName Certificate.altNames
  cases cert.subjectAltName with
  | none => rfl
  | some names => rfl

/-- A common name with an embedded NUL is refused, and is not the host's either. -/
theorem verifyCommonName_iff :
    verifyCommonName hostname cert = true ↔ cert.CommonNameIs hostname := by
  unfold verifyCommonName Certificate.CommonNameIs Certificate.commonName
  rw [List.find?_eq_bind_findIdx?_getElem?]
  cases hloc : cert.subject.findIdx? (·.nid = nidCommonName) with
  | none => simp
  | some loc =>
    cases hentry : cert.subject[loc]? with
    | none => simp [hentry]
    | some entry =>
      cases hdata : entry.data with
      | none => simp [hentry, hdata]
      | some data =>
        by_cases hnul : 0 ∈ data
        · have hlength : data.length ≠ (CString.ofBuffer data).strlen :=
            fun he => CString.strlen_ofBuffer.mp he.symm hnul
          have hother : ¬ IsHost hostname data := fun hhost => hhost.noNul hnul
          simp [hentry, hdata, hlength, hother]
        · have hlength := CString.strlen_ofBuffer.mpr hnul
          simp [hentry, hdata, hlength, strcasecmp_iff_isHost hnul]

theorem verifyCertificate_iff :
    verifyCertificate hostname true 0 cert = true ↔
      verifySubjectAlternativeName hostname cert = true ∨ cert.CommonNameIs hostname := by
  rw [← verifyCommonName_iff]
  cases hsan : verifySubjectAlternativeName hostname cert with
  | true => simp [verifyCertificate, hsan]
  | false => simp [verifyCertificate, hsan]

/-- With a name moved to the end, that name decides. -/
theorem verifyNames_moved {name : GeneralName} (h : ∀ name ∈ names, name.IsDns → 0 ∉ name.data)
    (hm : name ∈ names) (hd : name.IsDns) :
    verifyNames hostname (names.erase name ++ [name]) false = true ↔ name.Vouches hostname := by
  have hperm : (names.erase name ++ [name]).Perm names :=
    List.perm_append_comm.trans (List.perm_cons_erase hm).symm
  rw [verifyNames_iff (fun other ho => h other (hperm.mem_iff.mp ho))]
  simp [List.filter_append, hd]

/-- The order of the names is without effect exactly if the DNS names agree about the host. -/
theorem verifyNames_perm_iff (h : ∀ name ∈ names, name.IsDns → 0 ∉ name.data) :
    (∀ names', names'.Perm names →
        verifyNames hostname names' false = verifyNames hostname names false) ↔
      (∀ name ∈ names, name.IsDns → name.Vouches hostname) ∨
        ∀ name ∈ names, ¬ name.Vouches hostname := by
  constructor
  · intro hsame
    by_contra hmixed
    rw [not_or] at hmixed
    obtain ⟨hother, hone⟩ := hmixed
    push Not at hother hone
    obtain ⟨other, hom, hod, hov⟩ := hother
    obtain ⟨one, hm, hv⟩ := hone
    have hsame' (name : GeneralName) (hmem : name ∈ names) :=
      hsame (names.erase name ++ [name])
        (List.perm_append_comm.trans (List.perm_cons_erase hmem).symm)
    have hone := (verifyNames_moved h hm hv.1).mpr hv
    have hother := mt (verifyNames_moved h hom hod).mp hov
    rw [hsame' one hm] at hone
    rw [hsame' other hom] at hother
    exact hother hone
  · intro hagree names' hperm
    have h' : ∀ name ∈ names', name.IsDns → 0 ∉ name.data :=
      fun name hname => h name (hperm.mem_iff.mp hname)
    have hagree' : (∀ name ∈ names', name.IsDns → name.Vouches hostname) ∨
        ∀ name ∈ names', ¬ name.Vouches hostname :=
      hagree.imp (fun hall name hname => hall name (hperm.mem_iff.mp hname))
        fun hnone name hname => hnone name (hperm.mem_iff.mp hname)
    rw [Bool.eq_iff_iff, verifyNames_iff h', verifyNames_iff h, last_iff_exists hagree',
      last_iff_exists hagree]
    exact exists_congr fun name => and_congr_left fun _ => hperm.mem_iff

/-- The alternative names vouch for the host exactly as documented if the last of them decides,
in any order if they agree, and the certificate is accepted as documented if the last decides or
the common name is the host's. -/
theorem verifyCertificate_exact (hostname : CString) (cert : Certificate)
    (h : ∀ name ∈ cert.altNames, name.IsDns → 0 ∉ name.data) :
    ((verifySubjectAlternativeName hostname cert = true ↔
          ∃ name ∈ cert.altNames, name.Vouches hostname) ↔
        LastDecides hostname cert.altNames) ∧
      ((∀ names, names.Perm cert.altNames →
          verifySubjectAlternativeName hostname { cert with subjectAltName := some names } =
            verifySubjectAlternativeName hostname cert) ↔
        (∀ name ∈ cert.altNames, name.IsDns → name.Vouches hostname) ∨
          ∀ name ∈ cert.altNames, ¬ name.Vouches hostname) ∧
      ((verifyCertificate hostname true 0 cert = true ↔
          (∃ name ∈ cert.altNames, name.Vouches hostname) ∨ cert.CommonNameIs hostname) ↔
        LastDecides hostname cert.altNames ∨ cert.CommonNameIs hostname) := by
  have hlast : (verifySubjectAlternativeName hostname cert = true ↔
      ∃ name ∈ cert.altNames, name.Vouches hostname) ↔ LastDecides hostname cert.altNames := by
    rw [verifySubjectAlternativeName_eq, verifyNames_iff h]
    exact last_iff_exists_iff
  refine ⟨hlast, ?_, ?_⟩
  · simp only [verifySubjectAlternativeName_eq]
    exact verifyNames_perm_iff h
  · rw [verifyCertificate_iff, ← hlast]
    by_cases hcommon : cert.CommonNameIs hostname
    · simp [hcommon]
    · simp [hcommon]

/-- The two names of a server, and one of them as the host of a client. -/
def hostSfu : CString := { bytes := [115, 102, 117] }
def dnsSfu : GeneralName := { type := .dns, data := [83, 70, 85] }
def dnsCdn : GeneralName := { type := .dns, data := [99, 100, 110] }

theorem verifyCertificate_exact_sfu :
    verifyCertificate hostSfu true 0 { subjectAltName := some [dnsCdn, dnsSfu] } = true := by
  have hnul : ∀ name ∈ [dnsCdn, dnsSfu], name.IsDns → 0 ∉ name.data := by decide
  have hexact := verifyCertificate_exact hostSfu { subjectAltName := some [dnsCdn, dnsSfu] } hnul
  exact (hexact.2.2.mpr (.inl (.inl ⟨dnsSfu, rfl, rfl, by decide⟩))).mpr
    (.inl ⟨dnsSfu, by decide, rfl, by decide⟩)

/-- The first name vouches for the host, and the second undoes it. -/
theorem verifyCertificate_forgets :
    (∀ name ∈ [dnsSfu, dnsCdn], 0 ∉ name.data) ∧
      (∃ name ∈ [dnsSfu, dnsCdn], name.Vouches hostSfu) ∧
      verifySubjectAlternativeName hostSfu { subjectAltName := some [dnsSfu, dnsCdn] } = false ∧
      verifySubjectAlternativeName hostSfu { subjectAltName := some [dnsCdn, dnsSfu] } = true ∧
      verifyCertificate hostSfu true 0 { subjectAltName := some [dnsSfu, dnsCdn] } = false := by
  refine ⟨by decide, ⟨dnsSfu, by decide, rfl, by decide⟩, by decide, by decide, by decide⟩

end MediasoupSdk
