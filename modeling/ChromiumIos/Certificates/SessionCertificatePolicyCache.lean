import ChromiumIos.Lib.Checked
import ChromiumIos.Certificates.CertificatePolicyCache

/-!
# Decisions that are restored with a session

A session keeps the certificates that were allowed in it, so that they can be allowed again
after a restart.  It keeps them in a set of objects that are equal only to themselves: a
certificate that was allowed twice is there twice, and the set does not know which of the
objects came last.
-/

namespace ChromiumIos.Certificates

open Lib

/-- The host is asserted to have a length. -/
structure CRWSessionCertificateStorage (Certificate : Type) where
  certificate : Certificate
  host : String
  status : CertStatus
  host_ne : host ≠ ""

/-- The set has one object for each registration.  Nothing else is known of the objects than
their values, so it is given by how often it has each. -/
structure SessionCertificatePolicyCacheImpl (Certificate : Type) where
  allowedCerts : Multiset (CRWSessionCertificateStorage Certificate)

/-- The arguments with which a certificate is registered. -/
structure Registration (Certificate : Type) where
  certificate : Certificate
  host : String
  status : CertStatus
deriving DecidableEq

namespace SessionCertificatePolicyCacheImpl

open CertificatePolicyCache (Covers queryPolicy_eq_allowed queryPolicy_eq_unknown)

variable {Certificate Hash : Type}

def initial : SessionCertificatePolicyCacheImpl Certificate := ⟨0⟩

def registerAllowedCertificate (cache : SessionCertificatePolicyCacheImpl Certificate)
    (registration : Registration Certificate) :
    Checked (SessionCertificatePolicyCacheImpl Certificate) :=
  if named : registration.host ≠ "" then
    some ⟨⟨registration.certificate, registration.host, registration.status, named⟩ ::ₘ
      cache.allowedCerts⟩
  else none

def registerAll (registrations : List (Registration Certificate)) :
    Checked (SessionCertificatePolicyCacheImpl Certificate) :=
  registrations.foldlM registerAllowedCertificate initial

variable [DecidableEq Hash]
variable (calculateChainFingerprint256 : Certificate → Hash)

/-- The set is copied and enumerated in some order. -/
def updateCertificatePolicyCache (enumerated : List (CRWSessionCertificateStorage Certificate))
    (cache : CertificatePolicyCache Hash) : CertificatePolicyCache Hash :=
  enumerated.foldl (fun cache cert => cache.allowCertForHost calculateChainFingerprint256
    cert.certificate cert.host cert.status) cache

variable (registrations : List (Registration Certificate))

def liveCache : CertificatePolicyCache Hash :=
  CertificatePolicyCache.performAll calculateChainFingerprint256 (registrations.map
    fun registration => .allowCertForHost registration.certificate registration.host
      registration.status)

/-- In whichever order the set is enumerated, an empty cache comes to judge like the live one. -/
def RestoresJudgments : Prop :=
  ∀ session, registerAll registrations = some session →
    ∀ enumerated : List (CRWSessionCertificateStorage Certificate),
      (enumerated : Multiset _) = session.allowedCerts →
      ∀ cert host error,
        ((updateCertificatePolicyCache calculateChainFingerprint256 enumerated .initial).queryPolicy
            calculateChainFingerprint256 cert host error).1 =
          ((liveCache calculateChainFingerprint256 registrations).queryPolicy
            calculateChainFingerprint256 cert host error).1

/-- No certificate was allowed for a host with different statuses. -/
def AgreesWithItself : Prop :=
  ∀ first ∈ registrations, ∀ second ∈ registrations, first.host = second.host →
    calculateChainFingerprint256 first.certificate =
      calculateChainFingerprint256 second.certificate →
    first.status = second.status

/-! ## What the set and the caches hold -/

/-- What an object was registered with. -/
def registrationOf (storage : CRWSessionCertificateStorage Certificate) :
    Registration Certificate :=
  ⟨storage.certificate, storage.host, storage.status⟩

variable {calculateChainFingerprint256 : Certificate → Hash}
variable {registrations : List (Registration Certificate)}
variable {session : SessionCertificatePolicyCacheImpl Certificate}
variable {enumerated : List (CRWSessionCertificateStorage Certificate)}

omit [DecidableEq Hash] in
theorem allowedCerts_registerAll (registered : registerAll registrations = some session) :
    session.allowedCerts.map registrationOf = registrations := by
  induction registrations using List.reverseRecOn generalizing session with
  | nil =>
    cases registered
    rfl
  | append_singleton before registration ih =>
    rw [registerAll, List.foldlM_append] at registered
    obtain ⟨_, earlier, last⟩ := Option.bind_eq_some_iff.mp registered
    obtain ⟨_, made, ended⟩ := Option.bind_eq_some_iff.mp last
    cases ended
    unfold registerAllowedCertificate at made
    split at made
    · cases made
      simpa [registrationOf, ih earlier] using (List.perm_append_singleton registration before).symm
    · cases made

/-- The decisions made by some registrations, the last of which has its way. -/
theorem decisions_liveCache (before : List (Registration Certificate))
    (last : Registration Certificate) :
    (liveCache calculateChainFingerprint256 (before ++ [last])).decisions =
      (liveCache calculateChainFingerprint256 before).decisions.write
        ((last.host, calculateChainFingerprint256 last.certificate), some last.status) := by
  simp [liveCache, CertificatePolicyCache.performAll, CertificatePolicyCache.perform]

/-- Enumerating the set is to make its decisions in this order. -/
theorem updateCertificatePolicyCache_eq :
    updateCertificatePolicyCache calculateChainFingerprint256 enumerated .initial =
      liveCache calculateChainFingerprint256 (enumerated.map registrationOf) := by
  simp [updateCertificatePolicyCache, liveCache, CertificatePolicyCache.performAll,
    CertificatePolicyCache.perform, registrationOf, List.foldl_map]

/-- A decision was registered, and where something was registered there is a decision. -/
theorem decisions_liveCache_cases (calculateChainFingerprint256 : Certificate → Hash)
    (registrations : List (Registration Certificate)) (host : String) (hash : Hash) :
    (∃ registration ∈ registrations, registration.host = host ∧
        calculateChainFingerprint256 registration.certificate = hash ∧
        (liveCache calculateChainFingerprint256 registrations).decisions (host, hash) =
          some registration.status) ∨
      (liveCache calculateChainFingerprint256 registrations).decisions (host, hash) = none ∧
        ∀ registration ∈ registrations, registration.host = host →
          calculateChainFingerprint256 registration.certificate ≠ hash := by
  induction registrations using List.reverseRecOn with
  | nil => exact .inr ⟨rfl, nofun⟩
  | append_singleton _ _ _ =>
    rw [decisions_liveCache]
    grind [Store.write_self, Store.write_of_ne]

omit [DecidableEq Hash] in
/-- Equal decisions give equal judgments. -/
theorem judgment_eq_of_decisions {first second : CertificatePolicyCache Hash} {cert : Certificate}
    {host : String}
    (same : first.decisions (host, calculateChainFingerprint256 cert) =
      second.decisions (host, calculateChainFingerprint256 cert)) (error : CertStatus) :
    (first.queryPolicy calculateChainFingerprint256 cert host error).1 =
      (second.queryPolicy calculateChainFingerprint256 cert host error).1 := by
  simp [CertificatePolicyCache.queryPolicy_eq, same]

/-! ## When the judgments are restored -/

/-- Registrations that agree leave the same decisions in any order. -/
theorem AgreesWithItself.decisions_perm {other : List (Registration Certificate)}
    (agrees : AgreesWithItself calculateChainFingerprint256 registrations)
    (perm : other.Perm registrations) (host : String) (hash : Hash) :
    (liveCache calculateChainFingerprint256 other).decisions (host, hash) =
      (liveCache calculateChainFingerprint256 registrations).decisions (host, hash) := by
  rcases decisions_liveCache_cases calculateChainFingerprint256 other host hash with
    ⟨first, memFirst, rfl, rfl, decided⟩ | ⟨undecided, absent⟩
  · have mem := perm.mem_iff.mp memFirst
    rcases decisions_liveCache_cases calculateChainFingerprint256 registrations first.host
      (calculateChainFingerprint256 first.certificate) with
        ⟨second, memSecond, sameHost, sameCert, decidedToo⟩ | ⟨-, absent⟩
    · rw [decided, decidedToo, agrees first mem second memSecond sameHost.symm sameCert.symm]
    · exact absurd rfl (absent first mem rfl)
  · rcases decisions_liveCache_cases calculateChainFingerprint256 registrations host hash with
      ⟨second, memSecond, sameHost, sameCert, -⟩ | ⟨undecidedToo, -⟩
    · grind
    · rw [undecided, undecidedToo]

/-- The set can be enumerated so that any of its objects comes last. -/
theorem exists_enumerated_last (registered : registerAll registrations = some session)
    {registration : Registration Certificate} (mem : registration ∈ registrations) :
    ∃ (enumerated : List (CRWSessionCertificateStorage Certificate))
      (before : List (Registration Certificate)),
      (enumerated : Multiset _) = session.allowedCerts ∧
        enumerated.map registrationOf = before ++ [registration] := by
  have inSet : registration ∈ session.allowedCerts.map registrationOf := by
    rw [allowedCerts_registerAll registered]
    exact mem
  obtain ⟨storage, memStorage, rfl⟩ := Multiset.mem_map.mp inSet
  obtain ⟨others, split⟩ := Multiset.exists_cons_of_mem memStorage
  obtain ⟨rest, rfl⟩ := Quot.exists_rep others
  refine ⟨rest ++ [storage], rest.map registrationOf, ?_, by simp⟩
  simp [split]

/-- The judgments of the live cache are restored exactly when no certificate was allowed for a host
with different statuses. -/
theorem restoresJudgments_iff (calculateChainFingerprint256 : Certificate → Hash)
    (registrations : List (Registration Certificate))
    (session : SessionCertificatePolicyCacheImpl Certificate)
    (registered : registerAll registrations = some session) :
    RestoresJudgments calculateChainFingerprint256 registrations ↔
      AgreesWithItself calculateChainFingerprint256 registrations := by
  constructor
  · intro restores
    -- Whichever registration comes last in the set is what the live cache has decided.
    have decided : ∀ registration ∈ registrations,
        ∃ live ∈ registrations,
          (liveCache calculateChainFingerprint256 registrations).decisions
            (registration.host, calculateChainFingerprint256 registration.certificate) =
              some live.status ∧ registration.status = live.status := by
      intro registration mem
      obtain ⟨enumerated, before, enumerates, ends⟩ := exists_enumerated_last registered mem
      have same := restores session registered enumerated enumerates registration.certificate
        registration.host
      rw [updateCertificatePolicyCache_eq, ends] at same
      have restored : (liveCache calculateChainFingerprint256 (before ++ [registration])).decisions
          (registration.host, calculateChainFingerprint256 registration.certificate) =
            some registration.status := by
        rw [decisions_liveCache, Store.write_self]
      rcases decisions_liveCache_cases calculateChainFingerprint256 registrations
        registration.host (calculateChainFingerprint256 registration.certificate) with
          ⟨live, memLive, -, -, decidedLive⟩ | ⟨-, absent⟩
      · refine ⟨live, memLive, decidedLive, CertificatePolicyCache.eq_of_covers_iff fun error => ?_⟩
        have allowed := congrArg (· = CertPolicy.Judgment.allowed) (same error)
        simpa [queryPolicy_eq_allowed, restored, decidedLive] using allowed
      · exact absurd rfl (absent registration mem rfl)
    intro first memFirst second memSecond sameHost sameCert
    grind
  · intro agrees session registered enumerated enumerates cert host error
    have perm : (enumerated.map registrationOf).Perm registrations := by
      rw [← Multiset.coe_eq_coe, ← Multiset.map_coe, enumerates]
      exact allowedCerts_registerAll registered
    rw [updateCertificatePolicyCache_eq]
    exact judgment_eq_of_decisions (agrees.decisions_perm perm host _) error

/-- One certificate is allowed for two hosts, on one of them twice.  The chains stand for their own
fingerprints. -/
theorem restoresJudgments_twoHosts :
    RestoresJudgments (id : List Nat → List Nat)
      [⟨[1], "a.com", 1⟩, ⟨[1], "b.com", 3⟩, ⟨[1], "a.com", 1⟩] :=
  (restoresJudgments_iff _ _ _ rfl).mpr (by unfold AgreesWithItself; decide)

/-- A certificate with an invalid name is allowed, and again when its date is over as well.  The set
may be enumerated the other way round. -/
theorem not_restoresJudgments_allowedTwice :
    ¬ RestoresJudgments (id : List Nat → List Nat) [⟨[1], "a.com", 1⟩, ⟨[1], "a.com", 3⟩] := by
  intro restores
  have same := restores _ rfl [⟨[1], "a.com", 3, by decide⟩, ⟨[1], "a.com", 1, by decide⟩] rfl
    [1] "a.com" 3
  exact absurd same (by decide)

end SessionCertificatePolicyCacheImpl

end ChromiumIos.Certificates
