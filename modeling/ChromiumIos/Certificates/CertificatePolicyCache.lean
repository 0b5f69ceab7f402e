import ChromiumIos.Lib.Writes

/-!
# Decisions about certificates

A user who goes on in spite of a broken certificate allows the certificate for the host with
the errors it had.  From then on it passes silently on this host as long as it has no other
errors.

A certificate is known by the fingerprint of its chain.  The cache is a map of maps; what it
amounts to is one store of statuses by host and fingerprint.
-/

namespace ChromiumIos.Certificates

open Lib

abbrev CertStatus := BitVec 32

/-- A certificate is known by the fingerprint of its chain. -/
structure CertPolicy (Hash : Type) where
  allowed : Store Hash CertStatus

namespace CertPolicy

inductive Judgment where
  | unknown
  | allowed
  | denied
deriving DecidableEq, Repr

variable {Certificate Hash : Type}

def initial : CertPolicy Hash := ⟨fun _ => none⟩

def check (calculateChainFingerprint256 : Certificate → Hash) (policy : CertPolicy Hash)
    (cert : Certificate) (error : CertStatus) : Judgment :=
  match policy.allowed (calculateChainFingerprint256 cert) with
  | none => .unknown
  | some status =>
    if status &&& error ≠ 0 ∧ ~~~(status &&& error) ^^^ ~~~error = 0 then .allowed else .unknown

def allow [DecidableEq Hash] (calculateChainFingerprint256 : Certificate → Hash)
    (policy : CertPolicy Hash) (cert : Certificate) (error : CertStatus) : CertPolicy Hash :=
  ⟨policy.allowed.write (calculateChainFingerprint256 cert, some error)⟩

end CertPolicy

structure CertificatePolicyCache (Hash : Type) where
  certPolicyForHost : Store String (CertPolicy Hash)

inductive PolicyCall (Certificate : Type) where
  | allowCertForHost (cert : Certificate) (host : String) (error : CertStatus)
  | queryPolicy (cert : Certificate) (host : String) (error : CertStatus)
  | clearCertificatePolicies

namespace CertificatePolicyCache

open CertPolicy (Judgment)

variable {Certificate Hash : Type}

def initial : CertificatePolicyCache Hash := ⟨fun _ => none⟩

def policyFor (cache : CertificatePolicyCache Hash) (host : String) : CertPolicy Hash :=
  (cache.certPolicyForHost host).getD .initial

def allowCertForHost [DecidableEq Hash] (calculateChainFingerprint256 : Certificate → Hash)
    (cache : CertificatePolicyCache Hash) (cert : Certificate) (host : String)
    (error : CertStatus) : CertificatePolicyCache Hash :=
  ⟨cache.certPolicyForHost.write
    (host, some ((cache.policyFor host).allow calculateChainFingerprint256 cert error))⟩

def queryPolicy (calculateChainFingerprint256 : Certificate → Hash)
    (cache : CertificatePolicyCache Hash) (cert : Certificate) (host : String)
    (error : CertStatus) : Judgment × CertificatePolicyCache Hash :=
  ((cache.policyFor host).check calculateChainFingerprint256 cert error,
    ⟨cache.certPolicyForHost.write (host, some (cache.policyFor host))⟩)

def clearCertificatePolicies (_ : CertificatePolicyCache Hash) : CertificatePolicyCache Hash :=
  initial

def perform [DecidableEq Hash] (calculateChainFingerprint256 : Certificate → Hash)
    (cache : CertificatePolicyCache Hash) : PolicyCall Certificate → CertificatePolicyCache Hash
  | .allowCertForHost cert host error =>
    cache.allowCertForHost calculateChainFingerprint256 cert host error
  | .queryPolicy cert host error =>
    (cache.queryPolicy calculateChainFingerprint256 cert host error).2
  | .clearCertificatePolicies => cache.clearCertificatePolicies

def performAll [DecidableEq Hash] (calculateChainFingerprint256 : Certificate → Hash)
    (calls : List (PolicyCall Certificate)) : CertificatePolicyCache Hash :=
  calls.foldl (perform calculateChainFingerprint256) initial

/-! ## Errors and statuses -/

/-- Every error is among those that were allowed, and there is one. -/
def Covers (status error : CertStatus) : Prop :=
  error ≠ 0 ∧ ∀ flag, error.getLsbD flag = true → status.getLsbD flag = true

theorem and_eq_right_iff {status error : CertStatus} :
    status &&& error = error ↔
      ∀ flag, error.getLsbD flag = true → status.getLsbD flag = true := by
  constructor
  · grind
  · intro covers
    apply BitVec.eq_of_getLsbD_eq
    grind

/-- What the comparison of the masks comes to. -/
theorem masks_iff_covers {status error : CertStatus} :
    status &&& error ≠ 0 ∧ ~~~(status &&& error) ^^^ ~~~error = 0 ↔ Covers status error := by
  have same : ~~~(status &&& error) ^^^ ~~~error = 0 ↔ status &&& error = error := by
    simp
  rw [same, and_eq_right_iff]
  constructor
  · grind [Covers]
  · rintro ⟨nonzero, covers⟩
    exact ⟨(and_eq_right_iff.mpr covers).symm ▸ nonzero, covers⟩

/-- Different statuses cover different errors. -/
theorem eq_of_covers_iff {first second : CertStatus}
    (same : ∀ error, Covers first error ↔ Covers second error) : first = second := by
  have included : ∀ {one other : CertStatus}, (∀ error, Covers one error → Covers other error) →
      ∀ flag, one.getLsbD flag = true → other.getLsbD flag = true := by
    intro one other covers flag set
    have nonzero : one ≠ 0 := by
      rintro rfl
      simp at set
    exact (covers one ⟨nonzero, fun _ set => set⟩).2 flag set
  apply BitVec.eq_of_getLsbD_eq
  intro flag _
  exact Bool.eq_iff_iff.mpr (by grind)

/-! ## One store by host and fingerprint -/

def decisions (cache : CertificatePolicyCache Hash) : Store (String × Hash) CertStatus :=
  fun (host, hash) => (cache.policyFor host).allowed hash

variable {calculateChainFingerprint256 : Certificate → Hash} {cache : CertificatePolicyCache Hash}
variable {cert : Certificate} {host : String} {error status : CertStatus}
variable {calls : List (PolicyCall Certificate)}

theorem policyFor_write (cache : CertificatePolicyCache Hash) (policy : CertPolicy Hash)
    (host other : String) :
    policyFor ⟨cache.certPolicyForHost.write (host, some policy)⟩ other =
      if other = host then policy else cache.policyFor other := by
  unfold policyFor
  split
  · next same => simp [same]
  · next differs =>
      simp [Store.write, differs]

@[simp]
theorem decisions_initial (key : String × Hash) :
    (initial : CertificatePolicyCache Hash).decisions key = none := rfl

@[simp]
theorem decisions_allowCertForHost [DecidableEq Hash] :
    (cache.allowCertForHost calculateChainFingerprint256 cert host error).decisions =
      cache.decisions.write ((host, calculateChainFingerprint256 cert), some error) := by
  funext ⟨other, hash⟩
  unfold decisions allowCertForHost
  dsimp only
  rw [policyFor_write]
  by_cases same : other = host
  · subst same
    unfold CertPolicy.allow
    by_cases own : hash = calculateChainFingerprint256 cert
    · simp [own]
    · simp [Store.write, own]
  · simp [Store.write, same]

/-- A query makes a policy for its host, but this has no decisions. -/
@[simp]
theorem decisions_queryPolicy :
    (cache.queryPolicy calculateChainFingerprint256 cert host error).2.decisions =
      cache.decisions := by
  funext ⟨other, hash⟩
  unfold decisions queryPolicy
  grind [policyFor_write]

/-- What is answered depends on the decision for the host and the fingerprint. -/
theorem queryPolicy_eq :
    (cache.queryPolicy calculateChainFingerprint256 cert host error).1 =
      match cache.decisions (host, calculateChainFingerprint256 cert) with
      | none => .unknown
      | some status =>
        if status &&& error ≠ 0 ∧ ~~~(status &&& error) ^^^ ~~~error = 0 then .allowed
        else .unknown := rfl

theorem queryPolicy_eq_allowed :
    (cache.queryPolicy calculateChainFingerprint256 cert host error).1 = .allowed ↔
      ∃ status, cache.decisions (host, calculateChainFingerprint256 cert) = some status ∧
        Covers status error := by
  grind [queryPolicy_eq, masks_iff_covers]

theorem queryPolicy_eq_unknown :
    (cache.queryPolicy calculateChainFingerprint256 cert host error).1 = .unknown ↔
      (cache.queryPolicy calculateChainFingerprint256 cert host error).1 ≠ .allowed := by
  grind [queryPolicy_eq]

/-! ## The last decision -/

def LastAllowed (isCert : Certificate → Prop) (host : String) (status : CertStatus)
    (calls : List (PolicyCall Certificate)) : Prop :=
  ∃ before cert after, calls = before ++ .allowCertForHost cert host status :: after ∧
    isCert cert ∧ .clearCertificatePolicies ∉ after ∧
    ∀ other error, isCert other → .allowCertForHost other host error ∉ after

theorem lastAllowed_concat {isCert : Certificate → Prop} (call : PolicyCall Certificate) :
    LastAllowed isCert host status (calls ++ [call]) ↔
      (∃ cert, isCert cert ∧ call = .allowCertForHost cert host status) ∨
        LastAllowed isCert host status calls ∧ call ≠ .clearCertificatePolicies ∧
          ∀ other error, isCert other → call ≠ .allowCertForHost other host error := by
  constructor
  · rintro ⟨before, cert, after, split, isOne, unclear, undone⟩
    rcases List.eq_nil_or_concat after with rfl | ⟨front, last, rfl⟩ <;> grind [LastAllowed,
      List.append_inj']
  · grind [LastAllowed]

variable [DecidableEq Hash]

/-- The store has the last decision for each host and fingerprint. -/
theorem decisions_performAll :
    (performAll calculateChainFingerprint256 calls).decisions
        (host, calculateChainFingerprint256 cert) = some status ↔
      LastAllowed (fun other => calculateChainFingerprint256 other =
        calculateChainFingerprint256 cert) host status calls := by
  induction calls using List.reverseRecOn with
  | nil =>
    constructor
    · intro decided
      cases decided
    · simp [LastAllowed]
  | append_singleton calls call ih =>
    have performed : performAll calculateChainFingerprint256 (calls ++ [call]) =
        (performAll calculateChainFingerprint256 calls).perform calculateChainFingerprint256
          call := by simp [performAll]
    rw [performed, lastAllowed_concat, ← ih]
    cases call with
    | clearCertificatePolicies => simp [perform, clearCertificatePolicies]
    | queryPolicy _ _ _ => simp [perform]
    | allowCertForHost _ _ _ =>
      rw [perform, decisions_allowCertForHost]
      grind [Store.write_self, Store.write_of_ne]

/-- A certificate passes on a host with the errors that the last decision about it covers, and is
unknown otherwise, as long as its fingerprint tells it from the other certificates. -/
theorem queryPolicy_performAll (calculateChainFingerprint256 : Certificate → Hash)
    (calls : List (PolicyCall Certificate)) (cert : Certificate) (host : String)
    (error : CertStatus)
    (noCollision : ∀ other otherHost status,
      PolicyCall.allowCertForHost other otherHost status ∈ calls →
      calculateChainFingerprint256 other = calculateChainFingerprint256 cert → other = cert) :
    let judgment := ((performAll calculateChainFingerprint256 calls).queryPolicy
      calculateChainFingerprint256 cert host error).1
    (judgment = .allowed ↔
        ∃ status, LastAllowed (· = cert) host status calls ∧ Covers status error) ∧
      (judgment = .unknown ↔
        ¬ ∃ status, LastAllowed (· = cert) host status calls ∧ Covers status error) := by
  have alike : ∀ status, LastAllowed (fun other => calculateChainFingerprint256 other =
      calculateChainFingerprint256 cert) host status calls ↔
        LastAllowed (· = cert) host status calls := by
    grind [LastAllowed]
  intro judgment
  have allowed : judgment = .allowed ↔
      ∃ status, LastAllowed (· = cert) host status calls ∧ Covers status error := by
    refine queryPolicy_eq_allowed.trans ?_
    simp only [decisions_performAll, alike]
  exact ⟨allowed, queryPolicy_eq_unknown.trans (not_congr allowed)⟩

/-- Two certificates are allowed with errors, and the decision for one of them is replaced.  The
chains stand for their own fingerprints. -/
theorem queryPolicy_performAll_replaced :
    ((performAll (id : List Nat → List Nat) [.allowCertForHost [1] "a.com" 6,
      .allowCertForHost [2] "a.com" 255, .allowCertForHost [1] "a.com" 5]).queryPolicy id [1]
        "a.com" 4).1 = .allowed := by
  obtain ⟨allowed, -⟩ := queryPolicy_performAll (id : List Nat → List Nat)
    [.allowCertForHost [1] "a.com" 6, .allowCertForHost [2] "a.com" 255,
      .allowCertForHost [1] "a.com" 5] [1] "a.com" 4 fun _ _ _ _ same => same
  refine allowed.mpr ⟨5, ⟨[.allowCertForHost [1] "a.com" 6, .allowCertForHost [2] "a.com" 255],
    [1], [], rfl, rfl, nofun, nofun⟩, by decide, fun flag => ?_⟩
  exact and_eq_right_iff.mp (by decide) flag

end CertificatePolicyCache

end ChromiumIos.Certificates
