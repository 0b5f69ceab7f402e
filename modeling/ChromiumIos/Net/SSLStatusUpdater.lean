import ChromiumIos.Lib.Runs
import ChromiumIos.Navigation.NavigationItem

/-!
# The SSL status of navigation items

When the last committed item is updated its certificate and host are recorded, and
the security style that belongs to them is asked for; the answer comes later, when other
items may have been committed or the item may have another URL.  Nothing is asked when
the certificate and host are those recorded before.

Items are known by their unique IDs, which are never used again.
-/

namespace ChromiumIos

open Lib

inductive SecurityStyle where
  | unknown
  | unauthenticated
  | authenticationBroken
  | authenticated
deriving DecidableEq, Repr

inductive ContentStatus where
  | normalContent
  | displayedInsecureContent
deriving DecidableEq, Repr

abbrev CertStatus := BitVec 32

structure SSLStatus (Chain : Type) where
  securityStyle : SecurityStyle := .unknown
  certificate : Option Chain := none
  certStatus : CertStatus := 0
  contentStatus : ContentStatus := .normalContent
  certStatusHost : String := ""
deriving DecidableEq, Repr

/-- The host is not compared. -/
def SSLStatus.equals {Chain : Type} [DecidableEq Chain] (status other : SSLStatus Chain) : Bool :=
  status.securityStyle = other.securityStyle ∧ status.certificate = other.certificate ∧
    status.certStatus = other.certStatus ∧ status.contentStatus = other.contentStatus

structure SSLItem (Chain : Type) where
  uniqueID : Nat
  url : GURL
  ssl : SSLStatus Chain := {}
deriving DecidableEq, Repr

structure StatusQuery (Trust : Type) where
  itemID : Nat
  trust : Trust
  host : String
deriving DecidableEq, Repr

/-- What an update has seen is the certificate and host of an item with a cryptographic URL. -/
inductive SSLEvent (Trust Chain : Type) where
  | updated (itemID : Nat) (seen : Option (Chain × String))
  | urlChanged (itemID : Nat)
  | answered (query : StatusQuery Trust) (style : SecurityStyle) (certStatus : CertStatus)
  | didChangeSSLStatus (itemID : Nat)
deriving DecidableEq, Repr

/-- How URLs and trusts are read. -/
structure SSLEnvironment (Trust Chain : Type) where
  schemeIsCryptographic : GURL → Bool
  host : GURL → String
  createCertFromTrust : Trust → Option Chain

structure CRWSSLStatusUpdater (Trust Chain : Type) where
  items : List (SSLItem Chain) := []
  lastCommittedItemIndex : Nat := 0
  nextUniqueID : Nat := 0
  queries : List (StatusQuery Trust) := []
deriving DecidableEq, Repr

namespace CRWSSLStatusUpdater

variable {Trust Chain : Type} [DecidableEq Chain]

abbrev Outcome (Trust Chain : Type) :=
  CRWSSLStatusUpdater Trust Chain × List (SSLEvent Trust Chain)

section Updater

variable (env : SSLEnvironment Trust Chain) (updater : CRWSSLStatusUpdater Trust Chain)

omit [DecidableEq Chain] in
def getLastCommittedItem : Option (SSLItem Chain) :=
  updater.items[updater.lastCommittedItemIndex]?

omit [DecidableEq Chain] in
def getCommittedItemWithUniqueID (uniqueID : Nat) : Option (SSLItem Chain) :=
  updater.items.find? fun item => item.uniqueID = uniqueID

omit [DecidableEq Chain] in
def writeItem (item : SSLItem Chain) : CRWSSLStatusUpdater Trust Chain :=
  { updater with
    items := updater.items.map fun other =>
      if other.uniqueID = item.uniqueID then item else other }

/-- The delegate is told of a status that differs from the one before. -/
def writeStatus (item : SSLItem Chain) (status : SSLStatus Chain) : Outcome Trust Chain :=
  (updater.writeItem { item with ssl := status },
    if item.ssl.equals status then [] else [.didChangeSSLStatus item.uniqueID])

omit [DecidableEq Chain] in
def seenCert (item : SSLItem Chain) (trust : Trust) : Option Chain :=
  if env.schemeIsCryptographic item.url then env.createCertFromTrust trust
  else none

/-- The new status of an item, and whether the style that belongs to it is asked for. -/
def updatedStatus (item : SSLItem Chain) (host : String) (trust : Trust)
    (hasOnlySecureContent : Bool) : SSLStatus Chain × Bool :=
  let contentStatus : ContentStatus :=
    if hasOnlySecureContent then .normalContent else .displayedInsecureContent
  let status := { item.ssl with contentStatus }
  match seenCert env item trust with
  | some cert =>
    let recorded := { status with certificate := some cert, certStatusHost := host }
    if item.ssl.certificate = some cert ∧ item.ssl.certStatusHost = host then
      (recorded, false)
    else ({ recorded with certStatus := 0, securityStyle := .unknown }, true)
  | none =>
    if env.schemeIsCryptographic item.url then
      ({ status with certificate := none, securityStyle := .unknown }, false)
    else
      ({ status with
        certificate := none
        securityStyle := .unauthenticated
        contentStatus := .normalContent }, false)

omit [DecidableEq Chain] in
def scheduleSSLStatusUpdate (trust : Trust) (host : String) :
    Checked (CRWSSLStatusUpdater Trust Chain) := do
  let item ← updater.getLastCommittedItem
  return { updater with queries := updater.queries ++ [⟨item.uniqueID, trust, host⟩] }

def updateSSLStatusForNavigationItem (item : SSLItem Chain) (host : String) (trust : Trust)
    (hasOnlySecureContent : Bool) : Checked (Outcome Trust Chain) :=
  let (status, asks) := updatedStatus env item host trust hasOnlySecureContent
  let asking := if asks then updater.scheduleSSLStatusUpdate trust host else some updater
  let seen := (seenCert env item trust).map fun cert => (cert, host)
  asking.map fun asking =>
    let (written, told) := asking.writeStatus item status
    (written, .updated item.uniqueID seen :: told)

/-- An answer is for the item if its URL and certificate are those that were asked for. -/
def updateSSLStatusForItemWithID (query : StatusQuery Trust) (style : SecurityStyle)
    (certStatus : CertStatus) : Outcome Trust Chain :=
  match updater.getCommittedItemWithUniqueID query.itemID with
  | none => (updater, [])
  | some item =>
    if env.schemeIsCryptographic item.url ∧ item.ssl.certificate.isSome ∧
        item.ssl.certificate = env.createCertFromTrust query.trust ∧
        env.host item.url = query.host then
      updater.writeStatus item { item.ssl with certStatus, securityStyle := style }
    else (updater, [])

omit [DecidableEq Chain] in
def withoutQuery (position : Nat) : CRWSSLStatusUpdater Trust Chain :=
  { updater with queries := updater.queries.eraseIdx position }

/-! ## The items -/

omit [DecidableEq Chain] in
/-- The items that follow the last committed one are dropped. -/
def commit (url : GURL) (ssl : SSLStatus Chain) : CRWSSLStatusUpdater Trust Chain :=
  let kept := updater.items.take (updater.lastCommittedItemIndex + 1)
  { updater with
    items := kept ++ [⟨updater.nextUniqueID, url, ssl⟩]
    lastCommittedItemIndex := kept.length
    nextUniqueID := updater.nextUniqueID + 1 }

omit [DecidableEq Chain] in
/-- A page that changes its history takes the status along. -/
def pushNewItemWithURL (url : GURL) : Checked (CRWSSLStatusUpdater Trust Chain) := do
  let item ← updater.getLastCommittedItem
  return updater.commit url item.ssl

omit [DecidableEq Chain] in
def goToItemAtIndex (index : Nat) : Checked (CRWSSLStatusUpdater Trust Chain) := do
  dcheck (index < updater.items.length)
  return { updater with lastCommittedItemIndex := index }

omit [DecidableEq Chain] in
def setURL (uniqueID : Nat) (url : GURL) : Checked (Outcome Trust Chain) := do
  let item ← updater.getCommittedItemWithUniqueID uniqueID
  return (updater.writeItem { item with url },
    if url = item.url then [] else [.urlChanged uniqueID])

end Updater

inductive Input (Trust : Type) where
  | updateSSLStatus (host : String) (trust : Trust) (hasOnlySecureContent : Bool)
  | commitItem (url : GURL)
  | pushNewItem (url : GURL)
  | goToItem (index : Nat)
  | setURL (uniqueID : Nat) (url : GURL)
  | answer (position : Nat) (style : SecurityStyle) (certStatus : CertStatus)
deriving DecidableEq, Repr

def step (env : SSLEnvironment Trust Chain) (updater : CRWSSLStatusUpdater Trust Chain) :
    Input Trust → Checked (Outcome Trust Chain)
  | .updateSSLStatus host trust hasOnlySecureContent =>
    match updater.getLastCommittedItem with
    | none => some (updater, [])
    | some item =>
      updater.updateSSLStatusForNavigationItem env item host trust
        hasOnlySecureContent
  | .commitItem url => some (updater.commit url {}, [])
  | .pushNewItem url => do
      let pushed ← updater.pushNewItemWithURL url
      return (pushed, [])
  | .goToItem index => do
      let gone ← updater.goToItemAtIndex index
      return (gone, [])
  | .setURL uniqueID url => updater.setURL uniqueID url
  | .answer position style certStatus => do
      let query ← updater.queries[position]?
      let (answered, told) := (updater.withoutQuery position).updateSSLStatusForItemWithID
        env query style certStatus
      return (answered, .answered query style certStatus :: told)

variable (env : SSLEnvironment Trust Chain) (updater : CRWSSLStatusUpdater Trust Chain)
  (input : Input Trust)

def Accepts (env : SSLEnvironment Trust Chain)
    (updater : CRWSSLStatusUpdater Trust Chain) : Input Trust → Prop
  | .updateSSLStatus host _ _ =>
    ∀ item ∈ updater.getLastCommittedItem, host = env.host item.url
  | _ => True

/-! ## What is known of an item -/

section Specification

variable (env : SSLEnvironment Trust Chain)

omit [DecidableEq Chain] in
def sawEvent (itemID : Nat) (seen : Option (Chain × String)) :
    SSLEvent Trust Chain → Option (Chain × String)
  | .updated other now => if other = itemID then now else seen
  | .urlChanged other => if other = itemID then none else seen
  | .answered _ _ _ | .didChangeSSLStatus _ => seen

omit [DecidableEq Chain] in
/-- What the latest update of an item saw, unless the URL has changed since. -/
def saw (log : List (SSLEvent Trust Chain)) (itemID : Nat) : Option (Chain × String) :=
  log.foldl (sawEvent itemID) none

omit [DecidableEq Chain] in
def IsAnswered (log : List (SSLEvent Trust Chain)) (ssl : SSLStatus Chain) : Prop :=
  ∃ query, .answered query ssl.securityStyle ssl.certStatus ∈ log ∧
    env.createCertFromTrust query.trust = ssl.certificate ∧
    query.host = ssl.certStatusHost

omit [DecidableEq Chain] in
def IsFor (query : StatusQuery Trust) (item : SSLItem Chain) : Prop :=
  query.itemID = item.uniqueID ∧
    env.createCertFromTrust query.trust = item.ssl.certificate ∧
    query.host = item.ssl.certStatusHost

omit [DecidableEq Chain] in
def Matches (query : StatusQuery Trust) (item : SSLItem Chain) : Prop :=
  env.schemeIsCryptographic item.url ∧ env.host item.url = query.host
deriving Decidable

omit [DecidableEq Chain] in
/-- The status is the one an item has while it waits for an answer. -/
def IsReset (ssl : SSLStatus Chain) : Prop :=
  ssl.securityStyle = .unknown ∧ ssl.certStatus = 0
deriving Decidable

omit [DecidableEq Chain] in
/-- An answer for the certificate of an item comes while the host of the URL is the recorded
one, unless it is of no use for the item; an item that waits for an answer is not taken along
by a page that changes its history. -/
def IsDelivered (updater : CRWSSLStatusUpdater Trust Chain) : Input Trust → Prop
  | .answer position _ _ =>
    ∀ query ∈ updater.queries[position]?, ∀ item ∈ updater.items,
      query.itemID = item.uniqueID →
      env.createCertFromTrust query.trust = item.ssl.certificate →
      (Matches env query item → query.host = item.ssl.certStatusHost) ∧
      (query.host = item.ssl.certStatusHost → IsReset item.ssl →
        Matches env query item ∨
          ∃ other ∈ (updater.withoutQuery position).queries, IsFor env other item)
  | .pushNewItem _ =>
    ∀ item ∈ updater.getLastCommittedItem, IsReset item.ssl →
      ∀ query ∈ updater.queries, ¬ IsFor env query item
  | _ => True

/-- An answer changes only the item that was asked for, and what an update has seen is answered
once nothing is asked for any more. -/
structure Truthful (log : List (SSLEvent Trust Chain))
    (updater : CRWSSLStatusUpdater Trust Chain) : Prop where
  answers : ∀ {position style certStatus query answered emitted},
    updater.queries[position]? = some query →
    step env updater (.answer position style certStatus) = some (answered, emitted) →
    ∀ item ∈ updater.items, ∀ changed ∈ answered.items, changed.uniqueID = item.uniqueID →
    changed.ssl.securityStyle ≠ item.ssl.securityStyle ∨
      changed.ssl.certStatus ≠ item.ssl.certStatus →
    query.itemID = item.uniqueID ∧ Matches env query item ∧
      ∃ chain, item.ssl.certificate = some chain ∧
        env.createCertFromTrust query.trust = some chain
  known : ∀ item ∈ updater.items, ∀ chain host,
    saw log item.uniqueID = some (chain, host) →
    (∀ query ∈ updater.queries, query.itemID ≠ item.uniqueID) →
    ∃ query, .answered query item.ssl.securityStyle item.ssl.certStatus ∈ log ∧
      env.createCertFromTrust query.trust = some chain ∧ query.host = host

end Specification

/-! ## One step -/

section Steps

variable {env : SSLEnvironment Trust Chain}
variable {updater after : CRWSSLStatusUpdater Trust Chain}
variable {log emitted : List (SSLEvent Trust Chain)} {item other changed : SSLItem Chain}

omit [DecidableEq Chain] in
theorem saw_append (log emitted : List (SSLEvent Trust Chain)) (itemID : Nat) :
    saw (log ++ emitted) itemID = emitted.foldl (sawEvent itemID) (saw log itemID) :=
  List.foldl_append

omit [DecidableEq Chain] in
theorem getLastCommittedItem_mem (last : updater.getLastCommittedItem = some item) :
    item ∈ updater.items :=
  List.mem_of_getElem? last

variable {uniqueID position : Nat} {certStatus : CertStatus} {query : StatusQuery Trust}
variable {style : SecurityStyle}

omit [DecidableEq Chain] in
theorem getCommittedItemWithUniqueID_spec
    (found : updater.getCommittedItemWithUniqueID uniqueID = some item) :
    item ∈ updater.items ∧ item.uniqueID = uniqueID :=
  ⟨List.mem_of_find?_eq_some found, by simpa using List.find?_some found⟩

omit [DecidableEq Chain] in
theorem find_of_mem (nodup : (updater.items.map SSLItem.uniqueID).Nodup)
    (mem : item ∈ updater.items) (same : item.uniqueID = uniqueID) :
    updater.getCommittedItemWithUniqueID uniqueID = some item := by
  cases found : updater.getCommittedItemWithUniqueID uniqueID with
  | none =>
    have differs := List.find?_eq_none.mp found item mem
    exact absurd same (by simpa using differs)
  | some _ =>
    obtain ⟨memOther, sameOther⟩ := getCommittedItemWithUniqueID_spec found
    rw [List.inj_on_of_nodup_map nodup mem memOther (same.trans sameOther.symm)]

omit [DecidableEq Chain] in
/-- An item that has been written is the only one with its unique ID. -/
theorem mem_writeItem (written : other ∈ (updater.writeItem changed).items) :
    (other ∈ updater.items ∧ other.uniqueID ≠ changed.uniqueID) ∨ other = changed := by
  obtain ⟨before, mem, rfl⟩ := List.mem_map.mp written
  grind

omit [DecidableEq Chain] in
theorem map_uniqueID_writeItem :
    (updater.writeItem changed).items.map SSLItem.uniqueID =
      updater.items.map SSLItem.uniqueID := by
  simp only [writeItem, List.map_map]
  grind [List.map_congr_left]

variable (env) in
/-- An update records what it sees, and asks for it or leaves the status that is there. -/
theorem updatedStatus_cases (item : SSLItem Chain) (host : String) (trust : Trust)
    (hasOnlySecureContent : Bool) :
    (seenCert env item trust = none ∧
      (updatedStatus env item host trust hasOnlySecureContent).1.certificate = none ∧
      (updatedStatus env item host trust hasOnlySecureContent).2 = false) ∨
    ∃ chain, seenCert env item trust = some chain ∧
      (updatedStatus env item host trust hasOnlySecureContent).1.certificate = some chain ∧
      (updatedStatus env item host trust hasOnlySecureContent).1.certStatusHost = host ∧
      (((updatedStatus env item host trust hasOnlySecureContent).2 = true ∧
          IsReset (updatedStatus env item host trust hasOnlySecureContent).1) ∨
        ((updatedStatus env item host trust hasOnlySecureContent).2 = false ∧
          item.ssl.certificate = some chain ∧ item.ssl.certStatusHost = host ∧
          (updatedStatus env item host trust hasOnlySecureContent).1.securityStyle =
            item.ssl.securityStyle ∧
          (updatedStatus env item host trust hasOnlySecureContent).1.certStatus =
            item.ssl.certStatus)) := by
  unfold updatedStatus
  cases seen : seenCert env item trust with
  | none =>
    grind
  | some chain =>
    by_cases recorded : item.ssl.certificate = some chain ∧ item.ssl.certStatusHost = host
    · simp [recorded]
    · simp [IsReset, recorded]

/-! ## Where a status comes from -/

omit [DecidableEq Chain] in
variable (env) in
def Recorded (log : List (SSLEvent Trust Chain)) (queries : List (StatusQuery Trust))
    (item : SSLItem Chain) : Prop :=
  item.ssl.certificate.isSome →
    IsAnswered env log item.ssl ∨
      (IsReset item.ssl ∧ ∃ query ∈ queries, IsFor env query item)

omit [DecidableEq Chain] in
theorem IsAnswered.append {ssl : SSLStatus Chain} (answered : IsAnswered env log ssl) :
    IsAnswered env (log ++ emitted) ssl := by
  grind [IsAnswered]

omit [DecidableEq Chain] in
theorem Recorded.mono {queries more : List (StatusQuery Trust)}
    (recorded : Recorded env log queries item)
    (kept : ∀ query ∈ queries, IsFor env query item → query ∈ more) :
    Recorded env (log ++ emitted) more item := by
  intro certified
  rcases recorded certified with answered | ⟨reset, query, mem, isFor⟩ <;> grind [IsAnswered,
    IsReset, IsFor]

variable (env) in
omit [DecidableEq Chain] in
structure Sound (log : List (SSLEvent Trust Chain)) (updater : CRWSSLStatusUpdater Trust Chain) :
    Prop where
  nodup : (updater.items.map SSLItem.uniqueID).Nodup
  fresh : ∀ item ∈ updater.items, item.uniqueID < updater.nextUniqueID
  unseen : ∀ itemID, updater.nextUniqueID ≤ itemID → saw log itemID = none
  seen : ∀ item ∈ updater.items, ∀ chain host, saw log item.uniqueID = some (chain, host) →
    item.ssl.certificate = some chain ∧ item.ssl.certStatusHost = host
  recorded : ∀ item ∈ updater.items, Recorded env log updater.queries item

omit [DecidableEq Chain] in
theorem sound_initial : Sound env [] ({} : CRWSSLStatusUpdater Trust Chain) where
  nodup := List.nodup_nil
  fresh := by simp
  unseen _ _ := rfl
  seen := by simp
  recorded := by simp

omit [DecidableEq Chain] in
/-- A write that tells of no other item is to be checked for the item that is written. -/
theorem Sound.write {queries : List (StatusQuery Trust)} (sound : Sound env log updater)
    (mem : item ∈ updater.items) (same : changed.uniqueID = item.uniqueID)
    (others : ∀ itemID, itemID ≠ item.uniqueID → saw (log ++ emitted) itemID = saw log itemID)
    (seen : ∀ chain host, saw (log ++ emitted) item.uniqueID = some (chain, host) →
      changed.ssl.certificate = some chain ∧ changed.ssl.certStatusHost = host)
    (kept : ∀ query ∈ updater.queries, query.itemID ≠ item.uniqueID → query ∈ queries)
    (recorded : Recorded env (log ++ emitted) queries changed) :
    Sound env (log ++ emitted) { updater.writeItem changed with queries } where
  nodup := by
    grind [map_uniqueID_writeItem, sound.nodup]
  fresh other written := by
    rcases mem_writeItem written with ⟨memOther, -⟩ | rfl
    · exact sound.fresh other memOther
    · rw [same]
      exact sound.fresh item mem
  unseen itemID bound := by
    rw [others itemID (Nat.ne_of_gt (Nat.lt_of_lt_of_le (sound.fresh item mem) bound))]
    exact sound.unseen itemID bound
  seen other written chain host sawOther := by
    rcases mem_writeItem written with ⟨memOther, differs⟩ | rfl <;> grind [mem_writeItem,
      sound.seen]
  recorded other written := by
    rcases mem_writeItem written with ⟨memOther, differs⟩ | rfl
    · rw [same] at differs
      exact (sound.recorded other memOther).mono (by grind [IsFor])
    · exact recorded

omit [DecidableEq Chain] in
/-- A new item has a status that is answered, or no certificate. -/
theorem Sound.commit {ssl : SSLStatus Chain} (sound : Sound env log updater) (url : GURL)
    (known : ssl.certificate.isSome → IsAnswered env log ssl) :
    Sound env log (updater.commit url ssl) := by
  have split : ∀ item ∈ (updater.commit url ssl).items,
      item ∈ updater.items ∨ item = ⟨updater.nextUniqueID, url, ssl⟩ := by
    grind [CRWSSLStatusUpdater.commit]
  refine ⟨?_, ?_, ?_, ?_, ?_⟩
  · have kept : ((updater.items.take (updater.lastCommittedItemIndex + 1)).map
        SSLItem.uniqueID).Nodup :=
      sound.nodup.sublist (List.Sublist.map _ (List.take_sublist _ _))
    change ((updater.items.take _ ++ [_]).map SSLItem.uniqueID).Nodup
    rw [List.map_append]
    refine List.Nodup.append kept (List.nodup_singleton _) ?_
    intro itemID memKept memNew
    obtain ⟨item, mem, rfl⟩ := List.mem_map.mp memKept
    have bound := sound.fresh item (List.mem_of_mem_take mem)
    grind
  · intro item mem
    rcases split item mem with old | rfl
    · exact Nat.lt_succ_of_lt (sound.fresh item old)
    · exact Nat.lt_succ_self _
  · exact fun itemID bound => sound.unseen itemID (Nat.le_of_succ_le bound)
  · intro item mem chain host sawItem
    rcases split item mem with old | rfl
    · exact sound.seen item old chain host sawItem
    · simp [sound.unseen _ (Nat.le_refl _)] at sawItem
  · grind [CRWSSLStatusUpdater.commit, Recorded, sound.recorded]

/-- What a write of a status tells is told of no update and no URL. -/
theorem saw_writeStatus (log : List (SSLEvent Trust Chain)) (event : SSLEvent Trust Chain)
    (item : SSLItem Chain) (status : SSLStatus Chain) (itemID : Nat) :
    saw (log ++ event :: (updater.writeStatus item status).2) itemID =
      sawEvent itemID (saw log itemID) event := by
  rw [saw_append, writeStatus]
  by_cases same : item.ssl.equals status = true
  · rw [if_pos same]
    rfl
  · rw [if_neg same]
    rfl

theorem writeStatus_queries (updater : CRWSSLStatusUpdater Trust Chain) (item : SSLItem Chain)
    (status : SSLStatus Chain) :
    (updater.writeStatus item status).1 =
      { updater.writeItem { item with ssl := status } with queries := updater.queries } := rfl

theorem update_spec {host : String} {trust : Trust} {hasOnlySecureContent : Bool}
    (updated : updater.updateSSLStatusForNavigationItem env item host trust
      hasOnlySecureContent = some (after, emitted)) :
    ∃ asking,
      (if (updatedStatus env item host trust hasOnlySecureContent).2 then
        updater.scheduleSSLStatusUpdate trust host else some updater) = some asking ∧
      after = (asking.writeStatus item
        (updatedStatus env item host trust hasOnlySecureContent).1).1 ∧
      emitted = .updated item.uniqueID
          ((seenCert env item trust).map fun cert => (cert, host)) ::
        (asking.writeStatus item
          (updatedStatus env item host trust hasOnlySecureContent).1).2 := by
  obtain ⟨asking, asked, updated⟩ := Option.map_eq_some_iff.mp updated
  cases updated
  exact ⟨asking, asked, rfl, rfl⟩

/-- An update of the last committed item asks for what it records, or finds it recorded. -/
theorem Sound.update {host : String} {trust : Trust} {hasOnlySecureContent : Bool}
    (sound : Sound env log updater) (last : updater.getLastCommittedItem = some item)
    (updated : updater.updateSSLStatusForNavigationItem env item host trust
      hasOnlySecureContent = some (after, emitted)) :
    Sound env (log ++ emitted) after := by
  have mem := getLastCommittedItem_mem last
  obtain ⟨asking, asked, rfl, rfl⟩ := update_spec updated
  rw [writeStatus_queries]
  have queries : asking = { updater with queries := asking.queries } ∧
      ∀ query ∈ updater.queries, query ∈ asking.queries := by
    split at asked
    · rw [scheduleSSLStatusUpdate, last] at asked
      grind
    · cases asked
      exact ⟨rfl, fun _ memQuery => memQuery⟩
  obtain ⟨unchanged, kept⟩ := queries
  rw [unchanged] at asked ⊢
  refine sound.write mem rfl ?_ ?_ (fun query memQuery _ => kept query memQuery) ?_
  · intro itemID differs
    rw [saw_writeStatus]
    exact if_neg differs.symm
  · intro chain sawHost sawItem
    rw [saw_writeStatus] at sawItem
    simp only [sawEvent, if_true] at sawItem
    grind [updatedStatus_cases]
  · rcases updatedStatus_cases env item host trust hasOnlySecureContent with
      ⟨-, none, -⟩ | ⟨cert, seen, certificate, recordedHost, ⟨asks, reset⟩ |
        ⟨asksNot, sameCert, sameHost, sameStyle, sameStatus⟩⟩
    · intro certified
      rw [none] at certified
      cases certified
    · rw [if_pos asks, scheduleSSLStatusUpdate, last] at asked
      have queries := congrArg CRWSSLStatusUpdater.queries (Option.some.inj asked)
      refine fun _ => .inr ⟨reset, ⟨item.uniqueID, trust, host⟩, ?_, rfl, ?_, recordedHost.symm⟩
      · grind
      · rw [certificate]
        grind [seenCert]
    · intro certified
      have before := sound.recorded item mem (by rw [sameCert]; rfl)
      rcases before with ⟨query, memQuery, sameChain, sameQuery⟩ | ⟨reset, query, memQuery, isFor⟩
      · refine .inl ⟨query, List.mem_append_left _ ?_, ?_, ?_⟩
        · rw [sameStyle, sameStatus]
          exact memQuery
        · rw [certificate, ← sameCert]
          exact sameChain
        · rw [recordedHost, ← sameHost]
          exact sameQuery
      · refine .inr ⟨⟨sameStyle.trans reset.1, sameStatus.trans reset.2⟩, query,
          kept query memQuery, isFor.1, ?_, ?_⟩
        · rw [certificate, ← sameCert]
          exact isFor.2.1
        · rw [recordedHost, ← sameHost]
          exact isFor.2.2

/-- An answer is dropped, or it is the status of the item that was asked for. -/
theorem answer_cases
    (answered : updater.updateSSLStatusForItemWithID env query style certStatus =
      (after, emitted)) :
    (after = updater ∧ emitted = [] ∧
      ∀ item, updater.getCommittedItemWithUniqueID query.itemID = some item →
        item.ssl.certificate.isSome →
        item.ssl.certificate = env.createCertFromTrust query.trust →
        ¬ Matches env query item) ∨
    ∃ item, item ∈ updater.items ∧ item.uniqueID = query.itemID ∧
      Matches env query item ∧ item.ssl.certificate.isSome ∧
      item.ssl.certificate = env.createCertFromTrust query.trust ∧
      updater.writeStatus item { item.ssl with certStatus, securityStyle := style } =
        (after, emitted) := by
  unfold updateSSLStatusForItemWithID at answered
  cases found : updater.getCommittedItemWithUniqueID query.itemID with
  | none =>
    grind
  | some _ =>
    grind [Matches, getCommittedItemWithUniqueID_spec]

omit [DecidableEq Chain] in
theorem mem_withoutQuery {asked : StatusQuery Trust}
    (isAsked : updater.queries[position]? = some asked) (mem : query ∈ updater.queries)
    (differs : query ≠ asked) : query ∈ (updater.withoutQuery position).queries := by
  obtain ⟨other, at_other⟩ := List.mem_iff_getElem?.mp mem
  refine List.mem_eraseIdx_iff_getElem?.mpr ⟨other, ?_, at_other⟩
  grind

/-- An item waits on after an answer that is not for it, or not the last one for it. -/
theorem Sound.answer (sound : Sound env log updater)
    (isAsked : updater.queries[position]? = some query)
    (delivered : IsDelivered env updater (.answer position style certStatus))
    (answered : (updater.withoutQuery position).updateSSLStatusForItemWithID env query
      style certStatus = (after, emitted)) :
    Sound env (log ++ .answered query style certStatus :: emitted) after := by
  rcases answer_cases answered with ⟨rfl, rfl, dropped⟩ | ⟨item, mem, same, isFor, certified,
    certificate, written⟩
  · have saws : ∀ itemID, saw (log ++ [.answered query style certStatus]) itemID =
        saw log itemID := fun itemID => saw_append _ _ _
    refine ⟨sound.nodup, sound.fresh, fun itemID bound => ?_, fun item mem chain host sawItem => ?_,
      fun item mem certified => ?_⟩
    · rw [saws]
      exact sound.unseen itemID bound
    · rw [saws] at sawItem
      exact sound.seen item mem chain host sawItem
    · rcases sound.recorded item mem certified with known | ⟨reset, other, memOther, isFor⟩
      · exact .inl known.append
      · refine .inr ⟨reset, ?_⟩
        by_cases same : other = query
        · subst same
          rcases (delivered other isAsked item mem isFor.1 isFor.2.1).2 isFor.2.2 reset with
            matched | later
          · refine absurd matched (dropped item ?_ certified isFor.2.1.symm)
            exact find_of_mem sound.nodup mem isFor.1.symm
          · exact later
        · exact ⟨other, mem_withoutQuery isAsked memOther same, isFor⟩
  · have isDelivered := delivered query isAsked item mem same.symm certificate.symm
    have saws : ∀ itemID, saw (log ++ .answered query style certStatus :: emitted) itemID =
        saw log itemID := by
      intro itemID
      rw [← show _ = emitted from congrArg Prod.snd written]
      exact saw_writeStatus ..
    rw [← show _ = after from congrArg Prod.fst written]
    refine sound.write mem rfl (fun itemID _ => saws itemID) ?_ ?_ ?_
    · intro chain host sawItem
      rw [saws] at sawItem
      exact sound.seen item mem chain host sawItem
    · grind [mem_withoutQuery]
    · refine fun _ => (by grind [IsAnswered])

omit [DecidableEq Chain] in
theorem Sound.setURL {url : GURL} (sound : Sound env log updater)
    (set : updater.setURL uniqueID url = some (after, emitted)) :
    Sound env (log ++ emitted) after := by
  obtain ⟨item, found, set⟩ := bind_eq_some set
  cases set
  obtain ⟨mem, rfl⟩ := getCommittedItemWithUniqueID_spec found
  have saws : ∀ itemID,
      saw (log ++ if url = item.url then [] else [.urlChanged item.uniqueID]) itemID =
        saw log itemID ∨
      itemID = item.uniqueID ∧
        saw (log ++ if url = item.url then [] else [.urlChanged item.uniqueID]) itemID = none := by
    intro itemID
    rw [saw_append]
    grind [sawEvent]
  refine sound.write mem rfl ?_ ?_ (fun _ memQuery _ => memQuery) ?_
  · grind
  · grind [sound.seen]
  · exact (sound.recorded item mem).mono fun _ memQuery _ => memQuery

/-- Every step keeps the statuses sound. -/
theorem Sound.step {input : Input Trust} (sound : Sound env log updater)
    (delivered : IsDelivered env updater input)
    (stepped : CRWSSLStatusUpdater.step env updater input = some (after, emitted)) :
    Sound env (log ++ emitted) after := by
  cases input with
  | updateSSLStatus _ _ _ =>
    cases last : updater.getLastCommittedItem with
    | none =>
      simp only [CRWSSLStatusUpdater.step, last] at stepped
      cases stepped
      grind
    | some _ =>
      simp only [CRWSSLStatusUpdater.step, last] at stepped
      exact sound.update last stepped
  | commitItem _ =>
    cases stepped
    simp [sound.commit]
  | pushNewItem url =>
    obtain ⟨_, isPushed, stepped⟩ := bind_eq_some stepped
    cases stepped
    obtain ⟨item, last, isPushed⟩ := bind_eq_some isPushed
    cases isPushed
    rw [List.append_nil]
    refine sound.commit url fun certified => ?_
    rcases sound.recorded item (getLastCommittedItem_mem last) certified with
      known | ⟨reset, query, memQuery, isFor⟩
    · exact known
    · exact absurd isFor (delivered item last reset query memQuery)
  | goToItem _ =>
    obtain ⟨_, isGone, stepped⟩ := bind_eq_some stepped
    cases stepped
    obtain ⟨-, isGone⟩ := dcheck_then isGone
    cases isGone
    simpa using ⟨sound.nodup, sound.fresh, sound.unseen, sound.seen, sound.recorded⟩
  | setURL _ _ => exact sound.setURL stepped
  | answer _ _ _ =>
    obtain ⟨_, isAsked, stepped⟩ := bind_eq_some stepped
    cases stepped
    exact sound.answer isAsked delivered rfl

/-- An item that an answer has changed is the one that was asked for. -/
theorem answer_changes (nodup : (updater.items.map SSLItem.uniqueID).Nodup)
    (isAsked : updater.queries[position]? = some query)
    (stepped : CRWSSLStatusUpdater.step env updater (.answer position style certStatus) =
      some (after, emitted)) (mem : item ∈ updater.items) (memChanged : changed ∈ after.items)
    (same : changed.uniqueID = item.uniqueID) (differs : changed.ssl ≠ item.ssl) :
    query.itemID = item.uniqueID ∧ Matches env query item ∧
      ∃ chain, item.ssl.certificate = some chain ∧
        env.createCertFromTrust query.trust = some chain := by
  obtain ⟨asked, isAsked', stepped⟩ := bind_eq_some stepped
  cases isAsked.symm.trans isAsked'
  cases stepped
  have unchanged : changed ∉ updater.items := fun old =>
    differs (congrArg SSLItem.ssl (List.inj_on_of_nodup_map nodup old mem same))
  have answered : (updater.withoutQuery position).updateSSLStatusForItemWithID env query
      style certStatus = (_, _) := rfl
  rcases answer_cases answered with
    ⟨kept, -⟩ | ⟨answered, memAnswered, sameID, isFor, certified, certificate, written⟩
  · rw [kept] at memChanged
    exact absurd memChanged unchanged
  · rw [← congrArg Prod.fst written] at memChanged
    rcases mem_writeItem memChanged with ⟨old, -⟩ | rfl
    · exact absurd old unchanged
    · obtain ⟨chain, isChain⟩ := Option.isSome_iff_exists.mp certified
      cases List.inj_on_of_nodup_map nodup memAnswered mem same
      grind

/-- While every answer comes to an item whose URL has the recorded host, each status is an
answer for the certificate and host that were seen. -/
theorem run_statusTruthful (env : SSLEnvironment Trust Chain)
    (log : List (SSLEvent Trust Chain)) (updater : CRWSSLStatusUpdater Trust Chain)
    (run : Runs (CRWSSLStatusUpdater.step env)
      (fun updater input => Accepts env updater input ∧
        IsDelivered env updater input) {} log updater) :
    Truthful env log updater := by
  have sound : Sound env log updater :=
    run.invariant_outputs (Sound env) sound_initial
      fun _ sound accepted stepped => sound.step accepted.2 stepped
  refine ⟨?_, ?_⟩
  · intro position style certStatus query answered emitted isAsked stepped item mem changed
      memChanged same differs
    refine answer_changes sound.nodup isAsked stepped mem memChanged same fun equal => ?_
    grind
  · intro item mem chain host sawItem notAsked
    obtain ⟨certificate, recordedHost⟩ := sound.seen item mem chain host sawItem
    rcases sound.recorded item mem (by rw [certificate]; rfl) with
      ⟨query, answered, sameChain, sameHost⟩ | ⟨-, query, memQuery, isFor⟩
    · grind
    · exact absurd isFor.1 (notAsked query memQuery)

end Steps

/-! ## Redirects between two hosts -/

instance : Decidable (Accepts env updater input) :=
  match input with
  | .updateSSLStatus host _ _ =>
    inferInstanceAs (Decidable (∀ item ∈ updater.getLastCommittedItem, host = _))
  | .commitItem _ | .pushNewItem _ | .goToItem _ | .setURL _ _ | .answer _ _ _ => isTrue trivial

instance (query : StatusQuery Trust) (item : SSLItem Chain) :
    Decidable (IsFor env query item) :=
  inferInstanceAs (Decidable (_ ∧ _ ∧ _))

omit [DecidableEq Chain] in

omit [DecidableEq Chain] in

instance : Decidable (IsDelivered env updater input) :=
  match input with
  | .answer position _ _ =>
    inferInstanceAs (Decidable (∀ query ∈ updater.queries[position]?, ∀ item ∈ updater.items,
      _ → _ → (_ → _) ∧ (_ → _ → _ ∨ ∃ other ∈ _, _)))
  | .pushNewItem _ =>
    inferInstanceAs (Decidable (∀ item ∈ updater.getLastCommittedItem, _ → ∀ query ∈ _, ¬ _))
  | .updateSSLStatus _ _ _ | .commitItem _ | .goToItem _ | .setURL _ _ => isTrue trivial

def secureA : GURL := ⟨"https://a/"⟩

def secureB : GURL := ⟨"https://b/"⟩

/-- Two secure URLs of different hosts; a trust is its chain. -/
def twoHosts : SSLEnvironment (Option Nat) Nat where
  schemeIsCryptographic url := url = secureA ∨ url = secureB
  host url := if url = secureB then "b" else "a"
  createCertFromTrust := id

/-- The URL changes while its status is asked for. -/
def redirected : List (Input (Option Nat)) :=
  [.commitItem secureA, .updateSSLStatus "a" (some 1) true, .setURL 0 secureB,
    .updateSSLStatus "b" (some 1) true]

theorem run_statusTruthful_redirected :
    ∃ log updater, Runs (step twoHosts)
        (fun updater input => Accepts twoHosts updater input ∧ IsDelivered twoHosts updater input)
        {} log updater ∧
      Truthful twoHosts log updater ∧ updater.queries = [] ∧
      updater.items.map (fun item => item.ssl.securityStyle) = [.authenticated] := by
  have run : Runs (step twoHosts)
      (fun updater input => Accepts twoHosts updater input ∧ IsDelivered twoHosts updater input)
      {} _ _ :=
    Runs.replay (redirected ++ [.answer 1 .authenticated 0, .answer 0 .authenticationBroken 1])
      .start (Option.eq_some_of_isSome (by decide +kernel))
  exact ⟨_, _, run, run_statusTruthful twoHosts _ _ run, by decide +kernel, by decide +kernel⟩

/-- The answer for the first host comes after that for the second, when the URL is the first
one again; back at the second host nothing is asked. -/
theorem run_otherHostsAnswer :
    ¬ ∀ log updater, Runs (step twoHosts) (Accepts twoHosts) {} log updater →
      Truthful twoHosts log updater := by
  intro truthful
  let item : SSLItem Nat := ⟨0, secureB,
    { securityStyle := .authenticated, certificate := some 1, certStatusHost := "b" }⟩
  have run : Runs (step twoHosts) (Accepts twoHosts) {}
      ([] ++ [.updated 0 (some (1, "a")), .didChangeSSLStatus 0, .urlChanged 0,
        .updated 0 (some (1, "b")), .answered ⟨0, some 1, "b"⟩ .authenticationBroken 1,
        .didChangeSSLStatus 0, .urlChanged 0, .answered ⟨0, some 1, "a"⟩ .authenticated 0,
        .didChangeSSLStatus 0, .urlChanged 0, .updated 0 (some (1, "b"))]) ⟨[item], 0, 1, []⟩ :=
    Runs.replay (redirected ++ [.answer 1 .authenticationBroken 1, .setURL 0 secureA,
      .answer 0 .authenticated 0, .setURL 0 secureB, .updateSSLStatus "b" (some 1) true])
      .start (by decide +kernel)
  obtain ⟨query, answered, -, host⟩ := (truthful _ _ run).known item (List.mem_singleton_self _)
    1 "b" (by decide +kernel) nofun
  grind

end CRWSSLStatusUpdater

end ChromiumIos
