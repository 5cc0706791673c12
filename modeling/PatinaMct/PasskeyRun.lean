import PatinaMct.SampleHost
/-!
# PasskeyRun — the runs of passkey administration

Every run of `evaluatePasskeyAdminTransition` begins with a birth and goes on with four kinds of requests, proved by
the root passkey or by a day key.  One inversion lemma (`passkeyStep_ok`) says what an accepted request was checked for
and which state it leaves; one lemma about the leases (`applyPasskeyAction_ok`) says what an action does to them.  The
run law (`PasskeyRunLaw`) follows by induction over the history: what never changes, which leases a state can hold, and
which requests can no longer be accepted.
-/
namespace Mct

open Checked

variable [LedgerHost]

/-- One accepted request with its time, between two states. -/
abbrev PasskeyStep := Taken (Option PasskeyAdminStateV1) (PasskeyAdminRequestV1 × Timestamp)

def passkeyAdminStep (state : Option PasskeyAdminStateV1) (input : PasskeyAdminRequestV1 × Timestamp) :
    Except DayKeyAdminError (Option PasskeyAdminStateV1) :=
  (evaluatePasskeyAdminTransition state input.1 input.2).map some

def PasskeyRun (h : List PasskeyStep) (s : Option PasskeyAdminStateV1) : Prop := Trace passkeyAdminStep none h s

/-! ## One step -/

variable {state state' : PasskeyAdminStateV1} {req : PasskeyAdminRequestV1} {now : Timestamp}
  {key : Ed25519DayKeyV1} {leases : TextMap Ed25519DayKeyV1}

def PasskeyAdminRequestV1.nonceKey (request : PasskeyAdminRequestV1) : String × String :=
  (request.proof.signerRef, request.intent.nonce)

def PasskeyAdminStateV1.after (state : PasskeyAdminStateV1) (leases : TextMap Ed25519DayKeyV1)
    (request : PasskeyAdminRequestV1) (now : Timestamp) : PasskeyAdminStateV1 :=
  { state with dayKeys := leases, usedNonces := insert request.nonceKey state.usedNonces, lastDecidedAt := now }

theorem passkeyStep_ok : evaluatePasskeyAdminTransition (some state) req now = .ok state' ↔
    req.intent.validate now = .ok () ∧ state.motherNodeId = req.intent.motherNodeId ∧
      state.ledgerId = req.intent.ledgerId ∧ req.nonceKey ∉ state.usedNonces ∧
      (∃ decided last, instant now = .ok decided ∧ instant state.lastDecidedAt = .ok last ∧ last ≤ decided) ∧
      (∃ scope, req.intent.action.requiredScope = .ok scope ∧ verifyPasskeyProof state req scope now = .ok ()) ∧
      ∃ leases, applyPasskeyAction state req.intent now = .ok leases ∧ state' = state.after leases req now := by
  simp only [evaluatePasskeyAdminTransition, bind_ok, exists_unit, deny_ok, pure_ok, Bool.or_eq_false_iff,
    decide_eq_false_iff_not, not_not, and_assoc, Int.not_lt]
  constructor
  · rintro ⟨hv, hm, hl, hn, decided, hd, last, hlast, hle, scope, hs, hp, leases, ha, rfl⟩
    exact ⟨hv, hm, hl, hn, ⟨decided, last, hd, hlast, hle⟩, ⟨scope, hs, hp⟩, leases, ha, rfl⟩
  · rintro ⟨hv, hm, hl, hn, ⟨decided, last, hd, hlast, hle⟩, ⟨scope, hs, hp⟩, leases, ha, rfl⟩
    exact ⟨hv, hm, hl, hn, decided, hd, last, hlast, hle, scope, hs, hp, leases, ha, rfl⟩

theorem passkeyBirth_ok : evaluatePasskeyAdminTransition none req now = .ok state' ↔
    req.intent.validate now = .ok () ∧ ∃ root inventoryHash, req.intent.action = .bootstrap root inventoryHash ∧
      verifyWebauthnAdminSignature root req = .ok () ∧
      state' = ⟨req.intent.motherNodeId, req.intent.ledgerId, root, ∅, {req.nonceKey}, now⟩ := by
  simp only [evaluatePasskeyAdminTransition, passkeyBirth, bind_ok, exists_unit]
  cases req.intent.action with
  | bootstrap root inventoryHash =>
    simp only [bind_ok, exists_unit, pure_ok, PasskeyAdminActionV1.bootstrap.injEq]
    constructor
    · rintro ⟨hv, hs, rfl⟩
      exact ⟨hv, root, inventoryHash, ⟨rfl, rfl⟩, hs, rfl⟩
    · rintro ⟨hv, root', hash', ⟨rfl, rfl⟩, hs, rfl⟩
      exact ⟨hv, hs, rfl⟩
  | issueDayKey gid publicHalf scopes exp => simp
  | revokeDayKey gid => simp
  | command scope route body => simp

variable {intent : PasskeyAdminIntentV1}

theorem PasskeyAdminIntentV1.validate_instant (h : intent.validate now = .ok ()) :
    ∃ n, instant now = .ok n := by
  simp only [PasskeyAdminIntentV1.validate, bind_ok, exists_unit, deny_ok] at h
  obtain ⟨_, -, _, -, n, hn, -⟩ := h
  exact ⟨n, hn⟩

/-! ## Leases -/

def leaseOf (intent : PasskeyAdminIntentV1) (now : Timestamp) (grantId : String) (publicHalf : AdminKeyPublicHalf)
    (scopes : List AdminKeyScopeV1) (expiresAt : Timestamp) : Ed25519DayKeyV1 :=
  ⟨intent.motherNodeId, intent.ledgerId, now,
    ⟨grantId, publicHalf, none, .dayToDay, scopes, some expiresAt, .active, none⟩⟩

def Ed25519DayKeyV1.withState (key : Ed25519DayKeyV1) (grantState : AdminKeyGrantStateV1) : Ed25519DayKeyV1 :=
  { key with grant := { key.grant with grantState := grantState } }

inductive LeaseStep (leases leases' : TextMap Ed25519DayKeyV1) (intent : PasskeyAdminIntentV1) (now : Timestamp) : Prop
  | keep : leases' = leases → (∀ grantId, intent.action ≠ .revokeDayKey grantId) →
      LeaseStep leases leases' intent now
  | issue (grantId : String) (publicHalf : AdminKeyPublicHalf) (scopes : List AdminKeyScopeV1) (expiresAt : Timestamp) :
      intent.action = .issueDayKey grantId publicHalf scopes expiresAt → leases[grantId]? = none →
      (leaseOf intent now grantId publicHalf scopes expiresAt).validate = .ok () →
      leases' = leases.insert grantId (leaseOf intent now grantId publicHalf scopes expiresAt) →
      LeaseStep leases leases' intent now
  | revoke (grantId : String) (key : Ed25519DayKeyV1) : intent.action = .revokeDayKey grantId →
      leases[grantId]? = some key → leases' = leases.insert grantId (key.withState .revoked) →
      LeaseStep leases leases' intent now

theorem applyPasskeyAction_ok
    (h : applyPasskeyAction state intent now = .ok leases) : LeaseStep state.dayKeys leases intent now := by
  unfold applyPasskeyAction at h
  cases ha : intent.action with
  | issueDayKey gid publicHalf scopes exp =>
    simp only [ha, bind_ok, exists_unit, deny_ok, pure_ok] at h
    obtain ⟨hfree, hvalid, rfl⟩ := h
    refine .issue gid publicHalf scopes exp ha ?_ hvalid rfl
    rwa [Std.ExtTreeMap.contains_eq_isSome_getElem?, Option.isSome_eq_false_iff, Option.isNone_iff_eq_none] at hfree
  | revokeDayKey gid =>
    simp only [ha, bind_ok, okOr_ok, pure_ok] at h
    obtain ⟨key, hkey, rfl⟩ := h
    exact .revoke gid key ha hkey rfl
  | command scope route body =>
    simp only [ha, Except.ok.injEq] at h
    exact .keep h.symm (by simp [ha])
  | bootstrap root inventoryHash =>
    simp only [ha, Except.ok.injEq] at h
    exact .keep h.symm (by simp [ha])

variable {leases' : TextMap Ed25519DayKeyV1} {grantId : String}

theorem LeaseStep.bound (step : LeaseStep leases leases' intent now) (hkey : leases[grantId]? = some key) :
    ∃ grantState, leases'[grantId]? = some (key.withState grantState) ∧
      (key.grant.grantState = .revoked → grantState = .revoked) := by
  have hsame : key.withState key.grant.grantState = key := rfl
  cases step with
  | keep heq _ => exact ⟨key.grant.grantState, by rw [heq, hkey, hsame], id⟩
  | issue issued publicHalf scopes exp _ hfree _ heq =>
    have hne : issued ≠ grantId := by
      rintro rfl
      rw [hkey] at hfree
      cases hfree
    refine ⟨key.grant.grantState, ?_, id⟩
    rw [heq, Std.ExtTreeMap.getElem?_insert, if_neg (by simpa using hne), hkey, hsame]
  | revoke revoked key' _ hkey' heq =>
    by_cases hid : revoked = grantId
    · subst hid
      rw [hkey] at hkey'
      cases hkey'
      exact ⟨.revoked, by rw [heq, Std.ExtTreeMap.getElem?_insert_self], fun _ => rfl⟩
    · refine ⟨key.grant.grantState, ?_, id⟩
      rw [heq, Std.ExtTreeMap.getElem?_insert, if_neg (by simpa using hid), hkey, hsame]

theorem LeaseStep.origin (step : LeaseStep leases leases' intent now) (hkey : leases'[grantId]? = some key) :
    (∃ old grantState, leases[grantId]? = some old ∧ key = old.withState grantState) ∨
      ∃ publicHalf scopes exp, intent.action = .issueDayKey grantId publicHalf scopes exp ∧
        key = leaseOf intent now grantId publicHalf scopes exp ∧ key.validate = .ok () := by
  cases step with
  | keep heq _ => exact .inl ⟨key, key.grant.grantState, heq ▸ hkey, rfl⟩
  | issue issued publicHalf scopes exp ha _ hvalid heq =>
    rw [heq, Std.ExtTreeMap.getElem?_insert] at hkey
    split at hkey
    · rename_i hid
      obtain rfl : issued = grantId := by simpa using hid
      cases hkey
      exact .inr ⟨publicHalf, scopes, exp, ha, rfl, hvalid⟩
    · exact .inl ⟨key, key.grant.grantState, hkey, rfl⟩
  | revoke revoked old _ hold heq =>
    rw [heq, Std.ExtTreeMap.getElem?_insert] at hkey
    split at hkey
    · rename_i hid
      obtain rfl : revoked = grantId := by simpa using hid
      cases hkey
      exact .inl ⟨old, .revoked, hold, rfl⟩
    · exact .inl ⟨key, key.grant.grantState, hkey, rfl⟩

/-! ## Along a run -/

/-- The lease was put there by an issue action that the root passkey proved. -/
def IssuedByRoot (h : List PasskeyStep) (grantId : String) (key : Ed25519DayKeyV1) : Prop :=
  ∃ x ∈ h, ∃ st publicHalf scopes expiresAt grantState, x.pre = some st ∧
    x.input.1.intent.action = .issueDayKey grantId publicHalf scopes expiresAt ∧
    verifyWebauthnAdminSignature st.root x.input.1 = .ok () ∧
    key = (leaseOf x.input.1.intent x.input.2 grantId publicHalf scopes expiresAt).withState grantState

/-- **What a history and the state it leads to have to do with each other.** -/
structure PasskeyInv (h : List PasskeyStep) (final : PasskeyAdminStateV1) : Prop where
  /-- Mother, ledger and root are those of the birth. -/
  target : ∀ x ∈ h, ∀ st, x.post = some st →
    st.motherNodeId = final.motherNodeId ∧ st.ledgerId = final.ledgerId ∧ st.root = final.root
  /-- The last decision is not before an earlier one. -/
  clock : ∀ x ∈ h, ∀ st, x.post = some st →
    ∃ n m, instant st.lastDecidedAt = .ok n ∧ instant final.lastDecidedAt = .ok m ∧ n ≤ m
  decided : ∃ m, instant final.lastDecidedAt = .ok m
  /-- Every lease is valid, stands under its own id and was issued by the root. -/
  lease : ∀ (grantId : String) (key : Ed25519DayKeyV1), final.dayKeys[grantId]? = some key →
    key.validate = .ok () ∧ key.grant.grantId = grantId ∧ IssuedByRoot h grantId key
  /-- A lease that was ever there is still there, and revoked if it was. -/
  bound : ∀ x ∈ h, ∀ st (grantId : String) (key : Ed25519DayKeyV1), x.post = some st → st.dayKeys[grantId]? = some key →
    ∃ grantState, final.dayKeys[grantId]? = some (key.withState grantState) ∧
      (key.grant.grantState = .revoked → grantState = .revoked)
  /-- A lease that a request revoked is revoked. -/
  revoked : ∀ x ∈ h, ∀ grantId : String, x.input.1.intent.action = .revokeDayKey grantId →
    ∃ key, final.dayKeys[grantId]? = some key ∧ key.grant.grantState = .revoked
  used : ∀ x ∈ h, x.input.1.nonceKey ∈ final.usedNonces
  nonces : (h.map fun x => x.input.1.nonceKey).Nodup

theorem passkeyInv_birth (hb : evaluatePasskeyAdminTransition none req now = .ok state') :
    PasskeyInv [⟨none, (req, now), some state'⟩] state' := by
  obtain ⟨hvalid, root, inventoryHash, haction, -, rfl⟩ := passkeyBirth_ok.mp hb
  obtain ⟨n, hn⟩ := PasskeyAdminIntentV1.validate_instant hvalid
  refine ⟨?_, ?_, ⟨n, hn⟩, ?_, ?_, ?_, ?_, ?_⟩
  · intro x hx st hst
    rw [List.mem_singleton] at hx
    subst hx
    cases hst
    exact ⟨rfl, rfl, rfl⟩
  · intro x hx st hst
    rw [List.mem_singleton] at hx
    subst hx
    cases hst
    exact ⟨n, n, hn, hn, le_refl n⟩
  · intro grantId key hkey
    simp at hkey
  · intro x hx st grantId key hst hkey
    rw [List.mem_singleton] at hx
    subst hx
    cases hst
    simp at hkey
  · intro x hx grantId ha
    rw [List.mem_singleton] at hx
    subst hx
    rw [haction] at ha
    cases ha
  · intro x hx
    rw [List.mem_singleton] at hx
    subst hx
    exact Finset.mem_singleton_self _
  · exact List.nodup_singleton _

variable {scope : AdminKeyScopeV1}

theorem issue_proved_by_root (hproof : verifyPasskeyProof state req scope now = .ok ())
    (hissue : req.intent.action.issues = true) : verifyWebauthnAdminSignature state.root req = .ok () := by
  unfold verifyPasskeyProof at hproof
  cases hp : req.proof with
  | webAuthnP256DayKeyV1 credentialId authenticatorData clientDataJson sig =>
    simp only [hp] at hproof
    exact hproof
  | ed25519DayKeyV1 grantId sig =>
    simp only [hp, bind_ok, exists_unit, deny_ok, hissue] at hproof
    cases hproof.1

variable {h : List PasskeyStep}

theorem PasskeyInv.step (hi : PasskeyInv h state)
    (hs : evaluatePasskeyAdminTransition (some state) req now = .ok state') :
    PasskeyInv (h ++ [⟨some state, (req, now), some state'⟩]) state' := by
  obtain ⟨-, -, -, hfresh, ⟨decided, last, hdec, hlast, hle⟩, ⟨scope, -, hproof⟩, leases, hact, rfl⟩ :=
    passkeyStep_ok.mp hs
  have hstep := applyPasskeyAction_ok hact
  refine ⟨?_, ?_, ⟨decided, hdec⟩, ?_, ?_, ?_, ?_, ?_⟩
  · intro x hx st hst
    rcases List.mem_append.mp hx with hx | hx
    · exact hi.target x hx st hst
    · rw [List.mem_singleton] at hx
      subst hx
      cases hst
      exact ⟨rfl, rfl, rfl⟩
  · intro x hx st hst
    rcases List.mem_append.mp hx with hx | hx
    · obtain ⟨n, m, hn, hm, hnm⟩ := hi.clock x hx st hst
      rw [hlast] at hm
      cases hm
      exact ⟨n, decided, hn, hdec, hnm.trans hle⟩
    · rw [List.mem_singleton] at hx
      subst hx
      cases hst
      exact ⟨decided, decided, hdec, hdec, le_refl _⟩
  · intro grantId key hkey
    rcases hstep.origin hkey with ⟨old, grantState, hold, rfl⟩ | ⟨publicHalf, scopes, exp, ha, rfl, hvalid⟩
    · obtain ⟨hvalid, hid, x, hx, st, publicHalf, scopes, exp, grantState', hpre, ha, hroot, heq⟩ :=
        hi.lease grantId old hold
      refine ⟨hvalid, hid, x, List.mem_append_left _ hx, st, publicHalf, scopes, exp, grantState, hpre, ha, hroot, ?_⟩
      rw [heq]
      rfl
    · refine ⟨hvalid, rfl, _, List.mem_append_right _ (List.mem_singleton_self _), state, publicHalf, scopes, exp,
        .active, rfl, ha, ?_, rfl⟩
      exact issue_proved_by_root hproof (by rw [ha]; rfl)
  · intro x hx st grantId key hst hkey
    rcases List.mem_append.mp hx with hx | hx
    · obtain ⟨grantState, hstate, hrev⟩ := hi.bound x hx st grantId key hst hkey
      obtain ⟨grantState', hstate', hrev'⟩ := hstep.bound hstate
      exact ⟨grantState', hstate', fun h => hrev' (hrev h)⟩
    · rw [List.mem_singleton] at hx
      subst hx
      cases hst
      exact ⟨key.grant.grantState, hkey, id⟩
  · intro x hx grantId ha
    rcases List.mem_append.mp hx with hx | hx
    · obtain ⟨key, hkey, hrev⟩ := hi.revoked x hx grantId ha
      obtain ⟨grantState, hkey', hrev'⟩ := hstep.bound hkey
      exact ⟨_, hkey', hrev' hrev⟩
    · rw [List.mem_singleton] at hx
      subst hx
      cases hstep with
      | keep _ hno => exact absurd ha (hno grantId)
      | issue _ _ _ _ ha' => rw [ha] at ha'; cases ha'
      | revoke revoked key ha' _ heq =>
        rw [ha] at ha'
        cases ha'
        refine ⟨key.withState .revoked, ?_, rfl⟩
        show leases[grantId]? = _
        rw [heq, Std.ExtTreeMap.getElem?_insert_self]
  · intro x hx
    rcases List.mem_append.mp hx with hx | hx
    · exact Finset.mem_insert_of_mem (hi.used x hx)
    · rw [List.mem_singleton] at hx
      subst hx
      exact Finset.mem_insert_self _ _
  · rw [List.map_append, List.nodup_append]
    refine ⟨hi.nonces, List.nodup_singleton _, ?_⟩
    intro a ha b hb
    rw [List.map_singleton, List.mem_singleton] at hb
    subst hb
    obtain ⟨x, hx, rfl⟩ := List.mem_map.mp ha
    intro heq
    exact hfresh (heq ▸ hi.used x hx)

theorem PasskeyRun.inv {s : Option PasskeyAdminStateV1} (run : PasskeyRun h s) :
    (s = none → h = []) ∧ ∀ final, s = some final → PasskeyInv h final := by
  refine Trace.history (fun h s => (s = none → h = []) ∧ ∀ final, s = some final → PasskeyInv h final)
    ⟨fun _ => rfl, fun final hf => by cases hf⟩ ?_ run
  rintro h s ⟨req, now⟩ s' - ⟨hnone, hsome⟩ hs
  unfold passkeyAdminStep at hs
  cases he : evaluatePasskeyAdminTransition s req now with
  | error e => simp [he, Except.map] at hs
  | ok state' =>
    simp only [he, Except.map, Except.ok.injEq] at hs
    subst hs
    refine ⟨fun hf => (by cases hf), fun final hf => ?_⟩
    cases hf
    cases s with
    | none =>
      rw [hnone rfl]
      exact passkeyInv_birth he
    | some state => exact (hsome state rfl).step he

/-! ## The law -/

structure Ed25519DayKeyV1.Bounded (key : Ed25519DayKeyV1) : Prop where
  dayToDay : key.grant.class_ = .dayToDay
  noStartupGate : AdminKeyScopeV1.startupGate ∉ key.grant.scopes
  lifetime : ∃ expiresAt issued expires, key.grant.expiresAt = some expiresAt ∧ instant key.issuedAt = .ok issued ∧
    instant expiresAt = .ok expires ∧ expires ≤ issued + 24 * 60 * 60 * 1000000000

omit [LedgerHost] in
theorem adminKeyGrantShapeError_day {g : AdminKeyGrantV1} (h : adminKeyGrantShapeError g = none)
    (hday : g.class_ = .dayToDay) : AdminKeyScopeV1.startupGate ∉ g.scopes ∧ g.expiresAt ≠ none := by
  unfold adminKeyGrantShapeError at h
  split_ifs at h
  unfold adminKeyClassShapeError at h
  rw [hday] at h
  dsimp only at h
  split_ifs at h with hexpiry hgate
  refine ⟨?_, ?_⟩
  · intro hmem
    exact hgate (List.contains_iff_mem.mpr hmem)
  · intro hnone
    exact hexpiry (by rw [hnone]; rfl)

theorem Ed25519DayKeyV1.bounded_of_validate (h : key.validate = .ok ()) : key.Bounded := by
  simp only [Ed25519DayKeyV1.validate, bind_ok, deny_ok, okOr_ok, Bool.or_eq_false_iff, decide_eq_false_iff_not,
    not_not, Option.isSome_eq_false_iff, Option.isNone_iff_eq_none, Int.not_lt] at h
  obtain ⟨issued, hissued, exp, hexpiresAt, expires, hexpires, maximum, hmax, hrest⟩ := h
  obtain ⟨⟨⟨⟨⟨⟨-, hclass⟩, -⟩, -⟩, hshape⟩, -⟩, -⟩ := hrest.1
  refine ⟨hclass, (adminKeyGrantShapeError_day hshape hclass).1, exp, issued, expires, hexpiresAt, hissued, hexpires, ?_⟩
  have hle := hrest.2
  unfold checkedAddSeconds at hmax
  dsimp only at hmax
  split at hmax
  · cases hmax
    unfold dayKeyLifetimeSeconds at hle
    omega
  · cases hmax

variable {signature : String}

theorem dayKey_proof (hproof : verifyPasskeyProof state req scope now = .ok ())
    (hday : req.proof = .ed25519DayKeyV1 grantId signature) :
    ∃ key, state.dayKeys[grantId]? = some key ∧ key.authorizes scope now = true := by
  unfold verifyPasskeyProof at hproof
  simp only [hday, bind_ok, exists_unit, deny_ok, okOr_ok, Bool.or_eq_false_iff, Bool.not_eq_eq_eq_not,
    Bool.not_false] at hproof
  obtain ⟨-, key, hkey, ⟨-, hallowed⟩, -⟩ := hproof
  exact ⟨key, hkey, hallowed⟩

/-- The lease is active, names the scope and has not reached its end. -/
structure Ed25519DayKeyV1.InForce (key : Ed25519DayKeyV1) (scope : AdminKeyScopeV1) (now : Timestamp) : Prop where
  active : key.grant.grantState = .active
  scope : scope ∈ key.grant.scopes
  unexpired : ∃ expiresAt n stop, key.grant.expiresAt = some expiresAt ∧ instant now = .ok n ∧
    instant expiresAt = .ok stop ∧ n < stop

theorem Ed25519DayKeyV1.inForce_of_authorizes (h : key.authorizes scope now = true) :
    key.InForce scope now := by
  simp only [Ed25519DayKeyV1.authorizes, Bool.and_eq_true, beq_iff_eq, List.contains_iff_mem] at h
  obtain ⟨⟨⟨-, hactive⟩, hscope⟩, hopen⟩ := h
  refine ⟨hactive, hscope, ?_⟩
  unfold Ed25519DayKeyV1.openAt at hopen
  split at hopen
  · rename_i n start stop hn hstart hstop
    obtain ⟨exp, hexpires, hins⟩ := Option.map_eq_some_iff.mp hstop
    rw [Bool.and_eq_true, decide_eq_true_eq, decide_eq_true_eq] at hopen
    exact ⟨exp, n, stop, hexpires, hn, hins, hopen.2⟩
  · cases hopen

structure PasskeyRunLaw (h : List PasskeyStep) (final : PasskeyAdminStateV1) : Prop extends PasskeyInv h final where
  leaseBounds : ∀ (grantId : String) (key : Ed25519DayKeyV1), final.dayKeys[grantId]? = some key → key.Bounded
  /-- A request proved by a day key finds its lease in force for the scope it needs, and its lease was not revoked. -/
  dayProof : ∀ earlier x later grantId signature, h = earlier ++ x :: later →
    x.input.1.proof = .ed25519DayKeyV1 grantId signature →
    (∃ st key scope, x.pre = some st ∧ st.dayKeys[grantId]? = some key ∧
      x.input.1.intent.action.requiredScope = .ok scope ∧ key.InForce scope x.input.2) ∧
    ∀ y ∈ earlier, y.input.1.intent.action ≠ .revokeDayKey grantId

theorem birth_not_dayKey (hb : evaluatePasskeyAdminTransition none req now = .ok state')
    (hday : req.proof = .ed25519DayKeyV1 grantId signature) : False := by
  obtain ⟨-, root, _, -, hsig, -⟩ := passkeyBirth_ok.mp hb
  unfold verifyWebauthnAdminSignature at hsig
  simp only [hday, bind_ok] at hsig
  obtain ⟨_, -, hsig⟩ := hsig
  cases hsig

/-- **Passkey administration obeys its law in every run.** -/
theorem passkey_run_law {h : List PasskeyStep} {final : PasskeyAdminStateV1} (run : PasskeyRun h (some final)) :
    PasskeyRunLaw h final := by
  have hinv := run.inv.2 final rfl
  refine { hinv with leaseBounds := ?_, dayProof := ?_ }
  · intro grantId key hkey
    exact key.bounded_of_validate (hinv.lease grantId key hkey).1
  · intro earlier x later grantId signature hsplit hday
    obtain ⟨hear, hstep⟩ := Trace.split run hsplit
    unfold passkeyAdminStep at hstep
    cases he : evaluatePasskeyAdminTransition x.pre x.input.1 x.input.2 with
    | error e => simp [he, Except.map] at hstep
    | ok state' =>
      cases hpre : x.pre with
      | none =>
        rw [hpre] at he
        exact (birth_not_dayKey he hday).elim
      | some st =>
        rw [hpre] at he hear
        obtain ⟨-, -, -, -, -, ⟨scope, hscope, hproof⟩, -⟩ := passkeyStep_ok.mp he
        obtain ⟨key, hkey, hallowed⟩ := dayKey_proof hproof hday
        have hforce := key.inForce_of_authorizes hallowed
        refine ⟨⟨st, key, scope, rfl, hkey, hscope, hforce⟩, ?_⟩
        intro y hy haction
        -- the revoked lease is still revoked in the state that the request finds
        obtain ⟨key', hkey', hrevoked⟩ := ((PasskeyRun.inv hear).2 st rfl).revoked y hy grantId haction
        rw [hkey] at hkey'
        cases hkey'
        rw [hforce.active] at hrevoked
        cases hrevoked

end Mct

namespace Mct.PasskeySample

open Recovery.Sample (second)

@[reducible] noncomputable def host : LedgerHost :=
  { Sample.hostOf {} with
    validateWebAuthnKey := fun _ => .ok ()
    verifyWebAuthnAssertion := fun _ _ _ _ _ => .ok ()
    verifyDayKeySignature := fun _ _ _ _ => .ok () }

def root : WebAuthnP256DayKeyV1 := ⟨"credential", "04", "mct.local", "https://mct.local"⟩

def nonce (n : Nat) : String := String.ofList (List.replicate 63 '0' ++ [Nat.digitChar n])

def intentAt (n : Nat) (action : PasskeyAdminActionV1) : PasskeyAdminIntentV1 :=
  ⟨"m", "l", "e", n, "o", nonce n, second n, second (n + 1), action⟩

def byRoot (n : Nat) (action : PasskeyAdminActionV1) : PasskeyAdminRequestV1 :=
  ⟨intentAt n action, .webAuthnP256DayKeyV1 "credential" "" "" ""⟩

def dayKey : PasskeyAdminActionV1 := .issueDayKey "g" (.ed25519 ⟨"ed"⟩) [.keyManage] (second 5)

def byDayKey (n : Nat) (action : PasskeyAdminActionV1) : PasskeyAdminRequestV1 :=
  ⟨intentAt n action, .ed25519DayKeyV1 "g" (String.ofList (List.replicate 128 'a'))⟩

def requests : List PasskeyAdminRequestV1 :=
  [byRoot 0 (.bootstrap root (nonce 0)), byRoot 1 dayKey, byDayKey 2 (.revokeDayKey "g")]

noncomputable def stateAfter : Nat → Option PasskeyAdminStateV1
  | 0 => none
  | n + 1 =>
    match requests[n]? with
    | none => stateAfter n
    | some request =>
      (@evaluatePasskeyAdminTransition host (stateAfter n) request (second n)).toOption

noncomputable def stepAt (n : Nat) : PasskeyStep :=
  ⟨stateAfter n, (requests.getD n (byRoot 0 dayKey), second n), stateAfter (n + 1)⟩

theorem stepAt_accepted : ∀ n < 3, @passkeyAdminStep host (stepAt n).pre (stepAt n).input = .ok (stepAt n).post := by
  decide +kernel

theorem stepAt_linked (n : Nat) : (stepAt n).post = (stepAt (n + 1)).pre := rfl

theorem run : @PasskeyRun host ([stepAt 0] ++ [stepAt 1] ++ [stepAt 2]) (stepAt 2).post := by
  refine Trace.extend ?_ (stepAt_accepted 2 (by decide))
  rw [← stepAt_linked 1]
  refine Trace.extend ?_ (stepAt_accepted 1 (by decide))
  rw [← stepAt_linked 0]
  exact Trace.extend .nil (stepAt_accepted 0 (by decide))

theorem passkey_run_law_applies :
    ∃ final, (stepAt 2).post = some final ∧ @PasskeyRunLaw host ([stepAt 0] ++ [stepAt 1] ++ [stepAt 2]) final := by
  have hsome : (stepAt 2).post.isSome = true := by decide +kernel
  obtain ⟨final, hfinal⟩ := Option.isSome_iff_exists.mp hsome
  exact ⟨final, hfinal, @passkey_run_law host _ _ (hfinal ▸ run)⟩

end Mct.PasskeySample
