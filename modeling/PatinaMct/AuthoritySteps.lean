import PatinaMct.AuthorityStamp
/-!
# AuthoritySteps — what one accepted entry does to the authority state

`factOf` is the canonical fact that an entry carries.  `AuthorityStep` says, kind by kind, what an accepted fact was
checked for and which state it leaves; `foldAuthorityEntry_step` is the inversion of the fold in these terms, and
`Replayed.stateInduction` the induction that every invariant of the authority state is proved by.
-/
namespace Mct

open Checked
open Recovery (TextSet)

variable [LedgerHost]

inductive CanonicalFact
  | passkeyAdmin (fact : PasskeyAdminFactV1)
  | adminGenesis (fact : AdminGenesisFactV1)
  | epochEstablished (fact : EpochEstablishedFactV1)
  | authorityMutation (fact : AuthorityMutationFactV1)
  | legacyAuthorityImport (fact : LegacyAuthorityImportFactV1)

def CanonicalFact.ofBody (kind : String) (body : Json) : Option CanonicalFact :=
  if kind = FactKind.passkeyAdmin.text then (LedgerHost.passkeyAdmin.decode body).toOption.map .passkeyAdmin
  else if kind = FactKind.adminGenesis.text then (LedgerHost.adminGenesis.decode body).toOption.map .adminGenesis
  else if kind = FactKind.epochEstablished.text then
    (LedgerHost.epochEstablished.decode body).toOption.map .epochEstablished
  else if kind = FactKind.authorityMutation.text then
    (LedgerHost.authorityMutation.decode body).toOption.map .authorityMutation
  else if kind = FactKind.legacyAuthorityImport.text then
    (LedgerHost.legacyAuthorityImport.decode body).toOption.map .legacyAuthorityImport
  else none

def factOf (entry : MctObservationLedgerEntry) : Option CanonicalFact :=
  (authorityPayload entry).bind fun payload =>
    (LedgerHost.envelope.decode payload).toOption.bind fun envelope =>
      CanonicalFact.ofBody envelope.factKind envelope.body

theorem factOf_encoded (serde : SerdeRoundTrip) {e : MctObservationLedgerEntry} {kind id : String} {body : Json}
    (hdetail : e.observation.detailRef = some (encodeAuthorityFact kind id body)) :
    factOf e = CanonicalFact.ofBody kind body := by
  unfold factOf authorityPayload
  rw [hdetail]
  unfold encodeAuthorityFact
  rw [Option.bind_some, stripStart_append, Option.bind_some, serde.envelope]
  rfl

theorem ofBody_genesis (serde : SerdeRoundTrip) (fact : AdminGenesisFactV1) :
    CanonicalFact.ofBody FactKind.adminGenesis.text (LedgerHost.adminGenesis.encode fact) =
      some (.adminGenesis fact) := by
  simp only [CanonicalFact.ofBody, FactKind.text, String.reduceEq, reduceIte, serde.adminGenesis fact, Except.toOption,
    Option.map_some]

theorem ofBody_mutation (serde : SerdeRoundTrip) (fact : AuthorityMutationFactV1) :
    CanonicalFact.ofBody FactKind.authorityMutation.text (LedgerHost.authorityMutation.encode fact) =
      some (.authorityMutation fact) := by
  simp only [CanonicalFact.ofBody, FactKind.text, String.reduceEq, reduceIte, serde.authorityMutation fact,
    Except.toOption, Option.map_some]

/-- **What an accepted entry does to the state**, by the fact it carries. -/
inductive AuthorityStep (replay : AuthorityReplayV1) (entry : MctObservationLedgerEntry) (state : AuthorityStateV1) :
    Option CanonicalFact → Prop
  | plain : state = replay.state → AuthorityStep replay entry state none
  | passkey (fact : PasskeyAdminFactV1) (next : PasskeyAdminCanonicalV1) : passkeyTransition replay fact = .ok next →
      state = { replay.state with passkeyAdmin := some next } →
      AuthorityStep replay entry state (some (.passkeyAdmin fact))
  | genesis (fact : AdminGenesisFactV1) : fact.request.validate = .ok () → replay.state = .empty →
      replay.currentAuthority = none → state = (replay.afterGenesis fact).state →
      AuthorityStep replay entry state (some (.adminGenesis fact))
  | epoch (fact : EpochEstablishedFactV1) (hash : String) : authorityStateHash replay.state = .ok hash →
      state = replay.state → AuthorityStep replay entry state (some (.epochEstablished fact))
  | mutation (fact : AuthorityMutationFactV1) : validateAuthorityMutationFact entry replay fact = .ok state →
      AuthorityStep replay entry state (some (.authorityMutation fact))
  | «import» (fact : LegacyAuthorityImportFactV1) : validateLegacyImportFact entry replay fact = .ok () →
      replay.imported = false → replay.mutations.isEmpty = true → state = fact.importedState →
      AuthorityStep replay entry state (some (.legacyAuthorityImport fact))

variable {replay replay' : AuthorityReplayV1} {usedEpochs usedEpochs' : TextSet} {prev : Option (Nat × String)}
  {entry : MctObservationLedgerEntry} {es l : List MctObservationLedgerEntry}

omit [LedgerHost] in
theorem decodeBody_ok {α : Type} {codec : Codec α Json} {body : Json} {fact : α} :
    decodeBody codec entry body = .ok fact ↔ codec.decode body = .ok fact := by
  unfold decodeBody
  exact mapErr_ok

/-- **What an accepted fact was checked for and the replay it leaves**, before its record. -/
inductive ReplayStep (replay : AuthorityReplayV1) (entry : MctObservationLedgerEntry) (replay' : AuthorityReplayV1) :
    CanonicalFact → Prop
  | passkey (fact : PasskeyAdminFactV1) (identity : GrantsAuthorityIdentityV1) (next : PasskeyAdminCanonicalV1) :
      passkeyTransition replay fact = .ok next → replay' = replay.afterPasskey identity next →
      ReplayStep replay entry replay' (.passkeyAdmin fact)
  | genesis (fact : AdminGenesisFactV1) : fact.request.validate = .ok () → replay.state = .empty →
      replay.currentAuthority = none → replay' = replay.afterGenesis fact →
      ReplayStep replay entry replay' (.adminGenesis fact)
  | epoch (fact : EpochEstablishedFactV1) (hash : String) : authorityStateHash replay.state = .ok hash →
      replay' = replay.afterEpoch fact → ReplayStep replay entry replay' (.epochEstablished fact)
  | mutation (fact : AuthorityMutationFactV1) (resulting : AuthorityStateV1) :
      validateAuthorityMutationFact entry replay fact = .ok resulting →
      replay' = replay.afterMutation entry fact resulting → ReplayStep replay entry replay' (.authorityMutation fact)
  | «import» (fact : LegacyAuthorityImportFactV1) : validateLegacyImportFact entry replay fact = .ok () →
      replay.imported = false → replay.mutations.isEmpty = true → replay' = replay.afterImport entry fact →
      ReplayStep replay entry replay' (.legacyAuthorityImport fact)

theorem foldFact_replay {kind : String} {body : Json}
    (h : foldFact replay usedEpochs prev entry kind body = .ok (replay', usedEpochs')) :
    ∃ fact, CanonicalFact.ofBody kind body = some fact ∧ ReplayStep replay entry replay' fact := by
  unfold foldFact at h
  unfold CanonicalFact.ofBody
  split at h
  · rename_i hk
    obtain ⟨fact, hd, hr⟩ := bind_ok.mp h
    obtain ⟨_, next, identity, -, -, -, -, -, -, -, ht, -, hrep⟩ := replayPasskeyFact_ok.mp hr
    refine ⟨.passkeyAdmin fact, ?_, .passkey fact identity next ht hrep⟩
    rw [if_pos hk, decodeBody_ok.mp hd]
    rfl
  rename_i hk₁
  rw [if_neg hk₁]
  split at h
  · rename_i hk
    obtain ⟨fact, hd, hr⟩ := bind_ok.mp h
    obtain ⟨hv, -, -, -, hnone, hempty, -, -, -, -, -, -, -, hrep, -⟩ := replayGenesis_ok.mp hr
    refine ⟨.adminGenesis fact, ?_, .genesis fact hv hempty hnone hrep⟩
    rw [if_pos hk, decodeBody_ok.mp hd]
    rfl
  rename_i hk₂
  rw [if_neg hk₂]
  split at h
  · rename_i hk
    obtain ⟨fact, hd, hr⟩ := bind_ok.mp h
    obtain ⟨hv, hrep, -⟩ := replayEpochFact_ok.mp hr
    obtain ⟨hash, hhash, -⟩ := validateEpochFact_ok.mp hv
    refine ⟨.epochEstablished fact, ?_, .epoch fact hash hhash hrep⟩
    rw [if_pos hk, decodeBody_ok.mp hd]
    rfl
  rename_i hk₃
  rw [if_neg hk₃]
  split at h
  · rename_i hk
    simp only [bind_ok, pure_ok, Prod.mk.injEq] at h
    obtain ⟨fact, hd, _, hr, rfl, -⟩ := h
    obtain ⟨resulting, hv, -, hrep⟩ := replayMutationFact_ok.mp hr
    refine ⟨.authorityMutation fact, ?_, .mutation fact resulting hv hrep⟩
    rw [if_pos hk, decodeBody_ok.mp hd]
    rfl
  rename_i hk₄
  rw [if_neg hk₄]
  split at h
  · rename_i hk
    simp only [bind_ok, pure_ok, Prod.mk.injEq] at h
    obtain ⟨fact, hd, _, hr, rfl, -⟩ := h
    obtain ⟨hv, honce, hmutation, hrep⟩ := replayImportFact_ok.mp hr
    refine ⟨.legacyAuthorityImport fact, ?_, .import fact hv honce hmutation hrep⟩
    rw [if_pos hk, decodeBody_ok.mp hd]
    rfl
  · cases h

/-- **Every accepted entry**: not a canonical fact, or a step of its kind with its record. -/
theorem foldAuthorityEntry_replay
    (h : foldAuthorityEntry replay usedEpochs prev entry = .ok (replay', usedEpochs')) :
    (factOf entry = none ∧ replay' = replay.note entry) ∨
      ∃ fact middle env pl, factOf entry = some fact ∧ ReplayStep replay entry middle fact ∧
        replay' = (middle.record entry env pl).note entry := by
  obtain ⟨middle, hb, rfl⟩ := foldAuthorityEntry_ok.mp h
  unfold foldAuthorityEntryBody at hb
  unfold factOf
  cases hp : authorityPayload entry with
  | none =>
    simp only [hp, Except.ok.injEq, Prod.mk.injEq] at hb
    obtain ⟨rfl, -⟩ := hb
    exact .inl ⟨rfl, rfl⟩
  | some pl =>
    simp only [hp] at hb
    obtain ⟨env, middle', hd, -, -, hf, rfl⟩ := foldCanonicalFact_ok.mp hb
    obtain ⟨fact, hfact, step⟩ := foldFact_replay hf
    refine .inr ⟨fact, middle', env, pl, ?_, step, rfl⟩
    rw [Option.bind_some, hd]
    exact hfact

theorem ReplayStep.state {fact : CanonicalFact} (h : ReplayStep replay entry replay' fact) :
    AuthorityStep replay entry replay'.state (some fact) ∧ replay'.adminGrantIds = replay.adminGrantIds := by
  cases h with
  | passkey fact identity next ht hrep =>
    subst hrep
    exact ⟨.passkey fact next ht rfl, rfl⟩
  | genesis fact hv hempty hnone hrep =>
    subst hrep
    exact ⟨.genesis fact hv hempty hnone rfl, rfl⟩
  | epoch fact hash hhash hrep =>
    subst hrep
    exact ⟨.epoch fact hash hhash rfl, rfl⟩
  | mutation fact resulting hv hrep =>
    subst hrep
    exact ⟨.mutation fact hv, rfl⟩
  | «import» fact hv honce hmutation hrep =>
    subst hrep
    exact ⟨.import fact hv honce hmutation rfl, rfl⟩

/-- **Every accepted entry is a step of its kind**, and leaves the ids of the administrative grants of its state. -/
theorem foldAuthorityEntry_step
    (h : foldAuthorityEntry replay usedEpochs prev entry = .ok (replay', usedEpochs')) :
    AuthorityStep replay entry replay'.state (factOf entry) ∧
      ∀ id, id ∈ replay'.adminGrantIds ↔ id ∈ replay.adminGrantIds ∨ id ∈ replay'.state.adminKeyGrants := by
  obtain ⟨hnone, rfl⟩ | ⟨fact, middle, env, pl, hfact, step, rfl⟩ := foldAuthorityEntry_replay h
  · rw [hnone]
    exact ⟨.plain rfl, fun id => mem_adminGrantIds_note⟩
  · obtain ⟨hstate, hids⟩ := step.state
    rw [hfact]
    refine ⟨hstate, fun id => ?_⟩
    rw [mem_adminGrantIds_note]
    show id ∈ middle.adminGrantIds ∨ _ ↔ _
    rw [hids]
    rfl

theorem Replayed.stateInduction (P : AuthorityStateV1 → Prop) (init : P .empty)
    (keep : ∀ l replay usedEpochs entry s fact, Replayed l replay usedEpochs → P replay.state →
      AuthorityStep replay entry s fact → P s)
    (h : Replayed es replay usedEpochs) : P replay.state := by
  refine h.induction (fun _ r _ => P r.state) init ?_
  intro l e r u r' u' hl hi hf
  exact keep l r u e r'.state (factOf e) hl hi (foldAuthorityEntry_step hf).1

end Mct
