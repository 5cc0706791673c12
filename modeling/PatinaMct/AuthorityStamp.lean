import PatinaMct.SampleLedger
/-!
# AuthorityStamp — the authority identity is a version stamp of the state

Tokens and snapshots name an authority state by the epoch and generation of its identity.  The name is
faithful along every replayed ledger.  One accepted entry does one of four things to the identity
(`StampStep`): it leaves it alone, opens a fresh epoch at the same generation, advances the generation by one in the
same epoch, or is the birth of authority in a ledger that had none.  The epochs of all earlier identities are among the
used ones, so a fresh epoch is new, and the generation never falls, so an advance is new as well.
-/
namespace Mct

open Checked
open Recovery (TextSet)

variable [LedgerHost]

variable {entries l : List MctObservationLedgerEntry} {entry : MctObservationLedgerEntry}
  {replay replay' : AuthorityReplayV1} {usedEpochs usedEpochs' : TextSet}

/-! ## One step -/

def FactKind.ofText (text : String) : Option FactKind :=
  [FactKind.passkeyAdmin, .adminGenesis, .epochEstablished, .authorityMutation, .legacyAuthorityImport].find? fun kind =>
    kind.text == text

def factKind (entry : MctObservationLedgerEntry) : Option FactKind :=
  match authorityPayload entry with
  | none => none
  | some payload =>
    match LedgerHost.envelope.decode payload with
    | .ok envelope => FactKind.ofText envelope.factKind
    | .error _ => none

/-- **What an accepted entry does to the identity**, by its kind. -/
inductive StampStep (replay replay' : AuthorityReplayV1) (usedEpochs usedEpochs' : TextSet) : Option FactKind → Prop
  | plain : replay'.state = replay.state → replay'.currentAuthority = replay.currentAuthority →
      usedEpochs' = usedEpochs → StampStep replay replay' usedEpochs usedEpochs' none
  | epoch (next : GrantsAuthorityIdentityV1) : replay'.state = replay.state → replay'.currentAuthority = some next →
      next.generation = replay.generation → next.authorityEpoch ∉ usedEpochs →
      usedEpochs' = usedEpochs.insert next.authorityEpoch →
      StampStep replay replay' usedEpochs usedEpochs' (some .epochEstablished)
  | advance (kind : FactKind) (prior next : GrantsAuthorityIdentityV1) :
      (kind = .authorityMutation ∨ kind = .legacyAuthorityImport ∨
        (kind = .passkeyAdmin ∧ replay.state.passkeyAdmin.isSome)) →
      replay.currentAuthority = some prior → replay'.currentAuthority = some next →
      next.authorityEpoch = prior.authorityEpoch → next.generation = prior.generation + 1 →
      usedEpochs' = usedEpochs → StampStep replay replay' usedEpochs usedEpochs' (some kind)
  | birth (kind : FactKind) (next : GrantsAuthorityIdentityV1) :
      (kind = .adminGenesis ∨ (kind = .passkeyAdmin ∧ replay.state.passkeyAdmin = none)) →
      replay.currentAuthority = none → replay'.currentAuthority = some next → next.generation = 1 →
      usedEpochs' = usedEpochs.insert next.authorityEpoch →
      StampStep replay replay' usedEpochs usedEpochs' (some kind)

variable {prev : Option (Nat × String)}

theorem replayEpochFact_stamp {fact : EpochEstablishedFactV1}
    (h : replayEpochFact replay usedEpochs prev entry fact = .ok (replay', usedEpochs')) :
    StampStep replay replay' usedEpochs usedEpochs' (some .epochEstablished) := by
  obtain ⟨hv, rfl, rfl⟩ := replayEpochFact_ok.mp h
  obtain ⟨_, -, -, -, -, -, -, -, -, -, -, -, -, hgen, -, -, hfresh, -, -, hres⟩ := validateEpochFact_ok.mp hv
  refine .epoch fact.resultingAuthority rfl rfl ?_ ?_ ?_
  · rw [hres, ← hgen]
  · rw [hres, ← Std.ExtTreeSet.contains_iff_mem, hfresh]
    exact Bool.false_ne_true
  · rw [hres]

theorem replayMutationFact_stamp {fact : AuthorityMutationFactV1}
    (h : replayMutationFact replay entry fact = .ok replay') :
    StampStep replay replay' usedEpochs usedEpochs (some .authorityMutation) := by
  obtain ⟨resulting, hv, -, rfl⟩ := replayMutationFact_ok.mp h
  obtain ⟨prior, _, _, _, hp, -, -, -, -, -, -, -, -, -, -, -, -, -, -, hres⟩ := validateAuthorityMutationFact_ok.mp hv
  refine .advance _ prior fact.resultingState.grantsAuthority (.inl rfl) hp rfl ?_ ?_ rfl
  · rw [hres]
  · rw [hres]

theorem replayImportFact_stamp {fact : LegacyAuthorityImportFactV1}
    (h : replayImportFact replay entry fact = .ok replay') :
    StampStep replay replay' usedEpochs usedEpochs (some .legacyAuthorityImport) := by
  obtain ⟨hv, -, -, rfl⟩ := replayImportFact_ok.mp h
  obtain ⟨prior, _, _, -, -, hp, -, -, -, -, -, -, -, -, -, -, hres, -⟩ := validateLegacyImportFact_ok.mp hv
  refine .advance _ prior fact.resultingState.grantsAuthority (.inr (.inl rfl)) hp rfl ?_ ?_ rfl
  · rw [hres]
  · rw [hres]

theorem replayGenesis_stamp {fact : AdminGenesisFactV1}
    (h : replayGenesis replay usedEpochs prev entry fact = .ok (replay', usedEpochs')) :
    StampStep replay replay' usedEpochs usedEpochs' (some .adminGenesis) := by
  obtain ⟨-, -, -, -, hnone, -, -, -, -, -, -, -, -, rfl, rfl⟩ := replayGenesis_ok.mp h
  exact .birth _ fact.identity (.inl rfl) hnone rfl rfl rfl

/-- A passkey fact is a birth in a ledger without passkey state and an advance in a ledger with one. -/
theorem replayPasskeyFact_stamp {fact : PasskeyAdminFactV1}
    (h : replayPasskeyFact replay usedEpochs prev entry fact = .ok (replay', usedEpochs')) :
    StampStep replay replay' usedEpochs usedEpochs' (some .passkeyAdmin) := by
  obtain ⟨_, next, identity, -, -, -, -, -, -, hu, ht, hi, rfl⟩ := replayPasskeyFact_ok.mp h
  obtain ⟨-, rfl⟩ := PasskeyAdminFactV1.identity_ok.mp hi
  unfold passkeyTransition at ht
  unfold passkeyEpochs at hu
  cases hp : replay.state.passkeyAdmin with
  | none =>
    simp only [hp, Option.isNone_none, if_true, bind_ok, exists_unit, deny_ok, pure_ok] at hu ht
    obtain ⟨_, -, -, hnone, -, hzero, -, -, -, -, -⟩ := passkeyOrigin_ok.mp ht
    refine .birth _ _ (.inr ⟨rfl, hp⟩) hnone rfl ?_ hu.2.symm
    show fact.request.intent.generation + 1 = 1
    rw [hzero]
  | some prior =>
    simp only [hp, Option.isNone_some, Bool.false_eq_true, if_false, Except.ok.injEq] at hu ht
    obtain ⟨cur, hc, -, hepoch, hgen, -, -, -⟩ := passkeyFollow_ok.mp ht
    refine .advance _ cur _ (.inr (.inr ⟨rfl, by rw [hp]; rfl⟩)) hc rfl hepoch ?_ hu.symm
    show fact.request.intent.generation + 1 = cur.generation + 1
    rw [hgen]

variable {kind : Option FactKind}

omit [LedgerHost] in
theorem StampStep.record {env : CanonicalAuthorityEnvelopeV1} {pl : String}
    (h : StampStep replay replay' usedEpochs usedEpochs' kind) :
    StampStep replay (replay'.record entry env pl) usedEpochs usedEpochs' kind := by
  cases h with
  | plain hs ha hu => exact .plain hs ha hu
  | epoch next hs ha hg hf hu => exact .epoch next hs ha hg hf hu
  | advance kind prior next hk hp ha he hg hu => exact .advance kind prior next hk hp ha he hg hu
  | birth kind next hk hp ha hg hu => exact .birth kind next hk hp ha hg hu

omit [LedgerHost] in
theorem StampStep.note (h : StampStep replay replay' usedEpochs usedEpochs' kind) :
    StampStep replay (replay'.note entry) usedEpochs usedEpochs' kind := by
  cases h with
  | plain hs ha hu => exact .plain hs ha hu
  | epoch next hs ha hg hf hu => exact .epoch next hs ha hg hf hu
  | advance kind prior next hk hp ha he hg hu => exact .advance kind prior next hk hp ha he hg hu
  | birth kind next hk hp ha hg hu => exact .birth kind next hk hp ha hg hu

theorem foldFact_stamp {text : String} {body : Json}
    (h : foldFact replay usedEpochs prev entry text body = .ok (replay', usedEpochs')) :
    ∃ kind, FactKind.ofText text = some kind ∧ StampStep replay replay' usedEpochs usedEpochs' (some kind) := by
  rcases foldFact_cases h with ⟨fact, rfl, hr⟩ | ⟨fact, rfl, hr⟩ | ⟨fact, rfl, hr⟩ | ⟨fact, rfl, hr, rfl⟩ |
    ⟨fact, rfl, hr, rfl⟩
  · exact ⟨.passkeyAdmin, by decide, replayPasskeyFact_stamp hr⟩
  · exact ⟨.adminGenesis, by decide, replayGenesis_stamp hr⟩
  · exact ⟨.epochEstablished, by decide, replayEpochFact_stamp hr⟩
  · exact ⟨.authorityMutation, by decide, replayMutationFact_stamp hr⟩
  · exact ⟨.legacyAuthorityImport, by decide, replayImportFact_stamp hr⟩

/-- **Every accepted entry is one of the four steps, by its kind**, and has a kind exactly when it is marked. -/
theorem foldAuthorityEntry_stamp
    (h : foldAuthorityEntry replay usedEpochs prev entry = .ok (replay', usedEpochs')) :
    StampStep replay replay' usedEpochs usedEpochs' (factKind entry) ∧
      (factKind entry).isSome = (authorityPayload entry).isSome := by
  obtain ⟨middle, hb, rfl⟩ := foldAuthorityEntry_ok.mp h
  unfold foldAuthorityEntryBody at hb
  unfold factKind
  cases hp : authorityPayload entry with
  | none =>
    simp only [hp, Except.ok.injEq, Prod.mk.injEq] at hb
    obtain ⟨rfl, rfl⟩ := hb
    exact ⟨(StampStep.plain rfl rfl rfl).note, rfl⟩
  | some pl =>
    simp only [hp] at hb
    obtain ⟨env, middle', hd, -, -, hf, rfl⟩ := foldCanonicalFact_ok.mp hb
    obtain ⟨kind, hkind, step⟩ := foldFact_stamp hf
    simp only [hd, hkind]
    exact ⟨step.record.note, rfl⟩

/-! ## Along a ledger -/

omit [LedgerHost] in
theorem StampStep.mono (h : StampStep replay replay' usedEpochs usedEpochs' kind) :
    (∀ x ∈ usedEpochs, x ∈ usedEpochs') ∧ replay.generation ≤ replay'.generation := by
  unfold AuthorityReplayV1.generation
  cases h with
  | plain _ ha hu => rw [hu, ha]; exact ⟨fun _ hx => hx, le_refl _⟩
  | epoch next _ ha hg _ hu =>
    rw [hu, ha]
    exact ⟨fun x hx => Std.ExtTreeSet.mem_insert.mpr (.inr hx), by rw [Option.map_some, Option.getD_some, hg]; rfl⟩
  | advance _ prior next _ hp ha _ hg hu =>
    rw [hu, hp, ha]
    exact ⟨fun _ hx => hx, by simp [hg]⟩
  | birth _ next _ hp ha _ hu =>
    rw [hu, hp]
    exact ⟨fun x hx => Std.ExtTreeSet.mem_insert.mpr (.inr hx), Nat.zero_le _⟩

omit [LedgerHost] in
theorem StampStep.born (h : StampStep replay replay' usedEpochs usedEpochs' kind)
    (hk : kind ≠ none) : ∃ next, replay'.currentAuthority = some next := by
  cases h with
  | plain => exact absurd rfl hk
  | epoch next _ ha => exact ⟨next, ha⟩
  | advance _ _ next _ _ ha => exact ⟨next, ha⟩
  | birth _ next _ _ ha => exact ⟨next, ha⟩

omit [LedgerHost] in
theorem StampStep.generation (h : StampStep replay replay' usedEpochs usedEpochs' kind) :
    (kind = some .epochEstablished → replay'.generation = replay.generation) ∧
      (kind = some .authorityMutation ∨ kind = some .legacyAuthorityImport ∨
          (kind = some .passkeyAdmin ∧ replay.state.passkeyAdmin.isSome) →
        replay'.generation = replay.generation + 1) := by
  unfold AuthorityReplayV1.generation
  cases h with
  | plain => simp
  | epoch next _ ha hg =>
    refine ⟨fun _ => ?_, by simp⟩
    rw [ha]
    exact hg
  | advance kind prior next hk hp ha _ hg =>
    refine ⟨fun h => ?_, fun _ => ?_⟩
    · cases h
      simp at hk
    · rw [hp, ha]
      exact hg
  | birth kind next hk =>
    rcases hk with rfl | ⟨rfl, hk⟩
    · simp
    · simp [hk]

/-- The current epoch is a used one; without an authority the state is the default one. -/
structure StampInv (replay : AuthorityReplayV1) (usedEpochs : TextSet) : Prop where
  epoch_used : ∀ a, replay.currentAuthority = some a → a.authorityEpoch ∈ usedEpochs
  unborn : replay.currentAuthority = none → replay.state = .empty

omit [LedgerHost] in
theorem StampStep.inv (h : StampStep replay replay' usedEpochs usedEpochs' kind)
    (hi : StampInv replay usedEpochs) : StampInv replay' usedEpochs' := by
  cases h with
  | plain hs ha hu =>
    rw [hu]
    exact ⟨fun a h => hi.epoch_used a (ha ▸ h), fun h => by rw [hs]; exact hi.unborn (ha ▸ h)⟩
  | epoch next _ ha _ _ hu =>
    refine ⟨fun a h => ?_, fun h => by rw [ha] at h; cases h⟩
    rw [ha] at h
    cases h
    rw [hu]
    exact Std.ExtTreeSet.mem_insert_self
  | advance _ prior next _ hp ha he _ hu =>
    refine ⟨fun a h => ?_, fun h => by rw [ha] at h; cases h⟩
    rw [ha] at h
    cases h
    rw [hu, he]
    exact hi.epoch_used prior hp
  | birth _ next _ _ ha _ hu =>
    refine ⟨fun a h => ?_, fun h => by rw [ha] at h; cases h⟩
    rw [ha] at h
    cases h
    rw [hu]
    exact Std.ExtTreeSet.mem_insert_self

theorem Replayed.stampInv (h : Replayed entries replay usedEpochs) : StampInv replay usedEpochs := by
  refine h.induction (fun _ r u => StampInv r u) ⟨fun a h => (by cases h), fun _ => rfl⟩ ?_
  intro l e r u r' u' _ hi hf
  exact (foldAuthorityEntry_stamp hf).1.inv hi

/-- **Earlier identities are remembered**: their epochs are used and their generations not above the present one. -/
theorem Replayed.earlier (h : Replayed entries replay usedEpochs) :
    ∀ p r u a, p <+: entries → Replayed p r u → r.currentAuthority = some a →
      a.authorityEpoch ∈ usedEpochs ∧ a.generation ≤ replay.generation := by
  refine h.induction (fun l r' u' => ∀ p r u a, p <+: l → Replayed p r u → r.currentAuthority = some a →
    a.authorityEpoch ∈ u' ∧ a.generation ≤ r'.generation) ?_ ?_
  · intro p r u a hp hr ha
    rw [List.prefix_nil] at hp
    subst hp
    cases hr
    cases ha
  · intro l e r₁ u₁ r₂ u₂ hl ih hf p r u a hp hr ha
    have step := (foldAuthorityEntry_stamp hf).1
    rcases List.prefix_concat_iff.mp hp with rfl | hp
    · -- the whole list: the identity is the present one
      obtain ⟨rfl, rfl⟩ := hr.unique (hl.snoc hf)
      refine ⟨(step.inv hl.stampInv).epoch_used a ha, ?_⟩
      unfold AuthorityReplayV1.generation
      rw [ha]
      exact le_refl _
    · obtain ⟨he, hg⟩ := ih p r u a hp hr ha
      exact ⟨step.mono.1 _ he, hg.trans step.mono.2⟩

variable {p : List MctObservationLedgerEntry} {rp : AuthorityReplayV1} {up : TextSet}

/-- **A canonical fact brings an identity that no prefix before it had.** -/
theorem fresh_stamp {a next : GrantsAuthorityIdentityV1} (hl : Replayed l replay usedEpochs)
    (hf : foldAuthorityEntry replay usedEpochs (linkAfter none l) entry = .ok (replay', usedEpochs'))
    (hk : factKind entry ≠ none) (hp : p <+: l) (hr : Replayed p rp up) (ha : rp.currentAuthority = some a)
    (hn : replay'.currentAuthority = some next) :
    (a.authorityEpoch, a.generation) ≠ (next.authorityEpoch, next.generation) := by
  obtain ⟨hmem, hle⟩ := hl.earlier p rp up a hp hr ha
  intro heq
  obtain ⟨he, hg⟩ := Prod.mk.inj heq
  have step := (foldAuthorityEntry_stamp hf).1
  generalize factKind entry = kind at hk step
  cases step with
  | plain _ _ _ => exact hk rfl
  | epoch x _ hx _ hfresh _ =>
    obtain rfl : x = next := by rw [hn] at hx; cases hx; rfl
    exact hfresh (he ▸ hmem)
  | advance _ prior x _ hprior hx _ hgen _ =>
    obtain rfl : x = next := by rw [hn] at hx; cases hx; rfl
    have : replay.generation = prior.generation := by unfold AuthorityReplayV1.generation; rw [hprior]; rfl
    omega
  | birth _ x _ hnone hx hone _ =>
    obtain rfl : x = next := by rw [hn] at hx; cases hx; rfl
    have : replay.generation = 0 := by unfold AuthorityReplayV1.generation; rw [hnone]; rfl
    omega

/-- **An entry that is not a canonical fact leaves the authority as it is.** -/
theorem foldAuthorityEntry_plain (h : foldAuthorityEntry replay usedEpochs prev entry = .ok (replay', usedEpochs'))
    (hplain : authorityPayload entry = none) : replay' = replay.note entry ∧ usedEpochs' = usedEpochs := by
  obtain ⟨middle, hb, rfl⟩ := foldAuthorityEntry_ok.mp h
  simp only [foldAuthorityEntryBody, hplain, Except.ok.injEq, Prod.mk.injEq] at hb
  obtain ⟨rfl, rfl⟩ := hb
  exact ⟨rfl, rfl⟩

variable {rest : List MctObservationLedgerEntry}

/-- **Between two prefixes with one identity there is no canonical fact.** -/
theorem unmarked_of_stamp_eq (h : Replayed (p ++ rest) replay usedEpochs) (hr : Replayed p rp up)
    (heq : rp.currentAuthority = replay.currentAuthority) : ∀ e ∈ rest, authorityPayload e = none := by
  induction rest using List.reverseRecOn generalizing replay usedEpochs with
  | nil => exact fun e he => (by cases he)
  | append_singleton l e ih =>
    rw [← List.append_assoc] at h
    obtain ⟨r, u, hl, hf⟩ := replayed_snoc h
    obtain ⟨step, hmarked⟩ := foldAuthorityEntry_stamp hf
    cases hp : authorityPayload e with
    | none =>
      obtain ⟨rfl, -⟩ := foldAuthorityEntry_plain hf hp
      intro e' he'
      rcases List.mem_append.mp he' with he' | he'
      · exact ih hl heq e' he'
      · rw [List.mem_singleton.mp he']
        exact hp
    | some pl =>
      -- a fact after `p` has brought an identity that `p` does not have
      have hk : factKind e ≠ none := by rw [← Option.isSome_iff_ne_none, hmarked, hp]; rfl
      obtain ⟨next, hn⟩ := step.born hk
      exact absurd rfl (fresh_stamp hl hf hk (List.prefix_append p l) hr (heq.trans hn) hn)

theorem Replayed.unmarked (h : Replayed (p ++ rest) replay usedEpochs) (hr : Replayed p rp up)
    (hrest : ∀ e ∈ rest, authorityPayload e = none) :
    replay.state = rp.state ∧ replay.facts = rp.facts ∧ replay.currentAuthority = rp.currentAuthority := by
  induction rest using List.reverseRecOn generalizing replay usedEpochs with
  | nil =>
    rw [List.append_nil] at h
    obtain ⟨rfl, -⟩ := h.unique hr
    exact ⟨rfl, rfl, rfl⟩
  | append_singleton l e ih =>
    rw [← List.append_assoc] at h
    obtain ⟨r, u, hl, hf⟩ := replayed_snoc h
    obtain ⟨rfl, -⟩ := foldAuthorityEntry_plain hf (hrest e (List.mem_append_right _ List.mem_cons_self))
    show r.state = rp.state ∧ r.facts = rp.facts ∧ r.currentAuthority = rp.currentAuthority
    exact ih hl fun e' he' => hrest e' (List.mem_append_left _ he')

theorem state_eq_of_stamp_eq (h : Replayed entries replay usedEpochs) (hp : p <+: entries) (hr : Replayed p rp up)
    (heq : rp.currentAuthority = replay.currentAuthority) : rp.state = replay.state ∧ rp.facts = replay.facts := by
  obtain ⟨rest, rfl⟩ := hp
  obtain ⟨hstate, hfacts, -⟩ := h.unmarked hr (unmarked_of_stamp_eq h hr heq)
  exact ⟨hstate.symm, hfacts.symm⟩

theorem same_of_stamp_eq {q : List MctObservationLedgerEntry} {r r' : AuthorityReplayV1} (hp : p <+: entries)
    (hq : q <+: entries) (hr : replayAuthorityEntries p = .ok r) (hr' : replayAuthorityEntries q = .ok r')
    (heq : r.currentAuthority = r'.currentAuthority) : r.state = r'.state ∧ r.facts = r'.facts := by
  obtain ⟨u, hr⟩ := replayAuthorityEntries_ok.mp hr
  obtain ⟨u', hr'⟩ := replayAuthorityEntries_ok.mp hr'
  rcases List.prefix_or_prefix_of_prefix hp hq with hpq | hqp
  · exact state_eq_of_stamp_eq hr' hpq hr heq
  · obtain ⟨hstate, hfacts⟩ := state_eq_of_stamp_eq hr hqp hr' heq.symm
    exact ⟨hstate.symm, hfacts.symm⟩

/-- **What a faithful version stamp is**, for the ledger `entries`. -/
structure FaithfulStamp (entries : List MctObservationLedgerEntry) : Prop where
  replays : ∀ p, p <+: entries → ∃ r, replayAuthorityEntries p = .ok r
  /-- After a canonical fact the pair of epoch and generation differs from the pair after every earlier one. -/
  distinct : ∀ l e m e' rest r r', entries = l ++ e :: (m ++ e' :: rest) →
    (authorityPayload e).isSome → (authorityPayload e').isSome →
    replayAuthorityEntries (l ++ [e]) = .ok r → replayAuthorityEntries (l ++ e :: m ++ [e']) = .ok r' →
    ∃ a a', r.currentAuthority = some a ∧ r'.currentAuthority = some a' ∧
      (a.authorityEpoch, a.generation) ≠ (a'.authorityEpoch, a'.generation)
  /-- The generation never falls; an epoch keeps it, a mutation, an import and a passkey fact after the birth add one. -/
  generation : ∀ l e rest r r', entries = l ++ e :: rest → replayAuthorityEntries l = .ok r →
    replayAuthorityEntries (l ++ [e]) = .ok r' →
    r.generation ≤ r'.generation ∧
    (factKind e = some .epochEstablished → r'.generation = r.generation) ∧
    (factKind e = some .authorityMutation ∨ factKind e = some .legacyAuthorityImport ∨
        (factKind e = some .passkeyAdmin ∧ r.state.passkeyAdmin.isSome) →
      r'.generation = r.generation + 1)
  /-- Two prefixes with one identity have one state. -/
  state : ∀ p q r r', p <+: entries → q <+: entries → replayAuthorityEntries p = .ok r →
    replayAuthorityEntries q = .ok r' → r.currentAuthority = r'.currentAuthority → r.state = r'.state

/-- **The authority identity of every accepted ledger is a faithful version stamp of its authority state.** -/
theorem authority_stamp_faithful (h : replayAuthorityEntries entries = .ok replay) : FaithfulStamp entries := by
  obtain ⟨u, h⟩ := replayAuthorityEntries_ok.mp h
  have hpref : ∀ p, p <+: entries → ∃ r u, Replayed p r u := by
    rintro p ⟨t, rfl⟩
    obtain ⟨r, u, hr, -⟩ := replayed_append h
    exact ⟨r, u, hr⟩
  refine ⟨fun p hp => ?_, ?_, ?_, ?_⟩
  · obtain ⟨r, u, hr⟩ := hpref p hp
    exact ⟨r, replayAuthorityEntries_ok.mpr ⟨u, hr⟩⟩
  · intro l e m e' rest r r' heq he he' hr hr'
    obtain ⟨u₁, hr⟩ := replayAuthorityEntries_ok.mp hr
    obtain ⟨u₂, hr'⟩ := replayAuthorityEntries_ok.mp hr'
    -- the earlier fact, and the later one on the ledger before it
    obtain ⟨q, v, -, hf⟩ := replayed_snoc hr
    obtain ⟨q', v', hq', hf'⟩ := replayed_snoc hr'
    have step := foldAuthorityEntry_stamp hf
    have step' := foldAuthorityEntry_stamp hf'
    have hk : factKind e ≠ none := by rw [← Option.isSome_iff_ne_none, step.2, he]
    have hk' : factKind e' ≠ none := by rw [← Option.isSome_iff_ne_none, step'.2, he']
    obtain ⟨a, ha⟩ := step.1.born hk
    obtain ⟨a', ha'⟩ := step'.1.born hk'
    refine ⟨a, a', ha, ha', fresh_stamp hq' hf' hk' ⟨m, ?_⟩ hr ha ha'⟩
    rw [List.append_assoc, List.singleton_append]
  · intro l e rest r r' heq hr hr'
    obtain ⟨u₁, hr⟩ := replayAuthorityEntries_ok.mp hr
    obtain ⟨u₂, hr'⟩ := replayAuthorityEntries_ok.mp hr'
    obtain ⟨q, v, hq, hf⟩ := replayed_snoc hr'
    obtain ⟨rfl, rfl⟩ := hq.unique hr
    have step := (foldAuthorityEntry_stamp hf).1
    exact ⟨step.mono.2, step.generation⟩
  · intro p q r r' hp hq hr hr' heq
    exact (same_of_stamp_eq hp hq hr hr' heq).1

end Mct

namespace Mct.Sample

theorem authority_stamp_faithful_applies :
    ∃ replay, replayAuthorityEntries [epochEntry, mutationEntry] = .ok replay ∧
      FaithfulStamp [epochEntry, mutationEntry] := by
  obtain ⟨replay, _, _, h⟩ := toyLedger
  exact ⟨replay, h.accepted, authority_stamp_faithful h.accepted⟩

end Mct.Sample
