import PatinaMct.ResidentSteps
import PatinaMct.SampleResident
/-!
# KeyedOnce — keyed calls run at most once while their reservation lasts

Requests share a resident: they take turns, are dropped, and crash with it; the tables may be replaced by any others.  A
reservation that the fence has granted stays in the index and in the ledger until its own request releases it after a
transient refusal, or a later claim comes after its expiry (`Guarded`).  So between the grant and the expiry another
request with the key starts only after such a release, or late, under a reservation of its own that has expired
(`keyed_starts_in_window`).
-/
namespace Mct

open Resumption

variable [ResidentHost]

abbrev CallHappening := Happening World CallOp CallOp.Reply
abbrev KeyedPool := Pool Resident KeyedRequest World CallOp CallOp.Reply MctIrohCallHandlerResult
abbrev KeyedChoice := Choice KeyedRequest World Upset Crash

def keyedMachine : Machine Resident KeyedRequest World Upset Crash CallOp CallOp.Reply MctIrohCallHandlerResult where
  program := KeyedRequest.program
  perform := CallOp.perform
  upset := Resident.upset
  crash := fun crash resident => resident.reopen crash

def Resident.first (tables : CallTables) (log : LedgerLog) : Resident := ⟨tables, ⟨log, .empty, []⟩, false, []⟩

/-! ## Reservations over time -/

def CallDispatchClaimV1.EndsBy (claim later : CallDispatchClaimV1) : Prop :=
  ∃ expires accepted, KernelHost.parseTimestamp claim.expiresAt.value = .ok expires ∧
    KernelHost.parseTimestamp later.acceptedAt.value = .ok accepted ∧ expires ≤ accepted

def ReleasesIn (reservation : CallDispatchReservationV1) (entry : MctObservationLedgerEntry) : Prop :=
  decodeEvent entry = .ok (some (.released reservation.claim.keyDigest reservation.attemptSequence))

/-- The reservation is in the index, and in the ledger without a release, whatever of the last batch surfaces. -/
structure Resident.Holds (resident : Resident) (reservation : CallDispatchReservationV1) : Prop where
  indexed : resident.writer.index.reservations[reservation.claim.keyDigest]? = some reservation
  recorded : ∃ before entry after, resident.writer.entries = before ++ entry :: after ∧
    decodeEvent entry = .ok (some (.reserved reservation)) ∧
      ∀ other ∈ after ++ resident.attempted, ¬ ReleasesIn reservation other

variable {rs rs' : Resident} {reservation : CallDispatchReservationV1}

variable {entry : MctObservationLedgerEntry}

theorem not_releasesIn_of_none (h : decodeEvent entry = .ok none) :
    ¬ ReleasesIn reservation entry := by
  intro hreleased
  rw [ReleasesIn, h] at hreleased
  cases hreleased

theorem Reveals.not_releasesIn {ev : DispatchEvent} (h : Reveals entry ev)
    (hevent : ev ≠ .released reservation.claim.keyDigest reservation.attemptSequence) :
    ¬ ReleasesIn reservation entry := fun hreleased => hevent (h.eq hreleased).symm

namespace Resident.Holds

theorem extend (h : rs.Holds reservation)
    (hindex : rs'.writer.index.reservations[reservation.claim.keyDigest]? = some reservation)
    {added : List MctObservationLedgerEntry} (hents : rs'.writer.entries = rs.writer.entries ++ added)
    (hadded : ∀ entry ∈ added, ¬ ReleasesIn reservation entry)
    (hattempted : ∀ entry ∈ rs'.attempted, entry ∈ rs.attempted ∨ ¬ ReleasesIn reservation entry) :
    rs'.Holds reservation := by
  obtain ⟨before, entry, after, hsplit, hdec, hkept⟩ := h.recorded
  refine ⟨hindex, before, entry, after ++ added, by rw [hents, hsplit]; simp, hdec, ?_⟩
  intro other hother
  obtain hother | hother := List.mem_append.mp hother
  · obtain hafter | hnew := List.mem_append.mp hother
    · exact hkept other (List.mem_append_left _ hafter)
    · exact hadded other hnew
  · obtain hold | hnot := hattempted other hother
    · exact hkept other (List.mem_append_right _ hold)
    · exact hnot

theorem undisturbed (h : rs.Holds reservation) (hsame : rs.Undisturbed rs') :
    rs'.Holds reservation := by
  obtain ⟨added, hents, hadded⟩ := hsame.entries
  refine h.extend (by rw [hsame.index]; exact h.indexed) hents
    (fun entry hentry => not_releasesIn_of_none (hadded entry hentry)) fun entry hentry => ?_
  obtain hold | hnone := hsame.attempted entry hentry
  · exact Or.inl hold
  · exact Or.inr (not_releasesIn_of_none hnone)

theorem retained (h : rs.Holds reservation) (hkeyed : rs.writer.index.WellKeyed) {now : Int}
    {claim : CallDispatchClaimV1} (hparse : KernelHost.parseTimestamp claim.acceptedAt.value = .ok now) :
    (rs.writer.index.retainAfter now).reservations[reservation.claim.keyDigest]? = some reservation ∨
      reservation.claim.EndsBy claim := by
  cases hlive : CallDispatchIndexV1.live now reservation with
  | true => exact Or.inl (CallDispatchIndexV1.retainAfter_some.mpr ⟨h.indexed, hlive⟩)
  | false =>
    obtain ⟨expires, hexpires, hle⟩ := hkeyed.expired h.indexed hlive
    exact Or.inr ⟨expires, now, hexpires, hparse, hle⟩

/-- **A question to the fence** leaves a reservation alone, unless it comes after its end or asks for its release. -/
theorem turn (h : rs.Holds reservation) (hkeyed : rs.writer.index.WellKeyed) {op : DispatchOperation}
    {reply : Except String DispatchResponse} (hturn : rs.DispatchTurn op rs' reply) :
    rs'.Holds reservation ∨
      (∃ c tpl, op = .reserve c tpl ∧ reservation.claim.EndsBy c) ∨
      ∃ other tpl, op = .release other tpl ∧ rs.writer.index.contains other = true ∧
        other.claim.keyDigest = reservation.claim.keyDigest := by
  cases hturn with
  | idle hindex hents hattempted hreply =>
    have hnone : rs'.writer.entries = rs.writer.entries ++ [] := by rw [hents, List.append_nil]
    exact Or.inl (h.extend (by rw [hindex]; exact h.indexed) hnone (fun _ h => absurd h List.not_mem_nil)
      fun entry hentry => Or.inl (hattempted entry hentry))
  | answered hparse hindex hents hadded hattempted hreply =>
    obtain hlive | hends := h.retained hkeyed hparse
    · refine Or.inl (h.extend (by rw [hindex]; exact hlive) hents
        (fun entry hentry => (hadded entry hentry).not_releasesIn (by simp)) fun entry hentry => ?_)
      obtain hold | hreveals := hattempted entry hentry
      · exact Or.inl hold
      · exact Or.inr (hreveals.not_releasesIn (by simp))
    · exact Or.inr (Or.inl ⟨_, _, rfl, hends⟩)
  | @granted c tpl _ now seq entry hfenced hvalid hparse hnone hindex hents hdec hattempted =>
    obtain hlive | hends := h.retained hkeyed hparse
    · have hother : c.keyDigest ≠ reservation.claim.keyDigest := by
        intro hsame
        rw [hsame, hlive] at hnone
        cases hnone
      refine Or.inl (h.extend ?_ hents ?_ fun entry hentry => Or.inl (hattempted ▸ hentry))
      · rw [hindex, Std.ExtTreeMap.getElem?_insert, if_neg (by simpa using hother)]
        exact hlive
      · intro other hmem
        rw [List.mem_singleton.mp hmem]
        exact Reveals.not_releasesIn (Or.inl hdec) (by simp)
    · exact Or.inr (Or.inl ⟨_, _, rfl, hends⟩)
  | @released other tpl _ _ added hcont hindex hents hadded hattempted hreply =>
    by_cases hkey : other.claim.keyDigest = reservation.claim.keyDigest
    · exact Or.inr (Or.inr ⟨_, _, rfl, hcont, hkey⟩)
    have hevent : DispatchEvent.released other.claim.keyDigest other.attemptSequence ≠
        .released reservation.claim.keyDigest reservation.attemptSequence := by
      intro heq
      injection heq with hdigest
      exact hkey hdigest
    refine Or.inl (h.extend ?_ hents (fun entry hentry => (hadded entry hentry).not_releasesIn hevent)
      fun entry hentry => ?_)
    · obtain hindex | hindex := hindex
      · rw [hindex]
        exact h.indexed
      · rw [hindex, Std.ExtTreeMap.getElem?_erase, if_neg (by simpa using hkey)]
        exact h.indexed
    · obtain hold | hreveals := hattempted entry hentry
      · exact Or.inl hold
      · exact Or.inr (hreveals.not_releasesIn hevent)

end Resident.Holds

/-! ## Restarts -/

variable {idx : CallDispatchIndexV1}

/-- **Replay keeps a reservation** that the entries do not release, until a claim after its end. -/
theorem replay_keeps {es : List MctObservationLedgerEntry} {idx' : CallDispatchIndexV1}
    (hindex : idx.reservations[reservation.claim.keyDigest]? = some reservation)
    (hkept : ∀ entry ∈ es, ¬ ReleasesIn reservation entry)
    (hrep : es.foldlM CallDispatchIndexV1.replayEntry idx = .ok idx') :
    idx'.reservations[reservation.claim.keyDigest]? = some reservation ∨
      ∃ entry ∈ es, ∃ later, decodeEvent entry = .ok (some (.reserved later)) ∧
        reservation.claim.EndsBy later.claim := by
  induction es generalizing idx with
  | nil =>
    cases hrep
    exact Or.inl hindex
  | cons entry es ih =>
    simp only [List.foldlM_cons, Checked.bind_ok] at hrep
    obtain ⟨middle, hmid, hrest⟩ := hrep
    have hnext : middle.reservations[reservation.claim.keyDigest]? = some reservation ∨ ∃ later,
        decodeEvent entry = .ok (some (.reserved later)) ∧ reservation.claim.EndsBy later.claim := by
      unfold CallDispatchIndexV1.replayEntry at hmid
      obtain ⟨found, hfound, happly⟩ := Checked.bind_ok.mp hmid
      cases found with
      | none =>
        cases happly
        exact Or.inl hindex
      | some ev =>
        cases ev with
        | reserved later =>
          obtain ⟨hprior, rfl⟩ := CallDispatchIndexV1.apply_reserved_ok.mp happly
          by_cases hkey : later.claim.keyDigest = reservation.claim.keyDigest
          · rw [hkey] at hprior
            exact Or.inr ⟨later, hfound, hprior reservation hindex⟩
          · refine Or.inl ?_
            rw [Std.ExtTreeMap.getElem?_insert, if_neg (by simpa using hkey)]
            exact hindex
        | released kd attemptSequence =>
          simp only [CallDispatchIndexV1.apply, Checked.bind_ok, Checked.exists_unit, Checked.pure_ok] at happly
          obtain ⟨hcur, rfl⟩ := happly
          by_cases hkey : kd = reservation.claim.keyDigest
          · subst hkey
            rw [hindex] at hcur
            have hattempt : reservation.attemptSequence = attemptSequence := by simpa [Checked.deny] using hcur
            subst hattempt
            exact absurd hfound (hkept entry List.mem_cons_self)
          · refine Or.inl ?_
            rw [Std.ExtTreeMap.getElem?_erase, if_neg (by simpa using hkey)]
            exact hindex
    obtain hsame | ⟨later, hdec, hends⟩ := hnext
    · obtain hlast | ⟨other, hother, hlater⟩ :=
        ih hsame (fun entry hentry => hkept entry (List.mem_cons_of_mem _ hentry)) hrest
      · exact Or.inl hlast
      · exact Or.inr ⟨other, List.mem_cons_of_mem _ hother, hlater⟩
    · exact Or.inr ⟨entry, List.mem_cons_self, later, hdec, hends⟩

theorem isForeignEntry_none (h : isForeignEntry entry = true) :
    decodeEvent entry = .ok none := by
  unfold isForeignEntry at h
  refine decodeEvent_none ?_
  simp only [Bool.and_eq_true, Bool.not_eq_true'] at h
  exact h.2

theorem Resident.found_added (rs : Resident) (crash : Crash) :
    ∃ added, rs.found crash = rs.writer.entries ++ added ∧
      ∀ entry ∈ added, entry ∈ rs.attempted ∨ decodeEvent entry = .ok none := by
  refine ⟨rs.attempted.take crash.kept ++ crash.others.filter isForeignEntry, by simp [found], fun entry hentry => ?_⟩
  obtain htaken | hforeign := List.mem_append.mp hentry
  · exact Or.inl (List.mem_of_mem_take htaken)
  · exact Or.inr (isForeignEntry_none (List.mem_filter.mp hforeign).2)

/-- **A restart** keeps a reservation, unless the ledger has a later one. -/
theorem Resident.Holds.reopen (h : rs.Holds reservation) (crash : Crash) :
    (rs.reopen crash).Holds reservation ∨
      ∃ entry ∈ rs.writer.entries ++ rs.attempted, ∃ later,
        decodeEvent entry = .ok (some (.reserved later)) ∧ reservation.claim.EndsBy later.claim := by
  obtain ⟨added, hfound, hadded⟩ := rs.found_added crash
  obtain ⟨before, entry, after, hsplit, hdec, hkept⟩ := h.recorded
  have hplain : ∀ other ∈ added, ¬ ReleasesIn reservation other := by
    intro other hother
    obtain hattempted | hnone := hadded other hother
    · exact hkept other (List.mem_append_right _ hattempted)
    · exact not_releasesIn_of_none hnone
  unfold Resident.reopen
  simp only
  split
  · rename_i idx hreb
    rw [hfound, hsplit, rebuildIndex, List.append_assoc, List.foldlM_append, List.cons_append] at hreb
    simp only [Checked.bind_ok, List.foldlM_cons] at hreb
    obtain ⟨start, -, middle, hmid, hrest⟩ := hreb
    have hind : middle.reservations[reservation.claim.keyDigest]? = some reservation := by
      rw [CallDispatchIndexV1.replayEntry_event hdec] at hmid
      obtain ⟨-, rfl⟩ := CallDispatchIndexV1.apply_reserved_ok.mp hmid
      exact Std.ExtTreeMap.getElem?_insert_self
    have hrests : ∀ other ∈ after ++ added, ¬ ReleasesIn reservation other := by
      intro other hother
      obtain hafter | hnew := List.mem_append.mp hother
      · exact hkept other (List.mem_append_left _ hafter)
      · exact hplain other hnew
    obtain hsame | ⟨other, hother, later, hlater, hends⟩ := replay_keeps hind hrests hrest
    · exact Or.inl (h.extend hsame hfound hplain fun _ h => absurd h List.not_mem_nil)
    · refine Or.inr ⟨other, ?_, later, hlater, hends⟩
      obtain hafter | hnew := List.mem_append.mp hother
      · rw [hsplit]
        simp [hafter]
      · obtain hattempted | hnone := hadded other hnew
        · exact List.mem_append_right _ hattempted
        · rw [hnone] at hlater
          cases hlater
  · exact Or.inl (h.extend h.indexed hfound hplain fun _ h => absurd h List.not_mem_nil)

theorem Resident.reopen_wellKeyed (hkeyed : rs.writer.index.WellKeyed) (crash : Crash) :
    (rs.reopen crash).writer.index.WellKeyed := by
  unfold Resident.reopen
  simp only
  split
  · rename_i idx hreb
    exact CallDispatchIndexV1.rebuild_wellKeyed hreb
  · exact hkeyed

/-! ## The invariant of a run -/

namespace CallHappening

variable (happening : CallHappening)

def claimed : Option CallDispatchClaimV1 := CallEvent.claimed happening.event
def granted : Option CallDispatchReservationV1 := CallEvent.granted happening.event
def released : Option CallDispatchReservationV1 := CallEvent.released happening.event
def isStart : Bool := CallEvent.isStart happening.event

omit [ResidentHost] in
theorem quiet_none {happening : CallHappening} (h : happening.op.isQuiet = true) :
    happening.claimed = none ∧ happening.granted = none ∧ happening.released = none ∧ happening.isStart = false := by
  have hevent : happening.event.op.isQuiet = true := h
  exact CallEvent.quiet_none hevent

end CallHappening

def FreedBy (trace : List CallHappening) (thread : Nat) (reservation : CallDispatchReservationV1) : Prop :=
  ∃ happening ∈ trace, happening.thread = thread ∧ happening.released = some reservation

def OutlivedIn (trace : List CallHappening) (reservation : CallDispatchReservationV1) : Prop :=
  ∃ happening ∈ trace, ∃ claim, happening.claimed = some claim ∧ reservation.claim.EndsBy claim

/-- The executions write no dispatch facts: those are the fence's own. -/
def PlainIn (trace : List CallHappening) : Prop :=
  ∀ happening ∈ trace, ∀ observations, happening.op = .run (.append observations) →
    ∀ observation ∈ observations, observation.isDispatchFact = false

/-- The readings of the clock do not decrease in the order in which requests reserve. -/
def SteadyIn (trace : List CallHappening) : Prop :=
  (trace.filterMap fun happening => happening.claimed).Pairwise fun claim later => claim.acceptedAt ≤ later.acceptedAt

def CallDispatchClaimV1.Read (claim : CallDispatchClaimV1) : Prop :=
  KernelHost.parseTimestamp claim.acceptedAt.value = .ok claim.acceptedAt.epochNanoseconds

def ReadIn (trace : List CallHappening) : Prop :=
  ∀ happening ∈ trace, ∀ claim, happening.claimed = some claim → claim.Read

structure Guarded (resident : Resident) (trace : List CallHappening) : Prop where
  wellKeyed : resident.writer.index.WellKeyed
  calm : resident.fenced = false → resident.attempted = []
  sourced : ∀ entry ∈ resident.writer.entries ++ resident.attempted, ∀ reservation,
    decodeEvent entry = .ok (some (.reserved reservation)) →
      ∃ happening ∈ trace, happening.claimed = some reservation.claim
  own : ∀ happening ∈ trace, ∀ reservation, happening.granted = some reservation →
    happening.claimed = some reservation.claim ∧ reservation.claim.validate = .ok ()
  held : ∀ happening ∈ trace, ∀ reservation, happening.granted = some reservation →
    resident.Holds reservation ∨ FreedBy trace happening.thread reservation ∨ OutlivedIn trace reservation
  apart : ∀ before happening after, trace = before ++ happening :: after → ∀ reservation,
    happening.granted = some reservation → ∀ earlier ∈ before, ∀ prior, earlier.granted = some prior →
      prior.claim.keyDigest = reservation.claim.keyDigest →
        prior.claim.EndsBy reservation.claim ∨ FreedBy before earlier.thread prior

variable {trace : List CallHappening} {happening : CallHappening}

omit [ResidentHost] in
theorem FreedBy.snoc {th : Nat} (h : FreedBy trace th reservation) (happening : CallHappening) :
    FreedBy (trace ++ [happening]) th reservation := by
  obtain ⟨other, hother, hfreed⟩ := h
  exact ⟨other, List.mem_append_left _ hother, hfreed⟩

theorem OutlivedIn.snoc (h : OutlivedIn trace reservation) (happening : CallHappening) :
    OutlivedIn (trace ++ [happening]) reservation := by
  obtain ⟨other, hother, houtlived⟩ := h
  exact ⟨other, List.mem_append_left _ hother, houtlived⟩

variable {claim : CallDispatchClaimV1}

theorem OutlivedIn.endsBy (h : OutlivedIn trace reservation) (hread : ReadIn (trace ++ [happening]))
    (hsteady : SteadyIn (trace ++ [happening]))
    (hclaim : happening.claimed = some claim) : reservation.claim.EndsBy claim := by
  obtain ⟨other, hother, earlier, hear, expires, accepted, hexpires, hacc, hle⟩ := h
  have hread' := hread other (List.mem_append_left _ hother) earlier hear
  rw [CallDispatchClaimV1.Read, hacc] at hread'
  refine ⟨expires, _, hexpires, hread happening (by simp) claim hclaim, ?_⟩
  have horder : earlier.acceptedAt ≤ claim.acceptedAt := by
    unfold SteadyIn at hsteady
    rw [List.filterMap_append, List.pairwise_append] at hsteady
    exact hsteady.2.2 earlier (List.mem_filterMap.mpr ⟨other, hother, hear⟩) claim (by simp [hclaim])
  rw [Timestamp.le_def, ← Except.ok.inj hread'] at horder
  exact hle.trans horder

namespace Guarded

theorem undisturbed (h : Guarded rs trace) (hsame : rs.Undisturbed rs') : Guarded rs' trace := by
  refine ⟨by rw [hsame.index]; exact h.wellKeyed, fun hfenced => ?_, fun entry hentry reservation hdec => ?_, h.own, ?_,
    h.apart⟩
  · obtain ⟨hcalm, hattempted⟩ := hsame.calm hfenced
    rw [hattempted]
    exact h.calm hcalm
  · obtain ⟨added, hents, hadded⟩ := hsame.entries
    have hnot : decodeEvent entry ≠ .ok none := by
      rw [hdec]
      simp
    refine h.sourced entry ?_ reservation hdec
    obtain hold | hattempted := List.mem_append.mp hentry
    · rw [hents] at hold
      obtain hold | hnew := List.mem_append.mp hold
      · exact List.mem_append_left _ hold
      · exact absurd (hadded entry hnew) hnot
    · obtain hold | hnone := hsame.attempted entry hattempted
      · exact List.mem_append_right _ hold
      · exact absurd hnone hnot
  · intro happening hmem reservation hgranted
    obtain hholds | hrest := h.held happening hmem reservation hgranted
    · exact Or.inl (hholds.undisturbed hsame)
    · exact Or.inr hrest

theorem quiet (h : Guarded rs trace) (hgranted : happening.granted = none) :
    Guarded rs (trace ++ [happening]) := by
  have hold : ∀ {other : CallHappening} {reservation}, other ∈ trace ++ [happening] →
      other.granted = some reservation → other ∈ trace := by
    intro other reservation hother hother'
    obtain hmem | hlast := List.mem_append.mp hother
    · exact hmem
    · rw [List.mem_singleton.mp hlast, hgranted] at hother'
      cases hother'
  refine ⟨h.wellKeyed, h.calm, fun entry hentry reservation hdec => ?_, fun other hother reservation hother' => ?_,
    fun other hother reservation hother' => ?_, fun before other after hsplit reservation hother' => ?_⟩
  · obtain ⟨source, hsource, hclaims⟩ := h.sourced entry hentry reservation hdec
    exact ⟨source, List.mem_append_left _ hsource, hclaims⟩
  · exact h.own other (hold hother hother') reservation hother'
  · obtain hholds | hfreed | houtlived := h.held other (hold hother hother') reservation hother'
    · exact Or.inl hholds
    · exact Or.inr (Or.inl (hfreed.snoc _))
    · exact Or.inr (Or.inr (houtlived.snoc _))
  · obtain ⟨-, -, rfl⟩ | ⟨after', -, htrace⟩ := last_eq hsplit
    · rw [hgranted] at hother'
      cases hother'
    · exact h.apart before other after' htrace reservation hother'

theorem reopen (h : Guarded rs trace) (crash : Crash) : Guarded (rs.reopen crash) trace := by
  have hnothing : (rs.reopen crash).attempted = [] := by
    unfold Resident.reopen
    simp only
    split <;> rfl
  refine ⟨Resident.reopen_wellKeyed h.wellKeyed crash, fun _ => hnothing, fun entry hentry reservation hdec => ?_, h.own,
    ?_, h.apart⟩
  · obtain ⟨added, hfound, hadded⟩ := rs.found_added crash
    have hents : entry ∈ rs.found crash := by
      unfold Resident.reopen at hentry
      simp only at hentry
      split at hentry <;> simpa using hentry
    refine h.sourced entry ?_ reservation hdec
    rw [hfound] at hents
    obtain hold | hnew := List.mem_append.mp hents
    · exact List.mem_append_left _ hold
    · obtain hattempted | hnone := hadded entry hnew
      · exact List.mem_append_right _ hattempted
      · rw [hnone] at hdec
        cases hdec
  · intro happening hmem reservation hgranted
    obtain hholds | hrest := h.held happening hmem reservation hgranted
    · obtain hkept | ⟨entry, hentry, later, hlater, hends⟩ := hholds.reopen crash
      · exact Or.inl hkept
      · obtain ⟨source, hsource, hclaims⟩ := h.sourced entry hentry later hlater
        exact Or.inr (Or.inr ⟨source, hsource, _, hclaims, hends⟩)
    · exact Or.inr hrest

end Guarded

/-! ## The fence -/

theorem CallDispatchClaimV1.not_endsBy {later : CallDispatchClaimV1} (hvalid : claim.validate = .ok ())
    (hread : claim.Read) (hlater : later.Read)
    (hsame : claim.acceptedAt.epochNanoseconds = later.acceptedAt.epochNanoseconds) : ¬ claim.EndsBy later := by
  rintro ⟨expires, accepted, hexpires, hacc, hle⟩
  obtain ⟨-, -, begins, hbegins, hends, -⟩ := CallDispatchClaimV1.validate_ok.mp hvalid
  rw [hexpires] at hends
  rw [hread] at hbegins
  rw [hlater] at hacc
  have hends := Except.ok.inj hends
  have hbegins := Except.ok.inj hbegins
  have hacc := Except.ok.inj hacc
  unfold mctIdempotencyTtlSeconds at hends
  omega

omit [ResidentHost] in
theorem CallDispatchIndexV1.contains_accepted {record : CallDispatchReservationV1}
    (h : idx.contains reservation = true) (hrec : idx.reservations[reservation.claim.keyDigest]? = some record) :
    record.claim.acceptedAt.epochNanoseconds = reservation.claim.acceptedAt.epochNanoseconds := by
  unfold contains at h
  rw [hrec] at h
  have hbeq : (record == reservation) = true := h
  obtain ⟨⟨kd, fingerprintDigest, accepted, expires⟩, att⟩ := record
  obtain ⟨⟨kd', fingerprintDigest', accepted', expires'⟩, att'⟩ := reservation
  have hparts : ((kd == kd' && (fingerprintDigest == fingerprintDigest' && (accepted == accepted' &&
      expires == expires'))) && att == att') = true := hbeq
  simp only [Bool.and_eq_true] at hparts
  exact beq_iff_eq.mp hparts.1.2.2.1

theorem Resident.DispatchTurn.sourced {op : DispatchOperation} {reply : Except String DispatchResponse}
    (h : rs.DispatchTurn op rs' reply)
    (hentry : entry ∈ rs'.writer.entries ++ rs'.attempted)
    (hdec : decodeEvent entry = .ok (some (.reserved reservation))) :
    entry ∈ rs.writer.entries ++ rs.attempted ∨ ∃ template, op = .reserve reservation.claim template := by
  cases h with
  | idle hindex hents hattempted hreply =>
    rw [hents] at hentry
    obtain hold | hold := List.mem_append.mp hentry
    · exact Or.inl (List.mem_append_left _ hold)
    · exact Or.inl (List.mem_append_right _ (hattempted entry hold))
  | @answered claim template _ _ now seq added hparse hindex hents hadded hattempted hreply =>
    have hreveals : Reveals entry (.reserved ⟨claim, seq⟩) → ∃ template', DispatchOperation.reserve claim template =
        .reserve reservation.claim template' := by
      intro hreveals
      cases hreveals.eq hdec
      exact ⟨template, rfl⟩
    rw [hents, List.append_assoc] at hentry
    obtain hold | hentry := List.mem_append.mp hentry
    · exact Or.inl (List.mem_append_left _ hold)
    obtain hnew | hattempt := List.mem_append.mp hentry
    · exact Or.inr (hreveals (hadded entry hnew))
    · obtain hold | hnew := hattempted entry hattempt
      · exact Or.inl (List.mem_append_right _ hold)
      · exact Or.inr (hreveals hnew)
  | @granted claim template _ now seq other hfenced hvalid hparse hnone hindex hents hdec' hattempted =>
    rw [hents, List.append_assoc, hattempted] at hentry
    obtain hold | hentry := List.mem_append.mp hentry
    · exact Or.inl (List.mem_append_left _ hold)
    obtain hnew | hold := List.mem_append.mp hentry
    · rw [List.mem_singleton.mp hnew, hdec'] at hdec
      cases hdec
      exact Or.inr ⟨template, rfl⟩
    · exact Or.inl (List.mem_append_right _ hold)
  | @released other template _ _ added hcont hindex hents hadded hattempted hreply =>
    have hreveals : ¬ Reveals entry (.released other.claim.keyDigest other.attemptSequence) := by
      intro hreveals
      cases hreveals.eq hdec
    rw [hents, List.append_assoc] at hentry
    obtain hold | hentry := List.mem_append.mp hentry
    · exact Or.inl (List.mem_append_left _ hold)
    obtain hnew | hattempt := List.mem_append.mp hentry
    · exact absurd (hadded entry hnew) hreveals
    · obtain hold | hnew := hattempted entry hattempt
      · exact Or.inl (List.mem_append_right _ hold)
      · exact absurd hnew hreveals

omit [ResidentHost] in
theorem granted_inv (h : happening.granted = some reservation) :
    ∃ claim tpl, happening.event = ⟨.dispatch (.reserve claim tpl), .ok (.reserved reservation)⟩ := by
  unfold CallHappening.granted CallEvent.granted at h
  split at h
  · rename_i claim tpl other hevent
    cases h
    exact ⟨claim, tpl, hevent⟩
  · cases h

namespace Guarded

variable {operation : DispatchOperation} {reply : Except String DispatchResponse}

theorem granted_turn (h : Guarded rs trace) (hturn : rs.DispatchTurn operation rs' reply)
    (hevent : happening.event = ⟨.dispatch operation, reply⟩) (hgranted : happening.granted = some reservation) :
    happening.claimed = some reservation.claim ∧ reservation.claim.validate = .ok () ∧ rs'.Holds reservation ∧
      ∃ now, KernelHost.parseTimestamp reservation.claim.acceptedAt.value = .ok now ∧
        (rs.writer.index.retainAfter now).reservations[reservation.claim.keyDigest]? = none := by
  obtain ⟨claim, tpl, hsame⟩ := granted_inv hgranted
  have hreply : operation = .reserve claim tpl ∧ reply = .ok (.reserved reservation) := by
    rw [hevent] at hsame
    cases hsame
    exact ⟨rfl, rfl⟩
  obtain ⟨rfl, rfl⟩ := hreply
  cases hturn with
  | idle _ _ _ hreply => exact absurd rfl (hreply reservation)
  | answered _ _ _ _ _ hreply => exact absurd rfl (hreply reservation)
  | @granted _ _ _ now seq entry hfenced hvalid hparse hnone hindex hents hdec hattempted =>
    refine ⟨?_, hvalid, ⟨?_, _, entry, [], hents, hdec, ?_⟩, now, hparse, hnone⟩
    · rw [CallHappening.claimed, hevent]
      rfl
    · rw [hindex]
      exact Std.ExtTreeMap.getElem?_insert_self
    · rw [hattempted, h.calm hfenced]
      exact fun _ h => absurd h List.not_mem_nil

def OwnRelease (trace : List CallHappening) (happening : CallHappening) : Prop :=
  ∀ reservation, happening.released = some reservation →
    (∃ grant ∈ trace, grant.thread = happening.thread ∧ grant.granted = some reservation) ∧
      ¬ FreedBy trace happening.thread reservation

/-- The release of what is under the key in the index comes from the thread that it was granted to. -/
theorem release_owner (h : Guarded rs trace) (hread : ReadIn trace) (howner : OwnRelease trace happening)
    {other : CallDispatchReservationV1} (hreleased : happening.released = some other)
    (hcont : rs.writer.index.contains other = true)
    (hkey : other.claim.keyDigest = reservation.claim.keyDigest) {earlier : CallHappening} (hear : earlier ∈ trace)
    (hgranted : earlier.granted = some reservation) (hholds : rs.Holds reservation) :
    FreedBy (trace ++ [happening]) earlier.thread reservation := by
  obtain ⟨⟨g, hgrant, hthread, hother⟩, hunfenced⟩ := howner other hreleased
  have hind := hholds.indexed
  rw [← hkey] at hind
  have hsame := CallDispatchIndexV1.contains_accepted hcont hind
  obtain ⟨hclaims, hvalid⟩ := h.own earlier hear reservation hgranted
  obtain ⟨hclaims', hvalid'⟩ := h.own g hgrant other hother
  have hread₁ := hread earlier hear _ hclaims
  have hread₂ := hread g hgrant _ hclaims'
  obtain rfl | ⟨before, after, hsplit, hfirst⟩ | ⟨before, after, hsplit, hfirst⟩ := mem_before hear hgrant
  · rw [hgranted] at hother
    cases hother
    exact ⟨happening, by simp, hthread.symm, hreleased⟩
  · -- the reservation was granted first, so it had ended or was released
    obtain hends | hfreed := h.apart before g after hsplit other hother earlier hfirst reservation hgranted hkey.symm
    · exact absurd hends (CallDispatchClaimV1.not_endsBy hvalid hread₁ hread₂ hsame)
    · obtain ⟨release, hmem, hrest⟩ := hfreed
      exact ⟨release, by rw [hsplit]; simp [hmem], hrest⟩
  · obtain hends | hfreed := h.apart before earlier after hsplit reservation hgranted g hfirst other hother hkey
    · exact absurd hends (CallDispatchClaimV1.not_endsBy hvalid' hread₂ hread₁ hsame.symm)
    · refine absurd ?_ hunfenced
      obtain ⟨release, hmem, hrest⟩ := hfreed
      rw [hthread] at hrest
      exact ⟨release, by rw [hsplit]; simp [hmem], hrest⟩

/-- **A question to the fence keeps the invariant.** -/
theorem dispatch (h : Guarded rs trace) (hturn : rs.DispatchTurn operation rs' reply)
    (hcalm : rs'.fenced = false → rs.fenced = false ∧ rs'.attempted = rs.attempted)
    (hevent : happening.event = ⟨.dispatch operation, reply⟩) (hread : ReadIn (trace ++ [happening]))
    (hsteady : SteadyIn (trace ++ [happening])) (howner : OwnRelease trace happening) :
    Guarded rs' (trace ++ [happening]) := by
  have hreadB : ReadIn trace := fun other hother => hread other (List.mem_append_left _ hother)
  refine ⟨hturn.wellKeyed h.wellKeyed, fun hfenced => ?_, fun entry hentry reservation hdec => ?_,
    fun other hother reservation hgranted => ?_, fun other hother reservation hgranted => ?_,
    fun before other after hsplit reservation hgranted earlier hear prior hprior hkey => ?_⟩
  · obtain ⟨hbefore, hattempted⟩ := hcalm hfenced
    rw [hattempted]
    exact h.calm hbefore
  · obtain hold | ⟨tpl, hop⟩ := hturn.sourced hentry hdec
    · obtain ⟨source, hsource, hclaims⟩ := h.sourced entry hold reservation hdec
      exact ⟨source, List.mem_append_left _ hsource, hclaims⟩
    · refine ⟨happening, by simp, ?_⟩
      rw [CallHappening.claimed, hevent, hop]
      rfl
  · obtain hold | hlast := List.mem_append.mp hother
    · exact h.own other hold reservation hgranted
    · rw [List.mem_singleton.mp hlast] at hgranted ⊢
      obtain ⟨hclaims, hvalid, -⟩ := h.granted_turn hturn hevent hgranted
      exact ⟨hclaims, hvalid⟩
  · obtain hold | hlast := List.mem_append.mp hother
    · obtain hholds | hfreed | houtlived := h.held other hold reservation hgranted
      · obtain hkept | ⟨claim, tpl, hop, hends⟩ | ⟨released, tpl, hop, hcont, hkey⟩ :=
          hholds.turn h.wellKeyed hturn
        · exact Or.inl hkept
        · refine Or.inr (Or.inr ⟨happening, by simp, claim, ?_, hends⟩)
          rw [CallHappening.claimed, hevent, hop]
          rfl
        · refine Or.inr (Or.inl (h.release_owner hreadB howner ?_ hcont hkey hold hgranted hholds))
          rw [CallHappening.released, hevent, hop]
          rfl
      · exact Or.inr (Or.inl (hfreed.snoc _))
      · exact Or.inr (Or.inr (houtlived.snoc _))
    · rw [List.mem_singleton.mp hlast] at hgranted
      exact Or.inl (h.granted_turn hturn hevent hgranted).2.2.1
  · obtain ⟨-, rfl, rfl⟩ | ⟨after', -, htrace⟩ := last_eq hsplit
    · obtain ⟨hclaims, -, -, now, hparse, hnone⟩ := h.granted_turn hturn hevent hgranted
      obtain hholds | hfreed | houtlived := h.held earlier hear prior hprior
      · obtain hlive | hends := hholds.retained h.wellKeyed hparse
        · rw [hkey, hnone] at hlive
          cases hlive
        · exact Or.inl hends
      · exact Or.inr hfreed
      · exact Or.inl (houtlived.endsBy hread hsteady hclaims)
    · exact h.apart before other after' htrace reservation hgranted earlier hear prior hprior hkey

end Guarded

/-! ## Runs -/

section Runs

variable {store : Resident} {choices : List KeyedChoice} {before after : List CallHappening}

/-- **An operation of a request that is not quiet**, with what its thread did before. -/
theorem run_loud (htrace : (keyedMachine.run store choices).trace = before ++ happening :: after) :
    ∃ th, (keyedMachine.run store choices).threads[happening.thread]? = some th ∧
      (happening.op.isQuiet = true ∨
        (th.owner.request.idempotencyKey = none ∧ eventsOf before happening.thread = [] ∧
          happening.event = KeyedCall.startEvent) ∨
        ∃ k, th.owner.keyed = some k ∧
          KeyedCall.Loud k th.owner.execute (eventsOf before happening.thread) happening.event) := by
  obtain ⟨th, rest, hthread, hpath⟩ := keyedMachine.run_before store choices htrace
  exact ⟨th, hthread, th.owner.path_loud hpath⟩

theorem run_read (store : Resident) (choices : List KeyedChoice) : ReadIn (keyedMachine.run store choices).trace := by
  intro happening hmem claim hclaim
  obtain ⟨before, after, htrace⟩ := List.append_of_mem hmem
  obtain ⟨th, -, hquiet | ⟨-, -, hevent⟩ | ⟨k, hkeyed, hloud⟩⟩ := run_loud htrace
  · rw [(CallHappening.quiet_none hquiet).1] at hclaim
    cases hclaim
  · rw [CallHappening.claimed, hevent] at hclaim
    cases hclaim
  · unfold CallHappening.claimed at hclaim
    generalize happening.event = ev at hclaim hloud
    generalize eventsOf before happening.thread = evs at hloud
    cases hloud with
    | asks reply hquiet =>
      cases hclaim
      show KernelHost.parseTimestamp k.now.value = .ok k.now.epochNanoseconds
      rw [(th.owner.keyed_now hkeyed).1]
      exact th.owner.read
    | starts reservation hquiet => cases hclaim
    | releases reservation reply => cases hclaim

theorem run_ownRelease (htrace : (keyedMachine.run store choices).trace = before ++ happening :: after) :
    Guarded.OwnRelease before happening := by
  intro reservation hrel
  obtain ⟨th, -, hquiet | ⟨-, -, hevent⟩ | ⟨k, hkeyed, hloud⟩⟩ := run_loud htrace
  · rw [(CallHappening.quiet_none hquiet).2.2.1] at hrel
    cases hrel
  · rw [CallHappening.released, hevent] at hrel
    cases hrel
  · unfold CallHappening.released at hrel
    generalize happening.event = ev at hrel hloud
    generalize hevs : eventsOf before happening.thread = evs at hloud
    cases hloud with
    | asks reply hquiet => cases hrel
    | starts reservation hquiet => cases hrel
    | @releases first rest _ _ other reply hfirst hrest =>
      obtain rfl : other = reservation := Option.some.inj hrel
      refine ⟨?_, ?_⟩
      · obtain ⟨g, hgrant, hthread, hsame⟩ := of_mem_eventsOf
          (show k.asked (.ok (.reserved other)) ∈ eventsOf before happening.thread by rw [hevs]; simp)
        refine ⟨g, hgrant, hthread, ?_⟩
        rw [CallHappening.granted, hsame]
        rfl
      · rintro ⟨release, hreleased, hthread, hagain⟩
        have hmem : release.event ∈ first ++ k.asked (.ok (.reserved other)) :: KeyedCall.startEvent :: rest := by
          rw [← hevs, ← hthread]
          exact mem_eventsOf hreleased
        unfold CallHappening.released at hagain
        generalize release.event = ev at hagain hmem
        obtain hmem | rfl | rfl | hmem := by simpa using hmem
        · rw [(CallEvent.quiet_none (hfirst ev hmem)).2.2.1] at hagain
          cases hagain
        · cases hagain
        · cases hagain
        · rw [(CallEvent.quiet_none (hrest ev hmem)).2.2.1] at hagain
          cases hagain

/-- **The invariant holds after every run** from a first start. -/
theorem run_guarded (serde : EventRoundTrip) (tb : CallTables) (log : LedgerLog)
    (choices : List KeyedChoice) (hplain : PlainIn (keyedMachine.run (.first tb log) choices).trace)
    (hsteady : SteadyIn (keyedMachine.run (.first tb log) choices).trace) :
    Guarded (keyedMachine.run (.first tb log) choices).store (keyedMachine.run (.first tb log) choices).trace := by
  induction choices using List.reverseRecOn with
  | nil =>
    refine ⟨?_, fun _ => rfl, ?_, ?_, ?_, ?_⟩
    · exact fun key record hrec => by cases hrec
    · exact fun entry hentry => absurd hentry List.not_mem_nil
    · exact fun happening hmem => absurd hmem List.not_mem_nil
    · exact fun happening hmem => absurd hmem List.not_mem_nil
    · exact fun before happening after hsplit => absurd hsplit.symm (by simp [Machine.run, Machine.start])
  | append_singleton choices choice ih =>
    have hread := run_read (.first tb log) (choices ++ [choice])
    have hown : ∀ {before happening after},
        (keyedMachine.run (.first tb log) (choices ++ [choice])).trace = before ++ happening :: after →
          Guarded.OwnRelease before happening := run_ownRelease
    rw [Machine.run_snoc] at hplain hsteady hread hown ⊢
    generalize hpool : keyedMachine.run (.first tb log) choices = pool at ih hplain hsteady hread hown ⊢
    have hshorter : PlainIn pool.trace ∧ SteadyIn pool.trace := by
      obtain hsame | ⟨happening, hlonger⟩ := keyedMachine.step_trace pool choice
      · rw [hsame] at hplain hsteady
        exact ⟨hplain, hsteady⟩
      · rw [hlonger] at hplain hsteady
        refine ⟨fun other hother => hplain other (List.mem_append_left _ hother), ?_⟩
        unfold SteadyIn at hsteady
        rw [List.filterMap_append, List.pairwise_append] at hsteady
        exact hsteady.1
    have hguarded := ih hshorter.1 hshorter.2
    cases choice with
    | spawn owner => exact hguarded
    | drop idx => exact hguarded
    | crash crash => exact hguarded.reopen crash
    | upset upset =>
      cases upset with
      | restore tb => exact hguarded.undisturbed (.of_writer rfl rfl rfl)
      | settle w => exact hguarded.undisturbed Resident.settle_undisturbed
    | turn idx w =>
      obtain hsame | ⟨owner, op, next, -, hturn⟩ := Machine.turn_cases keyedMachine pool idx w
      · rw [Machine.step, hsame]
        exact hguarded
      · rw [Machine.step, hturn] at hplain hsteady hread hown ⊢
        cases op with
        | dispatch operation =>
          exact hguarded.dispatch (Resident.dispatch_turn serde hguarded.wellKeyed operation) Resident.dispatch_calm rfl
            hread hsteady (hown rfl)
        | run op =>
          refine (hguarded.undisturbed (Resident.runOp_undisturbed op fun obss hop => ?_)).quiet rfl
          refine hplain _ (List.mem_append_right _ (List.mem_singleton_self _)) obss ?_
          exact congrArg CallOp.run hop
        | reserve | bindExecution | release | complete =>
          exact (hguarded.undisturbed (Resident.statement_undisturbed _)).quiet rfl
        | isFenced | start => exact hguarded.quiet rfl

/-- The clock has passed a request's own reading when the request is at work. -/
def ClockedIn (pool : KeyedPool) : Prop :=
  ∀ happening ∈ pool.trace, ∀ thread, pool.threads[happening.thread]? = some thread →
    thread.owner.now ≤ happening.world.clock

/-- The thread's execution has ended in a transient refusal, and then it has asked for the release of the reservation. -/
def RefusedBy (pool : KeyedPool) (trace : List CallHappening) (index : Nat) (reservation : CallDispatchReservationV1) :
    Prop :=
  ∃ thread front, ∃ release : CallHappening, ∃ rest earlier path later result, pool.threads[index]? = some thread ∧
    trace = front ++ release :: rest ∧ release.thread = index ∧ release.released = some reservation ∧
    eventsOf front index = earlier ++ KeyedCall.startEvent :: (path ++ later) ∧
    thread.owner.execute.lift.Path path (.done result) ∧ isTransientRefusalBeforeEffect result = true

theorem FreedBy.refused {idx : Nat} (htrace : (keyedMachine.run store choices).trace = before ++ after)
    (h : FreedBy before idx reservation) : RefusedBy (keyedMachine.run store choices) before idx reservation := by
  obtain ⟨release, hmem, rfl, hrel⟩ := h
  obtain ⟨front, rest, rfl⟩ := List.append_of_mem hmem
  have htrace' : (keyedMachine.run store choices).trace = front ++ release :: (rest ++ after) := by simpa using htrace
  obtain ⟨th, hthread, hquiet | ⟨-, -, hevent⟩ | ⟨k, hkeyed, hloud⟩⟩ := run_loud htrace'
  · rw [(CallHappening.quiet_none hquiet).2.2.1] at hrel
    cases hrel
  · rw [CallHappening.released, hevent] at hrel
    cases hrel
  · have hkept := hrel
    unfold CallHappening.released at hrel
    generalize release.event = ev at hrel hloud
    generalize hevs : eventsOf front release.thread = evs at hloud
    cases hloud with
    | asks reply hquiet => cases hrel
    | starts other hquiet => cases hrel
    | @releases first tail path res other reply hfirst hrest hpath hpref htransient =>
      obtain ⟨later, rfl⟩ := hpref
      refine ⟨th, front, release, rest, first ++ [k.asked (.ok (.reserved other))], path, later, res, hthread, rfl,
        rfl, hkept, ?_, hpath, htransient⟩
      rw [hevs]
      simp

variable {keyed : KeyedCall}

theorem quiet_snoc_asked {reply : Except String DispatchResponse}
    {evs : List CallEvent} {ev : CallEvent} (hquiet : Quiet evs) (h : ev ∈ evs ++ [keyed.asked reply]) :
    ev.isStart = false ∧ ev.released = none := by
  obtain hmem | hlast := List.mem_append.mp h
  · obtain ⟨-, -, hrel, hstart⟩ := CallEvent.quiet_none (hquiet ev hmem)
    exact ⟨hstart, hrel⟩
  · rw [List.mem_singleton.mp hlast]
    exact ⟨rfl, rfl⟩

/-- **A start of a keyed request** follows its own grant; its thread has not started or released before. -/
theorem start_granted {start : CallHappening} {thread : Thread KeyedRequest CallOp CallOp.Reply MctIrohCallHandlerResult}
    (htrace : (keyedMachine.run store choices).trace = before ++ start :: after)
    (hstart : start.isStart = true) (hthread : (keyedMachine.run store choices).threads[start.thread]? = some thread)
    (hkeyed : thread.owner.keyed = some keyed) :
    (∃ own ∈ before, ∃ reservation, own.thread = start.thread ∧ own.claimed = some keyed.claim ∧
      own.granted = some reservation) ∧
    ∀ other ∈ before, other.thread = start.thread → other.isStart = false ∧ other.released = none := by
  obtain ⟨thread', hthread', hquiet | ⟨hkey, -, -⟩ | ⟨keyed', hkeyed', hloud⟩⟩ := run_loud htrace
  · rw [(CallHappening.quiet_none hquiet).2.2.2] at hstart
    cases hstart
  · obtain rfl : thread = thread' := Option.some.inj (hthread.symm.trans hthread')
    simp [KeyedRequest.keyed, hkey] at hkeyed
  obtain rfl : thread = thread' := Option.some.inj (hthread.symm.trans hthread')
  obtain rfl : keyed = keyed' := Option.some.inj (hkeyed.symm.trans hkeyed')
  unfold CallHappening.isStart at hstart
  generalize start.event = ev at hstart hloud
  generalize hevs : eventsOf before start.thread = evs at hloud
  cases hloud with
  | asks reply hquiet => cases hstart
  | releases reservation reply => cases hstart
  | @starts front reservation hquiet =>
    refine ⟨?_, fun other hother hsame => ?_⟩
    · obtain ⟨own, hown, hsame, hasked⟩ := of_mem_eventsOf
        (show keyed.asked (.ok (.reserved reservation)) ∈ eventsOf before start.thread by rw [hevs]; simp)
      refine ⟨own, hown, reservation, hsame, ?_, ?_⟩
      · rw [CallHappening.claimed, hasked]
        rfl
      · rw [CallHappening.granted, hasked]
        rfl
    · have hmem := mem_eventsOf hother
      rw [hsame, hevs] at hmem
      exact quiet_snoc_asked hquiet hmem

/-- **Keyed calls run at most once while a reservation lasts.**  In every run of requests on a resident, with crashes,
restarts, failed appends and other tables, a keyed request starts its execution after its own reservation was granted,
and once.  After the grant of a reservation and before its expiry, another request with the key starts only if its own
reservation was granted after the first request's execution ended in a transient refusal and asked for its release, or
if it is late: its own reservation was granted before, and had expired when the later one was accepted. -/
theorem keyed_starts_in_window (serde : EventRoundTrip) (tables : CallTables) (log : LedgerLog)
    (choices : List KeyedChoice) (hplain : PlainIn (keyedMachine.run (.first tables log) choices).trace)
    (hsteady : SteadyIn (keyedMachine.run (.first tables log) choices).trace)
    (hclock : ClockedIn (keyedMachine.run (.first tables log) choices))
    {before after : List CallHappening} {start : CallHappening}
    {thread : Thread KeyedRequest CallOp CallOp.Reply MctIrohCallHandlerResult} {keyed : KeyedCall}
    (htrace : (keyedMachine.run (.first tables log) choices).trace = before ++ start :: after)
    (hstart : start.isStart = true)
    (hthread : (keyedMachine.run (.first tables log) choices).threads[start.thread]? = some thread)
    (hkeyed : thread.owner.keyed = some keyed) :
    (∀ other ∈ before, other.thread = start.thread → other.isStart = false) ∧
    ∃ front own back reservation, before = front ++ own :: back ∧ own.thread = start.thread ∧
      own.granted = some reservation ∧ reservation.claim = keyed.claim ∧
      ∀ grant ∈ before, ∀ other, grant.granted = some other → grant.thread ≠ start.thread →
        other.claim.keyDigest = keyed.claim.keyDigest →
        ∀ expires, KernelHost.parseTimestamp other.claim.expiresAt.value = .ok expires →
          start.world.clock.epochNanoseconds < expires →
            (grant ∈ front ∧ RefusedBy (keyedMachine.run (.first tables log) choices) front grant.thread other) ∨
            (grant ∈ back ∧ keyed.claim.EndsBy other.claim) := by
  have hguarded := run_guarded serde tables log choices hplain hsteady
  obtain ⟨⟨own, hown, reservation, hsame, hclaims, hgranted⟩, honce⟩ := start_granted htrace hstart hthread hkeyed
  have hownT : own ∈ (keyedMachine.run (.first tables log) choices).trace := by
    rw [htrace]
    exact List.mem_append_left _ hown
  have hclaim : reservation.claim = keyed.claim := by
    have hrecorded := (hguarded.own own hownT reservation hgranted).1
    rw [hclaims] at hrecorded
    exact (Option.some.inj hrecorded).symm
  obtain ⟨front, back, rfl⟩ := List.append_of_mem hown
  refine ⟨fun other hother hother' => (honce other hother hother').1, front, own, back, reservation, rfl, hsame, hgranted,
    hclaim, fun grant hgrant other hother hapart hkey expires hexpires hlive => ?_⟩
  rw [← hclaim] at hkey
  obtain hfront | hgrant := List.mem_append.mp hgrant
  · -- the other reservation was granted first
    have hsplit : (keyedMachine.run (.first tables log) choices).trace = front ++ own :: (back ++ start :: after) := by
      rw [htrace]
      simp
    obtain ⟨expires', accepted, hexpires', hacc, hle⟩ | hfreed :=
      hguarded.apart front own _ hsplit reservation hgranted grant hfront other hother hkey
    · have hread : KernelHost.parseTimestamp reservation.claim.acceptedAt.value =
          .ok thread.owner.now.epochNanoseconds := by
        have hnow : keyed.claim.acceptedAt = thread.owner.now := (thread.owner.keyed_now hkeyed).1
        rw [hclaim, hnow]
        exact thread.owner.read
      have hpassed : thread.owner.now ≤ start.world.clock := hclock start (by rw [htrace]; simp) thread hthread
      rw [Timestamp.le_def] at hpassed
      rw [hexpires] at hexpires'
      rw [hread] at hacc
      have hsame := Except.ok.inj hexpires'
      have hnow := Except.ok.inj hacc
      omega
    · exact Or.inl ⟨hfront, hfreed.refused hsplit⟩
  · obtain rfl | hback := List.mem_cons.mp hgrant
    · exact absurd hsame hapart
    -- this one was, and its thread has not released it
    obtain ⟨middle, rest, rfl⟩ := List.append_of_mem hback
    have hsplit : (keyedMachine.run (.first tables log) choices).trace =
        (front ++ own :: middle) ++ grant :: (rest ++ start :: after) := by
      rw [htrace]
      simp
    obtain hends | ⟨release, hreleased, hsame', hrel⟩ :=
      hguarded.apart _ grant _ hsplit other hother own (by simp) reservation hgranted hkey.symm
    · rw [hclaim] at hends
      exact Or.inr ⟨hback, hends⟩
    · have hnone := (honce release (by simp at hreleased ⊢; tauto) (hsame'.trans hsame)).2
      rw [hrel] at hnone
      cases hnone

end Runs

/-! ## Starts in the window of another -/

/-- **A release that the log does not take**: the writer is fenced, and its fact may be there after the next start. -/
theorem Resident.Ready.release_torn (serde : EventRoundTrip) {room : Nat} (h : rs.Ready (room + 1))
    {w : World} (hio : ¬ rs.writer.log.Keeps w.io) {template : MctObservation}
    (hdue : rs.writer.index.Due rs.writer.log.nextSequence (.release reservation template))
    (hdigest : isDigestText reservation.claim.keyDigest = true)
    (hsize : DispatchEvent.Small (.released reservation.claim.keyDigest reservation.attemptSequence)) :
    ∃ error log entry, rs.dispatch w (.release reservation template) =
        ({ rs with writer := { rs.writer with log := log }, fenced := true, attempted := [entry] }, .error error) ∧
      decodeEvent entry = .ok (some (.released reservation.claim.keyDigest reservation.attemptSequence)) := by
  have hseq : rs.writer.nextSequence = .ok rs.writer.log.nextSequence := h.log.nextSequence (Nat.succ_pos room)
  have htimed : rs.writer.index.Due rs.writer.log.nextSequence (.release reservation (template.timed w.clock)) := hdue
  have houtcome := rs.writer.process_outcome (.release reservation (template.timed w.clock)) w.clock.value w.io
  rw [h.dispatch_eq, timedDispatch]
  generalize rs.writer.process (.release reservation (template.timed w.clock)) w.clock.value w.io = after at houtcome
  cases houtcome with
  | quiet _ hnone => exact absurd htimed (hnone _ hseq)
  | refused _ _ _ hkeeps | recorded _ _ _ hkeeps => exact absurd hkeeps hio
  | @torn sequence observation response error log hseq' hplan =>
    obtain rfl := Except.ok.inj (hseq.symm.trans hseq')
    obtain ⟨-, hfits, -⟩ := decodeEvent_planned serde hseq hplan hdigest rfl
    refine ⟨error, log, rs.writer.log.nextEntry observation w.clock.value .beforeEffect .notRequired, ?_,
      hfits (dispatchFits_of_size (planDispatch_detail hplan) hsize)⟩
    have hplanned : rs.plannedObservations (.release reservation (template.timed w.clock)) = [observation] := by
      unfold Resident.plannedObservations
      rw [hseq]
      simp only [hplan]
    simp only [Resident.answeredBy, hplanned, if_true, (planDispatch_release _ _ _ _).1, Resident.sealed, prepareBatch,
      dispatchFact_ordinary (planDispatch_detail hplan), Checked.ok_bind, pure, Except.pure]
    rfl

namespace KeyedCall

/-- A request from its reservation to its start. -/
def startedEvents (keyed : KeyedCall) (reservation : CallDispatchReservationV1) : List CallEvent :=
  [keyed.reserving .executeFresh, keyed.asked (.ok (.reserved reservation)), startEvent]

/-- A request whose execution is refused for the time being, and whose release is answered by an error. -/
def lostEvents (keyed : KeyedCall) (reservation : CallDispatchReservationV1) (error : String) : List CallEvent :=
  keyed.startedEvents reservation ++ [⟨.isFenced, false⟩, ⟨.run (.append [keyed.transientReleaseObservation]), .ok ()⟩,
    keyed.releaseAsked reservation (.error error)]

end KeyedCall

section Starts

variable {owner owner' : KeyedRequest} {k k' : KeyedCall} {room : Nat} {ws ws' : Nat → World} {tb tb' : CallTables}
  {log : LedgerLog} {result : MctIrohCallHandlerResult}
  (serde : EventRoundTrip) (h : owner.Proper k) (hexecution : k.executionCallId = none)

theorem run_leads {rest : CallProg} {final : Resident} {events : List CallEvent}
    (h : owner.program.Leads ws rs events rest final) :
    keyedMachine.run rs (.spawn owner :: turns _ _ _ 0 events.length ws) =
      ⟨final, [⟨owner, some rest⟩], happenings 0 events ws⟩ :=
  keyedMachine.spawn_leads h [] []

include serde h hexecution

/-- **A request starts** if the fence has no live reservation of its key. -/
theorem leads_started (hready : rs.Ready (room + 1)) (hworlds : ∀ n, (ws n).Steady)
    (hreserve : k.Reserves rs.tables .executeFresh tb)
    (hdead : ∀ record, rs.writer.index.reservations[k.claim.keyDigest]? = some record →
      CallDispatchIndexV1.live owner.now.epochNanoseconds record = false)
    {sequence : Nat} (hnext : rs.writer.log.nextSequence = sequence)
    (hsize : DispatchEvent.Small (.reserved ⟨k.claim, sequence⟩)) :
    ∃ rest final, owner.program.Leads ws rs (k.startedEvents ⟨k.claim, sequence⟩) rest final := by
  subst hnext
  have hfresh : (rs.writer.index.retainAfter owner.now.epochNanoseconds).reservations[k.claim.keyDigest]? = none := by
    rw [Option.eq_none_iff_forall_ne_some]
    intro record hrecord
    obtain ⟨hrecord, hlive⟩ := CallDispatchIndexV1.retainAfter_some.mp hrecord
    rw [hdead record hrecord] at hlive
    cases hlive
  obtain ⟨entry, log, -, -, -, hgranted⟩ :=
    h.leads_granted serde hexecution hready (hworlds 0) (hworlds 1) hreserve hfresh hsize
  exact ⟨_, _, hgranted.trans (.cons rfl (.nil _ _ _))⟩

/-- **A release whose acknowledgement is lost**: the ledger has it when the Mother starts again. -/
theorem leads_lost (hexecute : owner.execute = .done result) (htransient : isTransientRefusalBeforeEffect result = true)
    (hlog : log.Ready (room + 3)) (hworlds : ∀ n < 5, (ws n).Steady) (hsync : (ws 5).io.sync 0 ≠ .synced)
    (hreserve : k.Reserves tb .executeFresh tb')
    (hsize : k.Recordable (.first tb log)) (hsmall : DispatchEvent.Small (.released k.claim.keyDigest log.nextSequence)) :
    ∃ lost rest error found, found.Ready room ∧ found.nextSequence = log.nextSequence + 3 ∧
      owner.program.Leads ws (.first tb log) (k.lostEvents ⟨k.claim, log.nextSequence⟩ error) rest lost ∧
      ∃ index entries, lost.reopen ⟨1, [], found⟩ = ⟨tb', ⟨found, index, entries⟩, false, []⟩ ∧
        index.reservations[k.claim.keyDigest]? = none := by
  have hready : (Resident.first tb log).Ready (room + 2 + 1) := ⟨rfl, hlog⟩
  obtain ⟨entry, log₁, hevent, hlog₁, hnext₁, hgranted⟩ := h.leads_granted serde hexecution hready (hworlds 0 (by decide))
    (hworlds 1 (by decide)) hreserve (CallDispatchIndexV1.empty_fresh _ _) hsize
  let rv : CallDispatchReservationV1 := ⟨k.claim, log.nextSequence⟩
  let granted : Resident := k.granted ⟨tb', ⟨log, .empty, []⟩, false, []⟩ owner.now.epochNanoseconds log₁ entry
  have hready₁ : granted.Ready (room + 1 + 1) := ⟨rfl, hlog₁⟩
  obtain ⟨added, log₂, next, hadded, hlog₂, hnext₂, hrelease⟩ := @KeyedCall.executed_leads_release _ granted
    (fun n => ws (n + 3)) (room + 1) k result rv hready₁ (hworlds 4 (by decide)) htransient
  let noted : Resident := { granted with writer := ⟨log₂, granted.writer.index, granted.writer.entries ++ added⟩ }
  have hready₂ : noted.Ready (room + 1) := ⟨rfl, hlog₂⟩
  have hdigest : isDigestText rv.claim.keyDigest = true := (CallDispatchClaimV1.validate_ok.mp h.claim).1
  have hbefore : rv.attemptSequence < noted.writer.log.nextSequence := by
    show log.nextSequence < log₂.nextSequence
    have hfirst : log₁.nextSequence = log.nextSequence + 1 := hnext₁
    have hsecond : log₂.nextSequence = log₁.nextSequence + 1 := hnext₂
    omega
  have hdue : noted.writer.index.Due noted.writer.log.nextSequence (k.releaseOperation rv) :=
    ⟨rfl, CallDispatchIndexV1.contains_insert _ rv, hlog.started, hbefore⟩
  obtain ⟨-, found, -, -, hfound, hnext₃⟩ := hready₂.release serde (hworlds 0 (by decide)) hdue hdigest hsmall
  obtain ⟨error, log₃, released, hlost, hreleased⟩ :=
    hready₂.release_torn serde (fun hkeeps => hsync hkeeps.2.2) hdue hdigest hsmall
  obtain ⟨note, rfl, hnote⟩ := List.map_eq_singleton_iff.mp hadded
  let lost : Resident := { noted with writer := { noted.writer with log := log₃ }, fenced := true, attempted := [released] }
  have hperform : (CallOp.dispatch (k.releaseOperation rv)).perform (ws 5) noted = (lost, Except.error error) := hlost
  have hnext : found.nextSequence = log.nextSequence + 3 := by
    have hfirst : log₁.nextSequence = log.nextSequence + 1 := hnext₁
    have hsecond : log₂.nextSequence = log₁.nextSequence + 1 := hnext₂
    have hthird : found.nextSequence = log₂.nextSequence + 1 := hnext₃
    omega
  rw [hexecute] at hgranted
  refine ⟨lost, _, error, found, hfound, hnext,
    (hgranted.trans (.cons rfl hrelease)).trans (.cons hperform (.nil _ _ _)), ?_⟩
  -- the restart reads the reservation, the note and the release
  have hempty : rebuildIndex [] = .ok .empty := rfl
  have hnone : CallDispatchIndexV1.empty.reservations[k.claim.keyDigest]? = none := by
    rw [CallDispatchIndexV1.empty]
    simp
  have hreserved := rebuildIndex_snoc hempty hevent (CallDispatchIndexV1.apply_fresh hnone)
  let freed : CallDispatchIndexV1 :=
    ⟨(CallDispatchIndexV1.empty.reservations.insert rv.claim.keyDigest rv).erase rv.claim.keyDigest⟩
  have hrebuilt : rebuildIndex (lost.found ⟨1, [], found⟩) = .ok freed :=
    rebuildIndex_snoc (rebuildIndex_quiet hreserved (decodeEvent_none (hnote ▸ rfl))) hreleased
      (CallDispatchIndexV1.apply_released (CallDispatchIndexV1.contains_insert _ rv))
  refine ⟨freed, lost.found ⟨1, [], found⟩, ?_, Std.ExtTreeMap.getElem?_erase_self⟩
  rw [Resident.reopen, hrebuilt]
  rfl

/-- The first request's release is lost with the Mother; the tables are restored, and the second request comes. -/
def lostChoices (tb : CallTables) (owner owner' : KeyedRequest) (ws ws' : Nat → World) (found : LedgerLog) :
    List KeyedChoice :=
  .spawn owner :: turns _ _ _ 0 6 ws ++
    (.crash ⟨1, [], found⟩ :: .upset (.restore tb) :: .spawn owner' :: turns _ _ _ 1 3 ws')

/-- **The second request starts after a release that was not acknowledged.** -/
theorem run_lost (h' : owner'.Proper k') (hexecution' : k'.executionCallId = none)
    (hexecute : owner.execute = .done result) (htransient : isTransientRefusalBeforeEffect result = true)
    (hlog : log.Ready (room + 4)) (hworlds : ∀ n < 5, (ws n).Steady) (hsync : (ws 5).io.sync 0 ≠ .synced)
    (hworlds' : ∀ n, (ws' n).Steady) (hreserve : k.Reserves tb .executeFresh tb') {tb'' : CallTables}
    (hreserve' : k'.Reserves tb .executeFresh tb'')
    (hdigest : k'.claim.keyDigest = k.claim.keyDigest) (hsize : k.Recordable (.first tb log))
    (hsmall : DispatchEvent.Small (.released k.claim.keyDigest log.nextSequence))
    (hsize' : DispatchEvent.Small (.reserved ⟨k'.claim, log.nextSequence + 3⟩)) :
    ∃ found error store rest, keyedMachine.run (.first tb log) (lostChoices tb owner owner' ws ws' found) =
      ⟨store, [⟨owner, none⟩, ⟨owner', some rest⟩],
        happenings 0 (k.lostEvents ⟨k.claim, log.nextSequence⟩ error) ws ++
          happenings 1 (k'.startedEvents ⟨k'.claim, log.nextSequence + 3⟩) ws'⟩ := by
  have hlonger : log.Ready (room + 1 + 3) := hlog
  obtain ⟨lost, rest, error, found, hfound, hnext, hlost, index, entries, hreopen, hnone⟩ :=
    leads_lost serde h hexecution hexecute htransient hlonger hworlds hsync hreserve hsize hsmall
  let restored : Resident := ⟨tb, ⟨found, index, entries⟩, false, []⟩
  have hready : restored.Ready (room + 1) := ⟨rfl, hfound⟩
  obtain ⟨rest', started, hstarted⟩ := leads_started serde h' hexecution' hready hworlds' hreserve' (fun record hrecord => by
    rw [hdigest] at hrecord
    cases hnone.symm.trans hrecord) hnext hsize'
  let trace := happenings 0 (k.lostEvents ⟨k.claim, log.nextSequence⟩ error) ws
  let crashed : KeyedPool := ⟨restored, [⟨owner, none⟩], trace⟩
  have hfirst : (.spawn owner :: turns _ _ _ 0 6 ws).foldl keyedMachine.step (Machine.start (.first tb log)) =
      ⟨lost, [⟨owner, some rest⟩], trace⟩ := run_leads hlost
  have hcrash : keyedMachine.step (keyedMachine.step ⟨lost, [⟨owner, some rest⟩], trace⟩ (.crash ⟨1, [], found⟩))
      (.upset (.restore tb)) = crashed := by
    show (⟨(lost.reopen ⟨1, [], found⟩).upset (.restore tb), _, _⟩ : KeyedPool) = _
    rw [hreopen]
    rfl
  have hsecond : (.spawn owner' :: turns _ _ _ 1 3 ws').foldl keyedMachine.step crashed = _ :=
    keyedMachine.spawn_leads hstarted [⟨owner, none⟩] trace
  refine ⟨found, error, started, rest', ?_⟩
  rw [Machine.run, lostChoices, List.foldl_append, hfirst, List.foldl_cons, List.foldl_cons, hcrash, hsecond]
  rfl

/-- The first request stands still between its grant and its start; the second comes after the expiry. -/
def lateChoices (owner owner' : KeyedRequest) (ws ws' : Nat → World) : List KeyedChoice :=
  .spawn owner :: turns _ _ _ 0 2 ws ++ (.spawn owner' :: turns _ _ _ 1 3 ws' ++ [.turn 0 (ws' 3)])

/-- **The first request starts in the window of the second**, without a release. -/
theorem run_late (h' : owner'.Proper k') (hexecution' : k'.executionCallId = none) (hlog : log.Ready (room + 2))
    (hworlds : ∀ n, (ws n).Steady) (hworlds' : ∀ n, (ws' n).Steady) (hreserve : k.Reserves tb .executeFresh tb')
    {tb'' : CallTables} (hreserve' : k'.Reserves tb' .executeFresh tb'')
    (hdigest : k'.claim.keyDigest = k.claim.keyDigest) {expires : Int}
    (hexpires : KernelHost.parseTimestamp k.claim.expiresAt.value = .ok expires)
    (hdead : expires ≤ owner'.now.epochNanoseconds) (hsize : k.Recordable (.first tb log))
    (hsize' : DispatchEvent.Small (.reserved ⟨k'.claim, log.nextSequence + 1⟩)) :
    ∃ store rest rest', keyedMachine.run (.first tb log) (lateChoices owner owner' ws ws') =
      ⟨store, [⟨owner, some rest⟩, ⟨owner', some rest'⟩],
        happenings 0 [k.reserving .executeFresh, k.asked (.ok (.reserved ⟨k.claim, log.nextSequence⟩))] ws ++
          happenings 1 (k'.startedEvents ⟨k'.claim, log.nextSequence + 1⟩) ws' ++ [⟨0, ws' 3, .start, ()⟩]⟩ := by
  have hready : (Resident.first tb log).Ready (room + 1 + 1) := ⟨rfl, hlog⟩
  obtain ⟨entry, log₁, -, hlog₁, hnext, hgranted⟩ := h.leads_granted serde hexecution hready (hworlds 0) (hworlds 1)
    hreserve (CallDispatchIndexV1.empty_fresh _ _) hsize
  let granted : Resident := k.granted ⟨tb', ⟨log, .empty, []⟩, false, []⟩ owner.now.epochNanoseconds log₁ entry
  have hready₁ : granted.Ready (room + 1) := ⟨rfl, hlog₁⟩
  have hself : granted.writer.index.reservations[k.claim.keyDigest]? = some ⟨k.claim, log.nextSequence⟩ :=
    Std.ExtTreeMap.getElem?_insert_self
  obtain ⟨rest', started, hstarted⟩ := leads_started serde h' hexecution' hready₁ hworlds' hreserve' (fun record hrecord => by
    rw [hdigest] at hrecord
    obtain rfl := Option.some.inj (hself.symm.trans hrecord)
    simp only [CallDispatchIndexV1.live, hexpires, decide_eq_false_iff_not]
    omega) hnext hsize'
  let waiting : Thread KeyedRequest CallOp CallOp.Reply MctIrohCallHandlerResult :=
    ⟨owner, some (.act .start fun _ => k.executed owner.execute ⟨k.claim, log.nextSequence⟩)⟩
  let trace := happenings 0 [k.reserving .executeFresh, k.asked (.ok (.reserved ⟨k.claim, log.nextSequence⟩))] ws
  have hfirst : (.spawn owner :: turns _ _ _ 0 2 ws).foldl keyedMachine.step (Machine.start (.first tb log)) =
      ⟨granted, [waiting], trace⟩ := run_leads hgranted
  have hsecond : (.spawn owner' :: turns _ _ _ 1 3 ws').foldl keyedMachine.step ⟨granted, [waiting], trace⟩ = _ :=
    keyedMachine.spawn_leads hstarted [waiting] trace
  refine ⟨started, k.executed owner.execute ⟨k.claim, log.nextSequence⟩, rest', ?_⟩
  rw [Machine.run, lateChoices, List.foldl_append, hfirst, List.foldl_append, hsecond]
  rfl

end Starts

end Mct

namespace Mct.ResidentSample

open Resumption
open IngressSample (plain)
open Recovery.Sample (second)

/-- **Two requests start after the grant of a reservation and before its expiry**, and no release is acknowledged. -/
def StartedTwice (pool : KeyedPool) (reservation : CallDispatchReservationV1) : Prop :=
  (∀ operation, (⟨.dispatch operation, .ok .released⟩ : CallEvent) ∉ pool.trace.map Happening.event) ∧
  ∃ before grant after, pool.trace = before ++ grant :: after ∧ CallHappening.granted grant = some reservation ∧
    ∀ index < 2, ∃ start ∈ after, start.thread = index ∧ CallHappening.isStart start = true ∧
      start.world.clock < reservation.claim.expiresAt

def served : RunProg MctIrohCallHandlerResult := .done (.failed "served")

noncomputable def refused : KeyedRequest :=
  requestAt plain 0 (by decide) (.done .receiverAuthorityUnavailableBeforeEffect)

noncomputable def following : KeyedRequest := requestAt other 60 (by decide) served

noncomputable def call : KeyedRequest := requestAt plain 0 (by decide) served

noncomputable def later : KeyedRequest := requestAt plain 720 (by decide) served

theorem refused_proper : refused.Proper (keyedAt plain 0) := proper_at plain_ingress rfl (by decide) (by decide) (by decide) _
theorem following_proper : following.Proper (keyedAt other 60) :=
  proper_at other_ingress rfl (by decide) (by decide) (by decide) _
theorem call_proper : call.Proper (keyedAt plain 0) := proper_at plain_ingress rfl (by decide) (by decide) (by decide) _
theorem later_proper : later.Proper (keyedAt plain 720) := proper_at plain_ingress rfl (by decide) (by decide) (by decide) _

/-- The sync of the sixth operation fails. -/
def syncFails (n : Nat) : World :=
  if n < 5 then calm 0 else { calm 0 with io := ⟨fun _ => .written, fun _ => .failed 0 "input/output error"⟩ }

theorem syncFails_steady (n : Nat) (hn : n < 5) : (syncFails n).Steady := by
  rw [syncFails, if_pos hn]
  exact calm_steady 0

theorem syncFails_clock (n : Nat) : (syncFails n).clock = second 0 := by
  unfold syncFails
  split <;> rfl

noncomputable def lost (found : LedgerLog) : KeyedPool :=
  keyedMachine.run (.first noTables ledger) (lostChoices noTables refused following syncFails (fun _ => calm 60) found)

theorem lost_eq : ∃ found error store rest, lost found = ⟨store, [⟨refused, none⟩, ⟨following, some rest⟩],
    happenings 0 ((keyedAt plain 0).lostEvents ⟨(keyedAt plain 0).claim, 1⟩ error) syncFails ++
      happenings 1 ((keyedAt other 60).startedEvents ⟨(keyedAt other 60).claim, 4⟩) fun _ => calm 60⟩ := by
  obtain ⟨tables, hreserve, -⟩ := refused_proper.reserve_empty (rfl : noTables.unexpired _ = [])
  obtain ⟨tables', hreserve', -⟩ := following_proper.reserve_empty (rfl : noTables.unexpired _ = [])
  have hsync : (syncFails 5).io.sync 0 ≠ .synced := fun h => by cases h
  have hlog : ledger.Ready (0 + 4) := ledger_ready (by decide)
  exact run_lost events_lawful refused_proper rfl following_proper rfl rfl rfl hlog syncFails_steady hsync
    (fun _ => calm_steady 60) hreserve hreserve' ((keyDigest_at other 60).trans (keyDigest_at plain 0).symm)
    (reserved_fits plain (by decide) (by decide) (by decide)) (released_fits plain 0 (by decide))
    (reserved_fits other (by decide) (by decide) (by decide))

noncomputable def late : KeyedPool :=
  keyedMachine.run (.first noTables ledger) (lateChoices call later (fun _ => calm 0) fun _ => calm 720)

theorem late_eq : ∃ store rest rest', late = ⟨store, [⟨call, some rest⟩, ⟨later, some rest'⟩],
    happenings 0 [(keyedAt plain 0).reserving .executeFresh,
        (keyedAt plain 0).asked (.ok (.reserved ⟨(keyedAt plain 0).claim, 1⟩))] (fun _ => calm 0) ++
      happenings 1 ((keyedAt plain 720).startedEvents ⟨(keyedAt plain 720).claim, 2⟩) (fun _ => calm 720) ++
      [⟨0, calm 720, .start, ()⟩]⟩ := by
  obtain ⟨tables, hreserve, -, hentries⟩ := call_proper.reserve_empty (rfl : noTables.unexpired _ = [])
  have hnone : tables.unexpired (keyedAt plain 720).now = [] := by
    rw [CallTables.unexpired, hentries, List.filter_singleton]
    show (bif !decide ((second 720).value ≤ (second 720).value) then _ else []) = []
    simp
  obtain ⟨tables', hreserve', -⟩ := later_proper.reserve_empty hnone
  have hlog : ledger.Ready (0 + 2) := ledger_ready (by decide)
  exact run_late events_lawful call_proper rfl later_proper rfl hlog (fun _ => calm_steady 0)
    (fun _ => calm_steady 720) hreserve hreserve' ((keyDigest_at plain 720).trans (keyDigest_at plain 0).symm)
    (parse_second (by decide)) (le_refl _) (reserved_fits plain (by decide) (by decide) (by decide))
    (reserved_fits plain (by decide) (by decide) (by decide))

theorem fingerprint_other : (keyedAt other 60).fingerprint ≠ (keyedAt plain 0).fingerprint := by
  intro hsame
  have htarget : operationIdFromTarget other.call.target = operationIdFromTarget plain.call.target :=
    congrArg MctIdempotencyFingerprint.target hsame
  revert htarget
  decide +kernel

theorem started_unreleased {keyed : KeyedCall} {reservation : CallDispatchReservationV1} {operation : DispatchOperation} :
    (⟨.dispatch operation, .ok .released⟩ : CallEvent) ∉ keyed.startedEvents reservation := by
  simp only [KeyedCall.startedEvents, List.mem_cons, List.not_mem_nil, or_false]
  rintro (h | h | h) <;> cases h

theorem lost_starts_twice {found : LedgerLog} {error : String} (htrace : (lost found).trace =
    happenings 0 ((keyedAt plain 0).lostEvents ⟨(keyedAt plain 0).claim, 1⟩ error) syncFails ++
      happenings 1 ((keyedAt other 60).startedEvents ⟨(keyedAt other 60).claim, 4⟩) fun _ => calm 60) :
    StartedTwice (lost found) ⟨(keyedAt plain 0).claim, 1⟩ ∧ SteadyIn (lost found).trace := by
  have hordered : second 0 ≤ second 60 := by decide
  refine ⟨⟨fun operation hmem => ?_, [_], _, _, htrace, rfl, fun index hindex => ?_⟩, ?_⟩
  · obtain ⟨hp, hmem, hevent⟩ := List.mem_map.mp hmem
    rw [htrace, List.mem_append] at hmem
    obtain hmem | hmem := hmem
    · have hmem := (mem_happenings hmem).2.2
      rw [hevent, KeyedCall.lostEvents, List.mem_append] at hmem
      obtain hmem | hmem := hmem
      · exact started_unreleased hmem
      · simp only [List.mem_cons, List.not_mem_nil, or_false] at hmem
        rcases hmem with h | h | h <;> cases h
    · exact started_unreleased (hevent ▸ (mem_happenings hmem).2.2)
  · obtain rfl | rfl : index = 0 ∨ index = 1 := by omega
    · exact ⟨⟨0, calm 0, .start, ()⟩, List.mem_cons_self, rfl, rfl, by show second 0 < second 720; decide⟩
    · refine ⟨⟨1, calm 60, .start, ()⟩, ?_, rfl, rfl, by show second 60 < second 720; decide⟩
      simp [happenings, KeyedCall.startedEvents, KeyedCall.startEvent]
  · rw [SteadyIn, htrace]
    exact List.pairwise_pair.mpr hordered

theorem late_starts_twice (htrace : late.trace =
    happenings 0 [(keyedAt plain 0).reserving .executeFresh,
        (keyedAt plain 0).asked (.ok (.reserved ⟨(keyedAt plain 0).claim, 1⟩))] (fun _ => calm 0) ++
      happenings 1 ((keyedAt plain 720).startedEvents ⟨(keyedAt plain 720).claim, 2⟩) (fun _ => calm 720) ++
      [⟨0, calm 720, .start, ()⟩]) :
    StartedTwice late ⟨(keyedAt plain 720).claim, 2⟩ ∧ SteadyIn late.trace := by
  have hordered : second 0 ≤ second 720 := by decide
  have hwithin : second 720 < second 1440 := by decide
  refine ⟨⟨fun operation hmem => ?_, [_, _, _], _, _, htrace, rfl, fun index hindex => ?_⟩, ?_⟩
  · rw [htrace] at hmem
    simp only [happenings, KeyedCall.startedEvents, List.cons_append, List.nil_append, List.map_cons, List.map_nil,
      List.mem_cons, List.not_mem_nil, or_false] at hmem
    rcases hmem with h | h | h | h | h | h <;> cases h
  · obtain rfl | rfl : index = 0 ∨ index = 1 := by omega
    · exact ⟨⟨0, calm 720, .start, ()⟩, List.mem_cons_of_mem _ List.mem_cons_self, rfl, rfl, hwithin⟩
    · exact ⟨⟨1, calm 720, .start, ()⟩, List.mem_cons_self, rfl, rfl, hwithin⟩
  · rw [SteadyIn, htrace]
    exact List.pairwise_pair.mpr hordered

/-- **Keyed calls that start twice in one window.**  A request for another operation starts after a release that the
ledger took and did not acknowledge; and a request that stood still since its own grant starts beside a later one, with no
release at all. -/
theorem keyed_starts_twice :
    (∃ found, StartedTwice (lost found) ⟨(keyedAt plain 0).claim, 1⟩ ∧ SteadyIn (lost found).trace ∧
      (lost found).threads.map (fun thread => thread.owner.keyed) = [some (keyedAt plain 0), some (keyedAt other 60)]) ∧
    (keyedAt other 60).callerScope = (keyedAt plain 0).callerScope ∧ (keyedAt other 60).key = (keyedAt plain 0).key ∧
    (keyedAt other 60).fingerprint ≠ (keyedAt plain 0).fingerprint ∧
    StartedTwice late ⟨(keyedAt plain 720).claim, 2⟩ ∧ SteadyIn late.trace ∧
    late.threads.map (fun thread => thread.owner.keyed) = [some (keyedAt plain 0), some (keyedAt plain 720)] := by
  obtain ⟨found, error, store, rest, hlost⟩ := lost_eq
  obtain ⟨store', first, second, hlate⟩ := late_eq
  obtain ⟨htwice, hsteady⟩ := lost_starts_twice (by rw [hlost])
  obtain ⟨htwice', hsteady'⟩ := late_starts_twice (by rw [hlate])
  refine ⟨⟨found, htwice, hsteady, ?_⟩, rfl, rfl, fingerprint_other, htwice', hsteady', ?_⟩
  · rw [hlost]
    simp only [List.map_cons, List.map_nil, refused_proper.call, following_proper.call]
  · rw [hlate]
    simp only [List.map_cons, List.map_nil, call_proper.call, later_proper.call]

theorem second_start_follows_refusal :
    ∃ found front, RefusedBy (lost found) front 0 ⟨(keyedAt plain 0).claim, 1⟩ := by
  obtain ⟨found, error, store, rest, hlost⟩ := lost_eq
  have htrace : (lost found).trace = _ := congrArg Pool.trace hlost
  have hthreads : (lost found).threads = _ := congrArg Pool.threads hlost
  have hclocked : ClockedIn (lost found) := by
    intro happening hmem thread hthread
    rw [htrace, List.mem_append] at hmem
    rw [hthreads] at hthread
    obtain hmem | hmem := hmem
    · obtain ⟨hindex, ⟨n, hworld⟩, -⟩ := mem_happenings hmem
      rw [hindex] at hthread
      cases hthread
      rw [hworld, syncFails_clock]
      exact Timestamp.le_def.mpr (le_refl _)
    · obtain ⟨hindex, ⟨n, hworld⟩, -⟩ := mem_happenings hmem
      rw [hindex] at hthread
      cases hthread
      rw [hworld]
      exact Timestamp.le_def.mpr (le_refl _)
  have hplain : PlainIn (lost found).trace := by
    intro happening hmem observations hop observation hobservation
    rw [htrace] at hmem
    simp only [happenings, KeyedCall.lostEvents, KeyedCall.startedEvents, List.cons_append, List.nil_append, List.mem_cons,
      List.not_mem_nil, or_false] at hmem
    rcases hmem with rfl | rfl | rfl | rfl | rfl | rfl | rfl | rfl | rfl
    case inr.inr.inr.inr.inl =>
      cases hop
      rw [List.mem_singleton.mp hobservation]
      rfl
    all_goals cases hop
  have hsplit : (lost found).trace =
      (happenings 0 ((keyedAt plain 0).lostEvents ⟨(keyedAt plain 0).claim, 1⟩ error) syncFails ++
        happenings 1 [(keyedAt other 60).reserving .executeFresh,
          (keyedAt other 60).asked (.ok (.reserved ⟨(keyedAt other 60).claim, 4⟩))] fun _ => calm 60) ++
        [⟨1, calm 60, .start, ()⟩] := by
    rw [htrace, List.append_assoc]
    rfl
  have hthread : (lost found).threads[1]? = some ⟨following, some rest⟩ := by
    rw [hthreads]
    rfl
  obtain ⟨-, front, own, back, reservation, -, -, -, -, hothers⟩ := keyed_starts_in_window events_lawful noTables ledger _
    hplain (lost_starts_twice htrace).2 hclocked hsplit rfl hthread following_proper.call
  have hdigest : (keyedAt plain 0).claim.keyDigest = (keyedAt other 60).claim.keyDigest :=
    (keyDigest_at plain 0).trans (keyDigest_at other 60).symm
  obtain ⟨-, hrefused⟩ | ⟨-, expires, accepted, hends, haccepted, hle⟩ :=
    hothers _ (List.mem_cons_of_mem _ List.mem_cons_self) _ rfl Nat.zero_ne_one hdigest _ (parse_second (by decide)) (by decide)
  · exact ⟨found, front, hrefused⟩
  · have hends' : KernelHost.parseTimestamp (keyedAt other 60).claim.expiresAt.value = .ok (second 780).epochNanoseconds :=
      parse_second (by decide)
    have haccepted' : KernelHost.parseTimestamp (keyedAt plain 0).claim.acceptedAt.value =
        .ok (second 0).epochNanoseconds := parse_second (by decide)
    cases hends'.symm.trans hends
    cases haccepted'.symm.trans haccepted
    exact absurd hle (by decide)

end Mct.ResidentSample
