import PatinaMct.AuthorityWriter
import PatinaMct.Table
/-!
# Projection — the authority state in the database

The runtime database has a copy of the authority state: three tables of JSON cells, the facts they come from, and a
cursor that says through which ledger head they were published.  `publishReplay` writes them in one transaction,
`authorityProjectionSnapshot` reads them back, and `usableAuthorityProjectionProof` decides whether what is read back is
the state that a validated ledger head expects.
-/
namespace Mct

open Checked

/-! ## Records -/

inductive AuthorityProjectionStatusV1
  | rebuilding | current | stale | quarantined
  deriving DecidableEq, Repr

structure AuthorityProjectionCursorV1 where
  schemaVersion : Nat
  projectionId : String
  projectionKind : String
  sourceMotherNodeId : String
  sourceLedgerId : String
  throughSequence : Nat
  throughObservationId : String
  throughEntryHash : String
  grantsAuthority : GrantsAuthorityIdentityV1
  authorityStateHash : String
  projectionHash : String
  projectionStatus : AuthorityProjectionStatusV1
  updatedAt : String
  deriving DecidableEq, Repr

inductive AuthorityProjectionDenyReasonV1
  | projectionMissing | projectionNotCurrent | wrongSourceMother | wrongSourceLedger | headSequenceMismatch
  | headHashMismatch | authorityMotherMismatch | epochMismatch | generationMismatch
  | sourceAuthorityObservationMismatch | authorityStateHashMismatch | projectionHashMismatch | ledgerQuarantined
  deriving DecidableEq, Repr

structure AuthorityProjectionExpectationV1 where
  sourceMotherNodeId : String
  sourceLedgerId : String
  throughSequence : Nat
  throughEntryHash : String
  grantsAuthority : GrantsAuthorityIdentityV1
  authorityStateHash : String
  deriving DecidableEq, Repr

inductive AuthorityProjectionLedgerEvidenceV1
  | validated (expectation : AuthorityProjectionExpectationV1)
  | quarantined
  deriving DecidableEq, Repr

inductive UsableAuthorityProjectionProofV1
  | usable (cursor : AuthorityProjectionCursorV1)
  | denied (reason : AuthorityProjectionDenyReasonV1)
  deriving DecidableEq, Repr

structure AuthorityProjectionHashInputV1 where
  sourceMotherNodeId : String
  sourceLedgerId : String
  throughSequence : Nat
  throughObservationId : String
  throughEntryHash : String
  grantsAuthority : GrantsAuthorityIdentityV1
  authorityStateHash : String
  projectionStatus : AuthorityProjectionStatusV1
  deriving DecidableEq, Repr

structure AuthorityProjectionSnapshotV1 where
  cursor : AuthorityProjectionCursorV1
  state : AuthorityStateV1
  facts : List AuthorityCanonicalFactRecordV1
  deriving DecidableEq

/-- The host with the JSON cells of the database, and the canonical JSON of a projection's hash input. -/
class ProjectionHost extends LedgerHost where
  toyContractCell : Codec CanonicalToyContract String
  toyGrantCell : Codec ToyGrant String
  watchScopeCell : Codec WatchObservationScope String
  grantsAuthorityCell : Codec GrantsAuthorityIdentityV1 String
  projectionHashJson : AuthorityProjectionHashInputV1 → List UInt8

variable [ProjectionHost]

/-- The cells of the tables read back as they were written, in the sense of `SerdeRoundTrip`. -/
structure CellRoundTrip : Prop where
  toyContract : ProjectionHost.toyContractCell.Lawful
  toyGrant : ProjectionHost.toyGrantCell.Lawful
  watchScope : ProjectionHost.watchScopeCell.Lawful
  grantsAuthority : ProjectionHost.grantsAuthorityCell.Lawful

def authorityProjectionHash (input : AuthorityProjectionHashInputV1) : String :=
  blake3 (ProjectionHost.projectionHashJson input)

/-! ## Tables -/

/-- `as i64` of a `u64`. -/
def asI64 (n : Nat) : Int := if n < 2 ^ 63 then n else n - 2 ^ 64

def getU64 (column : Int) : Except String Nat :=
  if 0 ≤ column then .ok column.toNat else .error "integer out of range"

structure CellRow where
  id : String
  valueJson : String
  deriving DecidableEq, Repr

def CellRow.sameId (a b : CellRow) : Bool := a.id == b.id

structure FactRow where
  sourceSequence : Int
  factId : String
  factKind : String
  sourceEntryHash : String
  canonicalPayload : String
  deriving DecidableEq, Repr

/-- `source_sequence` is the key of the facts, and `fact_id` is unique. -/
def FactRow.clash (a b : FactRow) : Bool := a.sourceSequence == b.sourceSequence || a.factId == b.factId

structure CursorRow where
  schemaVersion : Int
  projectionId : String
  projectionKind : String
  sourceMotherNodeId : String
  sourceLedgerId : String
  throughSequence : Int
  throughObservationId : String
  throughEntryHash : String
  grantsAuthorityJson : String
  authorityStateHash : String
  projectionHash : String
  projectionStatus : String
  updatedAt : String
  deriving DecidableEq, Repr

/-- **The tables of the projection.**  The cursor is the row `authority-state-v1` of its table: no other is written or
read. -/
structure AuthorityProjectionTables where
  toyCatalog : Table CellRow.sameId
  toyGrants : Table CellRow.sameId
  watchScopes : Table CellRow.sameId
  facts : Table FactRow.clash
  cursor : Option CursorRow

def AuthorityProjectionTables.empty : AuthorityProjectionTables := ⟨.empty, .empty, .empty, .empty, none⟩

/-! ## Reading -/

def authorityCursorFromRow (row : CursorRow) : Except String AuthorityProjectionCursorV1 := do
  let projectionStatus ← match row.projectionStatus with
    | "rebuilding" => .ok .rebuilding
    | "current" => .ok .current
    | "stale" => .ok .stale
    | "quarantined" => .ok .quarantined
    | other => .error s!"unknown projection status '{other}'"
  let schemaVersion ← getU64 row.schemaVersion
  let throughSequence ← getU64 row.throughSequence
  let grantsAuthority ← ProjectionHost.grantsAuthorityCell.decode row.grantsAuthorityJson
  return { row with schemaVersion, throughSequence, grantsAuthority, projectionStatus }

def readCells {V : Type} (codec : Codec V String) (table : Table CellRow.sameId) : Except String (TextMap V) := do
  let values ← (table.select fun a b => a.id ≤ b.id).mapM fun row => return (row.id, ← codec.decode row.valueJson)
  return Std.ExtTreeMap.ofList values compare

def factFromRow (row : FactRow) : Except String AuthorityCanonicalFactRecordV1 := do
  let sourceSequence ← getU64 row.sourceSequence
  return { row with sourceSequence }

variable (store : AuthorityProjectionTables)

/-- The state and the facts that the tables have.  Only three maps of the state are stored. -/
def readProjectedAuthority :
    Except String (AuthorityStateV1 × List AuthorityCanonicalFactRecordV1) := do
  let toyCatalog ← readCells ProjectionHost.toyContractCell store.toyCatalog
  let toyGrants ← readCells ProjectionHost.toyGrantCell store.toyGrants
  let watchScopes ← readCells ProjectionHost.watchScopeCell store.watchScopes
  let facts ← (store.facts.select fun a b => a.sourceSequence ≤ b.sourceSequence).mapM factFromRow
  return ({ AuthorityStateV1.empty with toyCatalog, toyGrants, watchScopes }, facts)

/-- **What the database says the authority state is**, with the cursor it was published under. -/
def authorityProjectionSnapshot :
    Except String (Option AuthorityProjectionSnapshotV1) :=
  match store.cursor with
  | none => .ok none
  | some row => do
    let cursor ← authorityCursorFromRow row
    let (state, facts) ← readProjectedAuthority store
    return some ⟨cursor, state, facts⟩

/-! ## The proof -/

def AuthorityProjectionCursorV1.hashInput (cursor : AuthorityProjectionCursorV1) : AuthorityProjectionHashInputV1 :=
  { cursor with }

/-- The checks of a snapshot against what a validated head expects, in the order of the source. -/
def proveSnapshot (snapshot : AuthorityProjectionSnapshotV1) (expected : AuthorityProjectionExpectationV1) :
    Except String UsableAuthorityProjectionProofV1 := do
  let cursor := snapshot.cursor
  if cursor.schemaVersion ≠ 1 || cursor.projectionId ≠ "authority-state-v1" ||
      cursor.projectionKind ≠ "authority_state" || cursor.projectionStatus ≠ .current then
    return .denied .projectionNotCurrent
  if cursor.sourceMotherNodeId ≠ expected.sourceMotherNodeId then
    return .denied .wrongSourceMother
  if cursor.sourceLedgerId ≠ expected.sourceLedgerId then
    return .denied .wrongSourceLedger
  if cursor.throughSequence ≠ expected.throughSequence then
    return .denied .headSequenceMismatch
  if cursor.throughEntryHash ≠ expected.throughEntryHash then
    return .denied .headHashMismatch
  if cursor.grantsAuthority.motherNodeId ≠ expected.grantsAuthority.motherNodeId ||
      cursor.grantsAuthority.motherNodeId ≠ cursor.sourceMotherNodeId then
    return .denied .authorityMotherMismatch
  if cursor.grantsAuthority.authorityEpoch ≠ expected.grantsAuthority.authorityEpoch then
    return .denied .epochMismatch
  if cursor.grantsAuthority.generation ≠ expected.grantsAuthority.generation then
    return .denied .generationMismatch
  if cursor.grantsAuthority.sourceAuthorityObservationId ≠ expected.grantsAuthority.sourceAuthorityObservationId then
    return .denied .sourceAuthorityObservationMismatch
  let projectedStateHash ← mapErr AuthorityReplayFailure.text (authorityStateHash snapshot.state)
  if projectedStateHash ≠ cursor.authorityStateHash || projectedStateHash ≠ expected.authorityStateHash then
    return .denied .authorityStateHashMismatch
  if authorityProjectionHash cursor.hashInput ≠ cursor.projectionHash then
    return .denied .projectionHashMismatch
  return .usable cursor

/-- **Whether the stored projection is usable for what the ledger shows.** -/
def usableAuthorityProjectionProof (evidence : AuthorityProjectionLedgerEvidenceV1) :
    Except String UsableAuthorityProjectionProofV1 :=
  match evidence with
  | .quarantined => .ok (.denied .ledgerQuarantined)
  | .validated expected => do
    match ← authorityProjectionSnapshot store with
    | none => return .denied .projectionMissing
    | some snapshot => proveSnapshot snapshot expected

/-! ## Publication -/

/-- Whether the stored cursor is current for the same ledger, authority and state. -/
def projectionCursorMatchesUnchangedState (head : LedgerVerifiedHead) (authority : GrantsAuthorityIdentityV1)
    (stateHash : String) : Bool :=
  match store.cursor.map authorityCursorFromRow with
  | some (.ok existing) =>
    existing.projectionStatus == .current && existing.authorityStateHash == stateHash &&
      existing.grantsAuthority == authority && existing.sourceMotherNodeId == head.motherNodeId &&
      existing.sourceLedgerId == head.ledgerId && existing.projectionId == "authority-state-v1"
  | _ => false

def publishedCursor (head : LedgerVerifiedHead) (authority : GrantsAuthorityIdentityV1) (stateHash updatedAt : String) :
    AuthorityProjectionCursorV1 where
  schemaVersion := 1
  projectionId := "authority-state-v1"
  projectionKind := "authority_state"
  sourceMotherNodeId := head.motherNodeId
  sourceLedgerId := head.ledgerId
  throughSequence := head.localSequence
  throughObservationId := head.observationId
  throughEntryHash := head.entryHash
  grantsAuthority := authority
  authorityStateHash := stateHash
  projectionHash := authorityProjectionHash ⟨head.motherNodeId, head.ledgerId, head.localSequence, head.observationId,
    head.entryHash, authority, stateHash, .current⟩
  projectionStatus := .current
  updatedAt := updatedAt

def cursorRow (cursor : AuthorityProjectionCursorV1) : CursorRow :=
  { cursor with
    schemaVersion := asI64 cursor.schemaVersion
    throughSequence := asI64 cursor.throughSequence
    grantsAuthorityJson := ProjectionHost.grantsAuthorityCell.encode cursor.grantsAuthority
    projectionStatus := "current" }

/-- `INSERT … ON CONFLICT DO UPDATE` of the columns that name the head. -/
def advanceCursor (stored : Option CursorRow) (row : CursorRow) : CursorRow :=
  match stored with
  | none => row
  | some old =>
    { old with
      throughSequence := row.throughSequence
      throughObservationId := row.throughObservationId
      throughEntryHash := row.throughEntryHash
      projectionHash := row.projectionHash
      projectionStatus := row.projectionStatus
      updatedAt := row.updatedAt }

def factRow (fact : AuthorityCanonicalFactRecordV1) : FactRow :=
  { fact with sourceSequence := asI64 fact.sourceSequence }

def cellRows {V : Type} (codec : Codec V String) (id : V → String) (values : List V) : List CellRow :=
  values.map fun value => ⟨id value, codec.encode value⟩

def writeProjection (replay : AuthorityReplayV1) (row : CursorRow) : Except String AuthorityProjectionTables := do
  let toyCatalog ← okOr (Table.empty.insertAll
      (cellRows ProjectionHost.toyContractCell (·.toyId.value) replay.state.toyCatalog.values))
    "UNIQUE constraint failed: authority_projection_toy_catalog.toy_id"
  let toyGrants ← okOr (Table.empty.insertAll
      (cellRows ProjectionHost.toyGrantCell (·.grantId.value) replay.state.toyGrants.values))
    "UNIQUE constraint failed: authority_projection_toy_grants.grant_id"
  let watchScopes ← okOr (Table.empty.insertAll
      (cellRows ProjectionHost.watchScopeCell (·.watchScopeId.value) replay.state.watchScopes.values))
    "UNIQUE constraint failed: authority_projection_watch_scopes.watch_scope_id"
  let rows := replay.facts.map factRow
  deny (rows.any fun fact => decide (fact.sourceSequence < 0)) "CHECK constraint failed: source_sequence >= 0"
  let facts ← okOr (Table.empty.insertAll rows) "UNIQUE constraint failed: authority_projection_facts"
  return ⟨toyCatalog, toyGrants, watchScopes, facts, some row⟩

/-- An unchanged state keeps its rows and only moves the cursor. -/
def writeTables (replay : AuthorityReplayV1) (row : CursorRow) (stateUnchanged : Bool) :
    Except String AuthorityProjectionTables :=
  if stateUnchanged then .ok { store with cursor := some (advanceCursor store.cursor row) }
  else writeProjection replay row

/-- The transaction of a publication; `beforeCommit` stands for the hook and for the commit itself. -/
def publishTransaction (head : LedgerVerifiedHead) (replay : AuthorityReplayV1) (updatedAt : String)
    (beforeCommit : Except String Unit) :
    Except String (AuthorityProjectionCursorV1 × AuthorityProjectionTables) := do
  deny replay.state.passkeyAdmin.isSome "legacy SQLite projection cannot activate passkey administration"
  let authority ← okOr replay.currentAuthority "authority projection requires an epoch fact"
  let stateHash ← mapErr AuthorityReplayFailure.text (authorityStateHash replay.state)
  let cursor := publishedCursor head authority stateHash updatedAt
  let row := cursorRow cursor
  let written ← writeTables store replay row (projectionCursorMatchesUnchangedState store head authority stateHash)
  deny (decide (row.throughSequence < 0)) "CHECK constraint failed: through_sequence >= 0"
  beforeCommit
  return (cursor, written)

/-- **One publication**; a failed one is rolled back. -/
def publishReplay (head : LedgerVerifiedHead) (replay : AuthorityReplayV1) (updatedAt : String)
    (beforeCommit : Except String Unit) :
    Except String AuthorityProjectionCursorV1 × AuthorityProjectionTables :=
  match publishTransaction store head replay updatedAt beforeCommit with
  | .ok (cursor, written) => (.ok cursor, written)
  | .error e => (.error e, store)

def MctObservationLedgerEntry.head (entry : MctObservationLedgerEntry) : LedgerVerifiedHead :=
  ⟨entry.localSequence, entry.entryHash, entry.observation.observationId.value, entry.ledgerId, entry.motherNodeId⟩

def publishAuthorityProjection (entries : List MctObservationLedgerEntry) (updatedAt : String)
    (beforeCommit : Except String Unit) :
    Except String AuthorityProjectionCursorV1 × AuthorityProjectionTables :=
  match replayAuthorityEntries entries, entries.getLast? with
  | .error e, _ => (.error e.text, store)
  | .ok _, none => (.error "authority projection requires a committed head", store)
  | .ok replay, some last => publishReplay store last.head replay updatedAt beforeCommit

/-! ## Proven projections -/

inductive LocalExecutionAuthoritySnapshotDenyV1
  | ledgerQuarantined | foreignLineage | ledgerUnavailable | authorityReplayBlocked
  | authorityProjection (reason : AuthorityProjectionDenyReasonV1)
  | localPolicyUnavailable | motherClockUnavailable
  deriving DecidableEq, Repr

def authorityProjectionExpectationFromVerified (head : LedgerVerifiedHead) (replay : AuthorityReplayV1) :
    Except LocalExecutionAuthoritySnapshotDenyV1 AuthorityProjectionExpectationV1 := do
  let authority ← okOr replay.currentAuthority .authorityReplayBlocked
  let expectedStateHash ← mapErr (fun _ => .authorityReplayBlocked) (authorityStateHash replay.state)
  return ⟨head.motherNodeId, head.ledgerId, head.localSequence, head.entryHash, authority, expectedStateHash⟩

structure ProvenAuthorityProjectionV1 where
  cursor : AuthorityProjectionCursorV1
  projection : AuthorityProjectionSnapshotV1
  deriving DecidableEq

/-- **Proves the stored projection usable for exactly `expectation`**, and reads it. -/
def proveAuthorityProjection (expectation : AuthorityProjectionExpectationV1) :
    Except LocalExecutionAuthoritySnapshotDenyV1 ProvenAuthorityProjectionV1 := do
  let proof ← mapErr (fun _ => .authorityProjection .projectionNotCurrent)
    (usableAuthorityProjectionProof store (.validated expectation))
  match proof with
  | .denied reason => .error (.authorityProjection reason)
  | .usable cursor =>
    let stored ← mapErr (fun _ => .authorityProjection .projectionNotCurrent) (authorityProjectionSnapshot store)
    let projection ← okOr stored (.authorityProjection .projectionMissing)
    deny (projection.cursor ≠ cursor || (authorityStateHash projection.state).toOption ≠ some cursor.authorityStateHash)
      (.authorityProjection .projectionNotCurrent)
    return ⟨cursor, projection⟩

end Mct
