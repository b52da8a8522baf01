import FuturesBot.CheckpointWrites

/-! A batch whose call failed at one of the stores, and the same batch again: where the offsets
stand after the failure, and what the retry makes of the stores. -/
namespace FuturesBot

open DateTimes Dicts LocalDbWriterService

/-! The points at which a call may fail, and the call that is made again. -/

inductive StoreCall where
  | COMMIT
  | SAVE
  | UPSERT
  | CURSOR
  deriving DecidableEq, Repr

/-- One failure: the committed-event store is told to fail, or a call of a store raises before or
after its effect. -/
inductive FailurePoint where
  | simulated
  | raises (call : StoreCall) (late : Bool)
  deriving DecidableEq, Repr

namespace FailurePoint

def fault (p : FailurePoint) (call : StoreCall) : CallFault :=
  if p = .raises call false then .before
  else if p = .raises call true then .after
  else .none

def storeFaults (p : FailurePoint) : StoreFaults :=
  { StoreFaults.never with
    commit := p.fault .COMMIT
    save := p.fault .SAVE
    upsert := p.fault .UPSERT
    cursor := p.fault .CURSOR }

def error : FailurePoint → DbWriterError
  | .simulated => .simulatedCommitFailure
  | .raises _ _ => .storeFailure

/-- The call fails before the checkpoint of the batch is saved. -/
def early : FailurePoint → Bool
  | .simulated | .raises .COMMIT _ | .raises .SAVE false => true
  | _ => false

theorem reads (p : FailurePoint) : ReadsHold p.storeFaults := ⟨rfl, rfl, fun _ => rfl⟩

end FailurePoint

def DbWriterStores.failNextCommit (stores : DbWriterStores) (b : Bool) : DbWriterStores :=
  { stores with db_store := { stores.db_store with fail_next_commit := b } }

section Retry

variable (service : LocalDbWriterService) (stores : DbWriterStores) (p : FailurePoint)
  (records : List KafkaConsumedRecord)

/-- The call that fails. -/
def failedCall (now : Option DateTime) :
    DbWriterStores × Except DbWriterError (Option DbWriterCheckpoint) :=
  commitConsumedBatch service (stores.failNextCommit (p = .simulated)) p.storeFaults now records

/-- The same batch once more, with no failure. -/
def retriedCall (now now' : Option DateTime) :
    DbWriterStores × Except DbWriterError (Option DbWriterCheckpoint) :=
  commitConsumedBatch service (failedCall service stores p records now).1 .never now' records

/-- One call that nothing interrupts. -/
def uninterruptedCall (now : Option DateTime) :
    DbWriterStores × Except DbWriterError (Option DbWriterCheckpoint) :=
  commitConsumedBatch service (stores.failNextCommit false) .never now records

/-- The call reaches the point, and fails there. -/
def Interrupted (now : Option DateTime) : Prop :=
  (failedCall service stores p records now).2 = .error p.error

/-- The writes that were still to come would change nothing. -/
def RestKept (last : KafkaConsumedRecord) (saved_at : DateTime) : Prop :=
  match p with
  | .raises .SAVE true | .raises .UPSERT false => RequiredKept service stores last saved_at
  | .raises .UPSERT true =>
    (∀ store ∈ stores.required_checkpoint_writer, ∀ checkpoint ∈ newSidecarCheckpoint service
      last.runId last.journal_record saved_at, RequiredRefused store checkpoint) ∨
      CursorKept service stores last
  | .raises .CURSOR false => CursorKept service stores last
  | _ => True

variable {service} {stores} {p} {records}

/-- A call that raises before the checkpoint is saved leaves the stores as they were, or with the
batch committed. -/
theorem raises_early {call : StoreCall} {late : Bool}
    (hearly : (FailurePoint.raises call late).early = true) (now : Option DateTime) :
    (failedCall service stores (.raises call late) records now).1 = stores.failNextCommit false ∨
      ∃ rest db' start first last,
        Commits service (stores.failNextCommit false) records rest db' start first last ∧
        (failedCall service stores (.raises call late) records now).1 =
          { stores.failNextCommit false with db_store := db' } := by
  have hnot : decide (FailurePoint.raises call late = .simulated) = false := by simp
  rw [failedCall, hnot]
  rcases callStart service (stores.failNextCommit false) records with
    ⟨result, -, hcall⟩ | ⟨e, db', herror, hcall⟩ | ⟨rest, db', start, first, last, hc⟩
  · left
    rw [hcall _ now (FailurePoint.reads _)]
  · left
    have hdb : db' = (stores.failNextCommit false).db_store := by
      rcases herror with ⟨hdb, -⟩ | ⟨hfail, -⟩
      · exact hdb
      · exact absurd hfail (by simp [DbWriterStores.failNextCommit])
    rw [hcall _ now (FailurePoint.reads _), hdb]
    split <;> rfl
  · rw [hc.call (FailurePoint.reads _) now]
    cases call with
    | COMMIT =>
      cases late with
      | false => exact .inl rfl
      | true => exact .inr ⟨rest, db', start, first, last, hc, rfl⟩
    | SAVE =>
      refine .inr ⟨rest, db', start, first, last, hc, ?_⟩
      cases late with
      | true => exact absurd hearly (by decide)
      | false =>
        -- whatever stops the call, the checkpoint is not written
        change (advanceCheckpoints service _ (FailurePoint.raises .SAVE false).storeFaults now
          start.runId first.walOffset last.journal_record last.kafka_offset).1 = _
        cases now with
        | none => rfl
        | some saved_at =>
          cases hcheckpoint : newCheckpoint service start.runId first.walOffset
            last.journal_record last.kafka_offset saved_at with
          | none => simp only [advanceCheckpoints, hcheckpoint]
          | some checkpoint =>
            rw [hc.advance hcheckpoint]
            rfl
    | UPSERT => exact absurd hearly (by cases late <;> decide)
    | CURSOR => exact absurd hearly (by cases late <;> decide)

/-- A failure before the checkpoint is saved: the retry does what an uninterrupted call does. -/
theorem retry_of_early (hearly : p.early = true) {now : Option DateTime}
    (h : Interrupted service stores p records now) (now' : Option DateTime) :
    retriedCall service stores p records now now' =
      uninterruptedCall service stores records now' := by
  have hsame (hstores : (failedCall service stores p records now).1 =
      stores.failNextCommit false) : retriedCall service stores p records now now' =
        uninterruptedCall service stores records now' := by
    rw [retriedCall, hstores, uninterruptedCall]
  rw [Interrupted, failedCall] at h
  cases p with
  | simulated =>
    -- the store told to fail refuses the commit once
    rcases callStart service (stores.failNextCommit true) records with
      ⟨result, own, hcall⟩ | ⟨e, db', herror, hcall⟩ | ⟨rest, db', start, first, last, hcommits⟩
    · rw [show decide (FailurePoint.simulated = .simulated) = true from rfl,
        hcall _ now (FailurePoint.reads _)] at h
      exact absurd (own _ h) (by decide)
    · have hdb : db' = { stores.db_store with fail_next_commit := false } := by
        rw [show decide (FailurePoint.simulated = .simulated) = true from rfl,
          hcall _ now (FailurePoint.reads _)] at h
        have he : e = .simulatedCommitFailure := Except.error.inj h
        rcases herror with ⟨-, hown⟩ | ⟨-, -, hdb⟩
        · rw [he] at hown
          exact absurd hown (by decide)
        · exact hdb
      apply hsame
      rw [failedCall, show decide (FailurePoint.simulated = .simulated) = true from rfl,
        hcall _ now (FailurePoint.reads _), hdb]
      rfl
    · have hready := (commitRecords_ok hcommits.commit).2.1
      exact absurd hready (by simp [DbWriterStores.failNextCommit])
  | raises call late =>
    rcases raises_early hearly now with hstores | ⟨rest, db', start, first, last, hc, hstores⟩
    · exact hsame hstores
    · rw [retriedCall, hstores, uninterruptedCall, hc.again.call .never, hc.call .never]
      rfl

/-- A call that fails once the checkpoint is saved. -/
structure FailsLate (service : LocalDbWriterService) (stores : DbWriterStores) (p : FailurePoint)
    (records rest : List KafkaConsumedRecord) (now : Option DateTime)
    (db' : InMemoryCommittedEventStore) (start first last : KafkaConsumedRecord)
    (saved_at : DateTime) (checkpoint : DbWriterCheckpoint) : Prop where
  commits : Commits service (stores.failNextCommit false) records rest db' start first last
  time : now = some saved_at
  named : newCheckpoint service start.runId first.walOffset last.journal_record
    last.kafka_offset saved_at = some checkpoint
  failed : (failedCall service stores p records now).1 = (match p with
    | .raises .SAVE true => (savedStores (stores.failNextCommit false) db' checkpoint)
    | _ => (upsertRequired service (savedStores (stores.failNextCommit false) db' checkpoint)
        p.storeFaults last.runId last.journal_record last.kafka_offset saved_at checkpoint).1)
  raised : p ≠ .raises .SAVE true →
    (upsertRequired service (savedStores (stores.failNextCommit false) db' checkpoint)
      p.storeFaults last.runId last.journal_record last.kafka_offset saved_at checkpoint).2 =
      .error .storeFailure

theorem interrupted_late (hlate : p.early = false) {now : Option DateTime}
    (h : Interrupted service stores p records now) :
    ∃ rest db' start first last saved_at checkpoint,
      FailsLate service stores p records rest now db' start first last saved_at checkpoint := by
  have hnot : decide (p = .simulated) = false := by
    cases p with
    | simulated => exact absurd hlate (by decide)
    | raises call late => simp
  have hcommit : p.storeFaults.commit = .none := by
    cases p with
    | simulated => rfl
    | raises call late =>
      cases call with
      | COMMIT => exact absurd hlate (by simp [FailurePoint.early])
      | _ => simp [FailurePoint.storeFaults, FailurePoint.fault]
  have herror : p.error = .storeFailure := by
    cases p with
    | simulated => exact absurd hlate (by decide)
    | raises call late => rfl
  rw [Interrupted, herror, failedCall, hnot] at h
  have hcallee : failedCall service stores p records now = commitConsumedBatch service
      (stores.failNextCommit false) p.storeFaults now records := by rw [failedCall, hnot]
  rcases callStart service (stores.failNextCommit false) records with
    ⟨result, hown, hcall⟩ | ⟨e, db', herr, hcall⟩ | ⟨rest, db', start, first, last, hc⟩
  · rw [hcall _ now p.reads] at h
    exact absurd (hown _ h) (by decide)
  · rw [hcall _ now p.reads, hcommit] at h
    have he : e = .storeFailure := Except.error.inj h
    rcases herr with ⟨-, hown⟩ | ⟨-, hsimulated, -⟩
    · rw [he] at hown
      exact absurd hown (by decide)
    · rw [he] at hsimulated
      exact absurd hsimulated (by simp)
  · have hrun : start.runId = last.runId :=
      (hc.run last (hc.rest_sub last (List.mem_of_getLast? hc.last))).symm
    rw [hc.call p.reads now, hcommit] at h hcallee
    dsimp only at h hcallee
    cases now with
    | none => exact absurd h (by simp [advanceCheckpoints])
    | some saved_at =>
      cases hcheckpoint : newCheckpoint service start.runId first.walOffset last.journal_record
        last.kafka_offset saved_at with
      | none =>
        simp only [advanceCheckpoints, hcheckpoint] at h
        exact absurd h (by simp)
      | some checkpoint =>
        rw [hc.advance hcheckpoint] at h hcallee
        refine ⟨rest, db', start, first, last, saved_at, checkpoint, hc, rfl, hcheckpoint, ?_, ?_⟩
        · rw [hcallee, ← hrun]
          cases p with
          | simulated => exact absurd hlate (by decide)
          | raises call late =>
            cases call with
            | COMMIT => exact absurd hlate (by simp [FailurePoint.early])
            | SAVE =>
              cases late with
              | false => exact absurd hlate (by decide)
              | true => rfl
            | UPSERT => rfl
            | CURSOR => rfl
        · intro hsave
          rw [← hrun]
          cases p with
          | simulated => exact absurd hlate (by decide)
          | raises call late =>
            cases call with
            | COMMIT => exact absurd hlate (by simp [FailurePoint.early])
            | SAVE =>
              cases late with
              | false => exact absurd hlate (by decide)
              | true => exact absurd rfl hsave
            | UPSERT => exact h
            | CURSOR => exact h

section Late

variable {rest : List KafkaConsumedRecord} {now : Option DateTime}
  {db' : InMemoryCommittedEventStore} {start first last : KafkaConsumedRecord}
  {saved_at : DateTime} {checkpoint : DbWriterCheckpoint}

/-- The batch is found committed, and its checkpoint is returned. -/
theorem FailsLate.retried
    (h : FailsLate service stores p records rest now db' start first last saved_at checkpoint)
    (now' : Option DateTime) :
    retriedCall service stores p records now now' =
      ((failedCall service stores p records now).1, .ok (some checkpoint)) := by
  obtain ⟨hload, hoffset⟩ := @newCheckpoint_load service (stores.failNextCommit false) db' start
    first last saved_at checkpoint h.named
  have hframe : (failedCall service stores p records now).1.db_store = db' ∧
      (failedCall service stores p records now).1.checkpoint_store =
        (savedStores (stores.failNextCommit false) db' checkpoint).checkpoint_store := by
    rw [h.failed]
    split
    · exact ⟨rfl, rfl⟩
    · obtain ⟨required, cursors, hstores⟩ := @upsertRequired_frame service
        (savedStores (stores.failNextCommit false) db' checkpoint) p.storeFaults last.runId
        last.journal_record last.kafka_offset saved_at checkpoint
      rw [hstores]
      exact ⟨rfl, rfl⟩
  exact h.commits.moved hframe.1 (by rw [hframe.2]; exact hload) hoffset now'

/-- What the uninterrupted call makes of the stores. -/
theorem FailsLate.uninterrupted
    (h : FailsLate service stores p records rest now db' start first last saved_at checkpoint) :
    uninterruptedCall service stores records now =
      upsertRequired service (savedStores (stores.failNextCommit false) db' checkpoint) .never
        last.runId last.journal_record last.kafka_offset saved_at checkpoint := by
  have hrun : start.runId = last.runId := by
    have hmem := h.commits.rest_sub last (List.mem_of_getLast? h.commits.last)
    exact (h.commits.run last hmem).symm
  rw [uninterruptedCall, h.commits.call .never, h.time, ← hrun]
  exact h.commits.advance h.named

/-- The failure leaves what the uninterrupted call does exactly when the writes that were still
to come would change nothing. -/
theorem FailsLate.agrees (hlate : p.early = false)
    (h : FailsLate service stores p records rest now db' start first last saved_at checkpoint) :
    (failedCall service stores p records now).1 = (uninterruptedCall service stores records now).1 ↔
      RestKept service stores p last saved_at := by
  rw [h.uninterrupted, h.failed]
  have hfault := h.raised
  cases p with
  | simulated => exact absurd hlate (by decide)
  | raises call late =>
    cases call with
    | COMMIT => exact absurd hlate (by simp [FailurePoint.early])
    | SAVE =>
      cases late with
      | false => exact absurd hlate (by decide)
      | true => exact eq_comm.trans upsertRequired_kept
    | UPSERT =>
      have hraised := hfault (by simp)
      -- the cursor is not reached
      have hcursor {stores' : DbWriterStores} {cursor : BrokerConsumerCursor}
          (h : (saveCursor stores' (FailurePoint.raises .UPSERT late).storeFaults cursor
            checkpoint).2 = .error .storeFailure) : False :=
        (saveCursor_fault h).1 (by simp [FailurePoint.storeFaults, FailurePoint.fault])
      cases late with
      | false =>
        rcases upsertRequired_fault hraised with
          ⟨store, sidecar, hstore, hsidecar, ⟨hbefore, hsame⟩ | ⟨hafter, -⟩⟩ | ⟨stores', -, heq, -⟩
        · change (upsertRequired _ _ _ _ _ _ _ _).1 = _ ↔ _
          rw [hsame]
          exact eq_comm.trans upsertRequired_kept
        · exact absurd hafter (by simp [FailurePoint.storeFaults, FailurePoint.fault])
        · exact (hcursor (heq ▸ hraised)).elim
      | true =>
        rcases upsertRequired_fault hraised with
          ⟨store, sidecar, hstore, hsidecar, ⟨hbefore, -⟩ | ⟨hafter, hsame⟩⟩ | ⟨stores', -, heq, -⟩
        · exact absurd hbefore (by simp [FailurePoint.storeFaults, FailurePoint.fault])
        · change (upsertRequired _ _ _ _ _ _ _ _).1 = _ ↔ _
          rw [hsame]
          exact eq_comm.trans (upsertRequired_written hstore hsidecar)
        · exact (hcursor (heq ▸ hraised)).elim
    | CURSOR =>
      have hraised := hfault (by simp)
      rcases upsertRequired_fault hraised with
        ⟨store, sidecar, hstore, hsidecar, ⟨hbefore, -⟩ | ⟨hafter, -⟩⟩ |
          ⟨stores', hcursors, heq, hnever⟩
      · exact absurd hbefore (by simp [FailurePoint.storeFaults, FailurePoint.fault])
      · exact absurd hafter (by simp [FailurePoint.storeFaults, FailurePoint.fault])
      · change (upsertRequired _ _ _ _ _ _ _ _).1 = _ ↔ _
        rw [hnever]
        rw [heq] at hraised ⊢
        obtain ⟨-, hbefore, hafter⟩ := saveCursor_fault hraised
        cases late with
        | false =>
          rw [hbefore (by simp [FailurePoint.storeFaults, FailurePoint.fault])]
          have hkept : CursorKept service stores' last ↔ CursorKept service stores last := by
            rw [CursorKept, CursorKept, hcursors]
            exact Iff.rfl
          exact (eq_comm.trans saveCursor_kept).trans hkept
        | true =>
          rw [hafter (by simp [FailurePoint.storeFaults, FailurePoint.fault])]
          exact iff_of_true rfl trivial

end Late

/-- What a failed call and the retry come to: the offsets stand in order; a failure before the
checkpoint is saved is made good by the retry; after one the retry finds the batch committed and
writes nothing, so that the stores are those of an uninterrupted call exactly when what was still
to be written would change nothing. -/
structure RetryOutcome (service : LocalDbWriterService) (stores : DbWriterStores)
    (p : FailurePoint) (records : List KafkaConsumedRecord) (now now' : Option DateTime) :
    Prop where
  ordered : OffsetsOrdered service stores →
    OffsetsOrdered service (failedCall service stores p records now).1
  completes : p.early = true → retriedCall service stores p records now now' =
    uninterruptedCall service stores records now'
  returns : p.early = false → ∃ checkpoint, retriedCall service stores p records now now' =
    ((failedCall service stores p records now).1, .ok (some checkpoint))
  agrees : p.early = false → ∀ saved_at ∈ now, ∀ last ∈ records.getLast?,
    ((retriedCall service stores p records now now').1 =
      (uninterruptedCall service stores records now).1 ↔ RestKept service stores p last saved_at)

theorem interrupted_retry {now : Option DateTime} (h : Interrupted service stores p records now)
    (now' : Option DateTime) : RetryOutcome service stores p records now now' where
  ordered horder := by
    have hflag : OffsetsOrdered service (stores.failNextCommit (p = .simulated)) :=
      ⟨horder.required, horder.committed⟩
    exact commitStep_ordered hflag ⟨records, now, p.storeFaults⟩
  completes hearly := retry_of_early hearly h now'
  returns hlate := by
    obtain ⟨rest, db', start, first, last, saved_at, checkpoint, hfails⟩ := interrupted_late hlate h
    exact ⟨checkpoint, hfails.retried now'⟩
  agrees hlate saved_at htime last hlast := by
    obtain ⟨rest, db', start, first, last', saved_at', checkpoint, hfails⟩ :=
      interrupted_late hlate h
    have htime' : saved_at' = saved_at := Option.some.inj (hfails.time.symm.trans htime)
    have hlast' : last' = last := Option.some.inj (hfails.commits.getLast.symm.trans hlast)
    rw [hfails.retried now', ← htime', ← hlast']
    exact hfails.agrees hlate

end Retry

/-! The first record of a run, with the required-consumer store failing. -/

def interruptedUpsert : FailurePoint := .raises .UPSERT false

theorem interruptedUpsert_fails : Interrupted sampleWriter (.empty false true true)
    interruptedUpsert [sampleConsumed 0 0] (some sampleTime) := by
  have hresult : (failedCall sampleWriter (.empty false true true) interruptedUpsert
      [sampleConsumed 0 0] (some sampleTime)).2.map (·.isSome) = .error .storeFailure := by
    decide +kernel
  rw [Interrupted]
  cases h : (failedCall sampleWriter (.empty false true true) interruptedUpsert
      [sampleConsumed 0 0] (some sampleTime)).2 with
  | ok checkpoint =>
    rw [h] at hresult
    cases hresult
  | error e =>
    rw [h] at hresult
    exact congrArg Except.error (Except.error.inj hresult)

theorem retry_after_upsert : RetryOutcome sampleWriter (.empty false true true) interruptedUpsert
    [sampleConsumed 0 0] (some sampleTime) (some sampleTime) :=
  interrupted_retry interruptedUpsert_fails (some sampleTime)

/-- The retry gives the checkpoint back, with the required-consumer store still empty. -/
theorem retry_misses_required :
    Interrupted sampleWriter (.empty false true true) interruptedUpsert [sampleConsumed 0 0]
      (some sampleTime) ∧
    (retriedCall sampleWriter (.empty false true true) interruptedUpsert [sampleConsumed 0 0]
      (some sampleTime) (some sampleTime)).1 ≠
    (uninterruptedCall sampleWriter (.empty false true true) [sampleConsumed 0 0]
      (some sampleTime)).1 := by
  refine ⟨interruptedUpsert_fails, fun h => ?_⟩
  have hrequired := congrArg
    (fun stores => stores.required_checkpoint_writer.map (·.values.length)) h
  revert hrequired
  decide +kernel

end FuturesBot
