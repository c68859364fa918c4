import Koupang.Model.ConsumerRetry
import Koupang.Spec.ConsumerAttempt

/-!
# Retries and idempotency of a consumer

Every exit of an attempt either drops the transaction or commits it with the row
in `processed_events` as its last write. So the handler's effects are there
exactly if the row is, and an event whose row is there is skipped. Whatever an
attempt ends with, the loop goes on only after a transient failure, which has
committed nothing.

## Key results

- `solo_onTables`: a handler in an attempt does what it does on the tables of its service
- `tryProcessOnce_atomic`: how an attempt ends, exit by exit
- `retryLoop_ok`: what the loop keeps, by induction on the retries that are left
- `consumer_contract`: over every run, for any handler
-/

namespace Koupang.Consumer.Retry

open ReadCommitted

variable {σ : Type} {D : Database σ}

/-! ## A handler in an attempt -/

/-- A transaction that has written nothing but tables of the service. -/
def lift (s : Solo D) : Solo (withProcessedEvents D) where
  outside := s.outside.map .inl
  writes := s.writes.map .inl
  aborted := s.aborted
  sent := s.sent

theorem view_map_inl (ws : List D.Write) (db : Tables σ) :
    view (withProcessedEvents D) (ws.map .inl) db = { db with tables := view D ws db.tables } := by
  have htables := tables_view_handler ws db
  have hprocessed : (view (withProcessedEvents D) (ws.map .inl) db).processedEvents =
      db.processedEvents := processedEvents_view (fun k => by simp) db
  rw [← htables, ← hprocessed]

theorem immediate_map_inl (ws : List D.Write) :
    immediate (withProcessedEvents D) (ws.map .inl) = (immediate D ws).map .inl := by
  unfold immediate
  rw [List.filter_map]
  congr 2
  funext w
  simp

theorem transactional_map_inl (ws : List D.Write) :
    transactional (withProcessedEvents D) (ws.map .inl) = (transactional D ws).map .inl := by
  unfold transactional
  rw [List.filter_map]
  congr 2
  funext w
  simp

/-- A statement of the handler, on the tables that the attempt sees. -/
theorem exec_handler_view (st : D.Stmt) (input : D.Input) (ws os : List D.Write) (db : Tables σ) :
    (withProcessedEvents D).exec (.handler st) input
        (view (withProcessedEvents D) (ws.map .inl)
          (view (withProcessedEvents D) (os.map .inl) db)) =
      (D.exec st input (view D ws (view D os db.tables))).map fun p => (p.1, p.2.map .inl) := by
  rw [view_map_inl, view_map_inl]

/-- A handler does in an attempt what it does on the tables of its service. -/
theorem solo_onTables {ε α : Type} (env : Env D) (db : Tables σ) (x : Prog D ε α) (s : Solo D) :
    (onTables x).solo (liftEnv env) db (lift s) =
      ((x.solo env db.tables s).1, lift (x.solo env db.tables s).2) := by
  induction x generalizing s with
  | done r => rfl
  | stmt c st k ih =>
    cases hfault : env.fault s.sent with
    | some e =>
      rw [Prog.solo_fault hfault, onTables, Prog.solo_fault (s := lift s) hfault]
      exact ih (.error e) { s with sent := s.sent + 1, aborted := s.aborted || c = .tx }
    | none =>
      by_cases hc : c = .tx
      · subst hc
        cases hab : s.aborted with
        | true =>
          rw [Prog.solo_aborted hfault hab, onTables, Prog.solo_aborted (s := lift s) hfault hab]
          exact ih (.error Tx.abortedMessage) { s with sent := s.sent + 1 }
        | false =>
          have hlift := exec_handler_view st (env.input s.sent) s.writes s.outside db
          cases hexec : D.exec st (env.input s.sent) (view D s.writes (view D s.outside
              db.tables)) with
          | error e =>
            rw [hexec] at hlift
            rw [Prog.solo_error hfault hab hexec, onTables,
              Prog.solo_error (s := lift s) hfault hab hlift]
            exact ih (.error e) { s with sent := s.sent + 1, aborted := true }
          | ok p =>
            rw [hexec] at hlift
            rw [Prog.solo_ok hfault hab hexec, onTables,
              Prog.solo_ok (s := lift s) hfault hab hlift]
            rw [immediate_map_inl, transactional_map_inl]
            simpa [lift] using ih (.ok p.1)
              { s with
                sent := s.sent + 1, outside := s.outside ++ immediate D p.2
                writes := s.writes ++ transactional D p.2 }
      · have hlift := exec_handler_view st (env.input s.sent) [] s.outside db
        cases hexec : D.exec st (env.input s.sent) (view D s.outside db.tables) with
        | error e =>
          have hlift := hlift.trans (congrArg _ hexec)
          rw [Prog.solo_pool_error hfault hc hexec, onTables,
            Prog.solo_pool_error (s := lift s) hfault hc hlift]
          exact ih (.error e) { s with sent := s.sent + 1 }
        | ok p =>
          have hlift := hlift.trans (congrArg _ hexec)
          rw [Prog.solo_pool_ok hfault hc hexec, onTables,
            Prog.solo_pool_ok (s := lift s) hfault hc hlift]
          simpa [lift] using ih (.ok p.1)
            { s with sent := s.sent + 1, outside := s.outside ++ p.2 }

/-! ## One attempt -/

theorem solo_isEventProcessed (key : ProcessedKey) (env : Env D) (db : Tables σ) :
    (∃ e tx, (isEventProcessed D key).solo (liftEnv env) db {} = (.error e, tx) ∧
        tx.outside = []) ∨
      (isEventProcessed D key).solo (liftEnv env) db {} =
        (.ok (db.processedEvents.contains key), lift { sent := 1 }) := by
  have hexec : (withProcessedEvents D).exec (.isEventProcessed key) ((liftEnv env).input 0) db =
    .ok (db.processedEvents.contains key, []) := rfl
  exact (Prog.solo_send _ {} hexec).imp_right And.right

/-- The event is marked last: either this fails, or the row is the last write. -/
theorem solo_markEventProcessed (key : ProcessedKey) (env : Env D) (db : Tables σ) (s : Solo D)
    (hkey : key ∉ db.processedEvents) :
    (∃ e tx, (markEventProcessed D key).solo (liftEnv env) db (lift s) = (.error e, tx) ∧
        tx.outside = (lift s).outside) ∨
      s.aborted = false ∧ (markEventProcessed D key).solo (liftEnv env) db (lift s) =
        (.ok (), { lift s with sent := s.sent + 1, writes := s.writes.map .inl ++ [.inr key] }) := by
  have hprocessed : (view (withProcessedEvents D) (s.writes.map .inl)
      (view (withProcessedEvents D) (s.outside.map .inl) db)).processedEvents =
      db.processedEvents := by
    rw [view_map_inl, view_map_inl]
  have hexec : (withProcessedEvents D).exec (.markEventProcessed key)
      ((liftEnv env).input s.sent) (view (withProcessedEvents D) (s.writes.map .inl)
        (view (withProcessedEvents D) (s.outside.map .inl) db)) = .ok ((), [.inr key]) := by
    change Except.ok ((), if (view (withProcessedEvents D) (s.writes.map .inl)
      (view (withProcessedEvents D) (s.outside.map .inl) db)).processedEvents.contains key
        then [] else [Sum.inr key]) = _
    rw [hprocessed, if_neg (by simpa using hkey)]
  have h := Prog.solo_send AppError.internalServerError (lift s) hexec
  simpa [immediate, transactional, lift, markEventProcessed] using h

/-- The handler alone, on the tables of its service, after the idempotency check. -/
def handlerRun (handle : Prog D HandlerError Unit) (env : Env D) (tables : σ) :
    Except HandlerError Unit × Solo D :=
  handle.solo env tables { sent := 1 }

/-- How an attempt at the event `key` ends. -/
inductive Ended (handle : Prog D HandlerError Unit) (key : ProcessedKey) (env : Env D)
    (db : Tables σ) : Attempt σ → Prop
  /-- the attempt has not come to the handler -/
  | notRun {r : AttemptResult}
      (hr : r = .dbError ∨ r = .alreadyProcessed ∧ key ∈ db.processedEvents) :
      Ended handle key env db { result := r, db, handlerRan := false }
  /-- nothing of what the handler has written in the transaction is there, and no row -/
  | rolledBack {r : AttemptResult} (hr : r ≠ .committed ∧ r ≠ .alreadyProcessed)
      (hkey : key ∉ db.processedEvents) :
      Ended handle key env db
        { result := r, handlerRan := true
          db := { db with tables := view D (handlerRun handle env db.tables).2.outside db.tables } }
  /-- all that the handler has written in the transaction is there, and the row -/
  | committed {r : AttemptResult} (hr : r = .committed ∨ r = .dbError)
      (hkey : key ∉ db.processedEvents) (hok : (handlerRun handle env db.tables).1 = .ok ()) :
      Ended handle key env db
        { result := r, handlerRan := true, handled := true
          db :=
            { tables := view D (handlerRun handle env db.tables).2.writes
                (view D (handlerRun handle env db.tables).2.outside db.tables)
              processedEvents := db.processedEvents ++ [key] } }

theorem dropTx_lift (db : Tables σ) {s : Solo D} {tx : Solo (withProcessedEvents D)}
    (hout : tx.outside = (lift s).outside) :
    dropTx db tx = { db with tables := view D s.outside db.tables } := by
  unfold dropTx
  rw [hout]
  exact view_map_inl s.outside db

/-- The commit of the handler's writes, followed by the row. -/
theorem commitTx_marked {s : Solo D} (hab : s.aborted = false) (answer : CommitAnswer)
    (key : ProcessedKey) (n : Nat) (db : Tables σ) :
    commitTx answer db
        { lift s with sent := n, writes := s.writes.map .inl ++ [.inr key] } =
      if answer = .failed then (false, { db with tables := view D s.outside db.tables })
      else (true,
        { tables := view D s.writes (view D s.outside db.tables)
          processedEvents := db.processedEvents ++ [key] }) := by
  have hwrites : view (withProcessedEvents D) (s.writes.map .inl ++ [.inr key])
      { db with tables := view D s.outside db.tables } =
        { tables := view D s.writes (view D s.outside db.tables)
          processedEvents := db.processedEvents ++ [key] } := by
    have happend : view (withProcessedEvents D) (s.writes.map .inl ++ [.inr key])
        { db with tables := view D s.outside db.tables } =
          view (withProcessedEvents D) [.inr key] (view (withProcessedEvents D)
            (s.writes.map .inl) { db with tables := view D s.outside db.tables }) :=
      List.foldl_append
    rw [happend]
    change (withProcessedEvents D).apply
      (view (withProcessedEvents D) (s.writes.map .inl)
        { db with tables := view D s.outside db.tables }) (.inr key) = _
    rw [view_map_inl]
  unfold commitTx
  simp only [lift, hab, Bool.or_false, decide_eq_true_eq]
  rw [view_map_inl, hwrites]

theorem tryProcessOnce_ended (handle : Prog D HandlerError Unit) (key : ProcessedKey)
    (env : AttemptEnv D) (db : Tables σ) :
    Ended handle key env.env db (tryProcessOnce handle key env db) := by
  unfold tryProcessOnce
  cases env.beginOk with
  | false => exact .notRun (.inl rfl)
  | true =>
    simp only [Bool.not_true, Bool.false_eq_true, if_false]
    rcases solo_isEventProcessed key env.env db with ⟨e, tx, hsolo, hout⟩ | hsolo
    · rw [hsolo]
      simp only [dropTx, hout]
      exact .notRun (.inl rfl)
    rw [hsolo]
    cases hcontains : db.processedEvents.contains key with
    | true =>
      have hcommit : (commitTx env.commit db (lift (D := D) { sent := 1 })).2 = db := by
        unfold commitTx
        split <;> rfl
      simp only [hcommit]
      refine .notRun ?_
      by_cases h : env.commit = .ok
      · exact .inr ⟨if_pos h, by simpa using hcontains⟩
      · exact .inl (if_neg h)
    | false =>
      have hkey : key ∉ db.processedEvents := by simpa using hcontains
      obtain ⟨r, s, hrun⟩ : ∃ r s, handlerRun handle env.env db.tables = (r, s) := ⟨_, _, rfl⟩
      have hhandler : handle.solo env.env db.tables { sent := 1 } = (r, s) := hrun
      simp only [solo_onTables, hhandler]
      -- what was committed at once is all that is left of a transaction that is not committed
      have hrolled {r : AttemptResult} (hr : r ≠ .committed ∧ r ≠ .alreadyProcessed) :
          Ended handle key env.env db
            { result := r, handlerRan := true
              db := { db with tables := view D s.outside db.tables } } := by
        have h : Ended handle key env.env db _ := .rolledBack hr hkey
        rwa [hrun] at h
      cases r with
      | error e =>
        have hdrop := dropTx_lift db (rfl : (lift s).outside = (lift s).outside)
        cases e with
        | permanent e =>
          simp only [hdrop]
          exact hrolled (by simp)
        | transient e =>
          simp only [hdrop]
          exact hrolled (by simp)
      | ok u =>
        rcases solo_markEventProcessed key env.env db s hkey with ⟨e, tx, hmark, hout⟩ | ⟨hab, hmark⟩
        · simp only [hmark, dropTx_lift db hout]
          exact hrolled (by simp)
        · simp only [hmark, commitTx_marked hab]
          by_cases hfailed : env.commit = .failed
          · simp only [hfailed, if_true]
            exact hrolled (by simp)
          · simp only [hfailed, if_false]
            -- the answer to the COMMIT can get lost
            have hanswer : (if env.commit = .ok then AttemptResult.committed else .dbError) =
                .committed ∨ (if env.commit = .ok then AttemptResult.committed else .dbError) =
                  .dbError := by
              by_cases hok : env.commit = .ok
              · exact .inl (if_pos hok)
              · exact .inr (if_neg hok)
            have h : Ended handle key env.env db _ := .committed hanswer hkey (by rw [hrun])
            rwa [hrun] at h

/-! ## The retry loop -/

/-- What is known of the processing of the event `key`, when `ps` was processed before. -/
structure Kept (key : ProcessedKey) (ps : List ProcessedKey) (p : Processed σ) : Prop where
  dlq : p.dlq.length ≤ 1
  rows : p.db.processedEvents = ps ++ if p.handled then [key] else []
  fresh : p.handled = true → key ∉ ps
  success : p.result = .success → p.handled = true
  skipped : p.result = .skipped → key ∈ ps
  sentToDlq : p.result = .sentToDlq → p.handled = false ∧ key ∉ ps

section Loop

variable {handle : Prog D HandlerError Unit} {key : ProcessedKey} {env : Env D} {db : Tables σ}
  {a : Attempt σ}

theorem Ended.rows (h : Ended handle key env db a) :
    a.db.processedEvents = db.processedEvents ++ if a.handled then [key] else [] := by
  cases h with
  | notRun hr => simp
  | rolledBack hr hkey => simp
  | committed hr hkey hok => rfl

theorem Ended.fresh (h : Ended handle key env db a) (hhandled : a.handled = true) :
    key ∉ db.processedEvents := by
  cases h with
  | notRun hr => cases hhandled
  | rolledBack hr hkey => cases hhandled
  | committed hr hkey hok => exact hkey

theorem Ended.handled (h : Ended handle key env db a) (hr : a.result = .committed) :
    a.handled = true := by
  cases h with
  | notRun hr' =>
    cases hr
    simp at hr'
  | rolledBack hr' hkey => exact absurd hr hr'.1
  | committed => rfl

theorem Ended.mem (h : Ended handle key env db a) (hr : a.result = .alreadyProcessed) :
    key ∈ db.processedEvents := by
  cases h with
  | notRun hr' =>
    cases hr
    simpa using hr'
  | rolledBack hr' hkey => exact absurd hr hr'.2
  | committed hr' hkey hok =>
    cases hr
    simp at hr'

/-- An attempt whose handler has failed has committed nothing, and its event was not
    processed before. -/
theorem Ended.failed (h : Ended handle key env db a) {e : String}
    (hr : a.result = .permanentFailure e ∨ a.result = .transientFailure e) :
    a.handled = false ∧ key ∉ db.processedEvents := by
  cases h with
  | notRun hr' => rcases hr with hr | hr <;> (cases hr; simp at hr')
  | rolledBack hr' hkey => exact ⟨rfl, hkey⟩
  | committed hr' hkey hok => rcases hr with hr | hr <;> (cases hr; simp at hr')

theorem sendRecord_length_le (answer : DlqAnswer) (record : DlqRecord) :
    (sendRecord answer record).2.length ≤ 1 := by
  cases answer <;> simp [sendRecord]

/-- The loop ends with the attempt. -/
theorem Ended.kept {r : ProcessResult} {runs : Nat} (hended : Ended handle key env db a)
    (hsuccess : r = .success → a.handled = true)
    (hskipped : r = .skipped → key ∈ db.processedEvents) (hr : r ≠ .sentToDlq) :
    Kept key db.processedEvents
      { result := r, db := a.db, handlerRuns := runs, handled := a.handled } where
  dlq := Nat.zero_le 1
  rows := hended.rows
  fresh := hended.fresh
  success := hsuccess
  skipped := hskipped
  sentToDlq h := absurd h hr

/-- The attempt has failed, and the event goes to the dead-letter queue. -/
theorem Ended.kept_sendToDlq {config : ConsumerConfig} {topic : String} {envelope : EventEnvelope}
    {penv : ProcessEnv D} {error : String} {n runs : Nat} (hended : Ended handle key env db a)
    (hfailed : a.handled = false ∧ key ∉ db.processedEvents) :
    Kept key db.processedEvents (sendToDlq config topic envelope penv error n a runs) where
  dlq := sendRecord_length_le ..
  rows := hended.rows
  fresh := hended.fresh
  success h := by
    change (if _ then ProcessResult.sentToDlq else .dlqFailed) = _ at h
    split at h <;> cases h
  skipped h := by
    change (if _ then ProcessResult.sentToDlq else .dlqFailed) = _ at h
    split at h <;> cases h
  sentToDlq _ := hfailed

end Loop

section Process

variable (config : ConsumerConfig) (handle : EventEnvelope → Prog D HandlerError Unit)
  (topic : String) (envelope : EventEnvelope) (env : ProcessEnv D)

/-- By induction on the retries that are left: each of them is taken only after an attempt
    that has committed nothing. -/
theorem retryLoop_ok (attempt remaining : Nat) (db : Tables σ) (runs : Nat) :
    Kept (processedKey config envelope) db.processedEvents
        (retryLoop config handle topic envelope env attempt remaining db runs) ∧
      (retryLoop config handle topic envelope env attempt remaining db runs).handlerRuns ≤
        runs + remaining + 1 := by
  have hended (n : Nat) (db : Tables σ) := tryProcessOnce_ended (handle envelope)
    (processedKey config envelope) (env.attempts n)
      { db with tables := (env.attempts n).meanwhile db.tables }
  have hruns (runs remaining : Nat) (b : Bool) : runs + b.toNat ≤ runs + remaining + 1 := by
    have := Bool.toNat_le b
    omega
  fun_induction retryLoop config handle topic envelope env attempt remaining db runs with
  | case1 remaining n db runs attemptEnv db' done runs' hr =>
    have hsuccess := (hended n db).handled hr
    exact ⟨(hended n db).kept (fun _ => hsuccess) (by simp) (by simp), hruns ..⟩
  | case2 remaining n db runs attemptEnv db' done runs' hr =>
    have hskipped := (hended n db).mem hr
    exact ⟨(hended n db).kept (by simp) (fun _ => hskipped) (by simp), hruns ..⟩
  | case3 remaining n db runs attemptEnv db' done runs' hr =>
    exact ⟨(hended n db).kept (by simp) (by simp) (by simp), hruns ..⟩
  | case4 remaining n db runs attemptEnv db' done runs' e hr =>
    have hfailed := (hended n db).failed (.inl hr)
    exact ⟨(hended n db).kept_sendToDlq hfailed, hruns ..⟩
  | case5 n db runs attemptEnv db' done runs' e hr =>
    have hfailed := (hended n db).failed (.inr hr)
    exact ⟨(hended n db).kept_sendToDlq hfailed, hruns runs 0 done.handlerRan⟩
  | case6 n db runs attemptEnv db' done runs' e hr remaining hshutdown =>
    have hfailed := (hended n db).failed (.inr hr)
    exact ⟨(hended n db).kept_sendToDlq hfailed, hruns ..⟩
  | case7 n db runs attemptEnv db' done runs' e hr remaining hshutdown ih =>
    -- the attempt has added no row, so the loop goes on from the same ones
    have hfailed := (hended n db).failed (.inr hr)
    have hrows : done.db.processedEvents = db.processedEvents := by
      simpa [hfailed.1] using (hended n db).rows
    rw [hrows] at ih
    have := Bool.toNat_le done.handlerRan
    have hle : runs' = runs + done.handlerRan.toNat := rfl
    exact ⟨ih.1, by omega⟩

theorem processWithRetry_ok (db : Tables σ) :
    Kept (processedKey config envelope) db.processedEvents
        (processWithRetry config handle topic envelope env db) ∧
      (processWithRetry config handle topic envelope env db).handlerRuns ≤
        config.maxRetries + 1 := by
  have h := retryLoop_ok config handle topic envelope env 0 config.maxRetries db 0
  rwa [Nat.zero_add] at h

end Process

/-! ## Deliveries -/

/-- What one call of `process_message` promises. -/
structure Contract (config : ConsumerConfig) (msg : Message) (env : ProcessEnv D)
    (d : Delivery σ) : Prop where
  handlerRuns : ∀ p, d.processed = some p → p.handlerRuns ≤ config.maxRetries + 1
  dlq : d.dlq.length ≤ 1
  offset : d.offsetCommitted = true ↔ match d.processed with
    | some p => p.result = .success ∨ p.result = .skipped ∨ p.result = .sentToDlq
    | none => env.dlq = .ok
  sentToDlq : ∀ topic envelope p, msg = .event topic envelope → d.processed = some p →
    p.result = .sentToDlq → p.handled = false ∧ processedKey config envelope ∉ d.db.processedEvents

section Deliveries

variable {config : ConsumerConfig} {handle : EventEnvelope → Prog D HandlerError Unit}

theorem processMessage_contract (msg : Message) (env : ProcessEnv D) (db : Tables σ) :
    Contract config msg env (processMessage config handle msg env db) := by
  cases msg with
  | malformed topic rawPayload error =>
    refine ⟨by simp [processMessage], sendRecord_length_le .., ?_, by simp⟩
    simp only [processMessage, publishRawToDlq]
    cases env.dlq <;> simp [sendRecord]
  | event topic envelope =>
    obtain ⟨hkept, hruns⟩ := processWithRetry_ok config handle topic envelope env db
    refine ⟨?_, hkept.dlq, ?_, ?_⟩
    · rintro p ⟨⟩
      exact hruns
    · simp only [processMessage]
      cases (processWithRetry config handle topic envelope env db).result <;> simp
    · rintro topic' envelope' p ⟨⟩ ⟨⟩ hr
      obtain ⟨hhandled, hkey⟩ := hkept.sentToDlq hr
      refine ⟨hhandled, ?_⟩
      change _ ∉ (processWithRetry config handle topic envelope env db).db.processedEvents
      rw [hkept.rows, hhandled]
      simpa using hkey

/-- The effects were committed at most once for each event, and their rows with them; the other
    rows are among `ps`. -/
structure Tracked (ps : List ProcessedKey) (s : State σ) : Prop where
  nodup : s.effects.Nodup
  rows : ∀ key ∈ s.effects, key ∈ s.db.processedEvents
  effects : ∀ key ∈ s.db.processedEvents, key ∈ s.effects ∨ key ∈ ps

theorem tracked_processed {ps : List ProcessedKey} {s : State σ} {key : ProcessedKey}
    {p : Processed σ} (h : Tracked ps s) (hkept : Kept key s.db.processedEvents p) :
    Tracked ps { db := p.db, effects := if p.handled then s.effects ++ [key] else s.effects } := by
  have hrows := hkept.rows
  cases hhandled : p.handled with
  | false =>
    simp only [hhandled, Bool.false_eq_true, if_false, List.append_nil] at hrows ⊢
    exact ⟨h.nodup, by simpa [hrows] using h.rows, by simpa [hrows] using h.effects⟩
  | true =>
    simp only [hhandled, if_true] at hrows ⊢
    have hfresh : key ∉ s.effects := fun hmem => hkept.fresh hhandled (h.rows key hmem)
    refine ⟨?_, fun k hk => ?_, fun k hk => ?_⟩
    · rw [List.nodup_append_comm, List.singleton_append]
      exact h.nodup.cons hfresh
    · rw [hrows, List.mem_append]
      exact (List.mem_append.mp hk).imp_left (h.rows k)
    · rw [hrows, List.mem_append] at hk
      rw [List.mem_append]
      rcases hk with hk | hk
      · exact (h.effects k hk).imp_left .inl
      · exact .inl (.inr hk)

theorem tracked_step {ps : List ProcessedKey} {s t : State σ} {a : Label D} (h : Tracked ps s)
    (hstep : step config handle s a = some t) : Tracked ps t := by
  cases a with
  | deliver msg env =>
    cases hstep
    cases msg with
    | malformed topic rawPayload error => exact h
    | event topic envelope =>
      obtain ⟨hkept, -⟩ := processWithRetry_ok config handle topic envelope env s.db
      exact tracked_processed h hkept
  | other write =>
    cases hstep
    exact ⟨h.nodup, h.rows, h.effects⟩
  | cleanup keep =>
    cases hstep
    refine ⟨h.nodup.filter keep, fun key hkey => ?_, fun key hkey => ?_⟩
    · obtain ⟨hmem, hkeep⟩ := List.mem_filter.mp hkey
      exact List.mem_filter.mpr ⟨h.rows key hmem, hkeep⟩
    · obtain ⟨hmem, hkeep⟩ := List.mem_filter.mp hkey
      exact (h.effects key hmem).imp_left fun hmem => List.mem_filter.mpr ⟨hmem, hkeep⟩

/-- Over every run of an instance, from any tables, whatever its handler, the environment and
    the rest of the service do: the transaction of an attempt is committed as a whole or not at
    all, the effects of a handler are committed at most once as long as their row is there, and
    every delivery keeps its contract. -/
theorem consumer_contract (config : ConsumerConfig)
    (handle : EventEnvelope → Prog D HandlerError Unit) (db : Tables σ) (as : List (Label D))
    {s : State σ} (h : Run.run (step config handle) { db } as = some s) :
    Tracked db.processedEvents s ∧
      (∀ envelope env db, Ended (handle envelope) (processedKey config envelope) env.env db
        (tryProcessOnce (handle envelope) (processedKey config envelope) env db)) ∧
      ∀ msg env, Contract config msg env (processMessage config handle msg env s.db) := by
  have hinit : Tracked db.processedEvents ({ db } : State σ) :=
    ⟨List.nodup_nil, by simp, fun key hkey => .inr hkey⟩
  have htracked := Run.run_invariant (fun s a t h hstep => tracked_step h hstep) hinit h
  exact ⟨htracked, fun envelope env db => tryProcessOnce_ended _ _ env db,
    fun msg env => processMessage_contract msg env s.db⟩

end Deliveries

/-! ## A delivery, and a redelivery -/

section Sample

open Catalog.Interleaving (catalogSql)

/-- A handler that releases the reservations of an order, and is tried again when this fails. -/
def sampleHandle (envelope : EventEnvelope) : Prog catalogSql HandlerError Unit :=
  (Catalog.Interleaving.releaseForOrderOnTx envelope.metadata.aggregateId).mapErr
    fun e => .transient (toString e)

def sampleConfig : ConsumerConfig := { groupId := "catalog-order-events", maxRetries := 2 }

/-- The connection is lost in the handler in each of the first `n` attempts. -/
def sampleEnv (n : Nat) : ProcessEnv catalogSql where
  attempts i :=
    { env :=
        { input := fun _ => ()
          fault := fun sent => if i < n ∧ sent = 1 then some "connection reset" else none } }

def sampleMessage : Message := .event "order.events" sampleCancelled

/-- `BEGIN` fails, then the second attempt succeeds, and the message is delivered once more. -/
def sampleDeliveries : List (Label catalogSql) :=
  [.deliver sampleMessage
      { attempts := fun _ => { beginOk := false, env := { input := fun _ => () } } },
    .deliver sampleMessage (sampleEnv 1), .deliver sampleMessage (sampleEnv 0)]

theorem consumer_contract_sample :
    ∃ s, Run.run (step sampleConfig sampleHandle) { db := { tables := sampleTables } }
        sampleDeliveries = some s ∧
      s.effects = [processedKey sampleConfig sampleCancelled] ∧
      s.db.tables.skus.rows.map (·.reservedQuantity) = [3] ∧ s.effects.Nodup := by
  have hrun : (Run.run (step sampleConfig sampleHandle) { db := { tables := sampleTables } }
      sampleDeliveries).map (fun s => decide
        (s.effects = [processedKey sampleConfig sampleCancelled] ∧
          s.db.tables.skus.rows.map (·.reservedQuantity) = [3])) = some true := by decide +kernel
  obtain ⟨s, hs, heffects, hskus⟩ := Run.run_decide hrun
  exact ⟨s, hs, heffects, hskus, (consumer_contract _ _ _ sampleDeliveries hs).1.nodup⟩

end Sample

end Koupang.Consumer.Retry
