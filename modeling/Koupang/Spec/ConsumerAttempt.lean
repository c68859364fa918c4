import Koupang.Model.CatalogInterleaving

/-!
# Attempts at one event, interleaved

Two attempts can both pass the idempotency check, and `ON CONFLICT DO NOTHING`
lets both commit. The effects of a handler are committed at most once exactly
as long as every attempt that commits has itself inserted the event into
`processed_events`.

## Key results

- `wp_onTables`: what a handler's statements do, seen from the attempt
- `effects_le_one_iff`: when the effects are committed at most once
- `effects_twice`: two instances release the same reservations
-/

namespace Koupang.Consumer

open ReadCommitted

variable {σ ε α γ : Type} {D : Database σ}

/-! ## Programs of an attempt -/

/-- What a protocol of an attempt says about the statements of the handler. -/
def handlerProtocol (A : Protocol (withProcessedEvents D) γ) : Protocol D γ where
  pre g c s := A.pre g c (.handler s)
  next g c s r g' := A.next g c (.handler s) r g'

theorem wp_onTables {A : Protocol (withProcessedEvents D) γ} {x : Prog D ε α}
    {Q : γ → Except ε α → Prop} {g : γ} (h : x.wp (handlerProtocol A) Q g) :
    (onTables x).wp A Q g := by
  induction x generalizing g with
  | done r => exact h
  | stmt c s k ih => exact ⟨h.1, fun r g' hnext => ih r (h.2 r g' hnext)⟩

/-- A protocol of the handler, followed by the whole attempt. -/
def liftProtocol (B : Protocol D γ) : Protocol (withProcessedEvents D) γ where
  pre g c s := match s with
    | .handler s => B.pre g c s
    | _ => c = .tx
  next g c s r g' := match s, r with
    | .handler s, r => B.next g c s r g'
    | _, _ => g' = g

theorem wp_tryProcessOnceOnTx_lift {B : Protocol D γ} {handle : Prog D HandlerError Unit}
    {key : ProcessedKey} {Q : γ → Except AttemptResult AttemptResult → Prop} {g : γ}
    (hskip : Q g (.ok .alreadyProcessed)) (herror : Q g (.error .dbError))
    (hhandle : handle.wp B (fun g' r => match r with
      | .ok _ => Q g' (.ok .committed) ∧ Q g' (.error .dbError)
      | .error e => Q g' (.error (handlerFailure e))) g) :
    (tryProcessOnceOnTx handle key).wp (liftProtocol B) Q g := by
  refine Prog.wp_bind (Prog.wp_send rfl (fun processed g' hnext => ?_) fun e g' hnext => ?_)
  · cases (hnext : g' = g)
    cases processed with
    | true => exact hskip
    | false =>
      refine Prog.wp_bind (Prog.wp_mapErr (wp_onTables (Prog.wp_mono hhandle fun g' r h => ?_)))
      cases r with
      | error e => exact h
      | ok u =>
        refine Prog.wp_bind (Prog.wp_send rfl (fun _ g'' hnext => ?_) fun e g'' hnext => ?_)
        · cases (hnext : g'' = g')
          exact h.1
        · cases (hnext : g'' = g')
          exact h.2
  · cases (hnext : g' = g)
    exact herror

/-! ## At most once -/

/-- How often the effects of the handler have been committed. -/
def effects (s : AttemptState D) : Nat := s.history.countP (·.result = .committed)

/-- What the session's program has ended with. -/
def ended (se : Session (withProcessedEvents D) Unit AttemptResult AttemptResult) :
    Option AttemptResult :=
  match se.prog with
  | .done (.ok r) => some r
  | _ => none

/-- An attempt whose handler has run is committed only if its `INSERT` has inserted the event,
    rather than found it there. -/
def Inserts (key : ProcessedKey) (s : AttemptState D) : AttemptLabel D → Prop
  | .commit i => ∀ se ∈ s.sessions.rows, se.id = i → se.aborted = false →
    ended se = some .committed → ∃ w ∈ se.writes, (withProcessedEvents D).key w = some (.inr key)
  | _ => True

instance (key : ProcessedKey) (s : AttemptState D) : ∀ a, Decidable (Inserts key s a)
  | .commit _ => inferInstanceAs (Decidable (∀ se ∈ s.sessions.rows, _))
  | .start .. | .exec .. | .fault .. | .rollback _ => .isTrue trivial

/-- How far an attempt is. -/
inductive Phase where
  | unchecked
  | checked
  | marked

/-- An attempt checks the event first, and marks it last. -/
def attemptProtocol (D : Database σ) (key : ProcessedKey) :
    Protocol (withProcessedEvents D) Phase where
  pre g c s := match s with
    | .handler _ => g = .checked
    | .isEventProcessed k => k = key ∧ c = .tx ∧ g = .unchecked
    | .markEventProcessed k => k = key ∧ c = .tx ∧ g = .checked
  next g _ s r g' := match s, r with
    | .isEventProcessed _, .ok false => g' = .checked
    | .markEventProcessed _, .ok _ => g' = .marked
    | _, _ => g' = g

/-- An attempt is to be committed as handled exactly when it has marked the event. -/
def EndsMarked (g : Phase) (r : Except AttemptResult AttemptResult) : Prop :=
  ∀ a, r = .ok a → (a = .committed ↔ g = .marked)

/-- A handler stays in the phase it runs in. -/
theorem wp_handler (key : ProcessedKey) (x : Prog D ε α) :
    x.wp (handlerProtocol (attemptProtocol D key)) (fun g _ => g = .checked) .checked := by
  induction x with
  | done r => rfl
  | stmt c s k ih =>
    refine ⟨rfl, fun r g' hnext => ?_⟩
    cases (hnext : g' = .checked)
    exact ih r

theorem wp_tryProcessOnceOnTx (handle : Prog D HandlerError Unit) (key : ProcessedKey) :
    (tryProcessOnceOnTx handle key).wp (attemptProtocol D key) EndsMarked .unchecked := by
  refine Prog.wp_bind (Prog.wp_send ⟨rfl, rfl, rfl⟩ (fun processed g' hnext => ?_)
    fun e g' hnext => nofun)
  cases processed with
  | true =>
    cases (hnext : g' = .unchecked)
    rintro a ⟨⟩
    exact iff_of_false nofun nofun
  | false =>
    cases (hnext : g' = .checked)
    refine Prog.wp_bind (Prog.wp_mapErr (wp_onTables (Prog.wp_mono (wp_handler key handle) ?_)))
    rintro g r rfl
    cases r with
    | error e => nofun
    | ok u =>
      refine Prog.wp_bind (Prog.wp_send ⟨rfl, rfl, rfl⟩ (fun u g' hnext => ?_)
        fun e g' hnext => nofun)
      cases (hnext : g' = .marked)
      rintro a ⟨⟩
      exact iff_of_true rfl rfl

/-- What some writes do to the tables of the service. -/
theorem tables_view (ws : List (D.Write ⊕ ProcessedKey)) (db : Tables σ) :
    (view (withProcessedEvents D) ws db).tables = view D (ws.filterMap Sum.getLeft?) db.tables := by
  induction ws generalizing db with
  | nil => rfl
  | cons w ws ih =>
    cases w with
    | inl w => exact ih _
    | inr k => exact ih _

theorem tables_view_handler (dws : List D.Write) (db : Tables σ) :
    (view (withProcessedEvents D) (dws.map .inl) db).tables = view D dws db.tables := by
  have hleft : Sum.getLeft? ∘ Sum.inl (β := ProcessedKey) = some (α := D.Write) := rfl
  rw [tables_view, List.filterMap_map, hleft, List.filterMap_some]

theorem mem_processedEvents_view (ws : List (D.Write ⊕ ProcessedKey)) (db : Tables σ)
    (k : ProcessedKey) :
    k ∈ (view (withProcessedEvents D) ws db).processedEvents ↔
      k ∈ db.processedEvents ∨ .inr k ∈ ws := by
  induction ws generalizing db with
  | nil => simp [view]
  | cons w ws ih =>
    refine (ih _).trans ?_
    cases w with
    | inl w => simp
    | inr k' => simp [or_assoc]

theorem inr_notMem_immediate (k : ProcessedKey) (ws : List (D.Write ⊕ ProcessedKey)) :
    .inr k ∉ immediate (withProcessedEvents D) ws := by
  simp [immediate]

theorem inr_mem_transactional (k : ProcessedKey) (ws : List (D.Write ⊕ ProcessedKey)) :
    .inr k ∈ transactional (withProcessedEvents D) ws ↔ .inr k ∈ ws := by
  simp [transactional]

/-- A statement of the handler, executed on the tables of its service. -/
theorem exec_handler_ok {s : D.Stmt} {input : D.Input} {db : Tables σ} {a : D.Result s}
    {ws : List (D.Write ⊕ ProcessedKey)}
    (h : (withProcessedEvents D).exec (.handler s) input db = .ok (a, ws)) :
    ∃ dws, D.exec s input db.tables = .ok (a, dws) ∧ ws = dws.map .inl := by
  obtain ⟨p, hexec, heq⟩ := Except.map_eq_ok.mp h
  cases heq
  exact ⟨p.2, hexec, rfl⟩

theorem exec_handler_error {s : D.Stmt} {input : D.Input} {db : Tables σ} {e : String}
    (h : (withProcessedEvents D).exec (.handler s) input db = .error e) :
    D.exec s input db.tables = .error e := by
  change (D.exec s input db.tables).map _ = _ at h
  cases hexec : D.exec s input db.tables with
  | error e' =>
    rw [hexec] at h
    cases h
    rfl
  | ok p =>
    rw [hexec] at h
    exact nomatch h

/-- A statement of the handler does not write `processed_events`. -/
theorem inr_notMem_of_handler {s : D.Stmt} {input : D.Input} {db : Tables σ} {a : D.Result s}
    {ws : List (D.Write ⊕ ProcessedKey)}
    (h : (withProcessedEvents D).exec (.handler s) input db = .ok (a, ws)) (k : ProcessedKey) :
    .inr k ∉ ws := by
  obtain ⟨dws, -, rfl⟩ := exec_handler_ok h
  simp

section Inv

variable (key : ProcessedKey) (ps : List ProcessedKey)

/-- What is known of an attempt in the phase `g`, when the effects were committed `n` times and
    `ps` was processed before. -/
structure InPhase (n : Nat) (g : Phase) (writes : List (D.Write ⊕ ProcessedKey)) : Prop where
  written : ∀ k, .inr k ∈ writes → k = key ∧ g = .marked
  fresh : g ≠ .unchecked → key ∉ ps
  /-- it has inserted the key, and holds its lock, or it has found the key there -/
  marked : g = .marked → (.inr key ∈ writes ∧ n = 0) ∨ (.inr key ∉ writes ∧ 1 ≤ n)

/-- The event is in `processed_events` exactly when its effects were committed. -/
def Tracks (s : AttemptState D) : Prop :=
  key ∈ s.committed.processedEvents ↔ 1 ≤ effects s ∨ key ∈ ps

abbrev AttemptInv : AttemptState D → Prop :=
  ReadCommitted.Inv (attemptProtocol D key) EndsMarked (Tracks key ps)
    fun s g se => InPhase key ps (effects s) g se.writes

variable {key ps} {s t : AttemptState D}
  {se : Session (withProcessedEvents D) Unit AttemptResult AttemptResult}

/-- More writes of the handler change nothing. -/
theorem InPhase.append {n : Nat} {g : Phase} {writes ws : List (D.Write ⊕ ProcessedKey)}
    (h : InPhase key ps n g writes) (hws : ∀ k, .inr k ∉ ws) :
    InPhase key ps n g (writes ++ ws) := by
  refine ⟨fun k hk => ?_, h.fresh, fun hg => ?_⟩
  · exact h.written k ((List.mem_append.mp hk).resolve_right (hws k))
  · simpa [hws key] using h.marked hg

/-- A statement of an attempt leads to the phase of the protocol. -/
theorem InPhase.exec {g : Phase} (hphase : InPhase key ps (effects s) g se.writes)
    (h : Tracks key ps s) {st : Stmt D} {input : D.Input} {a : (withProcessedEvents D).Result st}
    {ws : List (D.Write ⊕ ProcessedKey)} (hpre : (attemptProtocol D key).pre g .tx st)
    (hexec : (withProcessedEvents D).exec st input
      (view (withProcessedEvents D) se.writes s.committed) = .ok (a, ws)) :
    ∃ g', (attemptProtocol D key).next g .tx st (.ok a) g' ∧
      InPhase key ps (effects s) g' (se.writes ++ transactional (withProcessedEvents D) ws) := by
  cases st with
  | handler st =>
    refine ⟨g, rfl, hphase.append fun k hk => ?_⟩
    exact inr_notMem_of_handler hexec k ((inr_mem_transactional k ws).mp hk)
  | isEventProcessed k =>
    obtain ⟨rfl, -, rfl⟩ := hpre
    cases hexec
    cases hcontains : (view (withProcessedEvents D) se.writes
        s.committed).processedEvents.contains k with
    | true => exact ⟨.unchecked, rfl, hphase.append (by simp [transactional])⟩
    | false =>
      have hnotin : k ∉ s.committed.processedEvents := fun hk =>
        absurd ((mem_processedEvents_view se.writes s.committed k).mpr (.inl hk))
          (by simpa using hcontains)
      refine ⟨.checked, rfl, ?_⟩
      simp only [transactional, List.filter_nil, List.append_nil]
      refine ⟨fun k' hk' => ?_, fun _ hps => hnotin (h.mpr (.inr hps)), fun hg => by cases hg⟩
      cases (hphase.written k' hk').2
  | markEventProcessed k =>
    obtain ⟨rfl, -, rfl⟩ := hpre
    have hfresh := hphase.fresh (by simp)
    have hown : .inr k ∉ se.writes := fun hk => by cases (hphase.written k hk).2
    have hiff : k ∈ (view (withProcessedEvents D) se.writes s.committed).processedEvents ↔
        1 ≤ effects s := by
      unfold Tracks at h
      rw [mem_processedEvents_view, h]
      simp [hown, hfresh]
    cases hexec
    refine ⟨.marked, rfl, fun k' hk' => ⟨?_, rfl⟩, fun _ => hfresh, fun _ => ?_⟩
    · rw [List.mem_append, inr_mem_transactional] at hk'
      rcases hk' with hk' | hk'
      · exact (hphase.written k' hk').1
      · split at hk'
        · cases hk'
        · simpa using hk'
    · rw [List.mem_append, inr_mem_transactional]
      by_cases hn : 1 ≤ effects s
      · -- another attempt has committed: ON CONFLICT DO NOTHING
        exact .inr ⟨by simp [hown, hiff.mpr hn], hn⟩
      · refine .inl ⟨.inr ?_, by omega⟩
        rw [if_neg (by simpa using fun hk => hn (hiff.mp hk))]
        exact List.mem_singleton_self _

/-- The handler's statements do not write `processed_events` on the pool either. -/
theorem processedEvents_pool {st : Stmt D} {g : Phase} {c : Conn} (hc : c ≠ .tx)
    (hpre : (attemptProtocol D key).pre g c st) {input : D.Input} {db : Tables σ}
    {a : (withProcessedEvents D).Result st} {ws : List (D.Write ⊕ ProcessedKey)}
    (hexec : (withProcessedEvents D).exec st input db = .ok (a, ws)) :
    (attemptProtocol D key).next g c st (.ok a) g ∧ ∀ k, .inr k ∉ ws := by
  cases st with
  | handler st => exact ⟨rfl, inr_notMem_of_handler hexec⟩
  | isEventProcessed k => exact absurd hpre.2.1 hc
  | markEventProcessed k => exact absurd hpre.2.1 hc

theorem processedEvents_view {ws : List (D.Write ⊕ ProcessedKey)} (hws : ∀ k, .inr k ∉ ws)
    (db : Tables σ) :
    (view (withProcessedEvents D) ws db).processedEvents = db.processedEvents := by
  induction ws generalizing db with
  | nil => rfl
  | cons w ws ih =>
    refine (ih (fun k hk => hws k (List.mem_cons_of_mem _ hk)) _).trans ?_
    cases w with
    | inl w => rfl
    | inr k => exact absurd (List.mem_cons_self ..) (hws k)

theorem next_error (g : Phase) (c : Conn) (st : Stmt D) (e : String) :
    (attemptProtocol D key).next g c st (.error e) g := by
  cases st <;> rfl

theorem inserts_of_sends {a : AttemptLabel D} {i : Nat} (h : a.Sends i) : Inserts key s a := by
  rcases h with ⟨input, rfl⟩ | ⟨e, rfl⟩ <;> trivial

theorem ended_of_done {r : AttemptResult} (h : se.prog = .done (.ok r)) : ended se = some r := by
  simp [ended, h]

/-- The commit of an attempt whose program has ended with `r`. -/
theorem inserts_commit (hse : se ∈ s.sessions.rows) (hab : se.aborted = false)
    {r : AttemptResult} (hprog : se.prog = .done (.ok r)) :
    Inserts key s (.commit se.id) ↔ (r = .committed → .inr key ∈ se.writes) := by
  have hmem : (∃ w ∈ se.writes, (withProcessedEvents D).key w = some (.inr key)) ↔
      .inr key ∈ se.writes := by
    constructor
    · rintro ⟨w | k, hw, hkey⟩
      · simp at hkey
      · cases hkey
        exact hw
    · exact fun h => ⟨_, h, rfl⟩
  constructor
  · rintro h rfl
    exact hmem.mp (h se hse rfl hab (ended_of_done hprog))
  · intro h x hx hid _ hended
    cases s.sessions.eq_of_key_eq hx hse hid
    rw [ended_of_done hprog] at hended
    exact hmem.mpr (h (Option.some.inj hended))

/-- Another attempt was committed, which has not inserted the key. -/
theorem InPhase.mono {n m : Nat} {g : Phase} {writes : List (D.Write ⊕ ProcessedKey)}
    (h : InPhase key ps n g writes) (hle : n ≤ m) (heq : .inr key ∈ writes → m = n) :
    InPhase key ps m g writes := by
  refine ⟨h.written, h.fresh, fun hg => ?_⟩
  rcases h.marked hg with ⟨hmem, hn⟩ | ⟨hmem, hn⟩
  · exact .inl ⟨hmem, (heq hmem).trans hn⟩
  · exact .inr ⟨hmem, hn.trans hle⟩

theorem effects_drop (i : Nat) : effects (s.drop i) = effects s := rfl

/-- The commit of an attempt that has ended with `r`. -/
theorem AttemptInv.commit (h : AttemptInv key ps s) (hse : se ∈ s.sessions.rows) {r : AttemptResult}
    (hprog : se.prog = .done (.ok r)) (hexcl : Exclusive (t.drop se.id))
    (hcommitted : t.committed = view (withProcessedEvents D) se.writes s.committed)
    (hsessions : t.sessions = s.sessions)
    (heffects : effects t = effects s + if r = .committed then 1 else 0) :
    AttemptInv key ps (t.drop se.id) ∧
      (r = .committed → (.inr key ∈ se.writes ↔ effects s = 0)) := by
  obtain ⟨g, hphase, hends⟩ := h.done hse hprog
  have hmarked := hends r rfl
  have hmem := mem_processedEvents_view se.writes s.committed key
  have htracks : key ∈ s.committed.processedEvents ↔ 1 ≤ effects s ∨ key ∈ ps := h.state
  rw [← hcommitted, htracks] at hmem
  by_cases hr : r = .committed
  · rw [if_pos hr] at heffects
    have hcase := hphase.marked (hmarked.mp hr)
    refine ⟨h.drop hexcl hsessions ?_ fun x hx hne gx hphasex => ?_, fun _ => ?_⟩
    · change key ∈ t.committed.processedEvents ↔ 1 ≤ effects t ∨ key ∈ ps
      rw [hmem, heffects]
      rcases hcase with ⟨hin, -⟩ | ⟨-, hn⟩
      · simp [hin]
      · simp [hn]
    · rw [effects_drop]
      refine hphasex.mono (by omega) fun hkey => ?_
      -- `x` has inserted the key, so `se` can neither have inserted it nor found it there
      obtain ⟨-, rfl⟩ := hphasex.written key hkey
      rcases hcase with ⟨hin, -⟩ | ⟨-, hn⟩
      · exact absurd rfl (h.exclusive x hx se hse hne _ hkey _ hin rfl)
      · rcases hphasex.marked rfl with ⟨-, hzero⟩ | ⟨hnotin, -⟩
        · omega
        · exact absurd hkey hnotin
    · rcases hcase with ⟨hin, hn⟩ | ⟨hnotin, hn⟩
      · exact iff_of_true hin hn
      · exact iff_of_false hnotin (by omega)
  · rw [if_neg hr, Nat.add_zero] at heffects
    have hnotin : .inr key ∉ se.writes := fun hin => hr (hmarked.mpr (hphase.written key hin).2)
    refine ⟨h.drop hexcl hsessions ?_ fun x _ _ gx hphasex => ?_, fun h => absurd h hr⟩
    · change key ∈ t.committed.processedEvents ↔ 1 ≤ effects t ∨ key ∈ ps
      rw [hmem, heffects]
      simp [hnotin]
    · rw [effects_drop, heffects]
      exact hphasex

/-- What a step keeps, and when the effects are still committed at most once after it. -/
theorem attemptInv_step {handle : Prog D HandlerError Unit} {a : AttemptLabel D}
    (h : AttemptInv key ps s) (hle : effects s ≤ 1) (hstep : attempts handle key s a = some t) :
    AttemptInv key ps t ∧ (effects t ≤ 1 ↔ Inserts key s a) := by
  have hcases := step_cases hstep
  have hexcl := exclusive_step h.exclusive hcases
  -- nothing but a commit changes what is known of the other attempts
  have hput {u : AttemptState D} {se : Session (withProcessedEvents D) Unit AttemptResult
      AttemptResult} (hexcl : Exclusive (u.put se)) (hsessions : u.sessions = s.sessions)
      (hhistory : u.history = s.history)
      (hprocessed : u.committed.processedEvents = s.committed.processedEvents)
      (hse : ∃ g, InPhase key ps (effects s) g se.writes ∧
        se.prog.wp (attemptProtocol D key) EndsMarked g) : AttemptInv key ps (u.put se) := by
    have heffects : effects (u.put se) = effects s := congrArg (List.countP _) hhistory
    refine ReadCommitted.Inv.put h hexcl hsessions ?_ (by rwa [heffects]) fun x _ _ g hx => ?_
    · unfold Tracks
      rw [heffects]
      exact (iff_of_eq (congrArg (key ∈ ·) hprocessed)).trans h.state
    · rwa [heffects]
  cases hcases with
  | start hfree =>
    refine ⟨hput hexcl rfl rfl rfl ⟨.unchecked, ⟨nofun, nofun, nofun⟩, ?_⟩,
      iff_of_true hle trivial⟩
    exact wp_tryProcessOnceOnTx handle key
  | @exec se st k input a ws hse hprog hab hexec hfree =>
    obtain ⟨g, hphase, hpre, hwp⟩ := h.stmt hse hprog
    obtain ⟨g', hnext, hphase'⟩ := hphase.exec h.state hpre hexec
    refine ⟨hput hexcl rfl rfl ?_ ⟨g', hphase', hwp _ _ hnext⟩, iff_of_true hle trivial⟩
    exact processedEvents_view (fun k => inr_notMem_immediate k ws) _
  | abort hlabel hse hprog =>
    obtain ⟨g, hphase, hpre, hwp⟩ := h.stmt hse hprog
    exact ⟨hput hexcl rfl rfl rfl ⟨g, hphase, hwp _ _ (next_error g _ _ _)⟩,
      iff_of_true hle (inserts_of_sends hlabel)⟩
  | pool hse hprog hc hexec hfree =>
    obtain ⟨g, hphase, hpre, hwp⟩ := h.stmt hse hprog
    obtain ⟨hnext, hws⟩ := processedEvents_pool hc hpre hexec
    exact ⟨hput hexcl rfl rfl (processedEvents_view hws _) ⟨g, hphase, hwp _ _ hnext⟩,
      iff_of_true hle trivial⟩
  | poolError hlabel hse hprog hc =>
    obtain ⟨g, hphase, hpre, hwp⟩ := h.stmt hse hprog
    exact ⟨hput hexcl rfl rfl rfl ⟨g, hphase, hwp _ _ (next_error g _ _ _)⟩,
      iff_of_true hle (inserts_of_sends hlabel)⟩
  | @commit se r hse hprog hab =>
    have heffects (c : AttemptState D)
        (hc : c.history = s.history ++ [⟨se.request, r, se.writes⟩]) :
        effects c = effects s + if r = .committed then 1 else 0 := by
      simp [effects, hc, List.countP_append, List.countP_cons]
    obtain ⟨hinv, hinserted⟩ := AttemptInv.commit h hse hprog hexcl rfl rfl (heffects _ rfl)
    refine ⟨hinv, ?_⟩
    rw [inserts_commit hse hab hprog, effects_drop, heffects _ rfl]
    by_cases hr : r = .committed
    · rw [if_pos hr, hinserted hr]
      simp [hr]
    · rw [if_neg hr]
      simp [hr, hle]
  | drop hse hlabel =>
    refine ⟨ReadCommitted.Inv.drop h hexcl rfl h.state fun x _ _ g hx => hx,
      iff_of_true hle ?_⟩
    rcases hlabel with rfl | ⟨rfl, hab⟩
    · trivial
    · intro x hx hid hab'
      cases s.sessions.eq_of_key_eq hx hse hid
      exact absurd (hab.symm.trans hab') (by simp)

end Inv

/-- Over every interleaving of attempts at an event, from any database, the effects of the
    handler are committed at most once exactly when no attempt is committed that has found the
    event in `processed_events` when it was to insert it. -/
theorem effects_le_one_iff (handle : Prog D HandlerError Unit) (key : ProcessedKey)
    (db : Tables σ) (as : List (AttemptLabel D)) {s : AttemptState D}
    (h : Run.run (attempts handle key) { committed := db } as = some s) :
    (∀ u, Run.Visits (attempts handle key) { committed := db } as u → effects u ≤ 1) ↔
      Run.Meets (attempts handle key) (Inserts key) { committed := db } as := by
  have hinit : AttemptInv key db.processedEvents ({ committed := db } : AttemptState D) :=
    .init (by simp [Tracks, effects])
  exact Run.run_forall_iff (fun s a t hinv hle hstep => attemptInv_step hinv hle hstep) hinit
    (Nat.zero_le _) h

/-! ## Two instances of the catalog -/

section Sample

open Catalog (CatalogDb)
open Catalog.Interleaving (catalogSql processedKey)

/-- Two orders have reserved a SKU: 2 and 3 of 10. -/
def sampleTables : CatalogDb :=
  { skus := ⟨[{ id := ⟨1, 0⟩, stockQuantity := 10, reservedQuantity := 5, deleted := false }],
      by decide⟩
    inventoryReservations :=
      ⟨[{ id := ⟨1, 1⟩, orderId := ⟨0, 0⟩, skuId := ⟨1, 0⟩, quantity := 2, status := .reserved },
        { id := ⟨1, 2⟩, orderId := ⟨0, 1⟩, skuId := ⟨1, 0⟩, quantity := 3, status := .reserved }],
      by decide⟩
    uuids := 3 }

/-- The first of the orders is cancelled. -/
def sampleCancelled : EventEnvelope :=
  { metadata :=
      { eventId := ⟨0, 2⟩, eventType := .orderCancelled, aggregateType := .order,
        aggregateId := ⟨0, 0⟩, sourceService := .order }
    payload := { orderId := some ⟨0, 0⟩ } }

def attemptsAtCancelled : AttemptState catalogSql → AttemptLabel catalogSql →
    Option (AttemptState catalogSql) :=
  attempts (Catalog.Interleaving.handle sampleCancelled) (processedKey sampleCancelled)

/-- An instance dies in its handler, a second one handles the event, a third one skips it. -/
def redelivered : List (AttemptLabel catalogSql) :=
  [.start 0 (), .exec 0 (), .exec 0 (), .exec 0 (), .start 1 (), .exec 1 (), .rollback 0,
   .exec 1 (), .exec 1 (), .exec 1 (), .exec 1 (), .exec 1 (), .commit 1,
   .start 2 (), .exec 2 (), .commit 2]

theorem effects_redelivered :
    ∃ s, Run.run attemptsAtCancelled { committed := { tables := sampleTables } } redelivered =
        some s ∧ effects s = 1 ∧
      ∀ u, Run.Visits attemptsAtCancelled { committed := { tables := sampleTables } } redelivered
        u → effects u ≤ 1 := by
  have hrun : (Run.run attemptsAtCancelled { committed := { tables := sampleTables } }
      redelivered).map (fun s => decide (effects s = 1)) = some true := by decide
  obtain ⟨s, hs, hone⟩ := Run.run_decide hrun
  exact ⟨s, hs, hone, (effects_le_one_iff _ _ _ redelivered hs).mpr (by decide)⟩

/-- Both instances pass the check and find the reservation; the second one waits for the lock
    of the SKU and goes on after the first one has committed. -/
def releasedTwice : List (AttemptLabel catalogSql) :=
  [.start 0 (), .start 1 (), .exec 0 (), .exec 1 (), .exec 0 (), .exec 1 (), .exec 0 (), .exec 1 (),
   .exec 0 (), .exec 0 (), .exec 0 (), .commit 0, .exec 1 (), .exec 1 (), .exec 1 (), .commit 1]

theorem effects_twice :
    ∃ s, Run.run attemptsAtCancelled { committed := { tables := sampleTables } } releasedTwice =
        some s ∧ effects s = 2 ∧ s.committed.tables.skus.rows.map (·.reservedQuantity) = [1] :=
  Run.run_decide (by decide)

end Sample

end Koupang.Consumer
