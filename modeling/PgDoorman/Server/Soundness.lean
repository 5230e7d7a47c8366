import PgDoorman.Server.Backend

/-!
# The bookkeeping is sound while nothing fails

`vouched_bind_finds_no_statement` shows the bookkeeping out of step with PostgreSQL after an
ErrorResponse. Without one, it stays in step. If PostgreSQL accepts every query, no statement
fails or deallocates, and the client closes no statement of the pool's kind, then every Bind or
Describe pg_doorman vouches for finds its statement, and every name in the LRU is on PostgreSQL
or has its Parse waiting in the buffer. With `cleanup_server_connections` this holds across
checkins too, a client leaving before Sync included. It holds for every LRU cache that obeys
`LawfulLruCache`, whenever and whichever key its `push` evicts.

## The invariant

Between two client messages:

* the names `has_prepared_statement` answers for, those of the LRU and the deferred Closes, are
  PostgreSQL's statements and the names of the Parses waiting in the buffer;
* the deferred names are distinct and none of them is in the LRU;
* the buffer is one PostgreSQL serves without an error (`Serviceable`);
* a waiting Parse has set `has_pending_cache_entries`.

A Sync then finds PostgreSQL installing the waiting Parses and the deferred Closes removing the
evicted names, which leaves the LRU and PostgreSQL holding the same names.

## Main definitions

* `Server.Holds`: the names `has_prepared_statement` answers for
* `Serviceable`, `installed`: a buffer served without error, and the statements after it
* `benign`: the client messages of a run in which nothing fails
* `Sound`: the invariant

## Main results

* `sound_step`: every benign message keeps the invariant
* `bookkeeping_sound_without_errors`: along every benign run from a fresh connection, no vouched
  reference is dangling and the LRU names only statements PostgreSQL has or is about to create
-/

namespace PgDoorman.Backend

open Transition Lru LruCache

variable {σ : Type} [LruCache σ String] [LawfulLruCache σ String]

/-! ## The server's answers -/

namespace Server

/-- The names `has_prepared_statement` answers `true` for. -/
def Holds (s : Server σ) (name : String) : Prop :=
  name ∈ keys s.preparedStatementCache ∨ name ∈ s.deferredEvictionCloses

instance (s : Server σ) (name : String) : Decidable (s.Holds name) :=
  inferInstanceAs (Decidable (_ ∨ _))

/-- Two bookkeeping states that answer alike: the same names in the LRU, in whatever order, the
same deferred Closes and the same pending flag. The registering queue is not compared: nothing
reads it while no error comes. -/
structure Equiv (s t : Server σ) : Prop where
  keys : ∀ n, n ∈ keys s.preparedStatementCache ↔ n ∈ keys t.preparedStatementCache
  deferred : s.deferredEvictionCloses = t.deferredEvictionCloses
  pending : s.hasPendingCacheEntries = t.hasPendingCacheEntries

omit [LawfulLruCache σ String] in
theorem Equiv.refl (s : Server σ) : Equiv s s :=
  ⟨fun _ => Iff.rfl, rfl, rfl⟩

omit [LawfulLruCache σ String] in
theorem Equiv.trans {s t u : Server σ} (h₁ : Equiv s t) (h₂ : Equiv t u) : Equiv s u :=
  ⟨fun n => (h₁.keys n).trans (h₂.keys n), h₁.deferred.trans h₂.deferred,
    h₁.pending.trans h₂.pending⟩

omit [LawfulLruCache σ String] in
theorem Equiv.holds {s t : Server σ} (h : Equiv s t) (n : String) : s.Holds n ↔ t.Holds n := by
  unfold Holds
  rw [h.keys n, h.deferred]

/-- The deferred names are distinct and none of them is still in the LRU. -/
structure Tidy (s : Server σ) : Prop where
  disjoint : ∀ n ∈ s.deferredEvictionCloses, n ∉ keys s.preparedStatementCache
  nodup : s.deferredEvictionCloses.Nodup

theorem hasPreparedStatement_fst (s : Server σ) (name : String) :
    (s.hasPreparedStatement name).1 = decide (s.Holds name) := by
  unfold hasPreparedStatement Holds
  split <;> simp_all

theorem hasPreparedStatement_of_holds {s : Server σ} {name : String} (h : s.Holds name) :
    (s.hasPreparedStatement name).1 = true := by
  rw [hasPreparedStatement_fst]
  exact decide_eq_true h

theorem hasPreparedStatement_equiv (s : Server σ) (name : String) :
    Equiv (s.hasPreparedStatement name).2 s := by
  unfold hasPreparedStatement
  split
  · exact Equiv.refl s
  · exact ⟨fun n => LawfulLruCache.mem_keys_get _ _ n, rfl, rfl⟩

theorem hasPreparedStatement_of_not_holds {s : Server σ} {name : String} (h : ¬ s.Holds name) :
    s.hasPreparedStatement name = (false, s) := by
  have hlru : name ∉ keys s.preparedStatementCache := fun hk => h (Or.inl hk)
  have hdef : name ∉ s.deferredEvictionCloses := fun hd => h (Or.inr hd)
  simp [hasPreparedStatement, hdef, LawfulLruCache.get_of_not_mem hlru]

/-- **Registering a new name.** The LRU gains the name and loses the entry the push returned,
which joins the deferred Closes; the pending flag is set when the Parse is not sent. -/
theorem registerNew_spec {s : Server σ} {name : String} (hn : name ∉ keys s.preparedStatementCache)
    (b : Bool) :
    (∀ x, x ∈ keys (s.registerNew name b).preparedStatementCache ↔
      x = name ∨ (x ∈ keys s.preparedStatementCache ∧
        (push s.preparedStatementCache name).1 ≠ some x)) ∧
    (s.registerNew name b).deferredEvictionCloses =
      s.deferredEvictionCloses ++ (push s.preparedStatementCache name).1.toList ∧
    (s.registerNew name b).hasPendingCacheEntries = (s.hasPendingCacheEntries || !b) := by
  have hpush := LawfulLruCache.mem_keys_push hn
  unfold registerNew addPreparedStatementToCache
  cases hev : (push s.preparedStatementCache name).1 with
  | none =>
    simp only [hev] at hpush
    simp [hev, hpush]
  | some e =>
    obtain ⟨-, hne⟩ := LawfulLruCache.push_fst_mem hn hev
    simp only [hev] at hpush
    simp only [hev, Option.filter_some, decide_eq_true hne, if_true, removePreparedStatementFromCache,
      LawfulLruCache.mem_keys_pop, hpush, Option.toList_some, and_self, and_true]
    intro x
    constructor
    · rintro ⟨-, h⟩
      exact h
    · rintro (rfl | ⟨hx, hxe⟩)
      · exact ⟨fun h => hne h.symm, Or.inl rfl⟩
      · exact ⟨fun h => hxe (congrArg some h.symm), Or.inr ⟨hx, hxe⟩⟩

theorem registerNew_holds {s : Server σ} {name : String} (hn : ¬ s.Holds name) (b : Bool)
    (x : String) : (s.registerNew name b).Holds x ↔ x = name ∨ s.Holds x := by
  obtain ⟨hkeys, hdef, -⟩ := registerNew_spec (fun hk => hn (Or.inl hk)) b
  unfold Holds
  rw [hkeys, hdef, List.mem_append]
  constructor
  · rintro ((rfl | ⟨hx, -⟩) | hx | hx)
    · exact Or.inl rfl
    · exact Or.inr (Or.inl hx)
    · exact Or.inr (Or.inr hx)
    · obtain ⟨hmem, -⟩ := LawfulLruCache.push_fst_mem (fun hk => hn (Or.inl hk))
        (Option.mem_toList.mp hx)
      exact Or.inr (Or.inl hmem)
  · rintro (rfl | hx | hx)
    · exact Or.inl (Or.inl rfl)
    · by_cases hev : (push s.preparedStatementCache name).1 = some x
      · exact Or.inr (Or.inr (Option.mem_toList.mpr hev))
      · exact Or.inl (Or.inr ⟨hx, hev⟩)
    · exact Or.inr (Or.inl hx)

theorem registerNew_mem_keys {s : Server σ} {name : String}
    (hn : name ∉ keys s.preparedStatementCache) (b : Bool) :
    name ∈ keys (s.registerNew name b).preparedStatementCache :=
  ((registerNew_spec hn b).1 name).mpr (Or.inl rfl)

theorem registerNew_tidy {s : Server σ} {name : String} (hn : ¬ s.Holds name) (hs : s.Tidy)
    (b : Bool) : (s.registerNew name b).Tidy := by
  have hlru : name ∉ keys s.preparedStatementCache := fun hk => hn (Or.inl hk)
  obtain ⟨hkeys, hdef, -⟩ := registerNew_spec hlru b
  cases hev : (push s.preparedStatementCache name).1 with
  | none =>
    rw [hev] at hkeys hdef
    refine ⟨?_, ?_⟩ <;> rw [hdef, Option.toList_none, List.append_nil]
    · intro x hx hk
      rcases (hkeys x).mp hk with rfl | ⟨hk, -⟩
      · exact hn (Or.inr hx)
      · exact hs.disjoint x hx hk
    · exact hs.nodup
  | some e =>
    obtain ⟨hemem, -⟩ := LawfulLruCache.push_fst_mem hlru hev
    rw [hev] at hkeys hdef
    refine ⟨?_, ?_⟩ <;> rw [hdef, Option.toList_some]
    · intro x hx hk
      rcases List.mem_append.mp hx with hx | hx
      · rcases (hkeys x).mp hk with rfl | ⟨hk, -⟩
        · exact hn (Or.inr hx)
        · exact hs.disjoint x hx hk
      · rw [List.mem_singleton] at hx
        subst hx
        rcases (hkeys x).mp hk with rfl | ⟨-, hne⟩
        · exact hlru hemem
        · exact hne rfl
    · refine hs.nodup.append (List.nodup_singleton e) fun x hx hy => hs.disjoint x hx ?_
      rw [List.mem_singleton.mp hy]
      exact hemem

theorem registerNew_pending (s : Server σ) (name : String) (b : Bool)
    (hn : name ∉ keys s.preparedStatementCache) :
    (s.registerNew name b).hasPendingCacheEntries = (s.hasPendingCacheEntries || !b) :=
  (registerNew_spec hn b).2.2

/-- The answers read while no error comes leave the answers of the bookkeeping as they are. -/
def Quiet : BackendMessage → Prop
  | .errorResponse => False
  | .commandComplete .deallocateAll => False
  | .commandComplete .discardAll => False
  | _ => True

omit [LawfulLruCache σ String] in
theorem recv_equiv (s : Server σ) {m : BackendMessage} (hm : Quiet m) : Equiv (s.recv m) s := by
  cases m with
  | parseComplete => exact ⟨fun _ => Iff.rfl, rfl, rfl⟩
  | errorResponse => exact absurd hm id
  | commandComplete tag =>
    cases tag with
    | deallocateAll => exact absurd hm id
    | discardAll => exact absurd hm id
    | other => exact Equiv.refl s
  | _ => exact Equiv.refl s

omit [LawfulLruCache σ String] in
theorem foldl_recv_equiv (s : Server σ) {ms : List BackendMessage} (hms : ∀ m ∈ ms, Quiet m) :
    Equiv (ms.foldl recv s) s := by
  induction ms generalizing s with
  | nil => exact Equiv.refl s
  | cons m ms ih =>
    rw [List.foldl_cons]
    exact (ih (s.recv m) fun m' hm' => hms m' (List.mem_cons_of_mem m hm')).trans
      (recv_equiv s (hms m (List.mem_cons_self ..)))

end Server

/-! ## A buffer PostgreSQL serves without an error -/

/-- The name a Parse frame creates. -/
def Frame.parseName : Frame → Option String
  | .parse name _ => some name
  | _ => none

/-- The names of the Parses waiting in a buffer. -/
def pendingParses (fs : List Frame) : List String :=
  fs.filterMap Frame.parseName

@[simp] theorem pendingParses_nil : pendingParses [] = [] :=
  rfl

@[simp] theorem pendingParses_cons (f : Frame) (fs : List Frame) :
    pendingParses (f :: fs) = f.parseName.toList ++ pendingParses fs := by
  cases f <;> rfl

@[simp] theorem pendingParses_append (fs gs : List Frame) :
    pendingParses (fs ++ gs) = pendingParses fs ++ pendingParses gs :=
  List.filterMap_append

/-- PostgreSQL's statements after it served a frame without an error. -/
def install (prepared : List String) (f : Frame) : List String :=
  match f.parseName with
  | some name => name :: prepared
  | none => prepared

/-- PostgreSQL's statements after it served a buffer without an error. -/
def installed (prepared : List String) (fs : List Frame) : List String :=
  fs.foldl install prepared

theorem mem_installed (prepared : List String) (fs : List Frame) (x : String) :
    x ∈ installed prepared fs ↔ x ∈ prepared ∨ x ∈ pendingParses fs := by
  induction fs generalizing prepared with
  | nil => simp [installed]
  | cons f fs ih =>
    rw [installed, List.foldl_cons, ← installed, ih]
    cases f <;> simp [install, Frame.parseName, or_assoc, or_left_comm]

/-- A frame PostgreSQL serves without an error while it holds `prepared`: a Parse it accepts,
of a name of the pool's kind it does not hold; a reference to a statement it holds; an Execute
that runs; a Close of a name not of the pool's kind. -/
def FrameServiceable (pooled : String → Bool) (prepared : List String) : Frame → Prop
  | .parse name accepted => accepted = true ∧ pooled name = true ∧ name ∉ prepared
  | .reference _ name _ => name ∈ prepared
  | .execute effect => effect = .ok
  | .close name => pooled name = false
  | .sync => False

/-- A buffer PostgreSQL serves frame by frame without an error. -/
def Serviceable (pooled : String → Bool) : List String → List Frame → Prop
  | _, [] => True
  | prepared, f :: fs =>
    FrameServiceable pooled prepared f ∧ Serviceable pooled (install prepared f) fs

theorem serviceable_append_singleton (pooled : String → Bool) (prepared : List String)
    (fs : List Frame) (f : Frame) :
    Serviceable pooled prepared (fs ++ [f]) ↔
      Serviceable pooled prepared fs ∧ FrameServiceable pooled (installed prepared fs) f := by
  induction fs generalizing prepared with
  | nil => simp [Serviceable, installed]
  | cons g fs ih =>
    simp only [List.cons_append, Serviceable, ih, installed, List.foldl_cons, and_assoc]

/-- Serving a buffer needs only the statements it refers to, and room for those it parses: a
buffer served from `prepared` is served from more statements, if none of them is one it parses. -/
theorem Serviceable.mono {pooled : String → Bool} {fs : List Frame} :
    ∀ {prepared more : List String}, Serviceable pooled prepared fs →
      (∀ x ∈ prepared, x ∈ more) → (∀ x ∈ more, x ∈ prepared ∨ x ∉ pendingParses fs) →
      Serviceable pooled more fs := by
  induction fs with
  | nil => intros; trivial
  | cons f fs ih =>
    intro prepared more h hsub hnew
    obtain ⟨hf, hfs⟩ := h
    -- the statements after the frame: the Parse's name joins both sides
    have hsub' : ∀ x ∈ install prepared f, x ∈ install more f := by
      intro x hx
      cases f <;> simp only [install, Frame.parseName, List.mem_cons] at hx ⊢ <;>
        first | exact hx.imp_right (hsub x) | exact hsub x hx
    have hnew' : ∀ x ∈ install more f, x ∈ install prepared f ∨ x ∉ pendingParses fs := by
      intro x hx
      cases f <;> simp only [install, Frame.parseName, List.mem_cons] at hx ⊢
      case parse n accepted =>
        rcases hx with rfl | hx
        · exact Or.inl (Or.inl rfl)
        · exact ((hnew x hx).imp Or.inr) fun h hp => h (by simp [Frame.parseName, hp])
      all_goals exact (hnew x hx).imp_right fun h hp => h (by simpa [Frame.parseName] using hp)
    refine ⟨?_, ih hfs hsub' hnew'⟩
    cases f with
    | parse n accepted =>
      refine ⟨hf.1, hf.2.1, fun hn => ?_⟩
      rcases hnew n hn with hn | hn
      · exact hf.2.2 hn
      · exact hn (by simp [Frame.parseName])
    | reference kind n vouched => exact hsub n hf
    | execute effect => exact hf
    | close n => exact hf
    | sync => exact absurd hf id

/-! ## PostgreSQL serving such a buffer -/

section Serving

variable {pooled : String → Bool}

/-- The statements PostgreSQL holds after serving a frame are all of the pool's kind, as before. -/
theorem pooled_install {prepared : List String} (hpooled : ∀ n ∈ prepared, pooled n = true)
    {f : Frame} (hf : FrameServiceable pooled prepared f) : ∀ n ∈ install prepared f, pooled n = true := by
  intro n hn
  cases f <;> simp only [install, Frame.parseName, List.mem_cons] at hn
  case parse name accepted =>
    rcases hn with rfl | hn
    · exact hf.2.1
    · exact hpooled n hn
  all_goals exact hpooled n hn

theorem nodup_install {prepared : List String} (hnodup : prepared.Nodup) {f : Frame}
    (hf : FrameServiceable pooled prepared f) : (install prepared f).Nodup := by
  cases f <;> simp only [install, Frame.parseName]
  case parse name accepted => exact hnodup.cons hf.2.2
  all_goals exact hnodup

/-- **One frame.** PostgreSQL serves a serviceable frame without an error: its statements grow
by the Parse's name, and it answers with messages the bookkeeping reads quietly. -/
theorem process_of_serviceable {pg : Postgres} (hpg : pg.aborted = false)
    (hpooled : ∀ n ∈ pg.prepared, pooled n = true) {f : Frame}
    (hf : FrameServiceable pooled pg.prepared f) :
    ∃ ms, pg.process f = ({ pg with prepared := install pg.prepared f }, ms) ∧
      ∀ m ∈ ms, Server.Quiet m := by
  have hactive : pg.process f = pg.serve f := by simp [Postgres.process, hpg]
  rw [hactive]
  cases f with
  | parse name accepted =>
    obtain ⟨haccepted, -, hfresh⟩ := hf
    refine ⟨[.parseComplete], ?_, by simp [Server.Quiet]⟩
    simp [Postgres.serve, haccepted, hfresh, install, Frame.parseName]
  | reference kind name vouched =>
    have hheld : name ∈ pg.prepared := hf
    refine ⟨[kind.response], ?_, ?_⟩
    · simp [Postgres.serve, hheld, install, Frame.parseName]
    · cases kind <;> simp [Reference.response, Server.Quiet]
  | execute effect =>
    have hok : effect = .ok := hf
    subst hok
    exact ⟨[.commandComplete .other],
      by simp [Postgres.serve, Postgres.executeStatement, install, Frame.parseName],
      by simp [Server.Quiet]⟩
  | close name =>
    have hforeign : pooled name = false := hf
    have hheld : name ∉ pg.prepared := fun h => by simp [hpooled name h] at hforeign
    exact ⟨[.closeComplete],
      by simp [Postgres.serve, List.erase_of_not_mem hheld, install, Frame.parseName],
      by simp [Server.Quiet]⟩
  | sync => exact absurd hf id

omit [LawfulLruCache σ String] in
/-- **The buffer.** A serviceable buffer and its Sync are served without an error: PostgreSQL
ends up holding the statements `installed` says, and the bookkeeping answers as before. -/
theorem exchange_serviceable : ∀ (fs : List Frame) (s : Server σ) {pg : Postgres},
    pg.aborted = false → (∀ n ∈ pg.prepared, pooled n = true) → Serviceable pooled pg.prepared fs →
      Server.Equiv (exchange s pg (fs ++ [.sync])).1 s ∧
        (exchange s pg (fs ++ [.sync])).2 = { pg with prepared := installed pg.prepared fs }
  | [], s, pg, hpg, _, _ => by
    refine ⟨Server.foldl_recv_equiv s
      (by simp [Postgres.process, Postgres.serve, Server.Quiet]), ?_⟩
    cases pg
    simp_all [exchange, Postgres.process, Postgres.serve, installed]
  | f :: fs, s, pg, hpg, hpooled, ⟨hf, hfs⟩ => by
    obtain ⟨ms, hprocess, hquiet⟩ := process_of_serviceable hpg hpooled hf
    have hrest := @exchange_serviceable fs (ms.foldl Server.recv s)
      { pg with prepared := install pg.prepared f } hpg (pooled_install hpooled hf) hfs
    simp only [List.cons_append, exchange, hprocess] at hrest ⊢
    exact ⟨hrest.1.trans (Server.foldl_recv_equiv s hquiet), hrest.2⟩

omit [LawfulLruCache σ String] in
/-- The deferred Closes and their Sync: PostgreSQL drops the evicted names. -/
theorem exchange_closes : ∀ (names : List String) (s : Server σ) {pg : Postgres},
    pg.aborted = false →
      Server.Equiv (exchange s pg (names.map .close ++ [.sync])).1 s ∧
        (exchange s pg (names.map .close ++ [.sync])).2 =
          { pg with prepared := names.foldl List.erase pg.prepared }
  | [], s, pg, hpg => by
    refine ⟨Server.foldl_recv_equiv s
      (by simp [Postgres.process, Postgres.serve, Server.Quiet]), ?_⟩
    cases pg
    simp_all [exchange, Postgres.process, Postgres.serve]
  | n :: names, s, pg, hpg => by
    have hrest := @exchange_closes names (Server.recv s .closeComplete)
      { pg with prepared := pg.prepared.erase n } hpg
    simp only [List.map_cons, List.cons_append, exchange, Postgres.process, hpg,
      Bool.false_eq_true, false_and, if_false, Postgres.serve, List.foldl_cons,
      List.foldl_nil] at hrest ⊢
    exact ⟨hrest.1.trans (Server.recv_equiv s (by simp [Server.Quiet])), hrest.2⟩

omit [LawfulLruCache σ String] in
theorem sendDeferredEvictionCloses_spec (s : Server σ) {pg : Postgres} (hpg : pg.aborted = false) :
    Server.Equiv (s.sendDeferredEvictionCloses pg).1 { s with deferredEvictionCloses := [] } ∧
      (s.sendDeferredEvictionCloses pg).2 =
        { pg with prepared := pg.prepared.diff s.deferredEvictionCloses } := by
  unfold Server.sendDeferredEvictionCloses
  split
  case isTrue hnone =>
    refine ⟨⟨fun _ => Iff.rfl, hnone, rfl⟩, ?_⟩
    simp [hnone]
  case isFalse =>
    obtain ⟨hequiv, hpg'⟩ := exchange_closes s.deferredEvictionCloses
      { s with deferredEvictionCloses := [] } hpg
    exact ⟨hequiv, by rw [hpg', List.diff_eq_foldl]⟩

theorem installed_nodup {prepared : List String} {fs : List Frame}
    (h : Serviceable pooled prepared fs) (hnodup : prepared.Nodup) :
    (installed prepared fs).Nodup := by
  induction fs generalizing prepared with
  | nil => exact hnodup
  | cons f fs ih => exact ih h.2 (nodup_install hnodup h.1)

theorem installed_pooled {prepared : List String} {fs : List Frame}
    (h : Serviceable pooled prepared fs) (hpooled : ∀ n ∈ prepared, pooled n = true) :
    ∀ n ∈ installed prepared fs, pooled n = true := by
  induction fs generalizing prepared with
  | nil => exact hpooled
  | cons f fs ih => exact ih h.2 (pooled_install hpooled h.1)

end Serving

/-! ## Registration -/

namespace Server

/-- Registering a name the server has changes nothing it answers, and succeeds. -/
theorem registerPreparedStatement_of_holds {s : Server σ} {name : String} (h : s.Holds name)
    (pg : Postgres) (accepted b : Bool) :
    (s.registerPreparedStatement pg name accepted b).1 = true ∧
      Equiv (s.registerPreparedStatement pg name accepted b).2.1 s ∧
      (s.registerPreparedStatement pg name accepted b).2.2 = pg := by
  have hequiv := hasPreparedStatement_equiv s name
  simp only [registerPreparedStatement, hasPreparedStatement_of_holds h, if_true]
  exact ⟨hasPreparedStatement_of_holds ((hequiv.holds name).mpr h),
    (hasPreparedStatement_equiv _ name).trans hequiv, trivial⟩

/-- Registering a new name whose Parse waits in the buffer: it is registered, and succeeds. -/
theorem registerPreparedStatement_deferred {s : Server σ} {name : String} (h : ¬ s.Holds name)
    (pg : Postgres) (accepted : Bool) :
    (s.registerPreparedStatement pg name accepted false).1 = true ∧
      Equiv (s.registerPreparedStatement pg name accepted false).2.1 (s.registerNew name false) ∧
      (s.registerPreparedStatement pg name accepted false).2.2 = pg := by
  have hlru : name ∉ keys s.preparedStatementCache := fun hk => h (Or.inl hk)
  simp only [registerPreparedStatement, hasPreparedStatement_of_not_holds h, Bool.false_eq_true,
    if_false]
  exact ⟨hasPreparedStatement_of_holds (Or.inl (registerNew_mem_keys hlru false)),
    hasPreparedStatement_equiv _ name, trivial⟩

/-- Registering a new name by sending its Parse at once: PostgreSQL accepts it and creates the
statement, and the registration succeeds. -/
theorem registerPreparedStatement_sent {s : Server σ} {name : String} (h : ¬ s.Holds name)
    {pg : Postgres} (hpg : pg.aborted = false) (hfresh : name ∉ pg.prepared) :
    (s.registerPreparedStatement pg name true true).1 = true ∧
      Equiv (s.registerPreparedStatement pg name true true).2.1 (s.registerNew name true) ∧
      (s.registerPreparedStatement pg name true true).2.2 =
        { pg with prepared := name :: pg.prepared } := by
  have hlru : name ∉ keys s.preparedStatementCache := fun hk => h (Or.inl hk)
  -- the Parse and its Sync are a serviceable buffer, whatever the pool's names are
  have hserviceable : Serviceable (fun _ => true) pg.prepared [.parse name true] :=
    ⟨⟨rfl, rfl, hfresh⟩, trivial⟩
  obtain ⟨hequiv, hpg'⟩ := exchange_serviceable [.parse name true] (s.registerNew name true) hpg
    (fun _ _ => rfl) hserviceable
  simp only [List.singleton_append] at hequiv hpg'
  simp only [registerPreparedStatement, hasPreparedStatement_of_not_holds h, Bool.false_eq_true,
    if_false, if_true]
  refine ⟨hasPreparedStatement_of_holds
      (Or.inl ((hequiv.keys name).mpr (registerNew_mem_keys hlru true))),
    (hasPreparedStatement_equiv _ name).trans hequiv, ?_⟩
  rw [hpg']
  rfl

omit [LawfulLruCache σ String] in
theorem Tidy.of_equiv {s t : Server σ} (hs : s.Tidy) (h : Equiv t s) : t.Tidy :=
  ⟨fun n hn hk => hs.disjoint n (h.deferred ▸ hn) ((h.keys n).mp hk), h.deferred ▸ hs.nodup⟩

end Server

/-! ## The invariant -/

/-- The client messages of a run in which nothing fails: PostgreSQL accepts every query, every
statement an Execute runs leaves the prepared statements alone, and the client closes no
statement of the pool's kind. -/
def benign (pooled : String → Bool) : ClientMessage → Bool
  | .parse name accepted => pooled name && accepted
  | .reference _ name accepted => pooled name && accepted
  | .execute effect => decide (effect = .ok)
  | .close name => !pooled name
  | .sync => true
  | .checkin => true

/-- **The invariant.** PostgreSQL is not skipping frames and has served every vouched
reference; the names `has_prepared_statement` answers for are PostgreSQL's statements and
the names of the Parses waiting in the buffer; the deferred names are tidy; PostgreSQL's
statements are distinct and of the pool's kind; the buffer is serviceable; a waiting Parse has
set `has_pending_cache_entries`. -/
structure Sound (pooled : String → Bool) (s : Session σ) : Prop where
  active : s.postgres.aborted = false
  noDangling : s.postgres.danglingReferences = []
  holds : ∀ n, s.server.Holds n ↔ n ∈ s.postgres.prepared ∨ n ∈ pendingParses s.buffer
  tidy : s.server.Tidy
  prepared_nodup : s.postgres.prepared.Nodup
  prepared_pooled : ∀ n ∈ s.postgres.prepared, pooled n = true
  serviceable : Serviceable pooled s.postgres.prepared s.buffer
  pending : pendingParses s.buffer ≠ [] → s.server.hasPendingCacheEntries = true

section Steps

variable {pooled : String → Bool}

theorem sound_init (cap : Nat) (h : 0 < cap) : Sound pooled (Session.init cap h : Session σ) where
  active := rfl
  noDangling := rfl
  holds := by simp [Session.init, Server.Holds]
  tidy := ⟨by simp [Session.init], List.nodup_nil⟩
  prepared_nodup := List.nodup_nil
  prepared_pooled := by simp [Session.init]
  serviceable := trivial
  pending := by simp [Session.init]

omit [LawfulLruCache σ String] in
/-- The invariant does not see the order of the LRU or the registering queue. -/
theorem Sound.of_equiv {s : Session σ} (hs : Sound pooled s) {t : Server σ}
    (h : Server.Equiv t s.server) : Sound pooled { s with server := t } where
  active := hs.active
  noDangling := hs.noDangling
  holds n := (h.holds n).trans (hs.holds n)
  tidy := hs.tidy.of_equiv h
  prepared_nodup := hs.prepared_nodup
  prepared_pooled := hs.prepared_pooled
  serviceable := hs.serviceable
  pending hp := h.pending.trans (hs.pending hp)

omit [LawfulLruCache σ String] in
/-- A frame that creates nothing, buffered where PostgreSQL will serve it. -/
theorem Sound.buffer {s : Session σ} (hs : Sound pooled s) {f : Frame} (hnone : f.parseName = none)
    (hf : FrameServiceable pooled (installed s.postgres.prepared s.buffer) f) :
    Sound pooled { s with buffer := s.buffer ++ [f] } where
  active := hs.active
  noDangling := hs.noDangling
  holds n := by simpa [hnone] using hs.holds n
  tidy := hs.tidy
  prepared_nodup := hs.prepared_nodup
  prepared_pooled := hs.prepared_pooled
  serviceable := (serviceable_append_singleton _ _ _ _).mpr ⟨hs.serviceable, hf⟩
  pending hp := hs.pending (by simpa [hnone] using hp)

omit [LawfulLruCache σ String] in
theorem installed_iff_holds {s : Session σ} (hs : Sound pooled s) (n : String) :
    n ∈ installed s.postgres.prepared s.buffer ↔ s.server.Holds n :=
  (mem_installed _ _ n).trans (hs.holds n).symm

/-- **A Parse.** A statement the server has is skipped; another is registered and its Parse
buffered, and PostgreSQL will create it. -/
theorem sound_processParse {s : Session σ} (hs : Sound pooled s) {name : String}
    (hname : pooled name = true) : Sound pooled (s.processParse name true) := by
  unfold Session.processParse
  by_cases h : s.server.Holds name
  · rw [if_pos (Server.hasPreparedStatement_of_holds h)]
    exact hs.of_equiv (Server.hasPreparedStatement_equiv _ name)
  · rw [Server.hasPreparedStatement_of_not_holds h]
    simp only [Bool.false_eq_true, if_false]
    obtain ⟨hok, hequiv, hpg⟩ := Server.registerPreparedStatement_deferred h s.postgres true
    rw [hok, if_pos rfl, hpg]
    have hlru : name ∉ keys s.server.preparedStatementCache := fun hk => h (Or.inl hk)
    have hnew : name ∉ installed s.postgres.prepared s.buffer := fun hi =>
      h ((installed_iff_holds hs name).mp hi)
    -- the state with the registration done, before forgetting the LRU's order
    have hsound : Sound pooled
        ⟨s.server.registerNew name false, s.postgres, s.buffer ++ [.parse name true]⟩ :=
      { active := hs.active
        noDangling := hs.noDangling
        holds := fun n => by
          rw [Server.registerNew_holds h, hs.holds n]
          simp [Frame.parseName, or_comm, or_left_comm]
        tidy := Server.registerNew_tidy h hs.tidy false
        prepared_nodup := hs.prepared_nodup
        prepared_pooled := hs.prepared_pooled
        serviceable := (serviceable_append_singleton _ _ _ _).mpr
          ⟨hs.serviceable, rfl, hname, hnew⟩
        pending := fun _ => by simp [Server.registerNew_pending _ _ _ hlru] }
    exact hsound.of_equiv hequiv

/-- **A Bind or a Describe.** The server makes sure it has the statement, sending its Parse at
once if not; PostgreSQL creates it there, so the buffered reference is served. -/
theorem sound_processReference {s : Session σ} (hs : Sound pooled s) (kind : Reference)
    {name : String} (hname : pooled name = true) :
    Sound pooled (s.processReference kind name true) := by
  unfold Session.processReference
  dsimp only
  by_cases h : s.server.Holds name
  · obtain ⟨hok, hequiv, hpg⟩ := Server.registerPreparedStatement_of_holds h s.postgres true true
    rw [hok, hpg]
    have hbuffered : Sound pooled { s with buffer := s.buffer ++ [.reference kind name true] } :=
      hs.buffer rfl
      ((installed_iff_holds hs name).mpr h)
    exact hbuffered.of_equiv hequiv
  · have hfresh : name ∉ s.postgres.prepared := fun hp => h ((hs.holds name).mpr (Or.inl hp))
    have hunparsed : name ∉ pendingParses s.buffer := fun hp => h ((hs.holds name).mpr (Or.inr hp))
    have hlru : name ∉ keys s.server.preparedStatementCache := fun hk => h (Or.inl hk)
    obtain ⟨hok, hequiv, hpg⟩ := Server.registerPreparedStatement_sent h hs.active hfresh
    rw [hok, hpg]
    -- the buffer stays serviceable with the statement PostgreSQL has just created
    have hserviceable : Serviceable pooled (name :: s.postgres.prepared) s.buffer :=
      hs.serviceable.mono (fun x hx => List.mem_cons_of_mem name hx) fun x hx => by
        rcases List.mem_cons.mp hx with rfl | hx
        · exact Or.inr hunparsed
        · exact Or.inl hx
    have hsound : Sound pooled ⟨s.server.registerNew name true,
        { s.postgres with prepared := name :: s.postgres.prepared },
        s.buffer ++ [.reference kind name true]⟩ :=
      { active := hs.active
        noDangling := hs.noDangling
        holds := fun n => by
          rw [Server.registerNew_holds h, hs.holds n]
          simp [Frame.parseName, or_assoc]
        tidy := Server.registerNew_tidy h hs.tidy true
        prepared_nodup := hs.prepared_nodup.cons hfresh
        prepared_pooled := fun n hn => by
          rcases List.mem_cons.mp hn with rfl | hn
          · exact hname
          · exact hs.prepared_pooled n hn
        serviceable := (serviceable_append_singleton _ _ _ _).mpr
          ⟨hserviceable, (mem_installed _ _ name).mpr (Or.inl (List.mem_cons_self ..))⟩
        pending := fun hp => by
          rw [Server.registerNew_pending _ _ _ hlru, Bool.not_true, Bool.or_false]
          exact hs.pending (by simpa [Frame.parseName] using hp) }
    exact hsound.of_equiv hequiv

omit [LawfulLruCache σ String] in
/-- **A Sync.** PostgreSQL creates the waiting statements, then drops the evicted ones: the LRU
and PostgreSQL hold the same names. -/
theorem sound_flush {s : Session σ} (hs : Sound pooled s) : Sound pooled s.flush := by
  unfold Session.flush
  dsimp only
  obtain ⟨hsent, hpg₁⟩ := exchange_serviceable s.buffer s.server hs.active hs.prepared_pooled
    hs.serviceable
  set sent := exchange s.server s.postgres (s.buffer ++ [.sync])
  have hactive₁ : sent.2.aborted = false := by rw [hpg₁]; exact hs.active
  obtain ⟨hclosed, hpg₂⟩ := sendDeferredEvictionCloses_spec sent.1 hactive₁
  set closed := sent.1.sendDeferredEvictionCloses sent.2
  have hinstalled := installed_nodup hs.serviceable hs.prepared_nodup
  have hprepared : closed.2.prepared =
      (installed s.postgres.prepared s.buffer).diff s.server.deferredEvictionCloses := by
    rw [hpg₂, hpg₁, hsent.deferred]
  have hdeferred : closed.1.deferredEvictionCloses = [] := hclosed.deferred
  -- the names of the LRU are the server's, and the deferred Closes have been sent
  have hkeys : ∀ n, n ∈ keys closed.1.preparedStatementCache ↔
      n ∈ keys s.server.preparedStatementCache := fun n => (hclosed.keys n).trans (hsent.keys n)
  refine
    { active := by rw [hpg₂]; exact hactive₁
      noDangling := by rw [hpg₂, hpg₁]; exact hs.noDangling
      holds := fun n => ?_
      tidy := ⟨fun n hn => by simp [hdeferred] at hn, by simp [hdeferred]⟩
      prepared_nodup := by
        rw [hprepared]
        exact hinstalled.diff
      prepared_pooled := fun n hn => by
        rw [hprepared] at hn
        exact installed_pooled hs.serviceable hs.prepared_pooled n
          ((List.Nodup.mem_sdiff_iff hinstalled).mp hn).1
      serviceable := trivial
      pending := fun h => absurd pendingParses_nil h }
  simp only [Server.Holds, hdeferred, List.not_mem_nil, or_false, pendingParses_nil, hprepared,
    hkeys]
  rw [List.Nodup.mem_sdiff_iff hinstalled, installed_iff_holds hs n]
  constructor
  · intro hk
    exact ⟨Or.inl hk, fun hd => hs.tidy.disjoint n hd hk⟩
  · rintro ⟨hk | hd, hnd⟩
    · exact hk
    · exact absurd hd hnd

omit [LawfulLruCache σ String] in
/-- The checkin query of the cleanup: PostgreSQL drops every statement, and the bookkeeping drops
its LRU and the registering queue with it. -/
theorem exchange_deallocateAll (s : Server σ) {pg : Postgres} (hpg : pg.aborted = false) :
    exchange s pg [.execute .deallocateAll, .sync] =
      ({ s with
          needsCleanupPrepare := false
          registeringPreparedStatement := []
          preparedStatementCache := clear s.preparedStatementCache },
        ⟨[], false, pg.danglingReferences⟩) := by
  simp [exchange, Postgres.process, hpg, Postgres.serve, Postgres.executeStatement, Server.recv,
    Server.dropPreparedStatementCacheOnReset]

omit [LawfulLruCache σ String] in
/-- **A checkin with the cleanup on.** Waiting registrations, deferred Closes or an earlier
error arm the cleanup, which empties PostgreSQL's statements and the bookkeeping alike; otherwise
only the buffer goes. -/
theorem checkin_spec (s : Session σ) (hpg : s.postgres.aborted = false) :
    s.checkin true =
      if s.server.hasPendingCacheEntries = true ∨ s.server.deferredEvictionCloses ≠ [] ∨
          s.server.needsCleanupPrepare = true then
        ⟨{ s.server with
            preparedStatementCache := clear s.server.preparedStatementCache
            deferredEvictionCloses := []
            registeringPreparedStatement := []
            hasPendingCacheEntries := false
            needsCleanupPrepare := false },
          ⟨[], false, s.postgres.danglingReferences⟩, []⟩
      else ⟨s.server, s.postgres, []⟩ := by
  unfold Session.checkin
  -- the flags decide which branch runs; the cleanup's round trip is the same in each
  cases hpend : s.server.hasPendingCacheEntries <;>
    by_cases hdef : s.server.deferredEvictionCloses = [] <;>
    simp [hpend, hdef, exchange_deallocateAll _ hpg]

theorem sound_checkin {s : Session σ} (hs : Sound pooled s) : Sound pooled (s.checkin true) := by
  rw [checkin_spec s hs.active]
  split
  case isTrue =>
    exact
      { active := rfl
        noDangling := hs.noDangling
        holds := by simp [Server.Holds]
        tidy := ⟨by simp, List.nodup_nil⟩
        prepared_nodup := List.nodup_nil
        prepared_pooled := by simp
        serviceable := trivial
        pending := fun h => absurd pendingParses_nil h }
  case isFalse hidle =>
    -- nothing is pending, so the buffer the checkin drops holds no Parse
    have hnone : pendingParses s.buffer = [] := by
      by_contra h
      exact hidle (Or.inl (hs.pending h))
    exact
      { active := hs.active
        noDangling := hs.noDangling
        holds := fun n => by simpa [hnone] using hs.holds n
        tidy := hs.tidy
        prepared_nodup := hs.prepared_nodup
        prepared_pooled := hs.prepared_pooled
        serviceable := trivial
        pending := fun h => absurd pendingParses_nil h }

/-- **The step lemma.** A benign client message keeps the invariant. -/
theorem sound_step {s s' : Session σ} {m : ClientMessage} (hs : Sound pooled s)
    (hm : benign pooled m = true) (h : Session.step true s m = some s') : Sound pooled s' := by
  cases m with
  | parse name accepted =>
    obtain ⟨hname, rfl⟩ : pooled name = true ∧ accepted = true := by simpa [benign] using hm
    obtain rfl := Option.some.inj h
    exact sound_processParse hs hname
  | reference kind name accepted =>
    obtain ⟨hname, rfl⟩ : pooled name = true ∧ accepted = true := by simpa [benign] using hm
    obtain rfl := Option.some.inj h
    exact sound_processReference hs kind hname
  | execute effect =>
    obtain rfl : effect = .ok := by simpa [benign] using hm
    obtain rfl := Option.some.inj h
    exact hs.buffer rfl rfl
  | close name =>
    have hname : pooled name = false := by simpa [benign] using hm
    obtain rfl := Option.some.inj h
    exact hs.buffer rfl hname
  | sync =>
    obtain rfl := Option.some.inj h
    exact sound_flush hs
  | checkin =>
    obtain rfl := Option.some.inj h
    exact sound_checkin hs

end Steps

/-- The names the pool gives its statements, `DOORMAN_n`. -/
def pooledName (name : String) : Bool :=
  "DOORMAN_".toList.isPrefixOf name.toList

/-- **The bookkeeping is sound while nothing fails.** On a server connection with
`cleanup_server_connections`, whatever benign messages its clients send, no Bind or Describe the
server vouched for ever names a statement PostgreSQL lacks, and `has_prepared_statement` answers
`true` for exactly the statements PostgreSQL holds and those whose Parse waits in the buffer. -/
theorem bookkeeping_sound_without_errors (pooled : String → Bool) (cap : Nat) (hcap : 0 < cap)
    (ms : List ClientMessage) (hms : ∀ m ∈ ms, benign pooled m = true) {s : Session σ}
    (hrun : run (Session.step true) (Session.init cap hcap) ms = some s) :
    s.postgres.danglingReferences = [] ∧
      ∀ n, (s.server.hasPreparedStatement n).1 = true ↔
        n ∈ s.postgres.prepared ∨ n ∈ pendingParses s.buffer := by
  have hs : Sound pooled s :=
    run_preserves (fun _ _ _ hs hm h => sound_step hs hm h) ms (sound_init cap hcap) hms hrun
  refine ⟨hs.noDangling, fun n => ?_⟩
  rw [Server.hasPreparedStatement_fst, decide_eq_true_iff]
  exact hs.holds n

/-- Two statements through an LRU of one name: the second evicts the first, whose Close waits
for the next Sync, and the client leaves with an Execute still buffered. -/
def evictingTrace : List ClientMessage :=
  [.parse "DOORMAN_0" true, .reference .bind "DOORMAN_0" true, .execute .ok, .sync,
    .reference .describe "DOORMAN_1" true, .sync, .parse "DOORMAN_1" true, .execute .ok, .checkin]

theorem bookkeeping_sound_on_eviction :
    ∃ s, run (Session.step true) (Session.init 1 (by decide) : Session (Cache String))
        evictingTrace = some s ∧
      s.postgres.danglingReferences = [] ∧
      ∀ n, (s.server.hasPreparedStatement n).1 = true ↔
        n ∈ s.postgres.prepared ∨ n ∈ pendingParses s.buffer := by
  have hsome : (run (Session.step true) (Session.init 1 Nat.one_pos : Session (Cache String))
      evictingTrace).isSome := by
    decide
  obtain ⟨s, hrun⟩ := Option.isSome_iff_exists.mp hsome
  exact ⟨s, hrun, bookkeeping_sound_without_errors pooledName 1 (by decide) evictingTrace
    (by decide) hrun⟩

end PgDoorman.Backend
