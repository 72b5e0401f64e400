import TemporalOperator.Lib.Runs
import Mathlib.Logic.Function.Basic
import Mathlib.Data.List.Basic

/-!
# Watches and a work queue

A controller works off a queue of names of its own objects. It reads through caches, which follow the store at any
pace and may skip versions. Each move of a cache leaves a notice. A notice of an own object queues its name. A notice
of another object goes through the predicate of a watch and then through its map function, which names the objects to
queue. A pass reads its object and then the other objects it refers to, one at a time, while all the rest goes on.

* `Watcher` : what a pass reads, the predicate and the map function; `Watcher.Sound` : what they owe each other;
* `Watcher.system` : all interleavings; `Watcher.Orderly` : what is asked of the store, the caches and the listing;
* `Covered` : the invariant, with the step lemma `Covered.next`;
* `Settled.fresh` : an object that nothing is under way for has seen what is cached of the objects it refers to.
-/

namespace TemporalOperator.Lib

/-- A controller with own objects `S` named by `D`, whose passes read other objects `V` under keys `K`. -/
structure Watcher (D S K V : Type) where
  /-- The keys a pass over the object reads, in order. -/
  reads : D → S → List K
  /-- The predicate of the watch, on what was cached and what is cached now. -/
  fires : K → Option V → Option V → Bool
  /-- The map function of the watch, on the cached own objects. -/
  requests : K → List (D × S) → List D

/-- What a cache tells the controller. -/
inductive Notice (D K V : Type)
  | own (d : D)
  | other (k : K) (old new : Option V)
  deriving DecidableEq

/-- How far the pass over an object is. -/
inductive Work (S K : Type)
  | idle
  /-- Taken off the queue; nothing is read yet. -/
  | taken
  /-- The object is read; these keys are still to be read. -/
  | reading (spec : S) (todo : List K)
  deriving DecidableEq

structure WatchState (D S K V : Type) where
  ownStore : D → Option S := fun _ => none
  ownCache : List (D × S) := []
  store : K → Option V := fun _ => none
  cache : K → Option V := fun _ => none
  notices : List (Notice D K V) := []
  /-- In the queue, or waiting for a delay to be over. -/
  queued : D → Bool := fun _ => false
  work : D → Work S K := fun _ => .idle
  /-- The own object as the newest pass read it. -/
  seenOwn : D → Option S := fun _ => none
  /-- The other objects as the newest reads of the passes found them. -/
  seen : D → K → Option V := fun _ _ => none

inductive WatchEvent (D S K V : Type)
  | writeOwn (d : D) (spec : Option S)
  | write (k : K) (v : Option V)
  | syncOwn (d : D)
  | sync (k : K)
  | deliver (n : Notice D K V) (listFails : Bool)
  /-- A requeue after a delay. -/
  | requeue (d : D)
  | take (d : D)
  | get (d : D)
  | read (d : D)
  /-- The pass ends; one that returns an error is tried again and may end early. -/
  | finish (d : D) (again : Bool)

section Entries

variable {D S : Type} [DecidableEq D]

/-- The cached objects once `d` is synced. -/
def setEntry (l : List (D × S)) (d : D) (v : Option S) : List (D × S) :=
  (v.map fun spec => (d, spec)).toList ++ l.filter fun e => decide (e.1 ≠ d)

theorem lookup_setEntry_of_ne {l : List (D × S)} {d d' : D} (h : d ≠ d') (v : Option S) :
    (setEntry l d' v).lookup d = l.lookup d := by
  have hfilter : (l.filter fun e => decide (e.1 ≠ d')).lookup d = l.lookup d := by
    induction l with
    | nil => rfl
    | cons e l ih =>
      by_cases he : e.1 = d'
      · have hd : (d == e.1) = false := by simp [he, h]
        rw [List.filter_cons_of_neg (by simp [he]), ih, List.lookup_cons, hd]
      · rw [List.filter_cons_of_pos (by simp [he]), List.lookup_cons, List.lookup_cons, ih]
  cases v with
  | none => exact hfilter
  | some spec =>
    have hd : (d == d') = false := by simp [h]
    change List.lookup d ((d', spec) :: l.filter fun e => decide (e.1 ≠ d')) = _
    rw [List.lookup_cons, hd]
    exact hfilter

theorem mem_of_lookup_eq_some {l : List (D × S)} {d : D} {spec : S} (h : l.lookup d = some spec) : (d, spec) ∈ l := by
  obtain ⟨before, after, hsplit, -⟩ := List.lookup_eq_some_iff.mp h
  exact hsplit ▸ List.mem_append_cons_self

end Entries

namespace Watcher

variable {D S K V P : Type}

/-- The names a notice queues; a listing that fails names none. -/
def named (w : Watcher D S K V) (cached : List (D × S)) (listFails : Bool) : Notice D K V → List D
  | .own d => [d]
  | .other k old new => if w.fires k old new && !listFails then w.requests k cached else []

section Passes

variable [DecidableEq D]

/-- A worker takes `d` off the queue, unless a pass over it is under way. -/
def take (s : WatchState D S K V) (d : D) : WatchState D S K V :=
  match s.work d, s.queued d with
  | .idle, true => { s with queued := Function.update s.queued d false, work := Function.update s.work d .taken }
  | _, _ => s

/-- The pass over `d` reads its object and is done when there is none. -/
def get (w : Watcher D S K V) (s : WatchState D S K V) (d : D) : WatchState D S K V :=
  match s.work d, s.ownCache.lookup d with
  | .taken, some spec =>
    { s with
      work := Function.update s.work d (.reading spec (w.reads d spec))
      seenOwn := Function.update s.seenOwn d (some spec) }
  | .taken, none => { s with work := Function.update s.work d .idle }
  | _, _ => s

/-- The pass over `d` reads the next of the objects it refers to. -/
def read [DecidableEq K] (s : WatchState D S K V) (d : D) : WatchState D S K V :=
  match s.work d with
  | .reading spec (k :: todo) =>
    { s with
      work := Function.update s.work d (.reading spec todo)
      seen := Function.update s.seen d (Function.update (s.seen d) k (s.cache k)) }
  | _ => s

def finish (s : WatchState D S K V) (d : D) (again : Bool) : WatchState D S K V :=
  match s.work d with
  | .reading _ todo =>
    if todo = [] ∨ again = true then
      { s with
        work := Function.update s.work d .idle
        queued := Function.update s.queued d (s.queued d || again) }
    else s
  | _ => s

/-- The steps of a pass leave the store, the caches and the notices as they are. -/
structure SameCaches (s t : WatchState D S K V) : Prop where
  ownCache : t.ownCache = s.ownCache
  store : t.store = s.store
  cache : t.cache = s.cache
  notices : t.notices = s.notices

structure Elsewhere (s t : WatchState D S K V) (d : D) : Prop where
  queued : t.queued d = s.queued d := by rfl
  work : t.work d = s.work d := by rfl
  seenOwn : t.seenOwn d = s.seenOwn d := by rfl
  seen : t.seen d = s.seen d := by rfl

variable {s : WatchState D S K V} {d d' : D}

theorem take_caches : SameCaches s (take s d) := by
  unfold take
  split <;> exact ⟨rfl, rfl, rfl, rfl⟩

theorem get_caches (w : Watcher D S K V) : SameCaches s (w.get s d) := by
  unfold get
  split <;> exact ⟨rfl, rfl, rfl, rfl⟩

theorem read_caches [DecidableEq K] : SameCaches s (read s d) := by
  unfold read
  split <;> exact ⟨rfl, rfl, rfl, rfl⟩

theorem finish_caches (again : Bool) : SameCaches s (finish s d again) := by
  unfold finish
  split
  · split <;> exact ⟨rfl, rfl, rfl, rfl⟩
  · exact ⟨rfl, rfl, rfl, rfl⟩

theorem take_elsewhere (h : d ≠ d') : Elsewhere s (take s d') d := by
  unfold take
  split
  · exact { queued := Function.update_of_ne h .., work := Function.update_of_ne h .. }
  · exact {}

theorem get_elsewhere (w : Watcher D S K V) (h : d ≠ d') : Elsewhere s (w.get s d') d := by
  unfold get
  split
  · exact { work := Function.update_of_ne h .., seenOwn := Function.update_of_ne h .. }
  · exact { work := Function.update_of_ne h .. }
  · exact {}

theorem read_elsewhere [DecidableEq K] (h : d ≠ d') : Elsewhere s (read s d') d := by
  unfold read
  split
  · exact { work := Function.update_of_ne h .., seen := Function.update_of_ne h .. }
  · exact {}

theorem finish_elsewhere (h : d ≠ d') (again : Bool) : Elsewhere s (finish s d' again) d := by
  unfold finish
  split
  · split
    · exact { queued := Function.update_of_ne h .., work := Function.update_of_ne h .. }
    · exact {}
  · exact {}

end Passes

section Steps

variable [DecidableEq D] [DecidableEq K] [DecidableEq V]

def next (w : Watcher D S K V) (s : WatchState D S K V) : WatchEvent D S K V → WatchState D S K V
  | .writeOwn d spec => { s with ownStore := Function.update s.ownStore d spec }
  | .write k v => { s with store := Function.update s.store k v }
  | .syncOwn d =>
    { s with ownCache := setEntry s.ownCache d (s.ownStore d), notices := .own d :: s.notices }
  | .sync k =>
    { s with
      cache := Function.update s.cache k (s.store k)
      notices := .other k (s.cache k) (s.store k) :: s.notices }
  | .deliver n listFails =>
    if n ∈ s.notices then
      { s with
        notices := s.notices.erase n
        queued := fun d => s.queued d || decide (d ∈ w.named s.ownCache listFails n) }
    else s
  | .requeue d => { s with queued := Function.update s.queued d true }
  | .take d => take s d
  | .get d => w.get s d
  | .read d => read s d
  | .finish d again => finish s d again

section Deliver

variable {w : Watcher D S K V} {s : WatchState D S K V} {n : Notice D K V} {listFails : Bool}

theorem deliver_of_mem (hn : n ∈ s.notices) : w.next s (.deliver n listFails) =
    { s with
      notices := s.notices.erase n
      queued := fun d => s.queued d || decide (d ∈ w.named s.ownCache listFails n) } := if_pos hn

theorem deliver_of_not_mem (hn : n ∉ s.notices) : w.next s (.deliver n listFails) = s := if_neg hn

end Deliver

/-- All interleavings of writes, caches, notices and passes; the history is that of the events. -/
def system (w : Watcher D S K V) : System (WatchState D S K V) (WatchEvent D S K V) (WatchEvent D S K V) where
  step s e := (w.next s e, e)

end Steps

/-- What is asked of an event. A version that is written is a `Later` one than those still held, a cache does not take
one object for the next of the same key, and a listing of the cache succeeds. -/
def Orderly (Later : V → V → Prop) (same : V → V → Bool) (s : WatchState D S K V) : WatchEvent D S K V → Prop
  | .write k (some v) => (∀ u ∈ s.store k, Later u v) ∧ ∀ u ∈ s.cache k, Later u v
  | .sync k => ∀ u ∈ s.cache k, ∀ v ∈ s.store k, same u v = true
  | .deliver _ listFails => listFails = false
  | _ => True

instance (Later : V → V → Prop) [DecidableRel Later] (same : V → V → Bool) (s : WatchState D S K V) :
    ∀ e, Decidable (Orderly Later same s e)
  | .write k (some v) => inferInstanceAs (Decidable ((∀ u ∈ s.store k, Later u v) ∧ ∀ u ∈ s.cache k, Later u v))
  | .sync k => inferInstanceAs (Decidable (∀ u ∈ s.cache k, ∀ v ∈ s.store k, same u v = true))
  | .deliver _ listFails => inferInstanceAs (Decidable (listFails = false))
  | .write _ none | .writeOwn .. | .syncOwn _ | .requeue _ | .take _ | .get _ | .read _ | .finish .. => .isTrue trivial

/-- The predicate and the map function lose nothing: `view` is what a pass makes of an object it reads. -/
structure Sound (w : Watcher D S K V) (Later : V → V → Prop) (same : V → V → Bool) (view : V → P) : Prop where
  refl : ∀ v, Later v v
  created : ∀ k v, w.fires k none (some v) = true
  quiet : ∀ k u v, Later u v → same u v = true → w.fires k (some u) (some v) = false → view u = view v
  mapped : ∀ k cached d spec, (d, spec) ∈ cached → k ∈ w.reads d spec → d ∈ w.requests k cached

section Invariant

variable (w : Watcher D S K V) (view : V → P)

/-- A notice is under way that the predicate lets through. -/
def Announced (s : WatchState D S K V) (k : K) : Prop :=
  ∃ old new, .other k old new ∈ s.notices ∧ w.fires k old new = true

/-- The predicate lets every deletion through. -/
def TellsDeletions (k : K) : Prop := ∀ u, w.fires k (some u) none = true

variable {w view} in
/-- A move of a cache that is not told changes nothing a pass would see. -/
theorem Sound.unfired {Later : V → V → Prop} {same : V → V → Bool} (hw : w.Sound Later same view) {k : K}
    {old new : Option V} (hlater : ∀ u ∈ old, ∀ v ∈ new, Later u v) (hsame : ∀ u ∈ old, ∀ v ∈ new, same u v = true)
    (hfires : ¬ w.fires k old new = true) (hk : new ≠ none ∨ w.TellsDeletions k) : old.map view = new.map view := by
  cases new with
  | none =>
    cases old with
    | none => rfl
    | some u => exact absurd (hk.resolve_left (absurd rfl) u) hfires
  | some v =>
    cases old with
    | none => exact absurd (hw.created k v) hfires
    | some u => exact congrArg some (hw.quiet k u v (hlater u rfl v rfl) (hsame u rfl v rfl) (Bool.eq_false_iff.mpr hfires))

/-- What is cached under `k` has been seen or is announced. Where deletions are not told, this is said only while there
is something. -/
def Current (s : WatchState D S K V) (d : D) (k : K) : Prop :=
  s.cache k ≠ none ∨ w.TellsDeletions k → w.Announced s k ∨ (s.seen d k).map view = (s.cache k).map view

/-- The pass over `d` that is under way, or the last one, has read `spec` and everything it refers to but `todo`. -/
structure Reads (s : WatchState D S K V) (d : D) (spec : S) (todo : List K) : Prop where
  work : s.work d = .reading spec todo ∨ s.work d = .idle ∧ todo = []
  own : s.seenOwn d = some spec
  current : ∀ k ∈ w.reads d spec, k ∈ todo ∨ w.Current view s d k

/-- A cached object is going to be read again, or what was read of it is current. -/
def Covered [DecidableEq D] (s : WatchState D S K V) (d : D) : Prop :=
  ∀ spec, s.ownCache.lookup d = some spec →
    s.queued d = true ∨ .own d ∈ s.notices ∨ s.work d = .taken ∨ ∃ todo, w.Reads view s d spec todo

variable [DecidableEq D] {w view} {s t : WatchState D S K V} {d : D}

/-- The invariant passes to a state that only adds to the queue and the notices, as far as `d` goes. -/
theorem Covered.mono (h : w.Covered view s d) (hown : t.ownCache.lookup d = s.ownCache.lookup d)
    (hcache : t.cache = s.cache) (hnotices : ∀ n ∈ s.notices, n ∈ t.notices) (hqueued : s.queued d = true → t.queued d = true)
    (hwork : t.work d = s.work d) (hseenOwn : t.seenOwn d = s.seenOwn d) (hseen : t.seen d = s.seen d) :
    w.Covered view t d := by
  intro spec hspec
  rcases h spec (hown ▸ hspec) with hq | hn | ht | ⟨todo, hr⟩
  · exact .inl (hqueued hq)
  · exact .inr (.inl (hnotices _ hn))
  · exact .inr (.inr (.inl (hwork ▸ ht)))
  · refine .inr (.inr (.inr ⟨todo, ⟨hwork ▸ hr.work, hseenOwn ▸ hr.own, fun k hk => ?_⟩⟩))
    refine (hr.current k hk).imp_right fun hcur hk => ?_
    rw [hcache, hseen]
    rw [hcache] at hk
    exact (hcur hk).imp_left fun ⟨old, new, hmem, hfires⟩ => ⟨old, new, hnotices _ hmem, hfires⟩

theorem Covered.elsewhere (h : w.Covered view s d) (hcaches : SameCaches s t) (ht : Elsewhere s t d) :
    w.Covered view t d :=
  h.mono (by rw [hcaches.ownCache]) hcaches.cache (fun n hn => hcaches.notices ▸ hn) (fun hq => ht.queued ▸ hq) ht.work
    ht.seenOwn ht.seen

theorem Covered.take (h : w.Covered view s d) : w.Covered view (Watcher.take s d) d := by
  unfold Watcher.take
  split
  · exact fun _ _ => .inr (.inr (.inl (Function.update_self ..)))
  · exact h

theorem Covered.get (h : w.Covered view s d) : w.Covered view (w.get s d) d := by
  unfold Watcher.get
  split
  next spec' hwork hcached =>
    intro spec hspec
    cases hcached.symm.trans hspec
    exact .inr (.inr (.inr ⟨w.reads d spec',
      ⟨.inl (Function.update_self ..), Function.update_self .., fun k hk => .inl hk⟩⟩))
  next hwork hcached =>
    intro spec hspec
    cases hcached.symm.trans hspec
  next => exact h

theorem Covered.finish (h : w.Covered view s d) (again : Bool) : w.Covered view (Watcher.finish s d again) d := by
  unfold Watcher.finish
  split
  next spec todo hwork =>
    by_cases hend : todo = [] ∨ again = true
    · rw [if_pos hend]
      intro spec' hspec'
      rcases h spec' hspec' with hq | hn | ht | ⟨todo', hr⟩
      · exact .inl (by simp [hq])
      · exact .inr (.inl hn)
      · cases hwork.symm.trans ht
      · rcases hend with rfl | rfl
        · have htodo : todo' = [] := by
            rcases hr.work with hw' | ⟨hw', -⟩
            · cases hwork.symm.trans hw'
              rfl
            · cases hwork.symm.trans hw'
          exact .inr (.inr (.inr ⟨[], ⟨.inr ⟨Function.update_self .., rfl⟩, hr.own, htodo ▸ hr.current⟩⟩))
        · exact .inl (by simp)
    · rw [if_neg hend]
      exact h
  next => exact h

variable [DecidableEq K]

theorem Covered.read (h : w.Covered view s d) : w.Covered view (Watcher.read s d) d := by
  unfold Watcher.read
  split
  next spec k todo hwork =>
    intro spec' hspec'
    rcases h spec' hspec' with hq | hn | ht | ⟨todo', hr⟩
    · exact .inl hq
    · exact .inr (.inl hn)
    · cases hwork.symm.trans ht
    · obtain ⟨rfl, rfl⟩ : spec = spec' ∧ k :: todo = todo' := by
        rcases hr.work with hw' | ⟨hw', -⟩
        · cases hwork.symm.trans hw'
          exact ⟨rfl, rfl⟩
        · cases hwork.symm.trans hw'
      refine .inr (.inr (.inr ⟨todo, ⟨.inl (Function.update_self ..), hr.own, fun k' hk' => ?_⟩⟩))
      by_cases hkk : k' = k
      · subst hkk
        refine .inr fun _ => .inr ?_
        change (Function.update s.seen d (Function.update (s.seen d) k' (s.cache k')) d k').map view = _
        rw [Function.update_self, Function.update_self]
      · rcases hr.current k' hk' with hmem | hcur
        · exact .inl ((List.mem_cons.mp hmem).resolve_left hkk)
        · refine .inr fun hk' => (hcur hk').imp_right fun hview => ?_
          change (Function.update s.seen d (Function.update (s.seen d) k (s.cache k)) d k').map view = _
          rw [Function.update_self, Function.update_of_ne hkk]
          exact hview
  next => exact h

variable [DecidableEq V]

/-- A cache that moves to what the store has. The notice it leaves either fires, or nothing a pass would see has
changed. -/
theorem Covered.sync {Later : V → V → Prop} {same : V → V → Bool} (hw : w.Sound Later same view)
    (h : w.Covered view s d) (k : K) (hlater : ∀ u ∈ s.cache k, ∀ v ∈ s.store k, Later u v)
    (hsame : ∀ u ∈ s.cache k, ∀ v ∈ s.store k, same u v = true) : w.Covered view (w.next s (.sync k)) d := by
  intro spec hspec
  rcases h spec hspec with hq | hn | ht | ⟨todo, hr⟩
  · exact .inl hq
  · exact .inr (.inl (List.mem_cons_of_mem _ hn))
  · exact .inr (.inr (.inl ht))
  · refine .inr (.inr (.inr ⟨todo, ⟨hr.work, hr.own, fun k' hk' => ?_⟩⟩))
    refine (hr.current k' hk').imp_right fun hcur hk' => ?_
    have hold : w.Announced s k' → w.Announced (w.next s (.sync k)) k' := fun ⟨old, new, hmem, hfires⟩ =>
      ⟨old, new, List.mem_cons_of_mem _ hmem, hfires⟩
    change Function.update s.cache k (s.store k) k' ≠ none ∨ _ at hk'
    change _ ∨ (s.seen d k').map view = (Function.update s.cache k (s.store k) k').map view
    by_cases hkk : k' = k
    · subst hkk
      rw [Function.update_self] at hk' ⊢
      by_cases hfires : w.fires k' (s.cache k') (s.store k') = true
      · exact .inl ⟨_, _, List.mem_cons_self, hfires⟩
      · -- nothing is told: what a pass sees of the object is what it saw before
        have hview : (s.cache k').map view = (s.store k').map view :=
          hw.unfired (hlater · · · ·) (hsame · · · ·) hfires hk'
        have hbefore : s.cache k' ≠ none ∨ w.TellsDeletions k' := by
          refine hk'.imp_left fun hstore hcache => hstore ?_
          rw [hcache] at hview
          exact Option.map_eq_none_iff.mp hview.symm
        rw [← hview]
        exact (hcur hbefore).imp_left hold
    · rw [Function.update_of_ne hkk] at hk' ⊢
      exact (hcur hk').imp_left hold

/-- A notice that is worked off. If it announced something `d` refers to, `d` is queued. -/
theorem Covered.deliver {Later : V → V → Prop} {same : V → V → Bool} (hw : w.Sound Later same view)
    (h : w.Covered view s d) {n : Notice D K V} (hn : n ∈ s.notices) :
    w.Covered view (w.next s (.deliver n false)) d := by
  rw [deliver_of_mem hn]
  intro spec hspec
  have hqueues : d ∈ w.named s.ownCache false n →
      (s.queued d || decide (d ∈ w.named s.ownCache false n)) = true := fun hd => by simp [hd]
  by_cases hd : d ∈ w.named s.ownCache false n
  · exact .inl (hqueues hd)
  · -- every notice that matters to `d` is another one and stays
    have hstays : ∀ m ∈ s.notices, m ≠ n → m ∈ s.notices.erase n := fun m hm hne => (List.mem_erase_of_ne hne).mpr hm
    rcases h spec hspec with hq | hown | ht | ⟨todo, hr⟩
    · exact .inl (by simp [hq])
    · refine .inr (.inl (hstays _ hown ?_))
      rintro rfl
      exact hd (List.mem_singleton_self d)
    · exact .inr (.inr (.inl ht))
    · refine .inr (.inr (.inr ⟨todo, ⟨hr.work, hr.own, fun k hk => ?_⟩⟩))
      refine (hr.current k hk).imp_right fun hcur hk' => (hcur hk').imp_left fun ⟨old, new, hmem, hfires⟩ => ?_
      refine ⟨old, new, hstays _ hmem ?_, hfires⟩
      rintro rfl
      refine hd ?_
      simp only [named, hfires, Bool.not_false, Bool.and_self, if_true]
      exact hw.mapped k s.ownCache d spec (mem_of_lookup_eq_some hspec) hk

/-- Every cached version is an earlier one than that in the store. -/
def Behind (Later : V → V → Prop) (s : WatchState D S K V) : Prop := ∀ k, ∀ u ∈ s.cache k, ∀ v ∈ s.store k, Later u v

variable {Later : V → V → Prop} {same : V → V → Bool}

/-- **One event keeps the invariant.** -/
theorem Covered.next (hw : w.Sound Later same view) (h : w.Covered view s d) (hbehind : Behind Later s)
    {e : WatchEvent D S K V} (he : Orderly Later same s e) : w.Covered view (w.next s e) d := by
  cases e with
  | writeOwn d' spec => exact h.mono rfl rfl (fun _ hn => hn) id rfl rfl rfl
  | write k v => exact h.mono rfl rfl (fun _ hn => hn) id rfl rfl rfl
  | syncOwn d' =>
    by_cases hd : d = d'
    · exact fun _ _ => .inr (.inl (hd ▸ List.mem_cons_self))
    · exact h.mono (lookup_setEntry_of_ne hd _) rfl (fun _ hn => List.mem_cons_of_mem _ hn) id rfl rfl rfl
  | sync k => exact h.sync hw k (hbehind k) he
  | deliver n listFails =>
    obtain rfl : listFails = false := he
    by_cases hn : n ∈ s.notices
    · exact h.deliver hw hn
    · rw [deliver_of_not_mem hn]
      exact h
  | requeue d' =>
    refine h.mono rfl rfl (fun _ hn => hn) (fun hq => ?_) rfl rfl rfl
    change Function.update s.queued d' true d = true
    by_cases hd : d = d'
    · rw [hd, Function.update_self]
    · rw [Function.update_of_ne hd, hq]
  | take d' =>
    by_cases hd : d = d'
    · exact hd ▸ h.take
    · exact h.elsewhere take_caches (take_elsewhere hd)
  | get d' =>
    by_cases hd : d = d'
    · exact hd ▸ h.get
    · exact h.elsewhere (get_caches w) (get_elsewhere w hd)
  | read d' =>
    by_cases hd : d = d'
    · exact hd ▸ h.read
    · exact h.elsewhere read_caches (read_elsewhere hd)
  | finish d' again =>
    by_cases hd : d = d'
    · exact hd ▸ h.finish again
    · exact h.elsewhere (finish_caches again) (finish_elsewhere hd again)

theorem Behind.next (hrefl : ∀ v, Later v v) (h : Behind Later s) {e : WatchEvent D S K V}
    (he : Orderly Later same s e) : Behind Later (w.next s e) := by
  have hkept : ∀ {t : WatchState D S K V}, SameCaches s t → Behind Later t := fun ht k => by
    rw [ht.cache, ht.store]
    exact h k
  cases e with
  | write k v =>
    intro k' u hu v' hv'
    change Function.update s.store k v k' = some v' at hv'
    by_cases hkk : k' = k
    · subst hkk
      rw [Function.update_self] at hv'
      subst hv'
      exact he.2 u hu
    · rw [Function.update_of_ne hkk] at hv'
      exact h k' u hu v' hv'
  | sync k =>
    intro k' u hu v hv
    change Function.update s.cache k (s.store k) k' = some u at hu
    by_cases hkk : k' = k
    · subst hkk
      rw [Function.update_self] at hu
      cases hu.symm.trans hv
      exact hrefl u
    · rw [Function.update_of_ne hkk] at hu
      exact h k' u hu v hv
  | writeOwn | syncOwn | requeue => exact h
  | deliver n listFails =>
    by_cases hn : n ∈ s.notices
    · rw [deliver_of_mem hn]
      exact h
    · rw [deliver_of_not_mem hn]
      exact h
  | take d' => exact hkept take_caches
  | get d' => exact hkept (get_caches w)
  | read d' => exact hkept read_caches
  | finish d' again => exact hkept (finish_caches again)

/-- **The invariant holds along every orderly run.** -/
theorem system_covered (hw : w.Sound Later same view) {h : List (WatchEvent D S K V)}
    (hr : w.system.Run (fun s _ => Orderly Later same s) {} s h) (d : D) : w.Covered view s d := by
  refine (hr.invariant (I := fun s _ => Behind Later s ∧ w.Covered view s d) ⟨?_, ?_⟩
    fun s h e _ hinv he => ⟨hinv.1.next hw.refl he, hinv.2.next hw hinv.1 he⟩).2
  · intro k u hu
    cases hu
  · intro spec hspec
    cases hspec

end Invariant

/-! ## Objects at rest -/

section Rest

variable {w : Watcher D S K V} {view : V → P} {s : WatchState D S K V} {d : D}

/-- Nothing is under way for `d`. -/
structure Settled (s : WatchState D S K V) (d : D) : Prop where
  unqueued : s.queued d = false
  idle : s.work d = .idle
  untold : .own d ∉ s.notices

/-- What the last pass over an object at rest has read is current. -/
theorem Settled.fresh [DecidableEq D] (hs : Settled s d) (h : w.Covered view s d) {spec : S} (hspec : s.ownCache.lookup d = some spec) :
    s.seenOwn d = some spec ∧ ∀ k ∈ w.reads d spec, w.Current view s d k := by
  rcases h spec hspec with hq | hn | ht | ⟨todo, hr⟩
  · cases hs.unqueued.symm.trans hq
  · exact absurd hn hs.untold
  · cases hs.idle.symm.trans ht
  · refine ⟨hr.own, fun k hk => (hr.current k hk).resolve_left ?_⟩
    rcases hr.work with hw | ⟨-, rfl⟩
    · cases hs.idle.symm.trans hw
    · exact List.not_mem_nil

end Rest

end Watcher
end TemporalOperator.Lib
