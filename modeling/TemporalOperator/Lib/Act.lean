import Mathlib.Logic.Basic

/-!
# Logged computations that may fail

`Act ω ε α` : a computation that logs entries of type `ω` and ends in a value or an error. A failure
keeps what was logged before it, as an aborted controller pass keeps the calls it has already made.

* `emit`, `fail`, `lift`, `attempt` : one entry, an error, a pure result, and a call whose error the
  caller looks at itself;
* `res_bind_eq_ok`, `mem_log_bind` : the two rules that take a sequence apart;
* `each` : a list of actions in order, stopping at the first error (`mem_log_each`, `res_each_ok`);
* `Emits p m` : every entry `m` logs has `p`, with one rule per constructor of `Act`;
* `Returns q m` : every value `m` returns has `q`;
* `Writes pick m bs` : the selected entries are `bs` in order, or a beginning of it if `m` fails, with one rule per
  constructor.
-/

namespace TemporalOperator.Lib

/-- A computation with a log of entries `ω` and a result or an error `ε`. -/
structure Act (ω ε α : Type) where
  log : List ω
  res : Except ε α

namespace Act

variable {ω ε α β : Type}

instance : Monad (Act ω ε) where
  pure a := ⟨[], .ok a⟩
  bind m f :=
    match m.res with
    | .ok a => ⟨m.log ++ (f a).log, (f a).res⟩
    | .error e => ⟨m.log, .error e⟩

def emit (w : ω) : Act ω ε Unit := ⟨[w], .ok ()⟩

def fail (e : ε) : Act ω ε α := ⟨[], .error e⟩

def lift (r : Except ε α) : Act ω ε α := ⟨[], r⟩

/-- Run `m` and hand its result, error included, to the caller. -/
def attempt (m : Act ω ε α) : Act ω ε (Except ε α) := ⟨m.log, .ok m.res⟩

/-! ## Results and logs -/

@[simp] theorem res_pure (a : α) : (pure a : Act ω ε α).res = .ok a := rfl

@[simp] theorem log_pure (a : α) : (pure a : Act ω ε α).log = [] := rfl

@[simp] theorem res_emit (w : ω) : (emit w : Act ω ε Unit).res = .ok () := rfl

@[simp] theorem log_emit (w : ω) : (emit w : Act ω ε Unit).log = [w] := rfl

@[simp] theorem res_fail (e : ε) : (fail e : Act ω ε α).res = .error e := rfl

@[simp] theorem log_fail (e : ε) : (fail e : Act ω ε α).log = [] := rfl

@[simp] theorem res_lift (r : Except ε α) : (lift r : Act ω ε α).res = r := rfl

@[simp] theorem log_lift (r : Except ε α) : (lift r : Act ω ε α).log = [] := rfl

@[simp] theorem res_attempt (m : Act ω ε α) : (attempt m).res = .ok m.res := rfl

@[simp] theorem log_attempt (m : Act ω ε α) : (attempt m).log = m.log := rfl

theorem bind_of_ok {m : Act ω ε α} {a : α} (h : m.res = .ok a) (f : α → Act ω ε β) :
    m >>= f = ⟨m.log ++ (f a).log, (f a).res⟩ := by
  simp [Bind.bind, h]

theorem bind_of_error {m : Act ω ε α} {e : ε} (h : m.res = .error e) (f : α → Act ω ε β) :
    m >>= f = ⟨m.log, .error e⟩ := by
  simp [Bind.bind, h]

@[simp] theorem res_bind_eq_ok (m : Act ω ε α) (f : α → Act ω ε β) (b : β) :
    (m >>= f).res = .ok b ↔ ∃ a, m.res = .ok a ∧ (f a).res = .ok b := by
  cases h : m.res with
  | ok a => simp [bind_of_ok h]
  | error e => simp [bind_of_error h]

/-- What a sequence logs: the first part's entries, and the second's if the first succeeds. -/
@[simp] theorem mem_log_bind (m : Act ω ε α) (f : α → Act ω ε β) (w : ω) :
    w ∈ (m >>= f).log ↔ w ∈ m.log ∨ ∃ a, m.res = .ok a ∧ w ∈ (f a).log := by
  cases h : m.res with
  | ok a => simp [bind_of_ok h]
  | error e => simp [bind_of_error h]

instance : LawfulMonad (Act ω ε) := by
  refine LawfulMonad.mk' _ (fun m => ?_) (fun a f => ?_) fun m f g => ?_
  · change m >>= pure = m
    cases h : m.res with
    | error e => rw [bind_of_error h, ← h]
    | ok a => rw [bind_of_ok h, log_pure, List.append_nil, res_pure, ← h]
  · rw [bind_of_ok (res_pure a), log_pure, List.nil_append]
  · cases h : m.res with
    | error e => rw [bind_of_error h, bind_of_error h, bind_of_error rfl]
    | ok a =>
      rw [bind_of_ok h, bind_of_ok h]
      cases h' : (f a).res with
      | error e => rw [bind_of_error rfl, bind_of_error h']
      | ok b => rw [bind_of_ok rfl, bind_of_ok h', List.append_assoc]

@[simp] theorem log_map {γ : Type} (g : α → γ) (m : Act ω ε α) : (g <$> m).log = m.log := by
  change (m >>= fun a => pure (g a)).log = m.log
  cases h : m.res with
  | error e => rw [bind_of_error h]
  | ok a => rw [bind_of_ok h, log_pure, List.append_nil]

@[simp] theorem res_map_eq_ok {γ : Type} (g : α → γ) (m : Act ω ε α) (c : γ) :
    (g <$> m).res = .ok c ↔ ∃ a, m.res = .ok a ∧ g a = c := by
  change (m >>= fun a => pure (g a)).res = .ok c ↔ _
  rw [res_bind_eq_ok]
  exact exists_congr fun a => and_congr_right fun _ => ⟨Except.ok.inj, congrArg _⟩

/-! ## Lists of actions -/

/-- The actions of a list in order, stopping at the first error. -/
def each (f : α → Act ω ε Unit) : List α → Act ω ε Unit
  | [] => pure ()
  | a :: as => do
    f a
    each f as

theorem mem_log_each {f : α → Act ω ε Unit} {w : ω} {as : List α} (h : w ∈ (each f as).log) :
    ∃ a ∈ as, w ∈ (f a).log := by
  induction as with
  | nil => simp [each] at h
  | cons a as ih =>
    rw [each, mem_log_bind] at h
    rcases h with h | ⟨_, -, h⟩
    · exact ⟨a, by simp, h⟩
    · obtain ⟨b, hb, hw⟩ := ih h
      exact ⟨b, by simp [hb], hw⟩

theorem res_each_ok {f : α → Act ω ε Unit} {as : List α} (h : (each f as).res = .ok ()) :
    ∀ a ∈ as, (f a).res = .ok () ∧ ∀ w ∈ (f a).log, w ∈ (each f as).log := by
  induction as with
  | nil => simp
  | cons b bs ih =>
    rw [each, res_bind_eq_ok] at h
    obtain ⟨_, hb, hbs⟩ := h
    intro a ha
    rcases List.mem_cons.mp ha with rfl | ha
    · refine ⟨hb, fun w hw => ?_⟩
      rw [each, mem_log_bind]
      exact .inl hw
    · obtain ⟨h1, h2⟩ := ih hbs a ha
      refine ⟨h1, fun w hw => ?_⟩
      rw [each, mem_log_bind]
      exact .inr ⟨(), hb, h2 w hw⟩

/-! ## What a computation can log -/

/-- Every entry that `m` logs has `p`, whether `m` succeeds or not. -/
def Emits (p : ω → Prop) (m : Act ω ε α) : Prop := ∀ w ∈ m.log, p w

variable {p q : ω → Prop}

theorem Emits.mono {m : Act ω ε α} (h : m.Emits p) (hpq : ∀ w, p w → q w) : m.Emits q :=
  fun w hw => hpq w (h w hw)

theorem emits_pure (a : α) : (pure a : Act ω ε α).Emits p := by
  simp [Emits]

theorem emits_emit {w : ω} (hw : p w) : (emit w : Act ω ε Unit).Emits p := by
  simpa [Emits] using hw

theorem emits_fail (e : ε) : (fail e : Act ω ε α).Emits p := by
  simp [Emits]

theorem emits_lift (r : Except ε α) : (lift r : Act ω ε α).Emits p := by
  simp [Emits]

theorem emits_attempt {m : Act ω ε α} (h : m.Emits p) : (attempt m).Emits p := h

theorem emits_bind {m : Act ω ε α} {f : α → Act ω ε β} (hm : m.Emits p) (hf : ∀ a, (f a).Emits p) :
    (m >>= f).Emits p := by
  intro w hw
  rcases (mem_log_bind m f w).mp hw with h | ⟨a, -, h⟩
  · exact hm w h
  · exact hf a w h

theorem emits_each {f : α → Act ω ε Unit} {as : List α} (h : ∀ a ∈ as, (f a).Emits p) : (each f as).Emits p := by
  intro w hw
  obtain ⟨a, ha, hwa⟩ := mem_log_each hw
  exact h a ha w hwa

/-! ## What a computation can return -/

def Returns (q : α → Prop) (m : Act ω ε α) : Prop := ∀ a, m.res = .ok a → q a

section Returns
variable {q : α → Prop} {q' : β → Prop}

theorem returns_any (m : Act ω ε α) : m.Returns fun _ => True := fun _ _ => trivial

theorem returns_pure {a : α} (h : q a) : (pure a : Act ω ε α).Returns q := by
  rintro _ ⟨⟩
  exact h

theorem returns_fail (e : ε) : (fail e : Act ω ε α).Returns q := by
  rintro _ ⟨⟩

theorem returns_bind {m : Act ω ε α} {f : α → Act ω ε β} (hm : m.Returns q) (hf : ∀ a, q a → (f a).Returns q') :
    (m >>= f).Returns q' := by
  intro b h
  obtain ⟨a, ha, hb⟩ := (res_bind_eq_ok m f b).mp h
  exact hf a (hm a ha) b hb

end Returns

/-! ## What a computation logs in order -/

/-- The entries that `pick` selects are a beginning of `bs`, and all of it when `m` succeeds. -/
structure Writes {γ : Type} (pick : ω → Option γ) (m : Act ω ε α) (bs : List γ) : Prop where
  begins : m.log.filterMap pick <+: bs
  ends : ∀ a, m.res = .ok a → m.log.filterMap pick = bs

section Writes
variable {γ : Type} {pick : ω → Option γ} {bs cs : List γ}

theorem writes_nil {m : Act ω ε α} (h : m.Emits fun w => pick w = none) : m.Writes pick [] := by
  have hnil : m.log.filterMap pick = [] := List.filterMap_eq_nil_iff.mpr h
  exact ⟨hnil ▸ List.prefix_rfl, fun _ _ => hnil⟩

theorem writes_emit {w : ω} {c : γ} (h : pick w = some c) : (emit w : Act ω ε Unit).Writes pick [c] := by
  have hlog : (emit w : Act ω ε Unit).log.filterMap pick = [c] := List.filterMap_cons_some h
  exact ⟨hlog ▸ List.prefix_rfl, fun _ _ => hlog⟩

theorem Writes.bind {m : Act ω ε α} {f : α → Act ω ε β} (hm : m.Writes pick bs)
    (hf : ∀ a, m.res = .ok a → (f a).Writes pick cs) : (m >>= f).Writes pick (bs ++ cs) := by
  cases hres : m.res with
  | error e =>
    rw [bind_of_error hres]
    exact ⟨hm.begins.trans (List.prefix_append _ _), nofun⟩
  | ok a =>
    have hbs := hm.ends a hres
    have hcs := hf a hres
    rw [bind_of_ok hres]
    refine ⟨?_, fun b hb => ?_⟩
    · rw [List.filterMap_append, hbs]
      exact (List.prefix_append_right_inj _).mpr hcs.begins
    · rw [List.filterMap_append, hbs, hcs.ends b hb]

/-- A step that selects nothing, and what comes after it. -/
theorem writes_of_silent {m : Act ω ε α} {f : α → Act ω ε β} (hm : m.Emits fun w => pick w = none)
    (hf : ∀ a, m.res = .ok a → (f a).Writes pick cs) : (m >>= f).Writes pick cs :=
  (writes_nil hm).bind hf

theorem Writes.then_silent {m : Act ω ε α} {f : α → Act ω ε β} (hm : m.Writes pick bs)
    (hf : ∀ a, (f a).Emits fun w => pick w = none) : (m >>= f).Writes pick bs := by
  rw [← List.append_nil bs]
  exact hm.bind fun a _ => writes_nil (hf a)

theorem writes_each {f : α → Act ω ε Unit} {g : α → γ} {as : List α} (h : ∀ a ∈ as, (f a).Writes pick [g a]) :
    (each f as).Writes pick (as.map g) := by
  induction as with
  | nil => exact writes_nil (emits_pure ())
  | cons a as ih =>
    exact (h a List.mem_cons_self).bind fun _ _ => ih fun b hb => h b (List.mem_cons_of_mem a hb)

end Writes

end Act

end TemporalOperator.Lib
