import Mathlib.Data.List.Forall2

/-!
# Computations that may fail

A sequence of steps in `Except` ends well when each of them does.
-/

namespace TemporalOperator.Lib

variable {ε α β : Type}

theorem bind_eq_ok {m : Except ε α} {f : α → Except ε β} {b : β} :
    (m >>= f) = .ok b ↔ ∃ a, m = .ok a ∧ f a = .ok b := by
  cases m with
  | error e => exact ⟨nofun, fun ⟨_, h, _⟩ => nomatch h⟩
  | ok a => exact ⟨fun h => ⟨a, rfl, h⟩, fun ⟨_, ha, hf⟩ => Except.ok.inj ha ▸ hf⟩

theorem map_eq_ok {m : Except ε α} {f : α → β} {b : β} : f <$> m = .ok b ↔ ∃ a, m = .ok a ∧ f a = b := by
  cases m with
  | error e => exact ⟨nofun, fun ⟨_, h, _⟩ => nomatch h⟩
  | ok a => exact ⟨fun h => ⟨a, rfl, Except.ok.inj h⟩, fun ⟨_, ha, hf⟩ => congrArg _ (Except.ok.inj ha ▸ hf)⟩

/-- A check, and what comes after it. -/
theorem check_eq_ok {m : Except ε Unit} {f : Except ε β} {b : β} :
    (m >>= fun _ => f) = .ok b ↔ m = .ok () ∧ f = .ok b := by
  rw [bind_eq_ok]
  exact ⟨fun ⟨_, hm, hf⟩ => ⟨hm, hf⟩, fun ⟨hm, hf⟩ => ⟨(), hm, hf⟩⟩

theorem mapError_eq_ok {ε' : Type} {m : Except ε α} {f : ε → ε'} {a : α} : m.mapError f = .ok a ↔ m = .ok a := by
  cases m with
  | error e => exact ⟨nofun, nofun⟩
  | ok b => exact ⟨fun h => congrArg _ (Except.ok.inj h), fun h => congrArg _ (Except.ok.inj h)⟩

/-- A loop that builds a list has built each entry. -/
theorem forall₂_of_mapM {f : α → Except ε β} {as : List α} {bs : List β} (h : as.mapM f = .ok bs) :
    List.Forall₂ (fun a b => f a = .ok b) as bs := by
  induction as generalizing bs with
  | nil =>
    obtain rfl := Except.ok.inj h
    exact .nil
  | cons a as ih =>
    rw [List.mapM_cons] at h
    obtain ⟨b, hb, h⟩ := bind_eq_ok.mp h
    obtain ⟨bs, hbs, h⟩ := bind_eq_ok.mp h
    obtain rfl := Except.ok.inj h
    exact .cons hb (ih hbs)

theorem exists_ok_of_isOk {m : Except ε α} (h : m.isOk = true) : ∃ a, m = .ok a := by
  cases m with
  | error e => exact nomatch h
  | ok a => exact ⟨a, rfl⟩

section Agreement

/-! Two computations agree when their results do, seen through two functions, and their errors are the same. -/

variable {α' β' γ δ : Type} {x : Except ε α} {y : Except ε α'} {f : α → γ} {g : α' → γ}

theorem map_bind_congr {F : β → δ} {G : β' → δ} {k : α → Except ε β} {k' : α' → Except ε β'}
    (h : x.map f = y.map g) (hk : ∀ a b, f a = g b → (k a).map F = (k' b).map G) :
    (x >>= k).map F = (y >>= k').map G := by
  cases x with
  | error e =>
    cases y with
    | error e' => exact congrArg Except.error (Except.error.inj h)
    | ok b => exact nomatch h
  | ok a =>
    cases y with
    | error e' => exact nomatch h
    | ok b => exact hk a b (Except.ok.inj h)

theorem map_mapError_congr {ε' : Type} {e : ε → ε'} (h : x.map f = y.map g) :
    (x.mapError e).map f = (y.mapError e).map g := by
  cases x with
  | error a =>
    cases y with
    | error b => exact congrArg (Except.error ∘ e) (Except.error.inj h)
    | ok b => exact nomatch h
  | ok a =>
    cases y with
    | error b => exact nomatch h
    | ok b => exact congrArg Except.ok (Except.ok.inj h)

end Agreement

end TemporalOperator.Lib
