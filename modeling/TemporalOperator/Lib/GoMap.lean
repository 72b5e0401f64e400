import Mathlib.Data.List.Nodup
import Mathlib.Data.List.Pairwise
import Mathlib.Data.String.Basic

/-!
# Maps with string keys

A `GoMap` is the list of its entries in the order of their keys, so that equal maps are equal lists. A loop over a map
sees its entries in any order.

* `GoMap` : a map; `mem_of_lookup`, `lookup_inj` : a table that is read with `List.lookup`;
* `Iteration` : the order in which one loop sees a map that was filled by assignments.
-/

namespace TemporalOperator.Lib

/-- The entries of a Go map with string keys, in key order. -/
structure GoMap (β : Type) where
  entries : List (String × β) := []
  sorted : entries.Pairwise (·.1 < ·.1) := by simp
  deriving DecidableEq, Repr

namespace GoMap

variable {β γ : Type}

def empty : GoMap β := {}

def map (f : β → γ) (m : GoMap β) : GoMap γ where
  entries := m.entries.map fun e => (e.1, f e.2)
  sorted := List.pairwise_map.mpr m.sorted

theorem map_injective {f : β → γ} (hf : Function.Injective f) : Function.Injective (map f) := by
  rintro ⟨entries, _⟩ ⟨entries', _⟩ h
  have hentries : entries.map (fun e => (e.1, f e.2)) = entries'.map fun e => (e.1, f e.2) := congrArg GoMap.entries h
  have hpair : Function.Injective fun e : String × β => (e.1, f e.2) := by
    rintro ⟨key, value⟩ ⟨key', value'⟩ heq
    obtain ⟨hkey, hvalue⟩ := Prod.mk.inj heq
    exact Prod.ext hkey (hf hvalue)
  obtain rfl := List.map_injective_iff.mpr hpair hentries
  rfl

def isEmpty (m : GoMap β) : Bool := m.entries.isEmpty

def single (key : String) (value : β) : GoMap β where
  entries := [(key, value)]

end GoMap

/-! ## Tables -/

section
variable {β : Type} {table : List (String × β)} {key key' : String} {value value' : β}

theorem mem_of_lookup (h : table.lookup key = some value) : (key, value) ∈ table := by
  obtain ⟨before, after, hsplit, -⟩ := List.lookup_eq_some_iff.mp h
  exact hsplit ▸ List.mem_append_cons_self

/-- In a table without a value twice, a value has one key. -/
theorem lookup_inj (hvalues : (table.map Prod.snd).Nodup) (h : table.lookup key = some value)
    (h' : table.lookup key' = some value') : value = value' ↔ key = key' := by
  constructor
  · rintro rfl
    exact congrArg Prod.fst (List.inj_on_of_nodup_map hvalues (mem_of_lookup h) (mem_of_lookup h') rfl)
  · rintro rfl
    exact Option.some.inj (h.symm.trans h')

end

/-! ## Iteration -/

section
variable {β : Type} {assignments order : List (String × β)}

/-- `order` has the entries of a map one after the other. The map was filled by `assignments`, of which the last one for a
key counts. -/
structure Iteration (assignments order : List (String × β)) : Prop where
  nodup : (order.map Prod.fst).Nodup
  mem_iff : ∀ key value, (key, value) ∈ order ↔ assignments.reverse.lookup key = some value

namespace Iteration

theorem reverse (h : Iteration assignments order) : Iteration assignments order.reverse where
  nodup := by
    rw [List.map_reverse]
    exact List.nodup_reverse.mpr h.nodup
  mem_iff key value := by rw [List.mem_reverse, h.mem_iff]

theorem mem_keys_iff (h : Iteration assignments order) (key : String) :
    key ∈ order.map Prod.fst ↔ key ∈ assignments.map Prod.fst := by
  constructor
  · intro hkey
    obtain ⟨⟨key, value⟩, hmem, rfl⟩ := List.mem_map.mp hkey
    have hassigned := mem_of_lookup ((h.mem_iff key value).mp hmem)
    exact List.mem_map_of_mem (List.mem_reverse.mp hassigned)
  · intro hkey
    obtain ⟨⟨key, value⟩, hmem, rfl⟩ := List.mem_map.mp hkey
    cases hlookup : assignments.reverse.lookup key with
    | none =>
      have hnone := List.lookup_eq_none_iff.mp hlookup (key, value) (List.mem_reverse.mpr hmem)
      simp at hnone
    | some value' => exact List.mem_map.mpr ⟨_, (h.mem_iff key value').mpr hlookup, rfl⟩

/-- The entries whose key has not come before. -/
def firsts : List (String × β) → List (String × β)
  | [] => []
  | e :: es => e :: (firsts es).filter fun e' => e'.1 ≠ e.1

theorem mem_firsts (es : List (String × β)) (key : String) (value : β) :
    (key, value) ∈ firsts es ↔ es.lookup key = some value := by
  induction es with
  | nil => simp [firsts]
  | cons e es ih =>
    obtain ⟨key', value'⟩ := e
    simp only [firsts, List.mem_cons, List.mem_filter, Prod.mk.injEq, decide_eq_true_eq, ih]
    by_cases hkey : key = key'
    · subst hkey
      rw [List.lookup_cons_self]
      simp [eq_comm]
    · rw [List.lookup_cons, beq_false_of_ne hkey]
      simp [hkey]

theorem nodup_firsts (es : List (String × β)) : ((firsts es).map Prod.fst).Nodup := by
  induction es with
  | nil => exact List.nodup_nil
  | cons e es ih =>
    rw [firsts, List.map_cons, List.nodup_cons]
    refine ⟨?_, ih.sublist (List.filter_sublist.map _)⟩
    intro hmem
    obtain ⟨e', he', hkey⟩ := List.mem_map.mp hmem
    simp [hkey] at he'

theorem firsts_eq_self {es : List (String × β)} (h : (es.map Prod.fst).Nodup) : firsts es = es := by
  induction es with
  | nil => rfl
  | cons e es ih =>
    obtain ⟨hnew, hrest⟩ := List.nodup_cons.mp h
    rw [firsts, ih hrest, List.filter_eq_self.mpr]
    intro e' he'
    exact decide_eq_true fun hkey => hnew (hkey ▸ List.mem_map_of_mem he')

theorem of_nodup (h : (assignments.map Prod.fst).Nodup) : Iteration assignments assignments where
  nodup := h
  mem_iff key value := by
    have hreverse : (assignments.reverse.map Prod.fst).Nodup := by
      rw [List.map_reverse]
      exact List.nodup_reverse.mpr h
    rw [← mem_firsts, firsts_eq_self hreverse, List.mem_reverse]

theorem exists_order (assignments : List (String × β)) : ∃ order, Iteration assignments order :=
  ⟨firsts assignments.reverse, nodup_firsts _, mem_firsts _⟩

theorem eq_of_one_key {order' : List (String × β)} (h : Iteration assignments order)
    (h' : Iteration assignments order')
    (hone : ∀ key ∈ assignments.map Prod.fst, ∀ key' ∈ assignments.map Prod.fst, key = key') : order = order' := by
  have hperm : order.Perm order' := by
    refine (List.perm_ext_iff_of_nodup (List.Nodup.of_map _ h.nodup) (List.Nodup.of_map _ h'.nodup)).mpr ?_
    rintro ⟨key, value⟩
    rw [h.mem_iff, h'.mem_iff]
  cases order with
  | nil => exact hperm.nil_eq
  | cons e es =>
    cases es with
    | nil => exact List.perm_singleton.mp hperm.symm |>.symm
    | cons e' es =>
      have hsame := hone e.1 ((h.mem_keys_iff _).mp List.mem_cons_self) e'.1
        ((h.mem_keys_iff _).mp (List.mem_cons_of_mem _ List.mem_cons_self))
      exact absurd (hsame ▸ List.mem_cons_self) (List.nodup_cons.mp h.nodup).1

theorem reverse_ne {key key' : String} (h : Iteration assignments order) (hkey : key ∈ assignments.map Prod.fst)
    (hkey' : key' ∈ assignments.map Prod.fst) (hne : key ≠ key') : order.reverse ≠ order := by
  intro heq
  have hkeys : (order.map Prod.fst).reverse = order.map Prod.fst := by rw [← List.map_reverse, heq]
  rw [← h.mem_keys_iff] at hkey hkey'
  have hnodup := h.nodup
  generalize order.map Prod.fst = keys at hkeys hkey hkey' hnodup
  cases keys with
  | nil => cases hkey
  | cons k ks =>
    cases hks : ks with
    | nil =>
      rw [hks] at hkey hkey'
      exact hne ((List.mem_singleton.mp hkey).trans (List.mem_singleton.mp hkey').symm)
    | cons k' ks' =>
      -- the first key is the last one as well
      have hlast : (k :: ks).getLast? = some k := by
        rw [← List.head?_reverse, hkeys]
        rfl
      rw [hks, List.getLast?_cons_cons, ← hks] at hlast
      exact (List.nodup_cons.mp hnodup).1 (List.mem_of_getLast? hlast)

end Iteration

end

end TemporalOperator.Lib
