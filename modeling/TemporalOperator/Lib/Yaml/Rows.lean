import TemporalOperator.Lib.Yaml.Lines

/-!
# Writing a document row by row

A text made of rows, each an entry or an item whose value stands as it is or quoted.

* `Row.text`, `Row.line` : the text of a row, and the line it is meant to be;
* `reads_rows` : rows that are safe are read as the lines they are meant to be;
* `peel_rows` : where the lines have the bodies that the rows are meant to have, the rows are safe;
* `not_reads_run_on` : a row that runs on, after a blank, is not read as what it is meant to be.
-/

namespace TemporalOperator.Lib.Yaml
open GoQuote

/-- A value as it is written: the text itself, or the text quoted. -/
inductive Value
  | plain (text : String)
  | quoted (s : GoString)
  deriving DecidableEq, Repr

namespace Value

def text (t : PrintTable) : Value → String
  | .plain text => text
  | .quoted s => quote t s

def means : Value → GoString
  | .plain text => GoString.ofString text
  | .quoted s => s

def Safe : Value → Prop
  | .plain text => plainValue text.toList = true
  | .quoted s => s.Valid

theorem readScalar_text (t : PrintTable) {v : Value} (hv : v.Safe) : readScalar (v.text t).toList = some v.means := by
  cases v with
  | plain text => exact readScalar_plain hv
  | quoted s => exact readScalar_quote t hv

theorem quote_no_newline (t : PrintTable) {s : GoString} (hs : s.Valid) : '\n' ∉ (quote t s).toList :=
  readScalar_no_newline (readScalar_quote t hs)

theorem safe_of_readScalar (t : PrintTable) {v : Value}
    (h : readScalar ((v.text t).toList.takeWhile (· ≠ '\n')) = some v.means) : v.Safe := by
  obtain ⟨ds, hds, hcases⟩ := readScalar_inv h
  cases v with
  | quoted s => exact ⟨ds, hds⟩
  | plain text =>
    have hds : text.toList = ds := GoString.ofChars_inj.mp hds
    rcases hcases with ⟨-, hplain⟩ | ⟨hlt, -⟩
    · rwa [← hds] at hplain
    · have hle := (List.takeWhile_sublist (l := text.toList) fun c => decide (c ≠ '\n')).length_le
      rw [← hds] at hlt
      exact absurd hlt (Nat.not_lt.mpr hle)

/-- A value that runs on is read as something else. -/
theorem readScalar_run_on (t : PrintTable) (v : Value) (cs : List Char) :
    readScalar (((v.text t).toList ++ ' ' :: cs).takeWhile (· ≠ '\n')) ≠ some v.means := by
  intro h
  obtain ⟨ds, hds, hcases⟩ := readScalar_inv h
  cases v with
  | quoted s =>
    have hs : s.Valid := ⟨ds, hds⟩
    have hnl : ∀ c ∈ (quote t s).toList, decide (c ≠ '\n') = true := fun c hc =>
      decide_eq_true fun hcn => quote_no_newline t hs (hcn ▸ hc)
    rw [text, List.takeWhile_append_of_pos hnl, readScalar_quote_append t hs (by simp)] at h
    cases h
  | plain text =>
    have hds : text.toList = ds := GoString.ofChars_inj.mp hds
    simp only [Value.text] at hcases
    rw [← hds] at hcases
    by_cases hnl : '\n' ∈ text.toList
    · -- only a part of the text is on the line
      have hlt : ((text.toList ++ ' ' :: cs).takeWhile (· ≠ '\n')).length < text.toList.length := by
        obtain ⟨a, b, hab⟩ := List.append_of_mem hnl
        have ha := (List.takeWhile_sublist (l := a) fun c => decide (c ≠ '\n')).length_le
        rw [hab, List.append_assoc, List.takeWhile_append]
        split
        · simp
        · rw [List.length_append, List.length_cons]
          omega
      rcases hcases with ⟨heq, -⟩ | ⟨hlt', -⟩
      · rw [← heq] at hlt
        exact Nat.lt_irrefl _ hlt
      · exact Nat.lt_irrefl _ (Nat.lt_trans hlt hlt')
    · have hall : ∀ c ∈ text.toList, decide (c ≠ '\n') = true := fun c hc =>
        decide_eq_true fun hcn => hnl (hcn ▸ hc)
      rw [List.takeWhile_append_of_pos hall] at hcases
      rcases hcases with ⟨heq, -⟩ | ⟨-, hcount⟩
      · have := congrArg List.length heq
        simp at this
      · have hblank : 0 < List.count ' ' ((' ' :: cs).takeWhile fun a => decide (a ≠ '\n')) :=
          List.count_pos_iff.mpr (by simp)
        rw [List.count_append] at hcount
        omega

end Value

/-- A row of a text: nothing, a key, a key with its value, or an item. -/
inductive Row
  | blank
  | block (indent : Nat) (key : String)
  | entry (indent : Nat) (key : String) (value : Value)
  | item (indent : Nat) (value : Value)
  deriving DecidableEq, Repr

def pad (n : Nat) : String := String.ofList (List.replicate n ' ')

namespace Row

def text (t : PrintTable) : Row → String
  | .blank => ""
  | .block n key => pad n ++ key ++ ":"
  | .entry n key value => pad n ++ key ++ ": " ++ value.text t
  | .item n value => pad n ++ "- " ++ value.text t

def line : Row → Option Line
  | .blank => none
  | .block n key => some ⟨n, .entry key none⟩
  | .entry n key value => some ⟨n, .entry key (some value.means)⟩
  | .item n value => some ⟨n, .item value.means⟩

def body (r : Row) : Option Body := r.line.map Line.body

def Safe : Row → Prop
  | .blank => True
  | .block _ key => plainKey key.toList = true
  | .entry _ key value => plainKey key.toList = true ∧ value.Safe
  | .item _ value => value.Safe

/-! ## Safe rows -/

theorem readLine_text (t : PrintTable) {r : Row} (hr : r.Safe) {l : Line} (hl : r.line = some l) :
    readLine (r.text t).toList = some l := by
  cases r with
  | blank => cases hl
  | block n key =>
    obtain rfl := Option.some.inj hl
    simpa [text, pad] using readLine_block n hr
  | entry n key value =>
    obtain rfl := Option.some.inj hl
    have h := readLine_entry n hr.1 (value.text t).toList
    rw [Value.readScalar_text t hr.2] at h
    simpa [text, pad] using h
  | item n value =>
    obtain rfl := Option.some.inj hl
    have h := readLine_item n (value.text t).toList
    rw [Value.readScalar_text t hr] at h
    simpa [text, pad] using h

end Row

/-- **Safe rows are read as what they are meant to be.** -/
theorem reads_rows (t : PrintTable) {rows : List Row} (h : ∀ r ∈ rows, r.Safe) :
    Reads (rows.map (Row.text t)) (rows.filterMap Row.line) := by
  induction rows with
  | nil => exact .nil
  | cons r rows ih =>
    have hrest := ih fun r hr => h r (.tail _ hr)
    cases hl : r.line with
    | none =>
      cases r with
      | blank => exact hrest.blank
      | block n key => cases hl
      | entry n key value => cases hl
      | item n value => cases hl
    | some l =>
      rw [List.filterMap_cons_some hl]
      exact .cons (Row.readLine_text t (h r (.head _)) hl) hrest

/-! ## What was read -/

/-- The first of the lines that were read is the first that is not blank. -/
theorem Reads.first {l : String} {ls : List String} {out : List Line} {b : Body} {more : List Body}
    (h : Reads (l :: ls) out) (hb : out.map Line.body = b :: more) {start rest : List Char}
    (hl : l.toList = start ++ rest) (hstart : '\n' ∉ start) (hblank : start.all isBlank = false) :
    ∃ n, readLine (start ++ rest.takeWhile (· ≠ '\n')) = some ⟨n, b⟩ := by
  have hall : ∀ c ∈ start, decide (c ≠ '\n') = true := fun c hc => decide_eq_true fun hcn => hstart (hcn ▸ hc)
  have hline : l.toList.takeWhile (· ≠ '\n') = start ++ rest.takeWhile (· ≠ '\n') := by
    rw [hl, List.takeWhile_append_of_pos hall]
  obtain ⟨x, out', hx, rfl⟩ := h.head (by rw [hline, List.all_append, hblank, Bool.false_and])
  obtain ⟨rfl, -⟩ := List.cons.inj hb
  exact ⟨x.indent, by rw [← hline, hx]⟩

theorem Reads.plainKey {ls : List String} {out : List Line} {key : String} {value : Option GoString} {more : List Body}
    (h : Reads ls out) (hb : out.map Line.body = .entry key value :: more) : plainKey key.toList = true := by
  cases out with
  | nil => cases hb
  | cons x out =>
    obtain ⟨hx, -⟩ := List.cons.inj hb
    obtain ⟨cs, hcs⟩ := h.mem (List.mem_cons_self (a := x) (l := out))
    obtain ⟨n, b⟩ := x
    cases hx
    exact readLine_key hcs

/-- The value of an entry, as far as it is on the line of its key. -/
theorem Reads.entry_value {n : Nat} {key w : String} {ls : List String} {out : List Line} {value : Option GoString}
    {more : List Body} (h : Reads ((pad n ++ key ++ ": " ++ w) :: ls) out)
    (hb : out.map Line.body = .entry key value :: more) :
    ∃ s, value = some s ∧ readScalar (w.toList.takeWhile (· ≠ '\n')) = some s := by
  have hkey := h.plainKey hb
  have hl : (pad n ++ key ++ ": " ++ w).toList = (List.replicate n ' ' ++ (key.toList ++ [':', ' '])) ++ w.toList := by
    simp [pad]
  have hstart : '\n' ∉ List.replicate n ' ' ++ (key.toList ++ [':', ' ']) := by
    simp [plainKey_no_newline hkey]
  obtain ⟨m, hm⟩ := h.first hb hl hstart (by simp [isBlank])
  rw [List.append_assoc, List.append_assoc, List.cons_append, List.singleton_append, readLine_entry n hkey] at hm
  obtain ⟨s, hs, hm⟩ := Option.map_eq_some_iff.mp hm
  obtain ⟨-, hvalue⟩ := Body.entry.inj (Line.mk.inj hm).2
  exact ⟨s, hvalue.symm, hs⟩

theorem Reads.item_value {n : Nat} {w : String} {ls : List String} {out : List Line} {s : GoString} {more : List Body}
    (h : Reads ((pad n ++ "- " ++ w) :: ls) out) (hb : out.map Line.body = .item s :: more) :
    readScalar (w.toList.takeWhile (· ≠ '\n')) = some s := by
  have hl : (pad n ++ "- " ++ w).toList = (List.replicate n ' ' ++ ['-', ' ']) ++ w.toList := by
    simp [pad]
  obtain ⟨m, hm⟩ := h.first hb hl (by simp) (by simp [isBlank])
  rw [List.append_assoc, List.cons_append, List.singleton_append, readLine_item] at hm
  obtain ⟨s', hs, hm⟩ := Option.map_eq_some_iff.mp hm
  obtain rfl := Body.item.inj (Line.mk.inj hm).2
  exact hs

theorem Row.safe_of_reads (t : PrintTable) {r : Row} {ls : List String} {out : List Line} {b : Body} {more : List Body}
    (hr : r.body = some b) (h : Reads (r.text t :: ls) out) (hb : out.map Line.body = b :: more) : r.Safe := by
  cases r with
  | blank => cases hr
  | block n key =>
    obtain rfl := Option.some.inj hr
    exact h.plainKey hb
  | entry n key value =>
    obtain rfl := Option.some.inj hr
    obtain ⟨s, hs, hread⟩ := h.entry_value hb
    obtain rfl := Option.some.inj hs
    exact ⟨h.plainKey hb, Value.safe_of_readScalar t hread⟩
  | item n value =>
    obtain rfl := Option.some.inj hr
    exact Value.safe_of_readScalar t (h.item_value hb)

/-- **Rows that were read as what they are meant to be are safe**, and what follows them was read on its own. -/
theorem peel_rows (t : PrintTable) {rows : List Row} {ls : List String} {out : List Line} {more : List Body}
    (h : Reads (rows.map (Row.text t) ++ ls) out) (hb : out.map Line.body = rows.filterMap Row.body ++ more) :
    (∀ r ∈ rows, r.Safe) ∧ ∃ out', Reads ls out' ∧ out'.map Line.body = more := by
  induction rows generalizing out with
  | nil => exact ⟨by simp, out, h, hb⟩
  | cons r rows ih =>
    cases hl : r.line with
    | none =>
      cases r with
      | blank =>
        have hrows : Reads (rows.map (Row.text t) ++ ls) out := h
        obtain ⟨hsafe, hrest⟩ := ih hrows hb
        refine ⟨fun r hr => ?_, hrest⟩
        rcases List.mem_cons.mp hr with rfl | hr
        · trivial
        · exact hsafe r hr
      | block n key => cases hl
      | entry n key value => cases hl
      | item n value => cases hl
    | some l =>
      have hbody : r.body = some l.body := by rw [Row.body, hl, Option.map_some]
      rw [List.filterMap_cons_some hbody, List.cons_append] at hb
      have hr := Row.safe_of_reads t hbody h hb
      obtain ⟨out', rfl, hout⟩ := h.of_cons (Row.readLine_text t hr hl)
      obtain ⟨hsafe, hrest⟩ := ih hout (List.cons.inj hb).2
      refine ⟨fun r' hr' => ?_, hrest⟩
      rcases List.mem_cons.mp hr' with rfl | hr'
      · exact hr
      · exact hsafe r' hr'

/-- **A row that runs on after a blank is not read as what it is meant to be.** -/
theorem not_reads_run_on (t : PrintTable) {r : Row} {tail : String} {ls : List String} {out : List Line} {b : Body}
    {more : List Body} (hr : r.body = some b) {cs : List Char} (htail : tail.toList = ' ' :: cs)
    (h : Reads ((r.text t ++ tail) :: ls) out) : out.map Line.body ≠ b :: more := by
  intro hb
  cases r with
  | blank => cases hr
  | block n key =>
    obtain rfl := Option.some.inj hr
    have htext : pad n ++ key ++ ":" ++ tail = pad n ++ key ++ ": " ++ String.ofList cs := by
      rw [← String.toList_inj]
      simp [htail]
    rw [Row.text, htext] at h
    obtain ⟨s, hs, -⟩ := h.entry_value hb
    cases hs
  | entry n key value =>
    obtain rfl := Option.some.inj hr
    rw [Row.text, String.append_assoc] at h
    obtain ⟨s, hs, hread⟩ := h.entry_value hb
    obtain rfl := Option.some.inj hs
    rw [String.toList_append, htail] at hread
    exact Value.readScalar_run_on t value cs hread
  | item n value =>
    obtain rfl := Option.some.inj hr
    rw [Row.text, String.append_assoc] at h
    have hread := h.item_value hb
    rw [String.toList_append, htail] at hread
    exact Value.readScalar_run_on t value cs hread

end TemporalOperator.Lib.Yaml
