import TemporalOperator.Lib.Yaml.Rows

/-!
# Rows of an included template

A template that is included, trimmed and indented: its rows are read as if they stood further in.

* `included`, `indent` : the text of the rows, each after a line break, and sprig's `indent`;
* `pieces_included` : the trimmed and indented text has the lines of the rows shifted.
-/

namespace TemporalOperator.Lib.Yaml
open GoQuote GoDuration

/-- sprig's `indent`: blanks before the text and after each of its line breaks. -/
def indent (n : Nat) (s : String) : String :=
  String.ofList (List.replicate n ' ' ++
    s.toList.flatMap fun c => if c = '\n' then '\n' :: List.replicate n ' ' else [c])

/-- The text of a named template that is made of rows. -/
def included (t : PrintTable) (rows : List Row) : String := String.join (rows.map fun r => "\n" ++ r.text t)

def Row.shift (n : Nat) : Row → Row
  | .blank => .blank
  | .block m key => .block (n + m) key
  | .entry m key value => .entry (n + m) key value
  | .item m value => .item (n + m) value

/-! ## Indented text -/

theorem splitOn_indent_from (n : Nat) {cs p : List Char} {ps : List (List Char)} (hcs : cs.splitOn '\n' = p :: ps)
    {a : List Char} (ha : '\n' ∉ a) :
    (a ++ cs.flatMap fun c => if c = '\n' then '\n' :: List.replicate n ' ' else [c]).splitOn '\n' =
      (a ++ p) :: ps.map (List.replicate n ' ' ++ ·) := by
  induction cs generalizing a p ps with
  | nil =>
    rw [List.splitOn_nil] at hcs
    obtain ⟨rfl, rfl⟩ := List.cons.inj hcs
    rw [List.flatMap_nil, List.append_nil, List.splitOn_eq_singleton ha]
    rfl
  | cons c cs ih =>
    obtain ⟨q, qs, hq⟩ := List.exists_cons_of_ne_nil (List.splitOn_ne_nil '\n' cs)
    rw [List.flatMap_cons]
    by_cases hc : c = '\n'
    · have hsplit : (c :: cs).splitOn '\n' = [] :: q :: qs := by
        rw [← hq, hc]
        exact List.splitOn_append_cons_self [] cs
      obtain ⟨rfl, rfl⟩ := List.cons.inj (hsplit.symm.trans hcs)
      rw [if_pos hc, List.cons_append, List.splitOn_append_cons_self, List.splitOn_eq_singleton ha,
        ih hq (by simp), List.append_nil]
      rfl
    · have hsplit : (c :: cs).splitOn '\n' = (c :: q) :: qs := by
        have hq : List.splitOnP (· == '\n') cs = q :: qs := hq
        rw [List.splitOn, List.splitOnP_cons_eq_if_modifyHead, hq]
        simp [hc]
      obtain ⟨rfl, rfl⟩ := List.cons.inj (hsplit.symm.trans hcs)
      have hac : '\n' ∉ a ++ [c] := by simp [ha, Ne.symm hc]
      rw [if_neg hc, ← List.append_assoc, ih hq hac, List.append_assoc]
      rfl

theorem splitOn_indent (n : Nat) (s : String) :
    (indent n s).toList.splitOn '\n' = (s.toList.splitOn '\n').map (List.replicate n ' ' ++ ·) := by
  obtain ⟨p, ps, hp⟩ := List.exists_cons_of_ne_nil (List.splitOn_ne_nil '\n' s.toList)
  rw [indent, String.toList_ofList, splitOn_indent_from n hp (by simp), hp]
  rfl

/-! ## Tight rows -/

theorem quote_break (t : PrintTable) (s : GoString) : '\n' ∉ (quote t s).toList := by
  have hchar (c : GoChar) : '\n' ∉ escape t c := by
    cases c with
    | rune c =>
      intro h
      refine Value.quote_no_newline t (GoString.valid_ofChars [c]) ?_
      rw [toList_quote]
      simp [GoString.ofChars, h]
    | byte b =>
      have hdigit : ∀ d < 16, '\n' ≠ Nat.digitChar d := by decide
      have h1 := hdigit (b.toNat / 16 % 16) (Nat.mod_lt _ (by decide))
      have h2 := hdigit (b.toNat % 16) (Nat.mod_lt _ (by decide))
      simp [escape, hex, h1, h2]
  simp [toList_quote, hchar]

/-- A text on one line whose last character is not a blank of any kind. -/
def TightText (cs : List Char) : Prop := '\n' ∉ cs ∧ ∃ c ∈ cs.getLast?, GoText.isSpace c = false

theorem TightText.append {a b : List Char} (ha : '\n' ∉ a) (hb : TightText b) : TightText (a ++ b) := by
  obtain ⟨hb, c, hc, hspace⟩ := hb
  refine ⟨by simp [ha, hb], c, ?_, hspace⟩
  rw [List.getLast?_append, Option.mem_def.mp hc]
  rfl

theorem tight_quote (t : PrintTable) (s : GoString) : TightText (quote t s).toList := by
  refine ⟨quote_break t s, '"', ?_, by decide⟩
  rw [toList_quote, ← List.cons_append, List.getLast?_concat]
  rfl

theorem tight_number (n : Int) : TightText (toString n).toList := by
  have hnum : ∀ c, isNumeric c = true → c ≠ '\n' ∧ GoText.isSpace c = false := by
    intro c hc
    rcases Bool.or_eq_true_iff.mp hc with hdigit | hunit
    · have hrange : 48 ≤ c.toNat ∧ c.toNat ≤ 57 := by
        simp only [Char.isDigit, Bool.and_eq_true, decide_eq_true_eq] at hdigit
        exact hdigit
      refine ⟨?_, ?_⟩
      · rintro rfl
        cases hdigit
      · simp [GoText.isSpace]
        omega
    · have hall : ∀ c ∈ "hmnsµ.".toList, c ≠ '\n' ∧ GoText.isSpace c = false :=
        List.all_iff_forall_prop.mp (by decide)
      exact hall c (List.contains_iff_mem.mp hunit)
  obtain ⟨sign, cs, hcs, hsign, h⟩ := number_shape n
  obtain ⟨d, hd⟩ : ∃ d, cs.getLast? = some d := by
    obtain ⟨d, ds, rfl, -⟩ := h
    exact ⟨_, List.getLast?_eq_getLast_of_ne_nil (by simp)⟩
  rw [hcs]
  have hlast := (hnum d (h.isNumeric d (List.mem_of_getLast? hd))).2
  refine TightText.append ?_ ⟨fun hn => (hnum _ (h.isNumeric _ hn)).1 rfl, d, hd, hlast⟩
  rcases hsign with rfl | rfl <;> decide

def Row.Tight (t : PrintTable) : Row → Prop
  | .blank => False
  | .block _ key => plainKey key.toList = true
  | .entry _ key value => plainKey key.toList = true ∧ TightText (value.text t).toList
  | .item _ value => TightText (value.text t).toList

theorem Row.Tight.tight_text {t : PrintTable} {r : Row} (h : r.Tight t) : TightText (r.text t).toList := by
  have hpad (n : Nat) : '\n' ∉ (pad n).toList := by simp [pad]
  cases r with
  | blank => exact h.elim
  | block n key =>
    rw [Row.text, String.toList_append]
    refine TightText.append ?_ ⟨by decide, ':', by decide, by decide⟩
    simp [hpad, plainKey_no_newline h]
  | entry n key value =>
    rw [Row.text, String.toList_append]
    refine TightText.append ?_ h.2
    simp [hpad, plainKey_no_newline h.1]
  | item n value =>
    rw [Row.text, String.toList_append]
    refine TightText.append ?_ h
    simp [hpad]

/-! ## Included rows -/

theorem trimSpace_after_break {cs : List Char} {c : Char} (hhead : cs.head? = some c) (hc : GoText.isSpace c = false)
    (htight : ∃ d ∈ cs.getLast?, GoText.isSpace d = false) :
    GoText.trimSpace (String.ofList ('\n' :: cs)) = String.ofList cs := by
  obtain ⟨d, hd, hspace⟩ := htight
  have hdrop {es : List Char} {e : Char} (he : es.head? = some e) (hs : GoText.isSpace e = false) :
      es.dropWhile GoText.isSpace = es := by
    obtain ⟨rest, rfl⟩ := List.head?_eq_some_iff.mp he
    rw [List.dropWhile_cons_of_neg (by simp [hs])]
  rw [GoText.trimSpace, String.toList_ofList, List.dropWhile_cons_of_pos (by decide), hdrop hhead hc,
    hdrop (by rw [List.head?_reverse]; exact hd) hspace, List.reverse_reverse]

theorem Row.text_shift (t : PrintTable) (n : Nat) {r : Row} (hr : TightText (r.text t).toList) :
    ((r.shift n).text t).toList = List.replicate n ' ' ++ (r.text t).toList := by
  have hpad (m : Nat) : List.replicate (n + m) ' ' = List.replicate n ' ' ++ List.replicate m ' ' :=
    List.replicate_add n m ' '
  cases r with
  | blank =>
    obtain ⟨-, c, hc, -⟩ := hr
    cases hc
  | _ => simp only [Row.shift, Row.text, pad, hpad, List.append_assoc, String.toList_append, String.toList_ofList]

/-- What follows the first row of an included template. -/
theorem splitOn_rows (t : PrintTable) {a : List Char} (ha : '\n' ∉ a) {rows : List Row}
    (hrows : ∀ r ∈ rows, TightText (r.text t).toList) :
    (a ++ (included t rows).toList).splitOn '\n' = a :: rows.map fun r => (r.text t).toList := by
  induction rows generalizing a with
  | nil =>
    show (a ++ []).splitOn '\n' = [a]
    rw [List.append_nil, List.splitOn_eq_singleton ha]
  | cons r rows ih =>
    have hsplit : (included t (r :: rows)).toList = '\n' :: ((r.text t).toList ++ (included t rows).toList) := by
      simp [included, String.toList_join]
    rw [hsplit, List.splitOn_append_cons_self, List.splitOn_eq_singleton ha,
      ih (hrows r (.head _)).1 fun r hr => hrows r (.tail _ hr)]
    rfl

theorem shifted_pieces (t : PrintTable) (n : Nat) {rows : List Row} (hrows : ∀ r ∈ rows, TightText (r.text t).toList) :
    (rows.map fun r => (r.text t).toList).map (List.replicate n ' ' ++ ·) =
      pieces ((rows.map (Row.shift n)).map (Row.text t)) := by
  induction rows with
  | nil => rfl
  | cons r rows ih =>
    have hr := hrows r (.head _)
    have hbreak : '\n' ∉ List.replicate n ' ' ++ (r.text t).toList := by simp [hr.1]
    simp only [List.map_cons, pieces_cons]
    rw [Row.text_shift t n hr, List.splitOn_eq_singleton hbreak, ih fun r hr => hrows r (.tail _ hr)]
    rfl

theorem included_tight (t : PrintTable) {a : List Char} (ha : ∃ d ∈ a.getLast?, GoText.isSpace d = false)
    {rows : List Row} (hrows : ∀ r ∈ rows, TightText (r.text t).toList) :
    ∃ d ∈ (a ++ (included t rows).toList).getLast?, GoText.isSpace d = false := by
  induction rows generalizing a with
  | nil =>
    show ∃ d ∈ (a ++ []).getLast?, GoText.isSpace d = false
    rwa [List.append_nil]
  | cons r rows ih =>
    have hsplit :
        a ++ (included t (r :: rows)).toList = (a ++ '\n' :: (r.text t).toList) ++ (included t rows).toList := by
      simp [included, String.toList_join]
    rw [hsplit]
    refine ih ?_ fun r hr => hrows r (.tail _ hr)
    obtain ⟨-, c, hc, hspace⟩ := hrows r (.head _)
    refine ⟨c, ?_, hspace⟩
    rw [List.getLast?_append, List.getLast?_cons, Option.mem_def.mp hc]
    rfl

/-- **An included template, trimmed and indented, has the lines of its rows further in.** -/
theorem pieces_included (t : PrintTable) (n : Nat) {r : Row} {rows : List Row} {c : Char}
    (hhead : (r.text t).toList.head? = some c) (hc : GoText.isSpace c = false)
    (htight : ∀ r' ∈ r :: rows, r'.Tight t) :
    pieces [indent n (GoText.trimSpace (included t (r :: rows)))] =
      pieces (((r :: rows).map (Row.shift n)).map (Row.text t)) := by
  have hrows : ∀ r' ∈ r :: rows, TightText (r'.text t).toList := fun r' hr' => (htight r' hr').tight_text
  have hfirst := hrows r (.head _)
  have hrest : ∀ r' ∈ rows, TightText (r'.text t).toList := fun r' hr' => hrows r' (.tail _ hr')
  have htext : included t (r :: rows) = String.ofList ('\n' :: ((r.text t).toList ++ (included t rows).toList)) := by
    rw [← String.toList_inj]
    simp [included, String.toList_join]
  have htrim : GoText.trimSpace (included t (r :: rows)) =
      String.ofList ((r.text t).toList ++ (included t rows).toList) := by
    rw [htext]
    exact trimSpace_after_break (by rw [List.head?_append, hhead]; rfl) hc (included_tight t hfirst.2 hrest)
  rw [← shifted_pieces t n hrows, pieces_cons, splitOn_indent, htrim, String.toList_ofList,
    splitOn_rows t hfirst.1 hrest]
  exact List.append_nil _

end TemporalOperator.Lib.Yaml
