import TemporalOperator.Lib.Yaml.Scalar

/-!
# YAML documents in block style

A reader for documents that are block mappings, and block sequences of scalars, with the scalars of
`Lib/Yaml/Scalar`. Flow collections, block scalars, scalars on several lines, quoted keys, tags, anchors, aliases,
explicit nulls, comments, directives and document markers are refused: none of these stands for the text it is written
as, so a text that is to be read as itself is lost either way. So are nested collections on the line of an item, and
sequences in the column of their key.

* `readLine` : the indentation of a line and the entry or item on it; `readLines` skips blank lines;
* `parse` : the tree, from the indentations; what stands further in than an entry without a value is its value;
* `Node.lines` : a tree as lines; `parse_lines` : parsing gives it back;
* `parse_bodies` : a tree that was parsed has the entries and items of its lines, in their order.
-/

namespace TemporalOperator.Lib.Yaml

/-- What a document says. Scalars are taken as text. -/
inductive Node
  | null
  | scalar (s : GoString)
  | map (entries : List (String × Node))
  | seq (items : List Node)

/-- The node at the end of a path of keys. -/
def Node.at? : List String → Node → Option Node
  | [], n => some n
  | k :: ks, .map es => (es.lookup k).bind (Node.at? ks)
  | _ :: _, _ => none

theorem Node.at?_append (ks ls : List String) (n : Node) : n.at? (ks ++ ls) = (n.at? ks).bind (Node.at? ls) := by
  induction ks generalizing n with
  | nil => rfl
  | cons k ks ih =>
    cases n with
    | map es =>
      rw [List.cons_append, Node.at?, Node.at?, Option.bind_assoc]
      exact Option.bind_congr fun n _ => ih n
    | null | scalar | seq => rfl

/-- What stands on a line. -/
inductive Body
  | entry (key : String) (value : Option GoString)
  | item (value : GoString)
  deriving DecidableEq, Repr

structure Line where
  indent : Nat
  body : Body
  deriving DecidableEq, Repr

/-! ## Lines -/

/-- The text before the first colon that ends a key, and the text after it. -/
def splitKey : List Char → Option (List Char × List Char)
  | [] => none
  | c :: cs => if c = ':' ∧ cs.head?.all isBlank then some ([], cs) else push c (splitKey cs)

def readEntry (cs : List Char) : Option Body :=
  match splitKey cs with
  | none => none
  | some (key, rest) =>
    if plainKey key then
      match rest with
      | [] => some (.entry (String.ofList key) none)
      | c :: value => if c = ' ' then (readScalar value).map fun s => .entry (String.ofList key) (some s) else none
    else none

def readBody : List Char → Option Body
  | '-' :: ' ' :: cs => (readScalar cs).map .item
  | cs => readEntry cs

def readLine (cs : List Char) : Option Line :=
  (readBody (cs.dropWhile (· = ' '))).map fun b => ⟨(cs.takeWhile (· = ' ')).length, b⟩

def readLines : List (List Char) → Option (List Line)
  | [] => some []
  | cs :: ls =>
    if cs.all isBlank then readLines ls
    else (readLine cs).bind fun l => (readLines ls).map (l :: ·)

/-! ## The tree -/

/-- An entry or item with its value, and where it stands. -/
inductive Placed
  | entry (indent : Nat) (key : String) (value : Node)
  | item (indent : Nat) (value : GoString)

def Placed.indent : Placed → Nat
  | .entry n _ _ => n
  | .item n _ => n

def entriesAt (n : Nat) : List Placed → Option (List (String × Node))
  | [] => some []
  | .entry m k v :: ps => if m = n then (entriesAt n ps).map ((k, v) :: ·) else none
  | .item .. :: _ => none

def itemsAt (n : Nat) : List Placed → Option (List GoString)
  | [] => some []
  | .item m s :: ps => if m = n then (itemsAt n ps).map (s :: ·) else none
  | .entry .. :: _ => none

/-- What stands in one column is one mapping, without a key twice, or one sequence. -/
def block : List Placed → Option Node
  | [] => some .null
  | .entry n k v :: ps =>
    (entriesAt n (.entry n k v :: ps)).bind fun es => if (es.map Prod.fst).Nodup then some (.map es) else none
  | .item n s :: ps => (itemsAt n (.item n s :: ps)).map fun ss => .seq (ss.map .scalar)

/-- Put a line before what follows it: what stands further in belongs to it. -/
def Line.place (l : Line) (ps : List Placed) : Option (List Placed) :=
  let nested := ps.takeWhile (l.indent < ·.indent)
  let rest := ps.dropWhile (l.indent < ·.indent)
  match l.body with
  | .entry k none => (block nested).map fun v => .entry l.indent k v :: rest
  | .entry k (some s) => if nested.isEmpty then some (.entry l.indent k (.scalar s) :: rest) else none
  | .item s => if nested.isEmpty then some (.item l.indent s :: rest) else none

def place : List Line → Option (List Placed)
  | [] => some []
  | l :: ls => (place ls).bind l.place

def parse (ls : List Line) : Option Node := (place ls).bind block

def read (text : String) : Option Node := (readLines (text.toList.splitOn '\n')).bind parse

/-! ## A tree as lines -/

def Node.scalar? : Node → Option GoString
  | .scalar s => some s
  | _ => none

mutual

/-- The lines of a mapping or sequence at column `n`, four columns to a level. -/
def Node.lines (n : Nat) : Node → List Line
  | .map es => entryLines n es
  | .seq items => (items.filterMap Node.scalar?).map fun s => ⟨n, .item s⟩
  | _ => []

def entryLines (n : Nat) : List (String × Node) → List Line
  | [] => []
  | (k, v) :: es => ⟨n, .entry k v.scalar?⟩ :: (v.lines (n + 4) ++ entryLines n es)

end

/-- The tree can be written in block style: no mapping or sequence is empty, no key is there twice, and the items of
sequences are scalars. -/
inductive Node.Block : Node → Prop
  | null : Block .null
  | scalar (s : GoString) : Block (.scalar s)
  | map {es : List (String × Node)} (ne : es ≠ []) (nodup : (es.map Prod.fst).Nodup) (nested : ∀ e ∈ es, e.2.Block) :
      Block (.map es)
  | seq {ss : List GoString} (ne : ss ≠ []) : Block (.seq (ss.map .scalar))

theorem Node.block_map {es : List (String × Node)} :
    (Node.map es).Block ↔ es ≠ [] ∧ (es.map Prod.fst).Nodup ∧ ∀ e ∈ es, e.2.Block := by
  constructor
  · rintro (_ | _ | ⟨ne, nodup, nested⟩)
    exact ⟨ne, nodup, nested⟩
  · rintro ⟨ne, nodup, nested⟩
    exact .map ne nodup nested

/-- Entries whose keys are among `keys`, in that order, and whose values can be written in block style. -/
def Fits (es : List (String × Node)) (keys : List String) : Prop :=
  (es.map Prod.fst).Sublist keys ∧ ∀ e ∈ es, e.2.Block

namespace Fits

theorem of_block {es : List (String × Node)} (h : ∀ e ∈ es, e.2.Block) : Fits es (es.map Prod.fst) := ⟨.refl _, h⟩

theorem append {es fs : List (String × Node)} {keys keys' : List String} (hes : Fits es keys) (hfs : Fits fs keys') :
    Fits (es ++ fs) (keys ++ keys') := by
  refine ⟨?_, List.forall_mem_append.mpr ⟨hes.2, hfs.2⟩⟩
  rw [List.map_append]
  exact hes.1.append hfs.1

theorem cons (k : String) {v : Node} (hv : v.Block) {es : List (String × Node)} {keys : List String} (h : Fits es keys) :
    Fits ((k, v) :: es) (k :: keys) :=
  ⟨h.1.cons_cons k, List.forall_mem_cons.mpr ⟨hv, h.2⟩⟩

theorem ite (p : Prop) [Decidable p] {es : List (String × Node)} {keys : List String} (h : p → Fits es keys) :
    Fits (if p then es else []) keys := by
  split
  · exact h ‹p›
  · exact ⟨List.nil_sublist _, by simp⟩

theorem block {es : List (String × Node)} {keys : List String} (h : Fits es keys) (ne : es ≠ []) (nodup : keys.Nodup) :
    (Node.map es).Block :=
  .map ne (h.1.nodup nodup) h.2

end Fits

example :
    let doc := Node.map [("a", .map [("b", .scalar (GoString.ofString "x y")), ("c", .null)]),
      ("d", .seq [.scalar (GoString.ofString "1"), .scalar (GoString.ofString "- \"")])]
    (read "a:\n    b: x y\n    c:\n\nd:\n  - 1\n  - \"- \\\"\"\n").map (Node.lines 0) = some (doc.lines 0) := by
  decide +kernel

/-! ## Parsing gives a tree back -/

/-- A function that takes a list apart element by element finds what the list was put together from. -/
theorem collected_eq_some {α : Type} {f : List Placed → Option (List α)} {g : Placed → Option α} {mk : α → Placed}
    (hnil : f [] = some []) (hcons : ∀ p ps, f (p :: ps) = (g p).bind fun a => (f ps).map (a :: ·))
    (hg : ∀ p a, g p = some a ↔ p = mk a) {ps : List Placed} {as : List α} : f ps = some as ↔ ps = as.map mk := by
  induction ps generalizing as with
  | nil =>
    rw [hnil]
    cases as <;> simp
  | cons p ps ih =>
    simp only [hcons, Option.bind_eq_some_iff, Option.map_eq_some_iff, hg, ih]
    constructor
    · rintro ⟨a, rfl, as', rfl, rfl⟩
      rfl
    · intro h
      cases as with
      | nil => cases h
      | cons a as =>
        obtain ⟨hp, hps⟩ := List.cons.inj h
        exact ⟨a, hp, as, hps, rfl⟩

theorem entriesAt_eq_some {n : Nat} {ps : List Placed} {es : List (String × Node)} :
    entriesAt n ps = some es ↔ ps = es.map fun e => .entry n e.1 e.2 := by
  let entryAt : Placed → Option (String × Node)
    | .entry m k v => if m = n then some (k, v) else none
    | .item .. => none
  refine collected_eq_some (g := entryAt) rfl (fun p ps => ?_) fun p e => ?_
  · cases p with
    | entry m k v => by_cases hm : m = n <;> simp [entriesAt, entryAt, hm]
    | item m s => rfl
  · cases p <;> simp [entryAt, Prod.ext_iff]

theorem itemsAt_eq_some {n : Nat} {ps : List Placed} {ss : List GoString} :
    itemsAt n ps = some ss ↔ ps = ss.map (.item n) := by
  let itemAt : Placed → Option GoString
    | .item m s => if m = n then some s else none
    | .entry .. => none
  refine collected_eq_some (g := itemAt) rfl (fun p ps => ?_) fun p s => ?_
  · cases p with
    | entry m k v => rfl
    | item m s => by_cases hm : m = n <;> simp [itemsAt, itemAt, hm]
  · cases p <;> simp [itemAt]

/-- What a block can be. -/
theorem block_eq_some {ps : List Placed} {v : Node} (h : block ps = some v) :
    (ps = [] ∧ v = .null) ∨
      (∃ n es, es ≠ [] ∧ (es.map Prod.fst).Nodup ∧ ps = es.map (fun e => .entry n e.1 e.2) ∧ v = .map es) ∨
      (∃ n ss, ss ≠ [] ∧ ps = ss.map (.item n) ∧ v = .seq (ss.map .scalar)) := by
  match ps with
  | [] => exact .inl ⟨rfl, (Option.some.inj h).symm⟩
  | .entry n k w :: ps =>
    obtain ⟨es, hes, h⟩ := Option.bind_eq_some_iff.mp h
    have hps := entriesAt_eq_some.mp hes
    split at h
    · rename_i hnodup
      refine .inr (.inl ⟨n, es, ?_, hnodup, hps, (Option.some.inj h).symm⟩)
      rintro rfl
      cases hps
    · cases h
  | .item n s :: ps =>
    obtain ⟨ss, hss, h⟩ := Option.map_eq_some_iff.mp h
    have hps := itemsAt_eq_some.mp hss
    refine .inr (.inr ⟨n, ss, ?_, hps, h.symm⟩)
    rintro rfl
    cases hps

/-- A tree with its value placed at column `n`. -/
def Node.placed (n : Nat) : Node → List Placed
  | .map es => es.map fun e => .entry n e.1 e.2
  | .seq items => (items.filterMap Node.scalar?).map (.item n)
  | _ => []

theorem filterMap_scalar? (ss : List GoString) : (ss.map Node.scalar).filterMap Node.scalar? = ss := by
  induction ss with
  | nil => rfl
  | cons s ss ih => simp [Node.scalar?, ih]

theorem Node.placed_indent {n : Nat} {v : Node} {p : Placed} (hp : p ∈ v.placed n) : p.indent = n := by
  cases v with
  | null => cases hp
  | scalar s => cases hp
  | map es =>
    obtain ⟨e, -, rfl⟩ := List.mem_map.mp hp
    rfl
  | seq items =>
    obtain ⟨s, -, rfl⟩ := List.mem_map.mp hp
    rfl

theorem Node.Block.block_placed {v : Node} (hv : v.Block) (hs : v.scalar? = none) (n : Nat) :
    block (v.placed n) = some v := by
  cases hv with
  | null => rfl
  | scalar s => cases hs
  | @map es ne nodup nested =>
    obtain ⟨e, es, rfl⟩ := List.exists_cons_of_ne_nil ne
    show (entriesAt n ((e :: es).map fun e => .entry n e.1 e.2)).bind _ = _
    rw [entriesAt_eq_some.mpr rfl]
    exact if_pos nodup
  | @seq ss ne =>
    obtain ⟨s, ss, rfl⟩ := List.exists_cons_of_ne_nil ne
    have hplaced : (Node.seq ((s :: ss).map .scalar)).placed n = (s :: ss).map (.item n) := by
      rw [Node.placed, filterMap_scalar?]
    rw [hplaced]
    show (itemsAt n ((s :: ss).map (.item n))).map _ = _
    rw [itemsAt_eq_some.mpr rfl]
    rfl

/-- What is nested and what follows are told apart by the column. -/
theorem span_placed {n : Nat} {qs ps : List Placed} (hqs : ∀ q ∈ qs, n < q.indent)
    (hps : ∀ p ∈ ps.head?, p.indent ≤ n) :
    (qs ++ ps).takeWhile (fun p => decide (n < p.indent)) = qs ∧
      (qs ++ ps).dropWhile (fun p => decide (n < p.indent)) = ps := by
  have hstop : ps.takeWhile (fun p => decide (n < p.indent)) = [] ∧
      ps.dropWhile (fun p => decide (n < p.indent)) = ps := by
    cases ps with
    | nil => exact ⟨rfl, rfl⟩
    | cons p ps =>
      have hp : ¬ n < p.indent := Nat.not_lt.mpr (hps p rfl)
      simp [hp]
  have hall : ∀ q ∈ qs, (fun p : Placed => decide (n < p.indent)) q = true := fun q hq => decide_eq_true (hqs q hq)
  rw [List.takeWhile_append_of_pos hall, List.dropWhile_append_of_pos hall, hstop.1, hstop.2, List.append_nil]
  exact ⟨rfl, rfl⟩

/-- An entry, the lines of its value, and what follows. -/
theorem place_entry {n : Nat} {k : String} {v : Node} {ls : List Line} {ps : List Placed} (hv : v.Block)
    (hls : place ls = some (v.placed (n + 4) ++ ps)) (hps : ∀ p ∈ ps.head?, p.indent ≤ n) :
    place (⟨n, .entry k v.scalar?⟩ :: ls) = some (.entry n k v :: ps) := by
  have hnested : ∀ q ∈ v.placed (n + 4), n < q.indent := fun q hq => by
    rw [Node.placed_indent hq]
    omega
  obtain ⟨htake, hdrop⟩ := span_placed hnested hps
  rw [place, hls, Option.bind_some, Line.place]
  simp only [htake, hdrop]
  cases hs : v.scalar? with
  | none => simp [hv.block_placed hs]
  | some s =>
    cases v with
    | scalar s' =>
      obtain rfl := Option.some.inj hs
      rfl
    | null => cases hs
    | map es => cases hs
    | seq items => cases hs

theorem place_lines {v : Node} (hv : v.Block) :
    ∀ n ls ps, place ls = some ps → (∀ p ∈ ps.head?, p.indent ≤ n) →
      place (v.lines n ++ ls) = some (v.placed n ++ ps) := by
  induction hv with
  | null => exact fun n ls ps hls _ => hls
  | scalar s => exact fun n ls ps hls _ => hls
  | @map es ne nodup nested ih =>
    intro n ls ps hls hps
    clear ne nodup
    show place (entryLines n es ++ ls) = some (es.map _ ++ ps)
    induction es with
    | nil => exact hls
    | cons e es ihes =>
      obtain ⟨k, v⟩ := e
      have hrest := ihes (fun e he => nested e (.tail _ he)) fun e he => ih e (.tail _ he)
      have hhead : ∀ p ∈ (es.map (fun e => Placed.entry n e.1 e.2) ++ ps).head?, p.indent ≤ n := by
        cases es with
        | nil => exact hps
        | cons e es =>
          rintro p ⟨⟩
          exact Nat.le_refl n
      have hvalue := ih (k, v) (.head _) (n + 4) _ _ hrest fun p hp => Nat.le_trans (hhead p hp) (Nat.le_add_right n 4)
      rw [entryLines, List.cons_append, List.append_assoc]
      exact place_entry (nested (k, v) (.head _)) hvalue hhead
  | @seq ss ne =>
    intro n ls ps hls hps
    simp only [Node.lines, Node.placed, filterMap_scalar?]
    clear ne
    induction ss with
    | nil => exact hls
    | cons s ss ih =>
      have hhead : ∀ p ∈ (ss.map (Placed.item n) ++ ps).head?, p.indent ≤ n := by
        cases ss with
        | nil => exact hps
        | cons s ss =>
          rintro p ⟨⟩
          exact Nat.le_refl n
      have hnone : ∀ q ∈ ([] : List Placed), n < q.indent := by simp
      obtain ⟨htake, hdrop⟩ := span_placed hnone hhead
      rw [List.nil_append] at htake hdrop
      rw [List.map_cons, List.cons_append, place, ih, Option.bind_some, Line.place]
      simp only [htake, hdrop]
      rfl

/-- **The lines of a tree in block style parse to the tree.** -/
theorem parse_lines {v : Node} (hv : v.Block) (hs : v.scalar? = none) : parse (v.lines 0) = some v := by
  have h := place_lines hv 0 [] [] rfl (by simp)
  rw [List.append_nil, List.append_nil] at h
  rw [parse, h, Option.bind_some, hv.block_placed hs]

/-! ## What a parsed tree says -/

/-- The bodies of the lines do not depend on the column. -/
theorem Node.Block.lines_body {v : Node} (hv : v.Block) :
    ∀ n m, (v.lines n).map Line.body = (v.lines m).map Line.body := by
  induction hv with
  | null => exact fun n m => rfl
  | scalar s => exact fun n m => rfl
  | @map es ne nodup nested ih =>
    intro n m
    clear ne nodup nested
    show (entryLines n es).map Line.body = (entryLines m es).map Line.body
    induction es with
    | nil => rfl
    | cons e es ihes =>
      obtain ⟨k, v⟩ := e
      simp only [entryLines, List.map_cons, List.map_append]
      rw [ih (k, v) (.head _) (n + 4) (m + 4), ihes fun e he => ih e (.tail _ he)]
  | @seq ss ne =>
    intro n m
    simp [Node.lines, Function.comp_def]

def Placed.bodies : Placed → List Body
  | .entry _ k v => .entry k v.scalar? :: (v.lines 0).map Line.body
  | .item _ s => [.item s]

def Placed.Block : Placed → Prop
  | .entry _ _ v => v.Block
  | .item .. => True

theorem block_bodies {ps : List Placed} {v : Node} (hps : ∀ p ∈ ps, p.Block) (h : block ps = some v) :
    v.Block ∧ v.scalar? = none ∧ (v.lines 0).map Line.body = ps.flatMap Placed.bodies := by
  rcases block_eq_some h with ⟨rfl, rfl⟩ | ⟨n, es, ne, nodup, rfl, rfl⟩ | ⟨n, ss, ne, rfl, rfl⟩
  · exact ⟨.null, rfl, rfl⟩
  · have hes : ∀ e ∈ es, e.2.Block := fun e he => hps _ (List.mem_map_of_mem he)
    refine ⟨.map ne nodup hes, rfl, ?_⟩
    clear ne nodup hps h
    show (entryLines 0 es).map Line.body = _
    induction es with
    | nil => rfl
    | cons e es ih =>
      obtain ⟨k, v⟩ := e
      simp only [entryLines, List.map_cons, List.map_append, List.flatMap_cons, Placed.bodies, List.cons_append]
      rw [ih fun e he => hes e (.tail _ he), (hes (k, v) (.head _)).lines_body _ 0]
  · refine ⟨.seq ne, rfl, ?_⟩
    simp only [Node.lines, filterMap_scalar?]
    clear ne hps h
    induction ss with
    | nil => rfl
    | cons s ss ih =>
      simp only [List.map_cons, List.flatMap_cons, Placed.bodies, List.singleton_append]
      rw [ih]

theorem place_bodies {ls : List Line} {ps : List Placed} (h : place ls = some ps) :
    (∀ p ∈ ps, p.Block) ∧ ls.map Line.body = ps.flatMap Placed.bodies := by
  induction ls generalizing ps with
  | nil =>
    obtain rfl := Option.some.inj h
    simp
  | cons l ls ih =>
    obtain ⟨qs, hqs, h⟩ := Option.bind_eq_some_iff.mp h
    obtain ⟨hblock, hbodies⟩ := ih hqs
    -- the line goes before the rest, and what is nested in it is in its value
    have hsplit := List.takeWhile_append_dropWhile (p := fun p : Placed => decide (l.indent < p.indent)) (l := qs)
    rw [← hsplit, List.flatMap_append] at hbodies
    have hnested : ∀ p ∈ qs.takeWhile (fun p => decide (l.indent < p.indent)), p.Block :=
      fun p hp => hblock p ((List.takeWhile_sublist _).mem hp)
    have hrest : ∀ p ∈ qs.dropWhile (fun p => decide (l.indent < p.indent)), p.Block :=
      fun p hp => hblock p ((List.dropWhile_sublist _).mem hp)
    unfold Line.place at h
    simp only at h
    rw [List.map_cons, hbodies]
    split at h
    · rename_i k hbody
      obtain ⟨v, hv, rfl⟩ := Option.map_eq_some_iff.mp h
      obtain ⟨hvblock, hvs, hvlines⟩ := block_bodies hnested hv
      refine ⟨List.forall_mem_cons.mpr ⟨hvblock, hrest⟩, ?_⟩
      rw [hbody, List.flatMap_cons, Placed.bodies, hvs, hvlines, List.cons_append]
    · rename_i k s hbody
      split at h
      · rename_i hempty
        obtain rfl := Option.some.inj h
        rw [List.isEmpty_iff.mp hempty, hbody]
        exact ⟨List.forall_mem_cons.mpr ⟨Node.Block.scalar s, hrest⟩, rfl⟩
      · cases h
    · rename_i s hbody
      split at h
      · rename_i hempty
        obtain rfl := Option.some.inj h
        rw [List.isEmpty_iff.mp hempty, hbody]
        exact ⟨List.forall_mem_cons.mpr ⟨trivial, hrest⟩, rfl⟩
      · cases h

/-- **A tree that was parsed has the entries and items of the lines, in their order.** -/
theorem parse_bodies {ls : List Line} {v : Node} (h : parse ls = some v) :
    ls.map Line.body = (v.lines 0).map Line.body := by
  obtain ⟨ps, hps, h⟩ := Option.bind_eq_some_iff.mp h
  obtain ⟨hblock, hbodies⟩ := place_bodies hps
  rw [hbodies, (block_bodies hblock h).2.2]

end TemporalOperator.Lib.Yaml
