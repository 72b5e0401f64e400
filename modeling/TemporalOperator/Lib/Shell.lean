import Mathlib.Data.List.Basic

/-!
# Words of a shell command

The quoting rules of the POSIX shell, as a state machine over the characters of a command: what stands between blanks is
a word, quotes and backslashes are removed, and a character that means something to the shell is a character of a word
only where it is quoted. A text with such a character outside quotes is not a list of words alone.

* `State`, `step` : the machine; `words`, `tokenize` : the words of a text;
* `quoted` : a word between single quotes; `words_command` : a plain word and quoted ones are read back.
-/

namespace TemporalOperator.Lib.Shell

/-! ## The machine -/

inductive Mode
  | unquoted
  | single
  | double
  | escape
  | escapeInDouble
  deriving DecidableEq, Repr

/-- The words that are complete and the one that is read, if one has begun. -/
structure State where
  mode : Mode
  word : Option (List Char)
  words : List (List Char)
  deriving DecidableEq, Repr

/-- Between two words. -/
def between (ws : List (List Char)) : State := { mode := .unquoted, word := none, words := ws }

def State.add (s : State) (cs : List Char) : State := { s with word := some (s.word.getD [] ++ cs) }

def State.close (s : State) : State := { s with word := none, words := s.words ++ s.word.toList }

def isBlank (c : Char) : Bool := c = ' ' || c = '\t'

/-- The characters of operators, expansions, patterns, comments and assignments. -/
def isSpecial (c : Char) : Bool := "|&;<>()$`\n*?[#~=%".toList.contains c

/-- The characters a backslash quotes between double quotes. -/
def isSpecialInDouble (c : Char) : Bool := "$`\"\\".toList.contains c

def step (s : State) (c : Char) : Option State :=
  match s.mode with
  | .unquoted =>
    if isBlank c then some s.close
    -- quotes begin a word, also an empty one
    else if c = '\'' then some { s.add [] with mode := .single }
    else if c = '"' then some { s.add [] with mode := .double }
    else if c = '\\' then some { s with mode := .escape }
    else if isSpecial c then none
    else some (s.add [c])
  | .single => if c = '\'' then some { s with mode := .unquoted } else some (s.add [c])
  | .double =>
    if c = '"' then some { s with mode := .unquoted }
    else if c = '\\' then some { s with mode := .escapeInDouble }
    else if isSpecialInDouble c then none
    else some (s.add [c])
  -- a backslash before the end of a line joins the lines
  | .escape => if c = '\n' then some { s with mode := .unquoted } else some { s.add [c] with mode := .unquoted }
  | .escapeInDouble =>
    if c = '\n' then some { s with mode := .double }
    else if isSpecialInDouble c then some { s.add [c] with mode := .double }
    else some { s.add ['\\', c] with mode := .double }

def run (s : State) (text : List Char) : Option State := text.foldlM step s

def State.finish (s : State) : Option (List (List Char)) :=
  if s.mode = .unquoted then some s.close.words else none

/-- The words of a text that is nothing but words. -/
def words (text : List Char) : Option (List (List Char)) := (run (between []) text).bind State.finish

def tokenize (text : String) : Option (List String) := (words text.toList).map (·.map String.ofList)

@[simp] theorem run_nil (s : State) : run s [] = some s := rfl

@[simp] theorem run_cons (s : State) (c : Char) (text : List Char) :
    run s (c :: text) = (step s c).bind fun s => run s text := rfl

theorem run_append (s : State) (t u : List Char) : run s (t ++ u) = (run s t).bind fun s => run s u := by
  unfold run
  rw [List.foldlM_append]
  rfl

/-! ## Plain words -/

def isPlain (c : Char) : Bool := !isBlank c && !isSpecial c && c ≠ '\'' && c ≠ '"' && c ≠ '\\'

theorem step_plain {c : Char} (hc : isPlain c = true) (w : Option (List Char)) (ws : List (List Char)) :
    step ⟨.unquoted, w, ws⟩ c = some ⟨.unquoted, some (w.getD [] ++ [c]), ws⟩ := by
  simp only [isPlain, Bool.and_eq_true, Bool.not_eq_true', decide_eq_true_eq] at hc
  obtain ⟨⟨⟨⟨hblank, hspecial⟩, hsingle⟩, hdouble⟩, hescape⟩ := hc
  simp [step, hblank, hspecial, hsingle, hdouble, hescape, State.add]

theorem run_plain {w : List Char} (ws : List (List Char)) : ∀ {cs : List Char}, cs.all isPlain = true →
    run ⟨.unquoted, some w, ws⟩ cs = some ⟨.unquoted, some (w ++ cs), ws⟩ := by
  intro cs
  induction cs generalizing w with
  | nil => simp
  | cons c cs ih =>
    intro h
    obtain ⟨hc, hcs⟩ : isPlain c = true ∧ cs.all isPlain = true := by simpa using h
    rw [run_cons, step_plain hc, Option.bind_some, Option.getD_some, ih hcs, List.append_assoc, List.singleton_append]

/-! ## Quoted words -/

/-- Between single quotes, where a single quote ends the quotes, stands alone and opens them again. -/
def quoteChar (c : Char) : List Char := if c = '\'' then "'\\''".toList else [c]

def quoted (cs : List Char) : List Char := '\'' :: cs.flatMap quoteChar ++ ['\'']

theorem run_quoteChar (w : List Char) (ws : List (List Char)) (c : Char) :
    run ⟨.single, some w, ws⟩ (quoteChar c) = some ⟨.single, some (w ++ [c]), ws⟩ := by
  unfold quoteChar
  split
  case isTrue h =>
    subst h
    simp [step, isBlank, State.add]
  case isFalse h => simp [step, h, State.add]

theorem run_quoteChars (ws : List (List Char)) (cs : List Char) : ∀ w : List Char,
    run ⟨.single, some w, ws⟩ (cs.flatMap quoteChar) = some ⟨.single, some (w ++ cs), ws⟩ := by
  induction cs with
  | nil => simp
  | cons c cs ih =>
    intro w
    rw [List.flatMap_cons, run_append, run_quoteChar, Option.bind_some, ih, List.append_assoc, List.singleton_append]

theorem run_quoted (ws : List (List Char)) (cs : List Char) :
    run (between ws) (quoted cs) = some ⟨.unquoted, some cs, ws⟩ := by
  have hopen : step (between ws) '\'' = some ⟨.single, some [], ws⟩ := rfl
  unfold quoted
  rw [List.cons_append, run_cons, hopen, Option.bind_some, run_append, run_quoteChars]
  rfl

/-! ## Commands -/

/-- A word and a blank after it. -/
theorem run_blank {text w : List Char} {ws : List (List Char)}
    (h : run (between ws) text = some ⟨.unquoted, some w, ws⟩) (rest : List Char) :
    run (between ws) (text ++ ' ' :: rest) = run (between (ws ++ [w])) rest := by
  rw [run_append, h]
  rfl

/-- The texts of words with blanks between them, read one after the other: the induction is over the list. -/
theorem run_intercalate {texts : List Char → List Char}
    (h : ∀ ws w, run (between ws) (texts w) = some ⟨.unquoted, some w, ws⟩) (args : List (List Char)) :
    ∀ ws, (run (between ws) ([' '].intercalate (args.map texts))).bind State.finish = some (ws ++ args) := by
  induction args with
  | nil =>
    intro ws
    exact congrArg some rfl
  | cons a rest ih =>
    intro ws
    cases rest with
    | nil =>
      have hlast : [' '].intercalate ([a].map texts) = texts a := by simp [List.intercalate]
      rw [hlast, h]
      rfl
    | cons b rest =>
      have hcons : [' '].intercalate ((a :: b :: rest).map texts) =
          texts a ++ ' ' :: [' '].intercalate ((b :: rest).map texts) := by
        simp [List.intercalate]
      rw [hcons, run_blank (h ws a), ih, List.append_assoc, List.singleton_append]

theorem words_quoted (args : List (List Char)) : words ([' '].intercalate (args.map quoted)) = some args := by
  have h := run_intercalate run_quoted args []
  rwa [List.nil_append] at h

/-- A plain word and quoted ones after it. -/
theorem words_command {c : Char} {cs : List Char} (h : (c :: cs).all isPlain = true) (args : List (List Char)) :
    words ((c :: cs) ++ ' ' :: [' '].intercalate (args.map quoted)) = some ((c :: cs) :: args) := by
  obtain ⟨hc, hcs⟩ : isPlain c = true ∧ cs.all isPlain = true := by simpa using h
  have hname : run (between []) (c :: cs) = some ⟨.unquoted, some (c :: cs), []⟩ := by
    rw [run_cons, between, step_plain hc, Option.bind_some, run_plain _ hcs]
    rfl
  unfold words
  rw [run_blank hname, run_intercalate run_quoted]
  rfl

end TemporalOperator.Lib.Shell
