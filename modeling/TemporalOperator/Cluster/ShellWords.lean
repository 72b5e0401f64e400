import TemporalOperator.Cluster.Plan
import TemporalOperator.Lib.Shell

/-!
# What the shell makes of a schema Job

With a password command the schema tool runs under `sh -c`, its arguments quoted by `shellQuote`. The shell reads them
back as they were.

* `tokenize_shellQuote` : quoted arguments with blanks between them;
* `tokenize_tool` : the command after `exec`, the tool and its arguments.
-/

namespace TemporalOperator.Plan
open Lib

theorem toList_shellQuote (s : String) : (shellQuote s).toList = Shell.quoted s.toList := by
  simp only [shellQuote, String.toList_append, String.toList_ofList]
  rfl

theorem toList_join_shellQuote (args : List String) :
    (" ".intercalate (args.map shellQuote)).toList = [' '].intercalate ((args.map String.toList).map Shell.quoted) := by
  rw [String.toList_intercalate, List.map_map, List.map_map]
  exact congrArg _ (List.map_congr_left fun s _ => toList_shellQuote s)

theorem map_ofList_toList (args : List String) : (args.map String.toList).map String.ofList = args := by
  simp [List.map_map, Function.comp_def]

theorem tokenize_shellQuote (args : List String) :
    Shell.tokenize (" ".intercalate (args.map shellQuote)) = some args := by
  unfold Shell.tokenize
  rw [toList_join_shellQuote, Shell.words_quoted, Option.map_some, map_ofList_toList]

theorem schemaCommand_plain (p : SchemaJobParams) :
    ∃ c cs, (schemaCommand p).toList = c :: cs ∧ (c :: cs).all Shell.isPlain = true := by
  unfold schemaCommand
  split
  · exact ⟨'t', "emporal-cassandra-tool".toList, rfl, by decide⟩
  · exact ⟨'t', "emporal-sql-tool".toList, rfl, by decide⟩

theorem tokenize_tool (p : SchemaJobParams) (args : List String) :
    Shell.tokenize (schemaCommand p ++ " " ++ " ".intercalate (args.map shellQuote)) = some (schemaCommand p :: args) := by
  obtain ⟨c, cs, hname, hplain⟩ := schemaCommand_plain p
  have htext : (schemaCommand p ++ " " ++ " ".intercalate (args.map shellQuote)).toList =
      (c :: cs) ++ ' ' :: [' '].intercalate ((args.map String.toList).map Shell.quoted) := by
    rw [String.toList_append, String.toList_append, hname, toList_join_shellQuote, List.append_assoc]
    rfl
  unfold Shell.tokenize
  rw [htext, Shell.words_command hplain, Option.map_some, List.map_cons, map_ofList_toList, ← hname, String.ofList_toList]

/-! ## The script of a schema Job -/

/-- What stands in the script before the tool: of the parameters it has the password command alone. -/
def scriptHead (passwordCommand : String) : String := "export SQL_PASSWORD=\"$(" ++ passwordCommand ++ ")\"; exec "

theorem schemaContainerExec_direct {p : SchemaJobParams} {args : List String} (hargs : schemaToolArgs p = .ok args)
    (hstore : p.sqlSpec.isSome = true ∨ p.cassandraSpec.isSome = true) (hcommand : p.passwordCommand = "") :
    ∃ exec, schemaContainerExec p = .ok exec ∧ exec.command = [schemaCommand p] ∧ exec.args = args := by
  obtain ⟨env, henv⟩ := passwordEnv_ok hstore
  have hdirect : ¬ (decide (p.passwordCommand ≠ "") && !p.isCassandra) = true := by simp [hcommand]
  unfold schemaContainerExec
  rw [hargs, henv]
  exact ⟨_, if_neg hdirect, rfl, rfl⟩

theorem append_parts (a b c d : String) : a ++ b ++ c ++ d = a ++ (b ++ c ++ d) := by
  rw [String.append_assoc, String.append_assoc, String.append_assoc]

theorem schemaContainerExec_script {p : SchemaJobParams} {args : List String} (hargs : schemaToolArgs p = .ok args)
    (hcassandra : p.cassandraSpec = none) (hcommand : p.passwordCommand ≠ "") :
    ∃ exec, schemaContainerExec p = .ok exec ∧ exec.command = ["sh", "-c"] ∧
      exec.args = [scriptHead p.passwordCommand ++
        (schemaCommand p ++ " " ++ " ".intercalate (args.map shellQuote))] := by
  have hscript : (decide (p.passwordCommand ≠ "") && !p.isCassandra) = true := by
    simp [SchemaJobParams.isCassandra, hcassandra, hcommand]
  unfold schemaContainerExec
  rw [hargs]
  refine ⟨_, if_pos hscript, rfl, ?_⟩
  exact congrArg (fun text => [text]) (append_parts _ _ _ _)

/-- **What `shellQuote` writes is read back.** Arguments that are quoted and joined are the same arguments to the
shell; so where the schema tool of an SQL store runs in a script, whatever the spec holds, the shell runs after `exec`
the command of a Job without a script. -/
theorem schema_arguments_intact :
    (∀ args : List String, Shell.tokenize (" ".intercalate (args.map shellQuote)) = some args) ∧
    ∀ (p : SchemaJobParams) (spec : SQLDatastoreSpec), p.sqlSpec = some spec → p.cassandraSpec = none →
      p.passwordCommand ≠ "" →
      ∃ script direct command, schemaContainerExec p = .ok script ∧
        schemaContainerExec { p with passwordCommand := "" } = .ok direct ∧
        script.command = ["sh", "-c"] ∧ script.args = [scriptHead p.passwordCommand ++ command] ∧
        direct.command = ["temporal-sql-tool"] ∧
        Shell.tokenize command = some ("temporal-sql-tool" :: direct.args) := by
  refine ⟨tokenize_shellQuote, fun p spec hspec hcassandra hcommand => ?_⟩
  have hstore : p.sqlSpec.isSome = true ∨ p.cassandraSpec.isSome = true := .inl (Option.isSome_of_mem hspec)
  obtain ⟨args, hargs⟩ := schemaToolArgs_ok hstore
  obtain ⟨script, hscript, hsh, htext⟩ := schemaContainerExec_script hargs hcassandra hcommand
  -- the arguments do not depend on the password command
  obtain ⟨direct, hdirect, hname, rfl⟩ :=
    schemaContainerExec_direct (p := { p with passwordCommand := "" }) hargs hstore rfl
  have htool : schemaCommand p = "temporal-sql-tool" := by
    simp [schemaCommand, SchemaJobParams.isCassandra, hcassandra]
  refine ⟨script, direct, _, hscript, hdirect, hsh, htext, hname.trans (congrArg (fun name => [name]) htool), ?_⟩
  rw [tokenize_tool p, htool]

/-- Names that would run commands of their own. -/
def hostileParams : SchemaJobParams where
  cluster := sampleCluster "1.31.0"
  sqlSpec := some { host := "$(id)", user := "a'; rm -rf / #", database := "`id`" }
  cassandraSpec := none
  store := .visibility
  action := .update
  schemaVersionDir := "v12"
  passwordCommand := "cat /token"

theorem schema_arguments_hostile :
    ∃ script direct command, schemaContainerExec hostileParams = .ok script ∧
      schemaContainerExec { hostileParams with passwordCommand := "" } = .ok direct ∧
      script.command = ["sh", "-c"] ∧ script.args = [scriptHead "cat /token" ++ command] ∧
      direct.command = ["temporal-sql-tool"] ∧
      Shell.tokenize command = some ("temporal-sql-tool" :: direct.args) := by
  have hcommand : hostileParams.passwordCommand ≠ "" := by decide
  exact schema_arguments_intact.2 hostileParams _ rfl rfl hcommand

end TemporalOperator.Plan
