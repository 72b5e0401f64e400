import TemporalOperator.Config.Tree

/-!
# Reading the rendered config back

* `pieces_renderLines` : the lines of the config, with the included datastores taken apart into rows;
* `not_reads_extra` : with a passthrough, the last row of the authorization runs on;
* `read_renderConfig` : the config reads back as the document exactly when nothing is passed through and every row is
  safe.
-/

namespace TemporalOperator.Config
open Lib Lib.Yaml

/-! ## The datastores -/

section Datastores
variable (t : PrintTable)

@[simp] theorem tight_quoted (s : GoString) : TightText ((Value.quoted s).text t).toList := tight_quote t s

@[simp] theorem tight_str (s : String) : TightText ((str s).text t).toList := tight_quote t _

@[simp] theorem tight_num (n : Int) : TightText ((num n).text t).toList := tight_number n

@[simp] theorem tight_bool (b : Bool) : TightText ((bool b).text t).toList := by
  have h : ∀ b : Bool, '\n' ∉ (toString b).toList ∧ 'e' ∈ (toString b).toList.getLast? := by decide
  exact ⟨(h b).1, 'e', (h b).2, by decide⟩

theorem datastoreTLS_tight (tls : Option DatastoreTLS) : ∀ r ∈ datastoreTLSRows tls, r.Tight t := by
  cases tls with
  | none => simp [datastoreTLSRows]
  | some tls => simp +decide [datastoreTLSRows, Row.Tight]

theorem sqlPassword_tight (ds : DatastoreConfig) : ∀ r ∈ sqlPasswordRows ds, r.Tight t := by
  unfold sqlPasswordRows
  split <;> simp +decide [Row.Tight]

theorem datastore_tight (ds : DatastoreConfig) : ∀ r ∈ datastoreRows ds, r.Tight t := by
  have htls := datastoreTLS_tight t ds.tls
  unfold datastoreRows
  cases ds.kind with
  | sql =>
    simp only [sqlRows, List.forall_mem_append]
    refine ⟨⟨⟨?_, sqlPassword_tight t ds⟩, ?_⟩, htls⟩ <;> simp +decide [Row.Tight]
  | cassandra =>
    simp only [cassandraRows, List.forall_mem_append]
    refine ⟨⟨⟨?_, ?_⟩, ?_⟩, htls⟩
    · simp +decide [Row.Tight]
    · split <;> simp +decide [Row.Tight]
    · simp +decide [Row.Tight]
  | elasticsearch => simp +decide [elasticsearchRows, Row.Tight]

theorem pieces_includeDatastore (ds : DatastoreConfig) (ls : List String) :
    pieces (includeDatastore t ds :: ls) =
      pieces (((datastoreRows ds).map (Row.shift 12)).map (Row.text t)) ++ pieces ls := by
  have htight := datastore_tight t ds
  have hfirst : ∃ key rows, datastoreRows ds = .block 0 key :: rows ∧
      ∃ c, key.toList.head? = some c ∧ GoText.isSpace c = false := by
    unfold datastoreRows
    cases ds.kind with
    | sql => exact ⟨"sql", _, rfl, 's', by decide, by decide⟩
    | cassandra => exact ⟨"cassandra", _, rfl, 'c', by decide, by decide⟩
    | elasticsearch => exact ⟨"elasticsearch", _, rfl, 'e', by decide, by decide⟩
  obtain ⟨key, rows, hrows, c, hc, hspace⟩ := hfirst
  rw [hrows] at htight
  have hhead : ((Row.block 0 key).text t).toList.head? = some c := by simp [Row.text, pad, hc]
  rw [includeDatastore, hrows, ← pieces_included t 12 hhead hspace htight, ← pieces_append]
  rfl

end Datastores

/-- The lines of the config, the datastores taken apart. -/
theorem pieces_renderLines (t : PrintTable) (lib : YamlLib) (d : ConfigData) :
    pieces (renderLines t lib d) =
      pieces ((headRows d).map (Row.text t) ++
        (authorizationLines t lib d.authorization ++ (tailRows d).map (Row.text t))) := by
  have hname (r : Row) (ls : List String) : pieces (r.text t :: ls) = pieces ([r].map (Row.text t)) ++ pieces ls :=
    pieces_append [r.text t] ls
  rw [renderLines, pieces_append, pieces_includeDatastore, hname, pieces_includeDatastore]
  simp only [headRows, tailRows, List.map_append, pieces_append, List.append_assoc]

/-! ## The authorization -/

def authRows (auth : Option AuthConfig) : List Row := (auth.map authorizationRows).getD []

def extraEntries (auth : Option AuthConfig) : List (String × Node) := (auth.bind AuthConfig.extraConfig).getD []

theorem authorizationLines_of_no_extra (t : PrintTable) (lib : YamlLib) {auth : Option AuthConfig}
    (h : extraEntries auth = []) : authorizationLines t lib auth = (authRows auth).map (Row.text t) := by
  cases auth with
  | none => rfl
  | some a =>
    have h : a.extraConfig.getD [] = [] := h
    rw [authorizationLines, h]
    rfl

theorem meant_body (rows : List Row) : (meant rows).map Line.body = rows.filterMap Row.body := by
  rw [meant, List.map_filterMap]
  rfl

theorem authorizationMeant_eq (auth : Option AuthConfig) :
    authorizationMeant auth = meant (authRows auth) ++ entryLines 8 (extraEntries auth) := by
  cases auth <;> rfl

theorem authorizationRows_body (a : AuthConfig) : ∀ r ∈ authorizationRows a, ∃ b, r.body = some b := by
  have hoptional (n : Nat) (key s : String) : ∀ r ∈ optionalRow n key s, ∃ b, r.body = some b := by
    unfold optionalRow
    split <;> simp [Row.body, Row.line]
  have hjwt : ∀ r ∈ jwtRows a, ∃ b, r.body = some b := by
    unfold jwtRows
    split
    · simp only [List.forall_mem_append]
      exact ⟨⟨by simp [Row.body, Row.line], by simp [Row.body, Row.line]⟩, hoptional _ _ _⟩
    · simp
  have hauthorizer : ∀ r ∈ (if a.emitAuthorizer then [Row.entry 8 "authorizer" (str a.authorizer)] else []),
      ∃ b, r.body = some b := by
    split <;> simp [Row.body, Row.line]
  simp only [authorizationRows, List.forall_mem_cons, List.forall_mem_append]
  exact ⟨⟨_, rfl⟩, ⟨⟨hauthorizer, hoptional _ _ _⟩, hoptional _ _ _⟩, hjwt⟩

/-- With a passthrough the authorization is not read as what it is meant to be: its last row runs on. -/
theorem not_reads_extra (t : PrintTable) (lib : YamlLib) {auth : Option AuthConfig} (hextra : extraEntries auth ≠ [])
    {ls : List String} {out : List Line} (h : Reads (authorizationLines t lib auth ++ ls) out) (more : List Body) :
    out.map Line.body ≠ (authRows auth).filterMap Row.body ++ more := by
  intro hb
  cases auth with
  | none => exact hextra rfl
  | some a =>
    obtain ⟨e, es, hes⟩ := List.exists_cons_of_ne_nil hextra
    have hes : a.extraConfig.getD [] = e :: es := hes
    obtain ⟨init, last, hrows⟩ : ∃ init last, authorizationRows a = init ++ [last] :=
      (List.eq_nil_or_concat' _).resolve_left (List.cons_ne_nil _ _)
    obtain ⟨b, hlast⟩ := authorizationRows_body a last (by simp [hrows])
    have hlines : authorizationLines t lib (some a) ++ ls =
        init.map (Row.text t) ++ ((last.text t ++ indent 8 (toYaml lib (e :: es))) :: ls) := by
      rw [authorizationLines, hes, hrows]
      simp [runOn]
    have hbodies : (authRows (some a)).filterMap Row.body ++ more = init.filterMap Row.body ++ (b :: more) := by
      show (authorizationRows a).filterMap Row.body ++ more = _
      simp [hrows, hlast]
    rw [hlines] at h
    rw [hbodies] at hb
    obtain ⟨-, out', hout, hb⟩ := peel_rows t h hb
    have htail : ∃ cs, (indent 8 (toYaml lib (e :: es))).toList = ' ' :: cs := by
      rw [indent, String.toList_ofList]
      exact ⟨_, rfl⟩
    obtain ⟨cs, htail⟩ := htail
    exact not_reads_run_on t hlast htail hout hb

/-! ## The whole config -/

/-- **The config reads back as the document exactly when no row is unsafe and nothing is passed through.** -/
theorem read_renderConfig (t : PrintTable) (lib : YamlLib) {d : ConfigData}
    (hnames : d.defaultStoreName ≠ d.visibilityStoreName) :
    read (renderConfig t lib d) = some (configTree d) ↔
      extraEntries d.authorization = [] ∧ ∀ r ∈ headRows d ++ (authRows d.authorization ++ tailRows d), r.Safe := by
  have hread : read (renderConfig t lib d) =
      (readLines (pieces ((headRows d).map (Row.text t) ++
        (authorizationLines t lib d.authorization ++ (tailRows d).map (Row.text t))))).bind parse := by
    rw [renderConfig, read_unlines, pieces_renderLines]
  constructor
  · intro h
    rw [hread] at h
    obtain ⟨out, hout, hparse⟩ := Option.bind_eq_some_iff.mp h
    have hbodies := parse_bodies hparse
    rw [configTree_lines, authorizationMeant_eq] at hbodies
    simp only [List.map_append, meant_body, List.append_assoc] at hbodies
    obtain ⟨hhead, out', hout', hbodies'⟩ := peel_rows t hout hbodies
    by_cases hextra : extraEntries d.authorization = []
    · rw [authorizationLines_of_no_extra t lib hextra] at hout'
      obtain ⟨hauth, out'', hout'', hbodies''⟩ := peel_rows t hout' hbodies'
      rw [hextra] at hbodies''
      rw [← List.append_nil ((tailRows d).map (Row.text t))] at hout''
      rw [← List.append_nil ((tailRows d).filterMap Row.body)] at hbodies''
      have htail := (peel_rows t hout'' hbodies'').1
      exact ⟨hextra, List.forall_mem_append.mpr ⟨hhead, List.forall_mem_append.mpr ⟨hauth, htail⟩⟩⟩
    · exact absurd hbodies' (not_reads_extra t lib hextra hout' _)
  · rintro ⟨hextra, hsafe⟩
    have hlines : meant (headRows d ++ (authRows d.authorization ++ tailRows d)) = (configTree d).lines 0 := by
      rw [configTree_lines, authorizationMeant_eq, hextra, meant_append, meant_append, entryLines, List.append_nil]
    have htexts : (headRows d ++ (authRows d.authorization ++ tailRows d)).map (Row.text t) =
        (headRows d).map (Row.text t) ++ (authorizationLines t lib d.authorization ++ (tailRows d).map (Row.text t)) := by
      rw [authorizationLines_of_no_extra t lib hextra, List.map_append, List.map_append]
    have hnone : ∀ a ∈ d.authorization, a.extraConfig.getD [] = [] := by
      intro a ha
      rwa [extraEntries, Option.mem_def.mp ha] at hextra
    have hreads : readLines _ = some (meant _) := reads_rows t hsafe
    rw [hread, ← htexts, hreads, hlines, Option.bind_some]
    exact parse_lines (configTree_block hnames hnone) rfl

end TemporalOperator.Config
