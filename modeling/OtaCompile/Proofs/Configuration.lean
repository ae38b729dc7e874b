import OtaCompile.Proofs.Dialogue
import OtaCompile.Proofs.Settings

/-!
# The settings of a run

A run has its settings from its arguments, its environment and at most one document.  The
environment has no say in the arguments but for the manifest, if they name none
(`invoked_of_read`).  Which document it is can be seen from what the host is asked (`Reads`), and
settings are got exactly from a document that is accepted, in an environment that is well formed
(`leads_layeredSettings`).  `settings_layered` says which value each setting then has.
-/

namespace OtaCompile

/-- No variable is set. -/
def Environment.bare : Environment := fun _ => none

/-! ## The command line -/

namespace Console

variable {env : Environment} {before behind g : Given} {verb : Verb} {i : Invoked}

theorem invoked_of_combine (h : combine env before behind verb = .invoked i) :
    ∃ flags, combine .bare before behind verb = .invoked flags ∧ i = flags.under env := by
  unfold combine at h
  split at h
  · cases h
  · refine ⟨_, rfl, ?_⟩
    rw [← CommandLine.invoked.inj h]
    simp [Invoked.under, Environment.bare, Environment.path?]

theorem invoked_of_readBehind {ts : List Token}
    (h : readBehind env before verb g ts = .invoked i) :
    ∃ flags, readBehind .bare before verb g ts = .invoked flags ∧ i = flags.under env := by
  fun_induction readBehind env before verb g ts with
  | case1 g => exact invoked_of_combine h
  | case2 g => exact invoked_of_combine h
  | case5 g name value rest hname g' htake ih =>
    rw [readBehind, htake]
    · exact ih h
    · exact hname
  | _ => cases h

theorem readHelp_ne_invoked (names : List String) : readHelp names ≠ .invoked i := by
  unfold readHelp
  split
  · exact nofun
  · split <;> exact nofun
  · exact nofun

theorem invoked_of_readBefore {ts : List Token} (h : readBefore env g ts = .invoked i) :
    ∃ flags, readBefore .bare g ts = .invoked flags ∧ i = flags.under env := by
  fun_induction readBefore env g ts with
  | case5 g name value rest hhelp hversion g' htake ih =>
    rw [readBefore, htake]
    · exact ih h
    · exact hhelp
    · exact hversion
  | case7 g text rest verb hverb =>
    rw [readBefore, hverb]
    exact invoked_of_readBehind h
  | case9 g names rest => exact absurd h (readHelp_ne_invoked names)
  | _ => cases h

/-- What is asked for is asked for by the arguments, up to a manifest of the environment. -/
theorem invoked_of_read {arguments : List String}
    (h : CommandLine.read env arguments = .invoked i) :
    ∃ flags, CommandLine.read .bare arguments = .invoked flags ∧ i = flags.under env :=
  invoked_of_readBefore h

end Console

namespace Settings

/-! ## The document -/

/-- Settings are read from the file that is named, or else from the user's own, if there is one.
`doc` is what is read there; the exchanges are those by which it was got. -/
inductive Reads (read : DocumentReader) (env : Environment) :
    Option Path → List ((q : Host.Request) × Host.Reply q) → Option Json → Prop
  | named {path : Path} {text : String} {doc : Json} (hdoc : read text = some doc) :
    Reads read env (some path) [⟨.readText path, .ok text⟩] (some doc)
  | own {home : Path} {ts : List ((q : Host.Request) × Host.Reply q)} {text : String} {doc : Json}
    (hhome : (Host.settingsHome env).Leads ts (some home)) (hdoc : read text = some doc) :
    Reads read env none
      (ts ++ [⟨.isPresent (Host.settingsFile home), true⟩,
        ⟨.readText (Host.settingsFile home), .ok text⟩]) (some doc)
  | absent {home : Path} {ts : List ((q : Host.Request) × Host.Reply q)}
    (hhome : (Host.settingsHome env).Leads ts (some home)) :
    Reads read env none (ts ++ [⟨.isPresent (Host.settingsFile home), false⟩]) none

variable {read : DocumentReader} {env : Environment} {config : Option Path} {i : Console.Invoked}
  {ts : List ((q : Host.Request) × Host.Reply q)} {s : Settings}

theorem leads_loadSettings {path : Path} :
    (Host.loadSettings read path).Leads ts (.ok s) ↔
      ∃ text doc, ts = [⟨.readText path, .ok text⟩] ∧ read text = some doc ∧
        Accepted (some doc) s := by
  refine Dialogue.leads_question.trans ⟨?_, ?_⟩
  · rintro ⟨answer, ts', rfl, h⟩
    cases answer with
    | error f =>
      obtain ⟨-, hend⟩ := Dialogue.leads_pure.mp h
      cases hend
    | ok text =>
      obtain ⟨rfl, hread⟩ := Dialogue.leads_pure.mp h
      obtain ⟨doc, hdoc, hs⟩ := ofDocument_eq_ok_iff.mp hread.symm
      exact ⟨text, doc, rfl, hdoc, hs⟩
  · rintro ⟨text, doc, rfl, hdoc, hs⟩
    refine ⟨.ok text, [], rfl, Dialogue.leads_pure.mpr ⟨rfl, ?_⟩⟩
    exact (ofDocument_eq_ok_iff.mpr ⟨doc, hdoc, hs⟩).symm

theorem reads_of_loadSettingsOr (h : (Host.loadSettingsOr read env config).Leads ts (.ok s)) :
    ∃ doc, Reads read env config ts doc ∧ Accepted doc s := by
  cases config with
  | some path =>
    obtain ⟨text, doc, rfl, hdoc, hs⟩ := leads_loadSettings.mp h
    exact ⟨some doc, .named hdoc, hs⟩
  | none =>
    obtain ⟨ts₁, home, ts₂, rfl, hhome, hbehind⟩ := Dialogue.leads_bind.mp h
    cases home with
    | none =>
      obtain ⟨-, hend⟩ := Dialogue.leads_pure.mp hbehind
      cases hend
    | some home =>
      obtain ⟨present, ts₃, rfl, hload⟩ := Dialogue.leads_question.mp hbehind
      cases present with
      | true =>
        obtain ⟨text, doc, rfl, hdoc, hs⟩ := leads_loadSettings.mp hload
        exact ⟨some doc, .own hhome hdoc, hs⟩
      | false =>
        obtain ⟨rfl, hend⟩ := Dialogue.leads_pure.mp hload
        obtain rfl := Except.ok.inj hend
        exact ⟨none, .absent hhome, .defaults⟩

theorem leads_of_reads {doc : Option Json} (h : Reads read env config ts doc)
    (hs : Accepted doc s) : (Host.loadSettingsOr read env config).Leads ts (.ok s) := by
  cases h with
  | named hdoc => exact leads_loadSettings.mpr ⟨_, _, rfl, hdoc, hs⟩
  | own hhome hdoc =>
    refine Dialogue.leads_bind.mpr ⟨_, _, _, rfl, hhome, Dialogue.leads_question.mpr ?_⟩
    exact ⟨true, _, rfl, leads_loadSettings.mpr ⟨_, _, rfl, hdoc, hs⟩⟩
  | absent hhome =>
    cases hs
    refine Dialogue.leads_bind.mpr ⟨_, _, _, rfl, hhome, Dialogue.leads_question.mpr ?_⟩
    exact ⟨false, [], rfl, Dialogue.leads_pure.mpr ⟨rfl, rfl⟩⟩

/-! ## All layers -/

/-- Settings are refused with the environment, or else all layers are put on them. -/
theorem layer_eq (env : Environment) (i : Console.Invoked) (base : Settings) :
    Console.layer env i base = match malformed? env with
      | some (name, value) => .error (SettingsFault.invalidValue name value)
      | none => .ok (Console.applyInvoked i (base.underEnvironment env)) := by
  unfold Console.layer
  cases hmalformed : malformed? env with
  | none => rw [mergeEnvironment_eq hmalformed]
  | some misread =>
    have hfst := mergeEnvironment_fst env base
    rw [hmalformed] at hfst
    rcases hmerge : base.mergeEnvironment env with ⟨r, merged⟩
    rw [hmerge] at hfst
    obtain rfl : r = _ := hfst
    rfl

theorem leads_layeredSettings {doc : Option Json} {base : Settings}
    (h : Reads read env i.config ts doc) (hbase : Accepted doc base) :
    (Console.layeredSettings read env i).Leads ts (Console.layer env i base) := by
  refine Dialogue.leads_bind.mpr ⟨ts, .ok base, [], (List.append_nil ts).symm,
    leads_of_reads h hbase, ?_⟩
  exact Dialogue.leads_pure.mpr ⟨rfl, rfl⟩

theorem reads_of_layeredSettings (h : (Console.layeredSettings read env i).Leads ts (.ok s)) :
    ∃ doc base, Reads read env i.config ts doc ∧ Accepted doc base ∧
      Console.layer env i base = .ok s := by
  obtain ⟨ts₁, loaded, ts₂, rfl, hload, hbehind⟩ := Dialogue.leads_bind.mp h
  cases loaded with
  | error f =>
    obtain ⟨-, hend⟩ := Dialogue.leads_pure.mp hbehind
    cases hend
  | ok base =>
    obtain ⟨rfl, hend⟩ := Dialogue.leads_pure.mp hbehind
    obtain ⟨doc, hreads, hbase⟩ := reads_of_loadSettingsOr hload
    rw [List.append_nil]
    exact ⟨doc, base, hreads, hbase, hend.symm⟩

/-- **Layers of settings.**  The environment is refused exactly if one of three variables is set to
a text without its form, and the first of these is named with its value.  A command line asks for
what its arguments ask for alone, up to the manifest, which the environment may name instead.  The
settings of a run are got from the document that it reads, where its arguments say, or from none;
every setting has the value of the topmost layer that sets it, and what neither the environment nor
the command line can set stands as the document has it, with a percentage of at most 100.
Conversely, every document that is accepted comes to such settings, unless the environment is
refused.  Paths are texts here: what is said of a path that a variable or an argument names is said
of those in UTF-8. -/
theorem settings_layered (read : DocumentReader) (env : Environment) (arguments : List String) :
    (∀ base : Settings, (base.mergeEnvironment env).1 =
      match malformed? env with
      | some (name, value) => .error (SettingsFault.invalidValue name value)
      | none => .ok ()) ∧
    ∀ i, Console.CommandLine.read env arguments = .invoked i →
      ∃ flags, Console.CommandLine.read .bare arguments = .invoked flags ∧ i = flags.under env ∧
        (∀ ts s, (Console.layeredSettings read env i).Leads ts (.ok s) →
          malformed? env = none ∧ ∃ doc base, Reads read env flags.config ts doc ∧
            Accepted doc base ∧ Layered env flags (written? doc) s) ∧
        ∀ ts doc base, Reads read env flags.config ts doc → Accepted doc base →
          ∃ s, Layered env flags (written? doc) s ∧
            (Console.layeredSettings read env i).Leads ts (match malformed? env with
              | some (name, value) => .error (SettingsFault.invalidValue name value)
              | none => .ok s) := by
  refine ⟨mergeEnvironment_fst env, fun i hi => ?_⟩
  obtain ⟨flags, hflags, rfl⟩ := Console.invoked_of_read hi
  refine ⟨flags, hflags, rfl, fun ts s h => ?_, fun ts doc base hreads hbase => ?_⟩
  · obtain ⟨doc, base, hreads, hbase, hs⟩ := reads_of_layeredSettings h
    rw [layer_eq] at hs
    cases hmalformed : malformed? env with
    | some misread =>
      rw [hmalformed] at hs
      cases hs
    | none =>
      rw [hmalformed] at hs
      obtain rfl := Except.ok.inj hs
      exact ⟨rfl, doc, base, hreads, hbase, layered_of_accepted env flags hbase⟩
  · refine ⟨_, layered_of_accepted env flags hbase, ?_⟩
    rw [← layer_eq]
    exact leads_layeredSettings hreads hbase

/-- A document that names a manifest and nothing else. -/
def manifestDocument (name : String) : Json := .obj [("paths", .obj [("manifest", .str name)])]

theorem accepted_manifestDocument (name : String) :
    Accepted (some (manifestDocument name)) { manifest := some ⟨name⟩ } := by
  have hdoc : decodeDocument? .toml (manifestDocument name) =
      (decodeEntries? .toml (.obj [])).bind fun entries =>
        some { dexCodeIsa := entries, manifest := some ⟨name⟩ } := rfl
  rw [decodeEntries?_empty] at hdoc
  have hpercent : (10 : UInt8) ≤ 100 := by decide
  exact .document hdoc hpercent

/-- The filter comes from the environment, the manifest from the document and the rest from nowhere,
for the command line asks for no more than the commands. -/
theorem settings_layered_of_export :
    let env : Environment := fun name =>
      if name = "OTADEX_COMPILER_FILTER" then some (.ofText "speed") else none
    let read : DocumentReader := fun _ => some (manifestDocument "m.toml")
    ∃ i s, Console.CommandLine.read env ["--config", "c.toml", "export"] = .invoked i ∧
      (Console.layeredSettings read env i).Leads [⟨.readText ⟨"c.toml"⟩, .ok ""⟩] (.ok s) ∧
      s.compilerFilter = some .speed ∧ s.manifest = some ⟨"m.toml"⟩ ∧ s.dataDir = ⟨"/data"⟩ := by
  intro env read
  obtain ⟨flags, hflags, hi, -, hback⟩ :=
    (settings_layered read env ["--config", "c.toml", "export"]).2 _ rfl
  obtain rfl := Console.CommandLine.invoked.inj hflags
  obtain ⟨s, hs, hleads⟩ := hback _ _ _ (.named rfl) (accepted_manifestDocument "m.toml")
  have hmanifest : some (some (Path.mk "m.toml")) = some s.manifest := hs.manifest
  exact ⟨_, s, rfl, hleads, hs.compilerFilter, (Option.some.inj hmanifest).symm, hs.dataDir⟩

/-- A manifest of the environment counts more than that of the document; and a variable that is not
text is not refused, though it has no form. -/
theorem manifest_of_environment :
    let env : Environment := fun name =>
      if name = "OTADEX_MANIFEST" then some (.ofText "env.toml")
      else if name = "OTADEX_OUTPUT" then some ⟨[0xFF]⟩ else none
    let doc := manifestDocument "file.toml"
    let arguments := ["--config", "c.toml", "export"]
    ∃ i flags ts s, Console.CommandLine.read env arguments = .invoked i ∧
      Console.CommandLine.read .bare arguments = .invoked flags ∧
      Reads (fun _ => some doc) env flags.config ts (some doc) ∧
      (Console.layeredSettings (fun _ => some doc) env i).Leads ts (.ok s) ∧
      ¬ Topmost [flags.manifest.map some] (decode? .toml) (written? (some doc) "paths" "manifest")
        none s.manifest ∧
      env "OTADEX_OUTPUT" ≠ none ∧ (mergeEnvironment env {}).1 = .ok () := by
  intro env doc arguments
  have hreads : Reads (fun _ => some doc) env (some ⟨"c.toml"⟩)
      [⟨.readText ⟨"c.toml"⟩, .ok ""⟩] (some doc) := .named rfl
  have hbase := accepted_manifestDocument "file.toml"
  refine ⟨_, _, _, _, rfl, rfl, hreads, leads_layeredSettings hreads hbase, ?_, nofun, by rfl⟩
  intro htopmost
  have hsame : some (some (Path.mk "file.toml")) = some (some (Path.mk "env.toml")) := htopmost
  revert hsame
  decide

end Settings

end OtaCompile
