import OtaCompile.Console.Program

/-!
# Layers of settings

A variable is a `Reading`: it is unset or not text, or has a value that cannot be read, which ends
the layer there (`applyOverrides_cons`), or it is read and put in force.  A document sets what
stands in one of its sections (`written?`); what it leaves out has its default (`FromFile`).  On top
of both lies the command line.  `Layered` says of each setting which layers can set it, and that it
has the value of the topmost that does (`Topmost`); the layers put on one another are so
(`layered_of_accepted`).
-/

namespace OtaCompile.Settings

/-! ## The environment -/

/-- A variable whose value is read and sets something. -/
structure Reading where
  name : String
  {α : Type}
  read : String → Option α
  set : α → Settings → Settings

namespace Reading

variable (env : Environment) (r : Reading) (rs : List Reading) (s : Settings)

def toOverride : Override where
  name := r.name
  apply value s :=
    match r.read value with
    | some a => .ok (r.set a s)
    | none => .error (SettingsFault.invalidValue r.name value)

/-- The variable and its value, if it has one that cannot be read. -/
def misread? : Option (String × String) :=
  ((env.text? r.name).filter fun value => (r.read value).isNone).map fun value => (r.name, value)

/-- Put in force what the variable sets. -/
def put (s : Settings) (r : Reading) : Settings :=
  match (env.text? r.name).bind r.read with
  | some a => r.set a s
  | none => s

/-- What is told of a variable that was misread. -/
def refusal : Option (String × String) → Except Fault Unit
  | some (name, value) => .error (SettingsFault.invalidValue name value)
  | none => .ok ()

theorem applyOverrides_cons :
    applyOverrides env (r.toOverride :: rs.map toOverride) s =
      match r.misread? env with
      | some misread => (refusal (some misread), s)
      | none => applyOverrides env (rs.map toOverride) (put env s r) := by
  cases henv : env.text? r.name with
  | none => simp [applyOverrides, toOverride, misread?, put, henv]
  | some value =>
    cases hread : r.read value with
    | none => simp [applyOverrides, toOverride, misread?, refusal, Option.filter, henv, hread]
    | some a => simp [applyOverrides, toOverride, misread?, put, Option.filter, henv, hread]

theorem applyOverrides_fst :
    (applyOverrides env (rs.map toOverride) s).1 = refusal (rs.findSome? (misread? env)) := by
  induction rs generalizing s with
  | nil => rfl
  | cons r rs ih =>
    rw [List.map_cons, applyOverrides_cons, List.findSome?_cons]
    cases r.misread? env with
    | none => exact ih _
    | some misread => rfl

theorem applyOverrides_snd (h : rs.findSome? (misread? env) = none) :
    (applyOverrides env (rs.map toOverride) s).2 = rs.foldl (put env) s := by
  induction rs generalizing s with
  | nil => rfl
  | cons r rs ih =>
    obtain ⟨hr, hrs⟩ : r.misread? env = none ∧ rs.findSome? (misread? env) = none := by
      simpa [List.findSome?_eq_none_iff] using h
    rw [List.map_cons, applyOverrides_cons, hr]
    exact ih _ hrs

end Reading

/-- The variables in the order in which they are taken. -/
def readings : List Reading := [
  { name := "OTADEX_OUTPUT"
    read := (Named.ofName? : String → Option OutputFormat)
    set := fun output s => { s with output } },
  { name := "OTADEX_DATA_DIR"
    read := fun value => some (Path.mk value)
    set := fun dataDir s => { s with dataDir } },
  { name := "OTADEX_LOW_SPACE_BYTES"
    read := Text.readWord
    set := fun n s => { s with lowSpaceBytes := some n } },
  { name := "OTADEX_COMPILER_FILTER"
    read := (Named.ofName? : String → Option Compiler.Filter)
    set := fun filter s => { s with compilerFilter := some filter } }]

theorem Override.ext {o o' : Override} (hname : o.name = o'.name)
    (happly : ∀ value s, o.apply value s = o'.apply value s) : o = o' := by
  obtain ⟨name, apply⟩ := o
  obtain rfl : name = o'.name := hname
  obtain rfl : apply = o'.apply := funext fun value => funext (happly value)
  rfl

theorem overrides_eq : overrides = readings.map Reading.toOverride := by
  simp only [overrides, readings, List.map_cons, List.map_nil, List.cons.injEq, and_true]
  -- the same texts are read, and what is refused is refused in the same words
  refine ⟨Override.ext rfl fun value s => ?_, Override.ext rfl fun value s => rfl,
    Override.ext rfl fun value s => ?_, Override.ext rfl fun value s => ?_⟩
  · simp only [named, Reading.toOverride]
    cases (Named.ofName? value : Option OutputFormat) <;> rfl
  · simp only [Reading.toOverride]
    cases Text.readWord value <;> rfl
  · simp only [Reading.toOverride]
    cases (Named.ofName? value : Option Compiler.Filter) <;> rfl

/-- What the value of a variable is read as, if it is set to a text that can be read. -/
def valueOf? {α : Type} (env : Environment) (name : String) (read : String → Option α) :
    Option α := (env.text? name).bind read

/-- What the environment puts in force if all its variables can be read. -/
def underEnvironment (env : Environment) (s : Settings) : Settings :=
  { s with
    output := (valueOf? env "OTADEX_OUTPUT" Named.ofName?).getD s.output
    dataDir := ((env.text? "OTADEX_DATA_DIR").map Path.mk).getD s.dataDir
    lowSpaceBytes := (valueOf? env "OTADEX_LOW_SPACE_BYTES" Text.readWord).or s.lowSpaceBytes
    compilerFilter := (valueOf? env "OTADEX_COMPILER_FILTER" Named.ofName?).or s.compilerFilter }

theorem foldl_put_readings (env : Environment) (s : Settings) :
    readings.foldl (Reading.put env) s = s.underEnvironment env := by
  simp only [readings, List.foldl_cons, List.foldl_nil, Reading.put, underEnvironment, valueOf?]
  -- no two variables set the same, so each is either in force or not
  cases (env.text? "OTADEX_OUTPUT").bind (Named.ofName? : String → Option OutputFormat) <;>
    cases env.text? "OTADEX_DATA_DIR" <;>
    cases (env.text? "OTADEX_LOW_SPACE_BYTES").bind Text.readWord <;>
    cases (env.text? "OTADEX_COMPILER_FILTER").bind
      (Named.ofName? : String → Option Compiler.Filter) <;>
    rfl

/-- The variables whose values have a form, each with what tells it. -/
def formed : List (String × (String → Bool)) := [
  ("OTADEX_OUTPUT", fun value => (Named.ofName? value : Option OutputFormat).isSome),
  ("OTADEX_LOW_SPACE_BYTES", fun value => (Text.readWord value).isSome),
  ("OTADEX_COMPILER_FILTER", fun value => (Named.ofName? value : Option Compiler.Filter).isSome)]

/-- The first variable that is set to a text without its form, and the text. -/
def malformed? (env : Environment) : Option (String × String) :=
  formed.findSome? fun (name, isFormed) =>
    ((env.text? name).filter fun value => !isFormed value).map fun value => (name, value)

theorem findSome?_misread (env : Environment) :
    readings.findSome? (Reading.misread? env) = malformed? env := by
  have hdataDir : (env.text? "OTADEX_DATA_DIR").filter
      (fun value => (some (Path.mk value)).isNone) = none := by
    simp
  simp only [readings, formed, malformed?, Reading.misread?, List.findSome?_cons,
    List.findSome?_nil, hdataDir, Option.map_none, Option.not_isSome]

theorem mergeEnvironment_fst (env : Environment) (s : Settings) :
    (s.mergeEnvironment env).1 =
      match malformed? env with
      | some (name, value) => .error (SettingsFault.invalidValue name value)
      | none => .ok () := by
  rw [mergeEnvironment, overrides_eq, Reading.applyOverrides_fst, findSome?_misread]
  rfl

theorem mergeEnvironment_eq {env : Environment} (h : malformed? env = none) (s : Settings) :
    s.mergeEnvironment env = (.ok (), s.underEnvironment env) := by
  have hread : readings.findSome? (Reading.misread? env) = none := (findSome?_misread env).trans h
  have hsnd := Reading.applyOverrides_snd env readings s hread
  rw [← overrides_eq, foldl_put_readings] at hsnd
  refine Prod.ext ?_ hsnd
  rw [mergeEnvironment_fst, h]

/-! ## Documents -/

/-- The settings of a section, in order. -/
def fieldNames : String → List String
  | "general" => ["default_output", "color"]
  | "dexopt" => ["compiler_filter", "dex_code_isa"]
  | "storage" => ["data_dir", "low_space_percent", "low_space_max_bytes", "low_space_bytes"]
  | "paths" => ["staging_dir", "immutable_partitions", "manifest", "backend_program"]
  | _ => []

/-- What the document has for a setting of a section, if there is one and it sets it. -/
def written? (doc : Option Json) (sectionName name : String) : Option Json := do
  let doc ← (← doc).record? .toml ["general", "dexopt", "storage", "paths"]
  let fields ← section? .toml doc sectionName (fieldNames sectionName)
  fields.field? name

/-- A setting is read from what is written, and has its default if nothing is. -/
def Takes {α : Type} (read : Json → Option α) (written : Option Json) (default value : α) : Prop :=
  match written with
  | some j => read j = some value
  | none => value = default

/-- Settings as they are written, with defaults where nothing is. -/
structure FromFile (written : String → String → Option Json) (s : Settings) : Prop where
  output : Takes (decode? .toml) (written "general" "default_output") .tty s.output
  color : Takes (decode? .toml) (written "general" "color") .auto s.color
  compilerFilter :
    Takes (decode? .toml) (written "dexopt" "compiler_filter") none s.compilerFilter
  dexCodeIsa : Takes (decodeEntries? .toml) (written "dexopt" "dex_code_isa") [] s.dexCodeIsa
  dataDir : Takes (decode? .toml) (written "storage" "data_dir") ⟨"/data"⟩ s.dataDir
  lowSpacePercent :
    Takes (decode? .toml) (written "storage" "low_space_percent") 10 s.lowSpacePercent
  lowSpaceMaxBytes :
    Takes (decode? .toml) (written "storage" "low_space_max_bytes") 524288000 s.lowSpaceMaxBytes
  lowSpaceBytes : Takes (decode? .toml) (written "storage" "low_space_bytes") none s.lowSpaceBytes
  stagingDir : Takes (decode? .toml) (written "paths" "staging_dir") none s.stagingDir
  immutablePartitions :
    Takes (decode? .toml) (written "paths" "immutable_partitions") none s.immutablePartitions
  manifest : Takes (decode? .toml) (written "paths" "manifest") none s.manifest
  backendProgram : Takes (decode? .toml) (written "paths" "backend_program") none s.backendProgram

section Takes

variable {α : Type} [Decode α] {r : Record} {d : Dialect} {name : String}

theorem takes_of_withDefault {default a : α} (h : r.withDefault d name default = some a) :
    Takes (decode? d) (r.field? name) default a := by
  unfold Record.withDefault at h
  unfold Takes
  cases hfield : r.field? name with
  | none =>
    rw [hfield] at h
    exact (Option.some.inj h).symm
  | some j =>
    rw [hfield] at h
    exact h

theorem takes_of_optional {a : Option α} (h : r.optional d name = some a) :
    Takes (decode? d) (r.field? name) none a := by
  unfold Record.optional at h
  unfold Takes
  cases hfield : r.field? name with
  | none =>
    rw [hfield] at h
    cases hpositional : r.positional with
    | true => simp [hpositional] at h
    | false =>
      simp only [hpositional, Bool.false_eq_true, if_false] at h
      exact (Option.some.inj h).symm
  | some j =>
    rw [hfield] at h
    exact h

theorem decodeEntries?_empty : decodeEntries? d (.obj []) = some [] := by
  simp [decodeEntries?, sortedEntries]

theorem takes_of_decodeEntries? {written : Option Json} {entries : List (String × String)}
    (h : decodeEntries? d (written.getD (.obj [])) = some entries) :
    Takes (decodeEntries? d) written [] entries := by
  unfold Takes
  cases written with
  | none => exact Option.some.inj (h.symm.trans decodeEntries?_empty)
  | some j => exact h

end Takes

theorem fromFile_of_decodeDocument? {doc : Json} {s : Settings}
    (h : decodeDocument? .toml doc = some s) : FromFile (written? (some doc)) s := by
  unfold decodeDocument? at h
  obtain ⟨r, hr, h⟩ := Option.bind_eq_some_iff.mp h
  obtain ⟨general, hgeneral, h⟩ := Option.bind_eq_some_iff.mp h
  obtain ⟨output, houtput, h⟩ := Option.bind_eq_some_iff.mp h
  obtain ⟨color, hcolor, h⟩ := Option.bind_eq_some_iff.mp h
  obtain ⟨dexopt, hdexopt, h⟩ := Option.bind_eq_some_iff.mp h
  obtain ⟨compilerFilter, hcompilerFilter, h⟩ := Option.bind_eq_some_iff.mp h
  obtain ⟨dexCodeIsa, hdexCodeIsa, h⟩ := Option.bind_eq_some_iff.mp h
  obtain ⟨storage, hstorage, h⟩ := Option.bind_eq_some_iff.mp h
  obtain ⟨dataDir, hdataDir, h⟩ := Option.bind_eq_some_iff.mp h
  obtain ⟨lowSpacePercent, hlowSpacePercent, h⟩ := Option.bind_eq_some_iff.mp h
  obtain ⟨lowSpaceMaxBytes, hlowSpaceMaxBytes, h⟩ := Option.bind_eq_some_iff.mp h
  obtain ⟨lowSpaceBytes, hlowSpaceBytes, h⟩ := Option.bind_eq_some_iff.mp h
  obtain ⟨paths, hpaths, h⟩ := Option.bind_eq_some_iff.mp h
  obtain ⟨stagingDir, hstagingDir, h⟩ := Option.bind_eq_some_iff.mp h
  obtain ⟨immutablePartitions, himmutablePartitions, h⟩ := Option.bind_eq_some_iff.mp h
  obtain ⟨manifest, hmanifest, h⟩ := Option.bind_eq_some_iff.mp h
  obtain ⟨backendProgram, hbackendProgram, h⟩ := Option.bind_eq_some_iff.mp h
  obtain rfl := Option.some.inj h
  have hwritten {sectionName : String} {fields : Record}
      (hfields : section? .toml r sectionName (fieldNames sectionName) = some fields)
      (name : String) : written? (some doc) sectionName name = fields.field? name := by
    simp [written?, hr, hfields]
  exact {
    output := hwritten hgeneral _ ▸ takes_of_withDefault houtput
    color := hwritten hgeneral _ ▸ takes_of_withDefault hcolor
    compilerFilter := hwritten hdexopt _ ▸ takes_of_withDefault hcompilerFilter
    dexCodeIsa := hwritten hdexopt _ ▸ takes_of_decodeEntries? hdexCodeIsa
    dataDir := hwritten hstorage _ ▸ takes_of_withDefault hdataDir
    lowSpacePercent := hwritten hstorage _ ▸ takes_of_withDefault hlowSpacePercent
    lowSpaceMaxBytes := hwritten hstorage _ ▸ takes_of_withDefault hlowSpaceMaxBytes
    lowSpaceBytes := hwritten hstorage _ ▸ takes_of_withDefault hlowSpaceBytes
    stagingDir := hwritten hpaths _ ▸ takes_of_optional hstagingDir
    immutablePartitions := hwritten hpaths _ ▸ takes_of_optional himmutablePartitions
    manifest := hwritten hpaths _ ▸ takes_of_optional hmanifest
    backendProgram := hwritten hpaths _ ▸ takes_of_optional hbackendProgram }

/-- The settings of a document that is accepted, or those that stand when there is none. -/
inductive Accepted : Option Json → Settings → Prop
  | document {doc : Json} {s : Settings} (hdoc : decodeDocument? .toml doc = some s)
    (hpercent : s.lowSpacePercent ≤ 100) : Accepted (some doc) s
  | defaults : Accepted none {}

theorem Accepted.fromFile {doc : Option Json} {s : Settings} (h : Accepted doc s) :
    FromFile (written? doc) s := by
  cases h with
  | document hdoc hpercent => exact fromFile_of_decodeDocument? hdoc
  | defaults => constructor <;> rfl

theorem Accepted.lowSpacePercent_le {doc : Option Json} {s : Settings} (h : Accepted doc s) :
    s.lowSpacePercent ≤ 100 := by
  cases h with
  | document hdoc hpercent => exact hpercent
  | defaults => decide

theorem validate_eq_ok_iff {s t : Settings} :
    s.validate.map (fun _ => s) = .ok t ↔ s = t ∧ s.lowSpacePercent ≤ 100 := by
  unfold validate
  split
  · next h => exact iff_of_false nofun fun h' => UInt8.not_lt.mpr h'.2 h
  · next h =>
    refine ⟨fun h' => ⟨Except.ok.inj h', UInt8.not_lt.mp h⟩, ?_⟩
    rintro ⟨rfl, -⟩
    rfl

/-- A text is accepted if it is read as a document that is. -/
theorem ofDocument_eq_ok_iff {read : DocumentReader} {text : String} {s : Settings} :
    ofDocument read text = .ok s ↔ ∃ doc, read text = some doc ∧ Accepted (some doc) s := by
  unfold ofDocument
  cases hread : (read text).bind (decode? .toml : Json → Option Settings) with
  | none =>
    refine iff_of_false nofun ?_
    rintro ⟨doc, hdoc, ⟨hs, hpercent⟩⟩
    rw [hdoc] at hread
    cases hread.symm.trans hs
  | some t =>
    obtain ⟨doc, hdoc, ht⟩ := Option.bind_eq_some_iff.mp hread
    refine validate_eq_ok_iff.trans ⟨?_, ?_⟩
    · rintro ⟨rfl, hpercent⟩
      exact ⟨doc, hdoc, .document ht hpercent⟩
    · rintro ⟨doc', hdoc', ⟨hs, hpercent⟩⟩
      obtain rfl := Option.some.inj (hdoc.symm.trans hdoc')
      obtain rfl := Option.some.inj (ht.symm.trans hs)
      exact ⟨rfl, hpercent⟩

/-! ## All layers -/

/-- A setting has the value of the first of the layers above that sets it, or else that of the
document. -/
def Topmost {α : Type} (above : List (Option α)) (read : Json → Option α) (written : Option Json)
    (default value : α) : Prop :=
  match above.findSome? id with
  | some a => value = a
  | none => Takes read written default value

section Topmost

variable {α : Type}

theorem topmost_getD {read : Json → Option α} {written : Option Json} {default value : α}
    (h : Takes read written default value) (above : Option α) :
    Topmost [above] read written default (above.getD value) := by
  cases above with
  | none => exact h
  | some a => exact rfl

theorem topmost_or {read : Json → Option (Option α)} {written : Option Json}
    {default value : Option α} (h : Takes read written default value) (above : Option α) :
    Topmost [above.map some] read written default (above.or value) := by
  cases above with
  | none => exact h
  | some a => exact rfl

end Topmost

/-- The backend that a run is given on its command line. -/
def backendOf? (i : Console.Invoked) : Option Path :=
  match i.operation with
  | .run backend => backend
  | _ => none

/-- Every setting has the value of the topmost layer that sets it: the command line, which asks for
`flags`, the environment, the document and the default. -/
structure Layered (env : Environment) (flags : Console.Invoked)
    (written : String → String → Option Json) (s : Settings) : Prop where
  output :
    Topmost [if flags.json then some .json else none, valueOf? env "OTADEX_OUTPUT" Named.ofName?]
      (decode? .toml) (written "general" "default_output") .tty (Console.outputFormat flags s)
  color : Topmost [flags.color] (decode? .toml) (written "general" "color") .auto s.color
  manifest :
    Topmost [flags.manifest.map some, (env.path? "OTADEX_MANIFEST").map some] (decode? .toml)
      (written "paths" "manifest") none s.manifest
  backendProgram :
    Topmost [(backendOf? flags).map some] (decode? .toml) (written "paths" "backend_program") none
      s.backendProgram
  dataDir :
    Topmost [(env.text? "OTADEX_DATA_DIR").map Path.mk] (decode? .toml)
      (written "storage" "data_dir") ⟨"/data"⟩ s.dataDir
  lowSpaceBytes :
    Topmost [(valueOf? env "OTADEX_LOW_SPACE_BYTES" Text.readWord).map some] (decode? .toml)
      (written "storage" "low_space_bytes") none s.lowSpaceBytes
  compilerFilter :
    Topmost [(valueOf? env "OTADEX_COMPILER_FILTER" Named.ofName?).map some] (decode? .toml)
      (written "dexopt" "compiler_filter") none s.compilerFilter
  lowSpacePercent :
    Takes (decode? .toml) (written "storage" "low_space_percent") 10 s.lowSpacePercent
  lowSpaceMaxBytes :
    Takes (decode? .toml) (written "storage" "low_space_max_bytes") 524288000 s.lowSpaceMaxBytes
  dexCodeIsa : Takes (decodeEntries? .toml) (written "dexopt" "dex_code_isa") [] s.dexCodeIsa
  stagingDir : Takes (decode? .toml) (written "paths" "staging_dir") none s.stagingDir
  immutablePartitions :
    Takes (decode? .toml) (written "paths" "immutable_partitions") none s.immutablePartitions
  lowSpacePercent_le : s.lowSpacePercent ≤ 100

theorem applyInvoked_eq (i : Console.Invoked) (s : Settings) :
    Console.applyInvoked i s =
      { s with
        color := i.color.getD s.color
        manifest := i.manifest.or s.manifest
        backendProgram := (backendOf? i).or s.backendProgram } := by
  unfold Console.applyInvoked backendOf?
  cases i.operation with
  | run backend => cases backend <;> rfl
  | exportCommands limit => rfl
  | relocate => rfl

theorem layered_of_accepted (env : Environment) (flags : Console.Invoked) {doc : Option Json}
    {base : Settings} (h : Accepted doc base) :
    Layered env flags (written? doc)
      (Console.applyInvoked (flags.under env) (base.underEnvironment env)) := by
  have hfile := h.fromFile
  rw [applyInvoked_eq]
  exact {
    output := by
      have henv := topmost_getD hfile.output (valueOf? env "OTADEX_OUTPUT" Named.ofName?)
      unfold Console.outputFormat
      cases flags.json with
      | false => exact henv
      | true => exact rfl
    color := topmost_getD hfile.color flags.color
    manifest := by
      have henv := topmost_or hfile.manifest (env.path? "OTADEX_MANIFEST")
      show Topmost _ _ _ _ ((flags.manifest.or (env.path? "OTADEX_MANIFEST")).or base.manifest)
      cases flags.manifest with
      | none => exact henv
      | some path => exact rfl
    backendProgram := topmost_or hfile.backendProgram (backendOf? flags)
    dataDir := topmost_getD hfile.dataDir _
    lowSpaceBytes := topmost_or hfile.lowSpaceBytes _
    compilerFilter := topmost_or hfile.compilerFilter _
    lowSpacePercent := hfile.lowSpacePercent
    lowSpaceMaxBytes := hfile.lowSpaceMaxBytes
    dexCodeIsa := hfile.dexCodeIsa
    stagingDir := hfile.stagingDir
    immutablePartitions := hfile.immutablePartitions
    lowSpacePercent_le := h.lowSpacePercent_le }

/-- Every data directory can be read, so the number behind it is the first that is refused. -/
example :
    let env : Environment := fun name =>
      ([("OTADEX_DATA_DIR", "/tmp/data"), ("OTADEX_LOW_SPACE_BYTES", "lots")].lookup name).map
        OsText.ofText
    (mergeEnvironment env {}).1 =
      .error (SettingsFault.invalidValue "OTADEX_LOW_SPACE_BYTES" "lots") := rfl

end OtaCompile.Settings
