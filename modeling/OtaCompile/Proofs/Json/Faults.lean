import OtaCompile.Proofs.Json.Written

/-!
# Faults are restored

The faults of each part are `Lossless`.  A fault as a whole is too, but for the kind of an input or
output failure: a kind whose name is not known is read as `other` (`IoKind.restored`).  Nothing that
is told of a fault depends on that kind, so a fault that was read back is told of in the same words
(`fault_restored`).
-/

namespace OtaCompile

variable {β : Type} {name : String} {fields : List (String × Json)}

/-! ## Alternatives with their names outside -/

theorem oneText?_written (name : String) (make : String → β) (s : String) :
    Json.oneText? name make (some (.obj [(name, encode s)])) = some (make s) := by
  have hfield : [(name, encode s)].lookup name = some (encode s) := List.lookup_cons_self
  exact read_body (read_field hfield rfl)

theorem twoTexts?_written (first second : String) (hne : first ≠ second)
    (make : String → String → β) (s t : String) :
    Json.twoTexts? first second make (some (.obj [(first, encode s), (second, encode t)])) =
      some (make s t) := by
  have hfirst : [(first, encode s), (second, encode t)].lookup first = some (encode s) :=
    List.lookup_cons_self
  have hother : (second == first) = false := beq_false_of_ne hne.symm
  have hsecond : [(first, encode s), (second, encode t)].lookup second = some (encode t) := by
    rw [List.lookup_cons, hother]
    exact List.lookup_cons_self
  exact read_body (read_field hfirst (read_field hsecond rfl))

theorem plain_alternative (hnames : (fields.map Prod.fst).Nodup)
    (h : ∀ m ∈ fields, m.2.Plain) : (Json.alternative name fields).Plain := by
  refine .obj (List.nodup_cons.mpr ⟨List.not_mem_nil, List.nodup_nil⟩) fun m hm => ?_
  obtain rfl := List.mem_singleton.mp hm
  exact .obj hnames h

/-! ## The faults of each part -/

instance : Lossless SessionFault where
  decode?_encode _ f := by
    cases f with
    | notPrepared operation => exact oneText?_written "operation" SessionFault.notPrepared operation
    | alreadyPrepared => rfl
    | invariantViolation package =>
      exact oneText?_written "package" SessionFault.invariantViolation package
    | relocationDuringSession => rfl
    | missingComponent component =>
      exact oneText?_written "component" SessionFault.missingComponent component

instance : Lossless SettingsFault where
  decode?_encode _ f := by
    cases f with
    | fileNotFound path => exact oneText?_written "path" SettingsFault.fileNotFound path
    | invalid reason => exact oneText?_written "message" SettingsFault.invalid reason
    | parse reason => exact oneText?_written "message" SettingsFault.parse reason
    | missingField field => exact oneText?_written "field" SettingsFault.missingField field
    | invalidValue field value =>
      exact twoTexts?_written "field" "value" (by decide) SettingsFault.invalidValue field value
    | invalidThreshold volume =>
      exact oneText?_written "volume" SettingsFault.invalidThreshold volume

instance : Lossless StorageFault where
  decode?_encode _ f := by
    cases f with
    | io reason => exact oneText?_written "message" StorageFault.io reason
    | volumeQuery path reason =>
      exact twoTexts?_written "path" "message" (by decide) StorageFault.volumeQuery path reason

instance : Lossless BackendFault where
  decode?_encode _ f := by
    cases f with
    | unsupported backend operation =>
      exact twoTexts?_written "backend" "operation" (by decide)
        BackendFault.unsupported backend operation
    | commandFailed command status =>
      show (do
        let r ← Json.body? ["command", "status"]
          (some (.obj [("command", encode command), ("status", encode status)]))
        return BackendFault.commandFailed (← r.required .json "command")
          (← r.required .json "status")) = _
      exact read_body (read_field rfl (read_field rfl rfl))
    | connection reason => exact oneText?_written "message" BackendFault.connection reason

instance : Lossless PlatformFault where
  decode?_encode _ f := by
    cases f with
    | fileSystem operation reason =>
      exact twoTexts?_written "operation" "message" (by decide)
        PlatformFault.fileSystem operation reason
    | process command reason =>
      exact twoTexts?_written "command" "message" (by decide) PlatformFault.process command reason
    | commandNotFound command =>
      exact oneText?_written "command" PlatformFault.commandNotFound command
    | permission operation reason =>
      exact twoTexts?_written "operation" "message" (by decide)
        PlatformFault.permission operation reason

instance : WritesPlain SessionFault where
  plain_encode f := by
    cases f with
    | alreadyPrepared => exact .str "AlreadyPrepared"
    | relocationDuringSession => exact .str "RelocationDuringSession"
    | _ => exact plain_alternative (by simp) (by simp)

instance : WritesPlain SettingsFault where
  plain_encode f := by cases f <;> exact plain_alternative (by simp) (by simp)

instance : WritesPlain StorageFault where
  plain_encode f := by cases f <;> exact plain_alternative (by simp) (by simp)

instance : WritesPlain BackendFault where
  plain_encode f := by cases f <;> exact plain_alternative (by simp) (by simp)

instance : WritesPlain PlatformFault where
  plain_encode f := by cases f <;> exact plain_alternative (by simp) (by simp)

/-! ## Kinds -/

namespace IoKind

/-- What a kind is read back as, eight kinds as themselves. -/
def restored (k : IoKind) : IoKind :=
  if k ∈ [notFound, permissionDenied, alreadyExists, invalidInput, invalidData, interrupted,
    unsupported, unexpectedEof] then k else other

variable {k : IoKind}

theorem restored_of_known (h : k ∈ known) : k.restored = k := if_pos h

theorem restored_of_not_known (h : k ∉ known) : k.restored = other := if_neg h

theorem ofKnownName_name (k : IoKind) : ofKnownName (Named.name k) = k.restored := by
  unfold ofKnownName
  by_cases hk : k ∈ known
  · rw [restored_of_known hk]
    cases hfound : known.find? fun i => Named.name i == Named.name k with
    | none => exact absurd (beq_self_eq_true _) (List.find?_eq_none.mp hfound k hk)
    | some i =>
      have hname : Named.name i = Named.name k := by simpa using List.find?_some hfound
      exact Named.name_injective hname
  · have hnone : known.find? (fun i => Named.name i == Named.name k) = none := by
      refine List.find?_eq_none.mpr fun i hi hname => hk ?_
      rwa [← Named.name_injective (eq_of_beq hname)]
    rw [restored_of_not_known hk, hnone]
    rfl

theorem restored_restored (k : IoKind) : k.restored.restored = k.restored := by
  by_cases hk : k ∈ known
  · rw [restored_of_known hk, restored_of_known hk]
  · rw [restored_of_not_known hk]
    rfl

end IoKind

/-! ## Faults as a whole -/

namespace Fault

/-- What a fault is read back as. -/
def restored : Fault → Fault
  | io kind reason path => io kind.restored reason path
  | f => f

theorem restored_restored (f : Fault) : f.restored.restored = f.restored := by
  cases f with
  | io kind reason path => rw [restored, restored, IoKind.restored_restored]
  | _ => rfl

theorem decode?_encode_restored (d : Dialect) (f : Fault) :
    decode? d (encode f) = some f.restored := by
  cases f with
  | session f =>
    show (decode? d (encode f)).map session = _
    rw [decode?_encode]
    rfl
  | settings f =>
    show (decode? d (encode f)).map settings = _
    rw [decode?_encode]
    rfl
  | storage f =>
    show (decode? d (encode f)).map storage = _
    rw [decode?_encode]
    rfl
  | backend f =>
    show (decode? d (encode f)).map backend = _
    rw [decode?_encode]
    rfl
  | platform f =>
    show (decode? d (encode f)).map platform = _
    rw [decode?_encode]
    rfl
  | internal reason => rfl
  | io kind reason path =>
    rw [restored, ← IoKind.ofKnownName_name]
    show (do
      let r ← Json.body? ["kind", "message", "path"] (some (.obj
        [("kind", .str (Named.name kind)), ("message", encode reason), ("path", encode path)]))
      let kind ← r.required .json "kind"
      return io (.ofKnownName kind) (← r.required .json "message") (← r.required .json "path")) = _
    exact read_body (read_field (a := Named.name kind) rfl <| read_field rfl <| read_field rfl rfl)

instance : WritesPlain Fault where
  plain_encode f := by
    cases f with
    | io kind reason path =>
      refine plain_alternative (by simp) ?_
      simp [Json.Plain.str]
    | _ => exact .obj (by simp) (by simp)

theorem read_text (f : Fault) :
    (Json.read? (encode f).compact).bind (decode? .json) = some f.restored := by
  rw [read?_compact_encode]
  exact decode?_encode_restored .json f

theorem message_restored (f : Fault) : f.restored.message = f.message := by cases f <;> rfl

theorem advice_restored (f : Fault) : f.restored.advice = f.advice := by cases f <;> rfl

theorem isProtocolMisuse_restored (f : Fault) :
    f.restored.isProtocolMisuse = f.isProtocolMisuse := by cases f <;> rfl

/-- **Faults in JSON.**  A fault is read back as it was written, from the value as well as from its
text, except that an unknown kind of input or output failure becomes `other`.  Its message, all
advice on it and whether it is a misuse stay the same, and a second time nothing more changes. -/
theorem fault_restored (f : Fault) :
    decode? .json (encode f) = some f.restored ∧
    (Json.read? (encode f).compact).bind (decode? .json) = some f.restored ∧
    f.restored.message = f.message ∧ f.restored.advice = f.advice ∧
    f.restored.isProtocolMisuse = f.isProtocolMisuse ∧
    decode? .json (encode f.restored) = some f.restored := by
  refine ⟨decode?_encode_restored .json f, read_text f, message_restored f, advice_restored f,
    isProtocolMisuse_restored f, ?_⟩
  rw [decode?_encode_restored, restored_restored]

end Fault

end OtaCompile
