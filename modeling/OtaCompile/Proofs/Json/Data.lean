import OtaCompile.Invocation.Json
import OtaCompile.Package.Json
import OtaCompile.Proofs.Json.Written

/-!
# Packages, invocations, reports and events are restored

Packages, invocations and advice are `Lossless`.  Reports and events count in natural numbers but
are read with counts of 64 bits, so of these exactly what is `InRange` is restored; and nothing else
is ever read (`Event.inRange_of_decode?`).  Hence a datum that was read, whatever was filled in or
passed over meanwhile, is written and read again without a change (`data_restored`).
-/

namespace OtaCompile

/-! ## Packages and invocations -/

instance : Lossless Compiler.Flags where
  decode?_encode d f := by
    show (decode? d (encode f.bits)).map Compiler.Flags.mk = some f
    rw [decode?_encode]
    rfl

instance : WritesPlain Compiler.Flags := ⟨fun f => plain_encode f.bits⟩

instance : Lossless Package where
  decode?_encode d p := by
    refine read_record ?_
    exact read_field rfl <| read_withDefault rfl <| read_withDefault rfl <| read_withDefault rfl <|
      read_withDefault rfl <| read_withDefault rfl <| read_withDefault rfl <|
      read_withDefault rfl rfl

instance : WritesPlain Package where
  plain_encode p := .obj (by simp) (by simp)

instance : Lossless Invocation where
  decode?_encode d i := by
    refine read_record ?_
    exact read_field rfl <| read_field rfl <| read_field rfl <| read_field rfl <|
      read_optional rfl <| read_field rfl <| read_field rfl <| read_field rfl rfl

instance : WritesPlain Invocation where
  plain_encode i := .obj (by simp) (by simp)

/-! ## Advice -/

theorem Advice.lookup_fields (a : Advice) :
    let fields := Json.optionalMember "code" a.code ++ [("message", encode a.message)] ++
      Json.optionalMember "hint" a.hint ++ [("retryable", encode a.retryable)]
    fields.lookup "code" = a.code.map encode ∧
      fields.lookup "message" = some (encode a.message) ∧
      fields.lookup "hint" = a.hint.map encode ∧
      fields.lookup "retryable" = some (encode a.retryable) := by
  obtain ⟨code, message, hint, retryable⟩ := a
  cases code with
  | none => cases hint <;> exact ⟨rfl, rfl, rfl, rfl⟩
  | some code => cases hint <;> exact ⟨rfl, rfl, rfl, rfl⟩

instance : Lossless Advice where
  decode?_encode d a := by
    obtain ⟨hcode, hmessage, hhint, hretryable⟩ := a.lookup_fields
    refine read_record ?_
    exact read_optionalMember hcode <| read_field hmessage <| read_optionalMember hhint <|
      read_field hretryable rfl

/-- What is absent is not written. -/
theorem Advice.member?_encode (a : Advice) :
    (encode a).member? "code" = a.code.map encode ∧
      (encode a).member? "hint" = a.hint.map encode := by
  obtain ⟨hcode, -, hhint, -⟩ := a.lookup_fields
  exact ⟨hcode, hhint⟩

instance : WritesPlain Advice where
  plain_encode a := by
    obtain ⟨code, message, hint, retryable⟩ := a
    refine .obj ?_ ?_
    · cases code <;> cases hint <;> simp [Json.optionalMember]
    · cases code <;> cases hint <;> simp [Json.optionalMember]

/-! ## Events -/

instance : Lossless SkipReason where
  decode?_encode d r := by
    cases r with
    | lowSpace usable threshold =>
      refine read_tagged (by simp [Untagged]) (read_record ?_)
      exact read_field rfl <| read_field rfl rfl
    | policyFailed message =>
      refine read_tagged (by simp [Untagged]) (read_record ?_)
      exact read_field rfl rfl

instance : WritesPlain SkipReason where
  plain_encode r := by
    cases r <;> exact plain_tagged (by simp [Untagged]) (by simp) (by simp)

/-- The counts of the report are numbers of 64 bits. -/
structure RelocationReport.InRange (r : RelocationReport) : Prop where
  scanned : InWord r.scanned
  skipped : InWord r.skipped
  attempted : InWord r.attempted
  moved : InWord r.moved
  notStaged : InWord r.notStaged
  failed : InWord r.failed

theorem RelocationReport.InRange.decode?_encode {r : RelocationReport} (h : r.InRange)
    (d : Dialect) : decode? d (encode r) = some r := by
  refine read_record ?_
  exact read_count rfl h.scanned <| read_count rfl h.skipped <| read_count rfl h.attempted <|
    read_count rfl h.moved <| read_count rfl h.notStaged <| read_count rfl h.failed rfl

theorem RelocationReport.inRange_of_decode? {d : Dialect} {j : Json} {r : RelocationReport}
    (h : decode? d j = some r) : r.InRange := by
  simp only [decode?, Option.bind_eq_bind, Option.bind_eq_some_iff] at h
  obtain ⟨written, -, scanned, hscanned, skipped, hskipped, attempted, hattempted, moved, hmoved,
    notStaged, hnotStaged, failed, hfailed, h⟩ := h
  obtain rfl := Option.some.inj h
  exact {
    scanned := inWord_of_required hscanned
    skipped := inWord_of_required hskipped
    attempted := inWord_of_required hattempted
    moved := inWord_of_required hmoved
    notStaged := inWord_of_required hnotStaged
    failed := inWord_of_required hfailed }

instance : WritesPlain RelocationReport where
  plain_encode r := .obj (by simp) (by simp)

/-- The count of the event, if it has one, is a number of 64 bits. -/
def SessionEvent.InRange : SessionEvent → Prop
  | prepared n | exhausted n => InWord n
  | cleanedUp | invariantViolated _ => True

theorem SessionEvent.InRange.decode?_encode {e : SessionEvent} (h : e.InRange) (d : Dialect) :
    decode? d (encode e) = some e := by
  cases e with
  | prepared n =>
    have hn : InWord n := h
    refine read_tagged (by simp [Untagged]) (read_record ?_)
    exact read_count rfl hn rfl
  | cleanedUp => exact read_tagged (by simp [Untagged]) (read_record rfl)
  | exhausted n =>
    have hn : InWord n := h
    refine read_tagged (by simp [Untagged]) (read_record ?_)
    exact read_count rfl hn rfl
  | invariantViolated p =>
    refine read_tagged (by simp [Untagged]) (read_record ?_)
    exact read_field rfl rfl

theorem SessionEvent.inRange_of_decode? {d : Dialect} {j : Json} {e : SessionEvent}
    (h : decode? d j = some e) : e.InRange := by
  simp only [decode?, Option.bind_eq_bind, Option.bind_eq_some_iff] at h
  obtain ⟨⟨name, body⟩, -, h⟩ := h
  split at h <;> try simp only [Option.bind_eq_some_iff] at h
  · obtain ⟨r, -, n, hn, h⟩ := h
    obtain rfl := Option.some.inj h
    exact inWord_of_required hn
  · obtain ⟨r, -, h⟩ := h
    obtain rfl := Option.some.inj h
    exact trivial
  · obtain ⟨r, -, n, hn, h⟩ := h
    obtain rfl := Option.some.inj h
    exact inWord_of_required hn
  · obtain ⟨r, -, p, -, h⟩ := h
    obtain rfl := Option.some.inj h
    exact trivial
  · cases h

instance : WritesPlain SessionEvent where
  plain_encode e := by
    cases e <;> exact plain_tagged (by simp [Untagged]) (by simp) (by simp)

/-- The count of the event, if it has one, is a number of 64 bits. -/
def PackageEvent.InRange : PackageEvent → Prop
  | processing _ _ n | commandsGenerated _ n => InWord n
  | compiled _ | skipped _ _ | failed _ _ => True

theorem PackageEvent.InRange.decode?_encode {e : PackageEvent} (h : e.InRange) (d : Dialect) :
    decode? d (encode e) = some e := by
  cases e with
  | processing p mode n =>
    have hn : InWord n := h
    refine read_tagged (by simp [Untagged]) (read_record ?_)
    exact read_field rfl <| read_field rfl <| read_count rfl hn rfl
  | commandsGenerated p n =>
    have hn : InWord n := h
    refine read_tagged (by simp [Untagged]) (read_record ?_)
    exact read_field rfl <| read_count rfl hn rfl
  | compiled p =>
    refine read_tagged (by simp [Untagged]) (read_record ?_)
    exact read_field rfl rfl
  | skipped p reason =>
    refine read_tagged (by simp [Untagged]) (read_record ?_)
    exact read_field rfl <| read_field rfl rfl
  | failed p failure =>
    refine read_tagged (by simp [Untagged]) (read_record ?_)
    exact read_field rfl <| read_field rfl rfl

theorem PackageEvent.inRange_of_decode? {d : Dialect} {j : Json} {e : PackageEvent}
    (h : decode? d j = some e) : e.InRange := by
  simp only [decode?, Option.bind_eq_bind, Option.bind_eq_some_iff] at h
  obtain ⟨⟨name, body⟩, -, h⟩ := h
  split at h <;> try simp only [Option.bind_eq_some_iff] at h
  · obtain ⟨r, -, p, -, mode, -, n, hn, h⟩ := h
    obtain rfl := Option.some.inj h
    exact inWord_of_required hn
  · obtain ⟨r, -, p, -, n, hn, h⟩ := h
    obtain rfl := Option.some.inj h
    exact inWord_of_required hn
  · obtain ⟨r, -, p, -, h⟩ := h
    obtain rfl := Option.some.inj h
    exact trivial
  · obtain ⟨r, -, p, -, reason, -, h⟩ := h
    obtain rfl := Option.some.inj h
    exact trivial
  · obtain ⟨r, -, p, -, failure, -, h⟩ := h
    obtain rfl := Option.some.inj h
    exact trivial
  · cases h

instance : WritesPlain PackageEvent where
  plain_encode e := by
    cases e <;> exact plain_tagged (by simp [Untagged]) (by simp) (by simp)

/-- The count or the report of the event, if it has one, is in range. -/
def RelocationEvent.InRange : RelocationEvent → Prop
  | started n => InWord n
  | completed report => report.InRange
  | packageSkipped _ _ | artifactMoved _ _ _ | artifactMoveFailed _ _ _ _ => True

theorem RelocationEvent.InRange.decode?_encode {e : RelocationEvent} (h : e.InRange)
    (d : Dialect) : decode? d (encode e) = some e := by
  cases e with
  | started n =>
    have hn : InWord n := h
    refine read_tagged (by simp [Untagged]) (read_record ?_)
    exact read_count rfl hn rfl
  | packageSkipped p reason =>
    refine read_tagged (by simp [Untagged]) (read_record ?_)
    exact read_field rfl <| read_field rfl rfl
  | artifactMoved p codePath isa =>
    refine read_tagged (by simp [Untagged]) (read_record ?_)
    exact read_field rfl <| read_field rfl <| read_field rfl rfl
  | artifactMoveFailed p codePath isa message =>
    refine read_tagged (by simp [Untagged]) (read_record ?_)
    exact read_field rfl <| read_field rfl <| read_field rfl <| read_field rfl rfl
  | completed report =>
    have hreport : report.InRange := h
    refine read_tagged (by simp [Untagged]) (read_record ?_)
    exact read_required rfl (hreport.decode?_encode .tagged) rfl

theorem RelocationEvent.inRange_of_decode? {d : Dialect} {j : Json} {e : RelocationEvent}
    (h : decode? d j = some e) : e.InRange := by
  simp only [decode?, Option.bind_eq_bind, Option.bind_eq_some_iff] at h
  obtain ⟨⟨name, body⟩, -, h⟩ := h
  split at h <;> try simp only [Option.bind_eq_some_iff] at h
  · obtain ⟨r, -, n, hn, h⟩ := h
    obtain rfl := Option.some.inj h
    exact inWord_of_required hn
  · obtain ⟨r, -, p, -, reason, -, h⟩ := h
    obtain rfl := Option.some.inj h
    exact trivial
  · obtain ⟨r, -, p, -, codePath, -, isa, -, h⟩ := h
    obtain rfl := Option.some.inj h
    exact trivial
  · obtain ⟨r, -, p, -, codePath, -, isa, -, message, -, h⟩ := h
    obtain rfl := Option.some.inj h
    exact trivial
  · obtain ⟨r, -, report, hreport, h⟩ := h
    obtain rfl := Option.some.inj h
    obtain ⟨j, -, hj⟩ := Option.bind_eq_some_iff.mp hreport
    exact RelocationReport.inRange_of_decode? hj
  · cases h

instance : WritesPlain RelocationEvent where
  plain_encode e := by
    cases e <;> exact plain_tagged (by simp [Untagged]) (by simp) (by simp)

namespace Event

/-- Every count in the event is a number of 64 bits. -/
def InRange : Event → Prop
  | session e => e.InRange
  | package e => e.InRange
  | relocation e => e.InRange

theorem InRange.decode?_encode {e : Event} (h : e.InRange) (d : Dialect) :
    decode? d (encode e) = some e := by
  cases e with
  | session e =>
    have he : decode? d (encode e) = some e := SessionEvent.InRange.decode?_encode h d
    refine read_record ?_
    show (decode? d (encode e)).map session = _
    rw [he]
    rfl
  | package e =>
    have he : decode? d (encode e) = some e := PackageEvent.InRange.decode?_encode h d
    refine read_record ?_
    show (decode? d (encode e)).map package = _
    rw [he]
    rfl
  | relocation e =>
    have he : decode? d (encode e) = some e := RelocationEvent.InRange.decode?_encode h d
    refine read_record ?_
    show (decode? d (encode e)).map relocation = _
    rw [he]
    rfl

theorem inRange_of_decode? {d : Dialect} {j : Json} {e : Event} (h : decode? d j = some e) :
    e.InRange := by
  simp only [decode?, Option.bind_eq_bind, Option.bind_eq_some_iff] at h
  obtain ⟨r, -, domain, -, h⟩ := h
  cases domain with
  | session =>
    obtain ⟨e, he, rfl⟩ := Option.map_eq_some_iff.mp h
    obtain ⟨j, -, hj⟩ := Option.bind_eq_some_iff.mp he
    exact SessionEvent.inRange_of_decode? hj
  | package =>
    obtain ⟨e, he, rfl⟩ := Option.map_eq_some_iff.mp h
    obtain ⟨j, -, hj⟩ := Option.bind_eq_some_iff.mp he
    exact PackageEvent.inRange_of_decode? hj
  | relocation =>
    obtain ⟨e, he, rfl⟩ := Option.map_eq_some_iff.mp h
    obtain ⟨j, -, hj⟩ := Option.bind_eq_some_iff.mp he
    exact RelocationEvent.inRange_of_decode? hj

instance : WritesPlain Event where
  plain_encode e := by
    refine .obj (by simp) ?_
    cases e <;> simp

end Event

/-! ## Everything -/

/-- What is restored of a type, from a value and from its text, is exactly what is in its range, and
whatever was read is restored. -/
structure Restores (α : Type) [Encode α] [Decode α] (InRange : α → Prop) : Prop where
  restored_iff (a : α) : decode? .json (encode a) = some a ↔ InRange a
  restored_from_text_iff (a : α) :
    (Json.read? (encode a).compact).bind (decode? .json) = some a ↔ InRange a
  stable (j : Json) (a : α) : decode? .json j = some a →
    decode? .json (encode a) = some a ∧
      (Json.read? (encode a).compact).bind (decode? .json) = some a

theorem restores {α : Type} [Encode α] [Decode α] [WritesPlain α] {InRange : α → Prop}
    (hrange : ∀ a, InRange a → decode? .json (encode a) = some a)
    (hread : ∀ j a, decode? .json j = some a → InRange a) : Restores α InRange where
  restored_iff a := ⟨hread (encode a) a, hrange a⟩
  restored_from_text_iff a := by
    rw [read?_compact_encode]
    exact ⟨hread (encode a) a, hrange a⟩
  stable j a h := by
    have hrestored := hrange a (hread j a h)
    rw [read?_compact_encode]
    exact ⟨hrestored, hrestored⟩

theorem restores_of_lossless {α : Type} [Encode α] [Decode α] [Lossless α] [WritesPlain α] :
    Restores α fun _ => True :=
  restores (fun a _ => decode?_encode .json a) fun _ _ _ => trivial

/-- **Data in JSON.**  Every package, every invocation and every advice is read back as it was
written, from the value as well as from its text, and so is every report and every event whose
counts are numbers of 64 bits.  Whatever is read of these types, with what was left out filled in
and what is not known passed over, is read back so from then on.  A code or a hint is written
exactly if there is one. -/
theorem data_restored :
    Restores Package (fun _ => True) ∧ Restores Invocation (fun _ => True) ∧
    Restores Advice (fun _ => True) ∧ Restores RelocationReport RelocationReport.InRange ∧
    Restores Event Event.InRange ∧
    ∀ a : Advice, (encode a).member? "code" = a.code.map encode ∧
      (encode a).member? "hint" = a.hint.map encode := by
  refine ⟨restores_of_lossless, restores_of_lossless, restores_of_lossless, ?_, ?_,
    Advice.member?_encode⟩
  · exact restores (fun _ h => h.decode?_encode .json)
      fun _ _ h => RelocationReport.inRange_of_decode? h
  · exact restores (fun _ h => h.decode?_encode .json) fun _ _ h => Event.inRange_of_decode? h

/-- What is left out has its default, and what is not known is passed over. -/
example : (decode? .json (.obj [("icon", .null), ("name", .str "mail")]) : Option Package) =
    some { name := "mail" } := rfl

end OtaCompile
