import Mathlib.Data.List.TakeWhile
import Mathlib.Tactic.NormNum
import OtaCompile.Host.Device
import OtaCompile.Proofs.Coordinator.Visit

/-!
# Free space in exact numbers

The sizes of a volume and the limit below which it is low are words, and are computed with words.
Here they are numbers without bound, cut off where a word is full (`VolumeSize.total`,
`VolumeSize.free`, `SpaceLimit.exact`); the words are the same numbers, since no step of the
computation leaves the range it is made in.  So a check for space on a host decides what the exact
numbers decide (`check_exact`).
-/

namespace OtaCompile

namespace Host

/-! ## Sizes -/

theorem toNat_saturatingMul (a b : UInt64) :
    (saturatingMul a b).toNat = min (a.toNat * b.toNat) (2 ^ 64 - 1) := by
  have hlt : min (a.toNat * b.toNat) largestWord < 2 ^ 64 := by
    have hle := Nat.min_le_right (a.toNat * b.toNat) largestWord
    have hlargest : largestWord < 2 ^ 64 := by decide
    omega
  rw [saturatingMul, UInt64.toNat_ofNat', Nat.mod_eq_of_lt hlt]
  rfl

/-- A share of `total` in hundredths, in a word of 128 bits. -/
def wideShare (total : UInt64) (percent : UInt8) : BitVec 128 :=
  total.toBitVec.setWidth 128 * percent.toBitVec.setWidth 128

/-- It fits also where it is more than the whole of `total`. -/
theorem toNat_wideShare (total : UInt64) (percent : UInt8) :
    (wideShare total percent).toNat = total.toNat * percent.toNat := by
  have htotal : total.toNat ≤ 2 ^ 64 - 1 := Nat.le_sub_one_of_lt total.toNat_lt
  have hpercent : percent.toNat ≤ 2 ^ 8 - 1 := Nat.le_sub_one_of_lt percent.toNat_lt
  have hlt : total.toNat * percent.toNat < 2 ^ 128 :=
    calc total.toNat * percent.toNat
        ≤ (2 ^ 64 - 1) * (2 ^ 8 - 1) := Nat.mul_le_mul htotal hpercent
      _ < 2 ^ 128 := by norm_num
  have htotal' : total.toNat < 2 ^ 128 := by omega
  have hpercent' : percent.toNat < 2 ^ 128 := by omega
  simp only [wideShare, BitVec.toNat_mul, BitVec.toNat_setWidth, UInt64.toNat_toBitVec,
    UInt8.toNat_toBitVec]
  rw [Nat.mod_eq_of_lt htotal', Nat.mod_eq_of_lt hpercent', Nat.mod_eq_of_lt hlt]

/-- A wide word cut back to a word, which is full where it does not fit. -/
def narrow (w : BitVec 128) : UInt64 :=
  if w < BitVec.ofNat 128 UInt64.size then .ofBitVec (w.setWidth 64) else .ofNat largestWord

theorem toNat_narrow (w : BitVec 128) : (narrow w).toNat = min w.toNat (2 ^ 64 - 1) := by
  unfold narrow
  by_cases hw : w.toNat < 2 ^ 64
  · have hlt : w < BitVec.ofNat 128 UInt64.size := hw
    rw [if_pos hlt, UInt64.toNat_ofBitVec, BitVec.toNat_setWidth, Nat.mod_eq_of_lt hw]
    omega
  · have hle : ¬ w < BitVec.ofNat 128 UInt64.size := hw
    have hlargest : (UInt64.ofNat largestWord).toNat = 2 ^ 64 - 1 := by decide
    rw [if_neg hle]
    omega

theorem toNat_lowSpaceBytes (total : UInt64) (percent : UInt8) (cap : UInt64) :
    (lowSpaceBytes total percent cap).toNat =
      min (total.toNat * percent.toNat / 100) cap.toNat := by
  have hlt : min (total.toNat * percent.toNat / 100) cap.toNat < 2 ^ 64 := by
    have hle := Nat.min_le_right (total.toNat * percent.toNat / 100) cap.toNat
    have hcap := cap.toNat_lt
    omega
  rw [lowSpaceBytes, UInt64.toNat_ofNat', Nat.mod_eq_of_lt hlt]

/-- The limit is the one that is computed in a wide word and then cut back. -/
theorem lowSpaceBytes_eq_narrow (total : UInt64) (percent : UInt8) (cap : UInt64) :
    lowSpaceBytes total percent cap = min (narrow (wideShare total percent / 100)) cap := by
  have hcap := cap.toNat_lt
  have hshare : (wideShare total percent / 100).toNat = total.toNat * percent.toNat / 100 := by
    rw [BitVec.toNat_udiv, toNat_wideShare]
    rfl
  rw [← UInt64.toNat_inj, toNat_lowSpaceBytes, UInt64.toNat_min, toNat_narrow, hshare]
  omega

/-- The share of a tiny volume is nothing, and more than the whole of a large one is cut back. -/
example : lowSpaceBytes 9 10 500 = 0 ∧
    lowSpaceBytes (.ofNat largestWord) 255 (.ofNat largestWord) = .ofNat largestWord := by
  decide

namespace VolumeSize

/-- All bytes of a volume, as far as a word can hold them. -/
def total (v : VolumeSize) : Nat := min (v.blocks.toNat * v.fragment.toNat) (2 ^ 64 - 1)

/-- The free ones. -/
def free (v : VolumeSize) : Nat := min (v.available.toNat * v.fragment.toNat) (2 ^ 64 - 1)

theorem toNat_totalBytes (v : VolumeSize) : v.totalBytes.toNat = v.total :=
  toNat_saturatingMul v.blocks v.fragment

theorem toNat_availableBytes (v : VolumeSize) : v.availableBytes.toNat = v.free :=
  toNat_saturatingMul v.available v.fragment

end VolumeSize

/-! ## What the host answers -/

theorem nulPosition?_eq_none_iff (s : String) : nulPosition? s = none ↔ '\x00' ∉ s.toList := by
  unfold nulPosition?
  by_cases hnul : '\x00' ∈ s.toList
  · obtain ⟨before, behind, hs, hbefore⟩ := List.eq_append_cons_of_mem hnul
    have hne : ∀ c ∈ before, (c != '\x00') = true := by
      intro c hc
      refine bne_iff_ne.mpr ?_
      rintro rfl
      exact hbefore hc
    have htake : s.toList.takeWhile (· != '\x00') = before := by
      rw [hs, List.takeWhile_append_of_pos hne]
      simp
    have hlt : before.length < s.toList.length := by simp [hs]
    simp [htake, hlt, hnul]
  · have htake : s.toList.takeWhile (· != '\x00') = s.toList := by
      refine List.takeWhile_eq_self_iff.mpr fun c hc => bne_iff_ne.mpr ?_
      rintro rfl
      exact hnul hc
    simp [htake, hnul]

variable {ρ : Type} (host : (q : Request) → ρ → Reply q × ρ)

/-- The size that is had of a volume is the one the host answers, if it can be asked at all. -/
theorem run_volumeSize_eq_ok_iff (volume : Path) (y : ρ) (v : VolumeSize) :
    ((volumeSize volume).run host y).1 = .ok v ↔
      '\x00' ∉ volume.text.toList ∧ (host (.volumeSize volume) y).1 = .ok v := by
  rw [← nulPosition?_eq_none_iff]
  unfold volumeSize
  cases hnul : nulPosition? volume.text with
  | some n => exact iff_of_false nofun fun h => nomatch h.1
  | none =>
    simp only [Dialogue.question_bind, Dialogue.run_ask, true_and]
    rcases host (.volumeSize volume) y with ⟨f | size, z⟩
    · exact iff_of_false nofun nofun
    · rw [Dialogue.run_pure, Except.ok.injEq, Except.ok.injEq]

/-- What is answered about the size of a volume in a check, for the limit, which does not ask if it
is fixed, and then for the free space. -/
def sizes (l : SpaceLimit) (volume : Path) (y : ρ) :
    Except PlatformFault VolumeSize × Except PlatformFault VolumeSize :=
  let first := (volumeSize volume).run host y
  let second := (volumeSize volume).run host (if l.fixedBytes.isSome then y else first.2)
  (first.1, second.1)

/-- The limit in words. -/
def SpaceLimit.bytes (l : SpaceLimit) (size : Except PlatformFault VolumeSize) :
    Except PlatformFault UInt64 :=
  match l.fixedBytes with
  | some bytes => .ok bytes
  | none => size.map fun v => lowSpaceBytes v.totalBytes l.percent l.maxBytes

theorem run_threshold (l : SpaceLimit) (volume : Path) (y : ρ) :
    (l.threshold volume).run host y =
      (l.bytes (sizes host l volume y).1,
        if l.fixedBytes.isSome then y else ((volumeSize volume).run host y).2) := by
  unfold SpaceLimit.threshold SpaceLimit.bytes sizes
  cases l.fixedBytes with
  | some bytes => rfl
  | none =>
    simp only [Dialogue.run_bind]
    rcases (volumeSize volume).run host y with ⟨f | v, z⟩ <;> rfl

theorem run_usableSpace (volume : Path) (y : ρ) :
    (usableSpace volume).run host y =
      (((volumeSize volume).run host y).1.map VolumeSize.availableBytes,
        ((volumeSize volume).run host y).2) := by
  unfold usableSpace
  rw [Dialogue.run_bind]
  rcases (volumeSize volume).run host y with ⟨f | v, z⟩ <;> rfl

/-- What a check finds, in words. -/
def SpaceLimit.finding (l : SpaceLimit)
    (sizes : Except PlatformFault VolumeSize × Except PlatformFault VolumeSize) : Finding :=
  match l.bytes sizes.1 with
  | .error f => .unknown f
  | .ok limit =>
    if pos : 0 < limit then .measured limit (sizes.2.map VolumeSize.availableBytes) pos
    else .noThreshold

theorem run_check (parts : DeviceParts) (tell : Event → Job Unit) (g : SpaceGuard) (y : ρ) :
    ((perform parts tell g.check).run host y).1 =
      (parts.limit.finding (sizes host parts.limit g.dataDir y)).check g.dataDir := by
  rw [perform, Dialogue.run_through, SpaceGuard.check_eq, Dialogue.run_map]
  refine congrArg (Finding.check g.dataDir) ?_
  simp only [Finding.ask, Dialogue.question_bind, Dialogue.run_ask, deviceAnswer, run_threshold,
    SpaceLimit.finding]
  cases parts.limit.bytes (sizes host parts.limit g.dataDir y).1 with
  | error f => rfl
  | ok limit =>
    simp only
    split
    · simp only [Dialogue.run_ask, run_usableSpace]
      rfl
    · rfl

/-! ## Exact numbers -/

/-- The limit as a number: what is fixed, or else a share of the volume up to a cap. -/
def SpaceLimit.exact (l : SpaceLimit) (size : Except PlatformFault VolumeSize) :
    Except PlatformFault Nat :=
  match l.fixedBytes with
  | some bytes => .ok bytes.toNat
  | none => size.map fun v => min (v.total * l.percent.toNat / 100) l.maxBytes.toNat

/-- The free space as a number; if it is not known it counts as none. -/
def freeBytes : Except PlatformFault VolumeSize → Nat
  | .ok v => v.free
  | .error _ => 0

theorem SpaceLimit.exact_eq (l : SpaceLimit) (size : Except PlatformFault VolumeSize) :
    l.exact size = (l.bytes size).map UInt64.toNat := by
  unfold exact bytes
  cases l.fixedBytes with
  | some bytes => rfl
  | none =>
    cases size with
    | error f => rfl
    | ok v =>
      simp only [Except.map]
      rw [toNat_lowSpaceBytes, VolumeSize.toNat_totalBytes]

/-- Only a limit that is not fixed can fail to be had, namely where the size cannot. -/
theorem SpaceLimit.exists_exact_eq_error_iff (l : SpaceLimit)
    (size : Except PlatformFault VolumeSize) :
    (∃ f, l.exact size = .error f) ↔ l.fixedBytes = none ∧ ∃ f, size = .error f := by
  unfold exact
  cases l.fixedBytes with
  | some bytes => exact iff_of_false nofun fun h => nomatch h.1
  | none =>
    cases size with
    | error f => exact iff_of_true ⟨f, rfl⟩ ⟨rfl, f, rfl⟩
    | ok v => exact iff_of_false nofun fun h => nomatch h.2

theorem toNat_bytes_available (size : Except PlatformFault VolumeSize) :
    (Finding.bytes (size.map VolumeSize.availableBytes)).toNat = freeBytes size := by
  cases size with
  | error f => rfl
  | ok v => exact v.toNat_availableBytes

section Check

variable {l : SpaceLimit} {f : PlatformFault} {n : Nat}
  {size : Except PlatformFault VolumeSize × Except PlatformFault VolumeSize}

theorem finding_of_error (h : l.exact size.1 = .error f) : l.finding size = .unknown f := by
  rw [SpaceLimit.exact_eq] at h
  unfold SpaceLimit.finding
  cases hbytes : l.bytes size.1 with
  | error f' =>
    rw [hbytes] at h
    cases h
    rfl
  | ok limit =>
    rw [hbytes] at h
    cases h

theorem exists_bytes_of_exact {first : Except PlatformFault VolumeSize}
    (h : l.exact first = .ok n) : ∃ limit, l.bytes first = .ok limit ∧ limit.toNat = n := by
  rw [SpaceLimit.exact_eq] at h
  cases hbytes : l.bytes first with
  | error f =>
    rw [hbytes] at h
    cases h
  | ok limit =>
    rw [hbytes] at h
    exact ⟨limit, rfl, Except.ok.inj h⟩

theorem finding_of_zero (h : l.exact size.1 = .ok 0) : l.finding size = .noThreshold := by
  obtain ⟨limit, hbytes, hzero⟩ := exists_bytes_of_exact h
  have hpos : ¬ 0 < limit := by
    rw [UInt64.lt_iff_toNat_lt, hzero]
    exact Nat.lt_irrefl 0
  simp only [SpaceLimit.finding, hbytes, hpos, dite_false]

theorem finding_of_ne_zero (h : l.exact size.1 = .ok n) (hn : n ≠ 0) :
    ∃ (limit : UInt64) (pos : 0 < limit), limit.toNat = n ∧
      l.finding size = .measured limit (size.2.map VolumeSize.availableBytes) pos := by
  obtain ⟨limit, hbytes, hlimit⟩ := exists_bytes_of_exact h
  have hpos : 0 < limit := by
    rw [UInt64.lt_iff_toNat_lt, hlimit]
    exact Nat.pos_of_ne_zero hn
  refine ⟨limit, hpos, hlimit, ?_⟩
  simp only [SpaceLimit.finding, hbytes, hpos, dite_true]

/-- Behind a limit other than zero, whether a volume is low is decided by the two numbers. -/
theorem check_of_ne_zero (volume : Path) (h : l.exact size.1 = .ok n) (hn : n ≠ 0) :
    ∃ usable threshold : UInt64, usable.toNat = freeBytes size.2 ∧ threshold.toNat = n ∧
      (l.finding size).check volume =
        .ok (if freeBytes size.2 < n then .low usable threshold
          else .sufficient usable threshold) := by
  obtain ⟨threshold, pos, hthreshold, hfinding⟩ := finding_of_ne_zero h hn
  have husable := toNat_bytes_available size.2
  refine ⟨_, threshold, husable, hthreshold, ?_⟩
  rw [hfinding]
  refine congrArg Except.ok (if_congr ?_ rfl rfl)
  rw [UInt64.lt_iff_toNat_lt, husable, hthreshold]

theorem check_eq_volumeQuery_iff (volume : Path) :
    (∃ path reason, (l.finding size).check volume = .error (StorageFault.volumeQuery path reason)) ↔
      ∃ f, l.exact size.1 = .error f := by
  cases hlimit : l.exact size.1 with
  | error f =>
    rw [finding_of_error hlimit]
    exact iff_of_true ⟨_, _, rfl⟩ ⟨f, rfl⟩
  | ok n =>
    refine iff_of_false ?_ nofun
    rintro ⟨path, reason, hcheck⟩
    by_cases hn : n = 0
    · rw [finding_of_zero (hn ▸ hlimit)] at hcheck
      cases hcheck
    · obtain ⟨_, _, -, -, hok⟩ := check_of_ne_zero volume hlimit hn
      rw [hok] at hcheck
      cases hcheck

theorem check_eq_invalidThreshold_iff (volume : Path) :
    (∃ path, (l.finding size).check volume = .error (SettingsFault.invalidThreshold path)) ↔
      l.exact size.1 = .ok 0 := by
  cases hlimit : l.exact size.1 with
  | error f =>
    rw [finding_of_error hlimit]
    exact iff_of_false nofun nofun
  | ok n =>
    by_cases hn : n = 0
    · rw [finding_of_zero (hn ▸ hlimit)]
      exact iff_of_true ⟨_, rfl⟩ (congrArg _ hn)
    · obtain ⟨_, _, -, -, hok⟩ := check_of_ne_zero volume hlimit hn
      rw [hok]
      exact iff_of_false nofun fun h => hn (Except.ok.inj h)

/-- There is space exactly where the limit is a number other than zero that the free space
reaches. -/
theorem check_eq_sufficient_iff (volume : Path) (usable threshold : UInt64) :
    (l.finding size).check volume = .ok (.sufficient usable threshold) ↔
      l.exact size.1 = .ok threshold.toNat ∧ threshold.toNat ≠ 0 ∧
        usable.toNat = freeBytes size.2 ∧ threshold.toNat ≤ usable.toNat := by
  cases hlimit : l.exact size.1 with
  | error f =>
    rw [finding_of_error hlimit]
    exact iff_of_false nofun nofun
  | ok n =>
    by_cases hn : n = 0
    · rw [finding_of_zero (hn ▸ hlimit)]
      refine iff_of_false nofun ?_
      rintro ⟨hthreshold, hne, -, -⟩
      exact hne ((Except.ok.inj hthreshold).symm.trans hn)
    · obtain ⟨usable', threshold', husable, hthreshold, hok⟩ := check_of_ne_zero volume hlimit hn
      rw [hok]
      constructor
      · intro h
        by_cases hlow : freeBytes size.2 < n
        · rw [if_pos hlow] at h
          cases h
        · rw [if_neg hlow] at h
          cases h
          have hle : threshold.toNat ≤ usable.toNat := by omega
          exact ⟨congrArg _ hthreshold.symm, hthreshold ▸ hn, husable, hle⟩
      · rintro ⟨hn', -, husable', hle⟩
        have heq : n = threshold.toNat := Except.ok.inj hn'
        have hlow : ¬ freeBytes size.2 < n := by omega
        have hu : usable' = usable := UInt64.toNat_inj.mp (husable.trans husable'.symm)
        have ht : threshold' = threshold := UInt64.toNat_inj.mp (hthreshold.trans heq)
        rw [if_neg hlow, hu, ht]

end Check

/-! ## More free space -/

/-- The same volume answered with no less free space, or no answer before. -/
def Freer (a b : Except PlatformFault VolumeSize) : Prop :=
  ∀ v, a = .ok v → ∃ v', b = .ok v' ∧
    v'.blocks = v.blocks ∧ v'.fragment = v.fragment ∧ v.available ≤ v'.available

theorem Freer.exact {l : SpaceLimit} {a b : Except PlatformFault VolumeSize} {n : Nat}
    (h : Freer a b) (hn : l.exact a = .ok n) : l.exact b = .ok n := by
  unfold SpaceLimit.exact at hn ⊢
  cases hfixed : l.fixedBytes with
  | some bytes =>
    rw [hfixed] at hn
    exact hn
  | none =>
    rw [hfixed] at hn
    cases a with
    | error f => cases hn
    | ok v =>
      obtain ⟨v', rfl, hblocks, hfragment, -⟩ := h v rfl
      have htotal : v'.total = v.total := by rw [VolumeSize.total, hblocks, hfragment]; rfl
      simp only [Except.map] at hn ⊢
      rw [htotal]
      exact hn

theorem Freer.freeBytes_le {a b : Except PlatformFault VolumeSize} (h : Freer a b) :
    freeBytes a ≤ freeBytes b := by
  cases a with
  | error f => exact Nat.zero_le _
  | ok v =>
    obtain ⟨v', rfl, -, hfragment, hle⟩ := h v rfl
    have hmul : v.available.toNat * v.fragment.toNat ≤ v'.available.toNat * v'.fragment.toNat := by
      rw [hfragment]
      exact Nat.mul_le_mul_right _ (UInt64.le_iff_toNat_le.mp hle)
    simp only [freeBytes, VolumeSize.free]
    omega

theorem Freer.sufficient {l : SpaceLimit} {volume : Path} {usable threshold : UInt64}
    {size size' : Except PlatformFault VolumeSize × Except PlatformFault VolumeSize}
    (hfirst : Freer size.1 size'.1) (hsecond : Freer size.2 size'.2)
    (h : (l.finding size).check volume = .ok (.sufficient usable threshold)) :
    ∃ usable' ≥ usable, (l.finding size').check volume = .ok (.sufficient usable' threshold) := by
  obtain ⟨hlimit, hne, husable, hle⟩ := (check_eq_sufficient_iff volume usable threshold).mp h
  have hmore : freeBytes size.2 ≤ freeBytes size'.2 := hsecond.freeBytes_le
  have husable' := toNat_bytes_available size'.2
  refine ⟨Finding.bytes (size'.2.map VolumeSize.availableBytes), ?_, ?_⟩
  · rw [ge_iff_le, UInt64.le_iff_toNat_le]
    omega
  · refine (check_eq_sufficient_iff volume _ threshold).mpr ⟨hfirst.exact hlimit, hne, husable', ?_⟩
    omega

/-! ## The check -/

/-- **Exact numbers.**  A check for space on a host decides what numbers without bound decide.  The
sizes of a volume are the products of what the host answers, as far as a word holds them, and no
share of one overflows the wide word it is computed in.  A limit that cannot be had is a fault,
which names the volume, and so is a limit of zero; behind every other limit the volume is low
exactly where less is free.  With more free and nothing else changed, a volume with space keeps
it. -/
theorem check_exact (parts : DeviceParts) (tell : Event → Job Unit) (g : SpaceGuard) (y : ρ) :
    let l := parts.limit
    let size := sizes host l g.dataDir y
    let limit := l.exact size.1
    let free := freeBytes size.2
    let checked := ((perform parts tell g.check).run host y).1
    (∀ z v, ((volumeSize g.dataDir).run host z).1 = .ok v ↔
      '\x00' ∉ g.dataDir.text.toList ∧ (host (.volumeSize g.dataDir) z).1 = .ok v) ∧
    (∀ v : VolumeSize, v.totalBytes.toNat = v.total ∧ v.availableBytes.toNat = v.free) ∧
    (∀ total percent cap,
      (wideShare total percent).toNat = total.toNat * percent.toNat ∧
      lowSpaceBytes total percent cap = min (narrow (wideShare total percent / 100)) cap) ∧
    (∀ f, limit = .error f →
      checked = .error (StorageFault.volumeQuery g.dataDir.text f.message)) ∧
    (limit = .ok 0 → checked = .error (SettingsFault.invalidThreshold g.dataDir.text)) ∧
    (∀ n, limit = .ok n → n ≠ 0 →
      ∃ usable threshold : UInt64, usable.toNat = free ∧ threshold.toNat = n ∧
        checked = .ok (if free < n then .low usable threshold else .sufficient usable threshold)) ∧
    ((∃ path reason, checked = .error (StorageFault.volumeQuery path reason)) ↔
      l.fixedBytes = none ∧ ∃ f, size.1 = .error f) ∧
    ((∃ path, checked = .error (SettingsFault.invalidThreshold path)) ↔ limit = .ok 0) ∧
    ∀ {σ : Type} (host' : (q : Request) → σ → Reply q × σ) (z : σ) (usable threshold : UInt64),
      let size' := sizes host' l g.dataDir z
      Freer size.1 size'.1 → Freer size.2 size'.2 →
        checked = .ok (.sufficient usable threshold) →
          ∃ usable' ≥ usable, ((perform parts tell g.check).run host' z).1 =
            .ok (.sufficient usable' threshold) := by
  intro l size limit free checked
  have hchecked : checked = (l.finding size).check g.dataDir := run_check host parts tell g y
  rw [hchecked]
  refine ⟨fun z v => run_volumeSize_eq_ok_iff host g.dataDir z v,
    fun v => ⟨v.toNat_totalBytes, v.toNat_availableBytes⟩,
    fun total percent cap =>
      ⟨toNat_wideShare total percent, lowSpaceBytes_eq_narrow total percent cap⟩,
    ?unknown, ?zero, ?measured, ?query, check_eq_invalidThreshold_iff g.dataDir, ?freer⟩
  case unknown =>
    intro f hlimit
    rw [finding_of_error hlimit]
    rfl
  case zero =>
    intro hlimit
    rw [finding_of_zero hlimit]
    rfl
  case measured =>
    intro n hlimit hn
    exact check_of_ne_zero g.dataDir hlimit hn
  case query =>
    rw [check_eq_volumeQuery_iff, SpaceLimit.exists_exact_eq_error_iff]
  case freer =>
    intro σ host' z usable threshold size' hfirst hsecond hsufficient
    rw [run_check]
    exact hfirst.sufficient hsecond hsufficient

end Host

end OtaCompile
