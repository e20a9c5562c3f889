import DevSys.Lib.Champion
import DevSys.Ota.FirmwareFiles
import Mathlib.Data.List.MinMax
import Mathlib.Data.Prod.Lex
/-!
# The latest firmware

The handler keeps the best file so far. A file without a version gives way to
those with one, except that it displaces a version below 1.0.0 when it is newer
and comes later in the directory.
-/
open Cxx Champion

namespace DevSys.FirmwareFiles

/-! ## What is latest -/

/-- The files that the loop looks at. -/
def firmware (e : Entry) : Bool := e.is_regular && e.stat.isSome

/-- The version in a file name, or 0.0.0. -/
def version_of (fname : Str) : Int32 × Int32 × Int32 := match parse_version fname with
  | .ok v => v
  | .error _ => (0, 0, 0)

/-- A version for comparison: by major, then minor, then patch. -/
def semver (v : Int32 × Int32 × Int32) : ℤ ×ₗ ℤ ×ₗ ℤ := toLex (v.1.toInt, toLex (v.2.1.toInt, v.2.2.toInt))

def version (e : Entry) : ℤ ×ₗ ℤ ×ₗ ℤ := semver (version_of e.name)

def Versioned (e : Entry) : Prop := version e ≠ semver (0, 0, 0)

instance (e : Entry) : Decidable (Versioned e) := inferInstanceAs (Decidable (_ ≠ _))

def mtime (e : Entry) : Int := (e.stat.getD (0, 0)).1

/-- The files with the highest version, or all if none has a version, and of these the newest. -/
structure Latest (files : List Entry) (e : Entry) : Prop where
  mem : e ∈ files
  versioned : (∃ f ∈ files, Versioned f) → Versioned e ∧
    ∀ f ∈ files, Versioned f → version f < version e ∨ (version f = version e ∧ mtime f ≤ mtime e)
  unversioned : (¬∃ f ∈ files, Versioned f) → ∀ f ∈ files, mtime f ≤ mtime e

/-- The firmware files of a product: there are some, their times are positive
and different, and their versions fit into an `int`. -/
structure FirmwareDir (entries : List Entry) : Prop where
  nonempty : entries.filter firmware ≠ []
  positive : ∀ e ∈ entries.filter firmware, 0 < mtime e
  distinct : ((entries.filter firmware).map mtime).Nodup
  readable : ∀ e ∈ entries.filter firmware, VersionReadable e.name

/-- Versions in order, and times within a version. -/
def rank (e : Entry) : (ℤ ×ₗ ℤ ×ₗ ℤ) ×ₗ ℤ := toLex (version e, mtime e)

/-! ## The numbers of a version -/

theorem stoi_nonneg {s : Str} (hs : ∀ c ∈ s, c.isDigit) {n : Int32} (h : stoi s = .ok n) : 0 ≤ n.toInt := by
  unfold stoi at h
  cases hn : strtol s with
  | error e =>
    rw [hn] at h
    cases h
  | ok m =>
    rw [hn] at h
    have hm : 0 ≤ m := by
      by_cases hne : s = []
      · rw [hne] at hn
        cases hn
      · rw [strtol_digits hne hs] at hn
        cases hn
        exact Int.natCast_nonneg _
    simp only [Bind.bind, Except.bind] at h
    by_cases hrange : -2 ^ 31 ≤ m ∧ m < 2 ^ 31
    · rw [if_pos hrange] at h
      cases h
      rw [Int32.toInt_ofInt_of_le (by omega) (by omega)]
      exact hm
    · rw [if_neg hrange] at h
      cases h

theorem digits_dot_digits {s a rest : Str} (h : digits_dot s = some (a, rest)) : ∀ c ∈ a, c.isDigit := by
  unfold digits_dot at h
  split at h
  · rename_i c ds _ htake _
    cases h
    rw [← htake]
    exact fun d hd => List.mem_takeWhile_imp hd
  · cases h

theorem version_prefix_digits {s major minor patch : Str} (h : version_prefix s = some (major, minor, patch)) :
    (∀ c ∈ major, c.isDigit) ∧ (∀ c ∈ minor, c.isDigit) ∧ ∀ c ∈ patch, c.isDigit := by
  unfold version_prefix at h
  obtain ⟨⟨a, s₁⟩, ha, h⟩ := Option.bind_eq_some_iff.1 h
  obtain ⟨⟨b, s₂⟩, hb, h⟩ := Option.bind_eq_some_iff.1 h
  dsimp only at h
  split at h
  · cases h
  · rename_i c ds htake
    cases h
    refine ⟨digits_dot_digits ha, digits_dot_digits hb, ?_⟩
    rw [← htake]
    exact fun d hd => List.mem_takeWhile_imp hd

theorem version_search_digits {fname major minor patch : Str} (h : version_search fname = some (major, minor, patch)) :
    (∀ c ∈ major, c.isDigit) ∧ (∀ c ∈ minor, c.isDigit) ∧ ∀ c ∈ patch, c.isDigit := by
  obtain ⟨s, -, hs⟩ := List.exists_of_findSome?_eq_some h
  exact version_prefix_digits hs

theorem version_of_nonneg (fname : Str) :
    0 ≤ (version_of fname).1.toInt ∧ 0 ≤ (version_of fname).2.1.toInt ∧ 0 ≤ (version_of fname).2.2.toInt := by
  unfold version_of parse_version
  cases hsearch : version_search fname with
  | none => exact ⟨Int.le_refl 0, Int.le_refl 0, Int.le_refl 0⟩
  | some groups =>
    obtain ⟨major, minor, patch⟩ := groups
    obtain ⟨hmajor, hminor, hpatch⟩ := version_search_digits hsearch
    dsimp only
    cases hmaj : stoi major with
    | error e => exact ⟨Int.le_refl 0, Int.le_refl 0, Int.le_refl 0⟩
    | ok maj =>
      cases hmin : stoi minor with
      | error e => exact ⟨Int.le_refl 0, Int.le_refl 0, Int.le_refl 0⟩
      | ok min =>
        cases hpat : stoi patch with
        | error e => exact ⟨Int.le_refl 0, Int.le_refl 0, Int.le_refl 0⟩
        | ok pat => exact ⟨stoi_nonneg hmajor hmaj, stoi_nonneg hminor hmin, stoi_nonneg hpatch hpat⟩

/-! ## One comparison -/

/-- The record of a file, or that of none. -/
def found : Option Entry → Best
  | none => {}
  | some e =>
    { file := e.name
      major := (version_of e.name).1
      minor := (version_of e.name).2.1
      patch := (version_of e.name).2.2
      mtime := mtime e
      size := (e.stat.getD (0, 0)).2 }

def beats (e : Entry) (best : Option Entry) : Bool :=
  is_newer (version_of e.name).1 (version_of e.name).2.1 (version_of e.name).2.2 (mtime e) (found best)

/-- One turn of the loop is a challenge, if it is about a firmware file. -/
theorem consider_eq {e : Entry} (hread : firmware e = true → VersionReadable e.name) (best : Option Entry) :
    consider (found best) e = .ok (found (if firmware e then challenge beats best e else best)) := by
  unfold consider
  by_cases hreg : e.is_regular = true
  · rw [if_neg (not_not.2 hreg)]
    cases hstat : e.stat with
    | none =>
      have hno : firmware e = false := by rw [firmware, hreg, hstat]; rfl
      rw [hno]
      rfl
    | some st =>
      have hyes : firmware e = true := by rw [firmware, hreg, hstat]; rfl
      obtain ⟨v, hv⟩ := (parse_version_returns_iff e.name).2 (hread hyes)
      have hversion : version_of e.name = v := by rw [version_of, hv]
      have htime : mtime e = st.1 := by rw [mtime, hstat]; rfl
      have hbeats : beats e best = is_newer v.1 v.2.1 v.2.2 st.1 (found best) := by
        rw [beats, hversion, htime]
      rw [if_pos hyes, challenge, hbeats]
      dsimp only
      rw [hv]
      simp only [Bind.bind, Except.bind]
      split
      · rw [found, hversion, htime, hstat]
        rfl
      · rfl
  · have hno : firmware e = false := by
      rw [firmware, Bool.eq_false_iff.2 hreg]
      rfl
    rw [if_pos hreg, hno]
    rfl

/-- The loop keeps the champion of the files. -/
theorem select_latest_eq {entries : List Entry} (hread : ∀ e ∈ entries.filter firmware, VersionReadable e.name) :
    select_latest entries = .ok (found (champion beats (entries.filter firmware))) := by
  suffices hall : ∀ best : Option Entry, entries.foldlM consider (found best) =
      .ok (found ((entries.filter firmware).foldl (challenge beats) best)) from hall none
  induction entries with
  | nil => exact fun best => rfl
  | cons e entries ih =>
    intro best
    have hrest : ∀ f ∈ entries.filter firmware, VersionReadable f.name := by
      intro f hf
      apply hread f
      rw [List.filter_cons]
      split
      · exact List.mem_cons_of_mem e hf
      · exact hf
    have hturn := consider_eq (e := e) (fun hf => hread e (List.mem_filter.2 ⟨List.mem_cons_self, hf⟩)) best
    rw [List.foldlM_cons, hturn]
    simp only [Bind.bind, Except.bind]
    rw [ih hrest, List.filter_cons]
    split <;> rfl

theorem versioned_iff (e : Entry) :
    Versioned e ↔ (version_of e.name).1 > 0 ∨ (version_of e.name).2.1 > 0 ∨ (version_of e.name).2.2 > 0 := by
  obtain ⟨hmaj, hmin, hpat⟩ := version_of_nonneg e.name
  simp only [Versioned, version, semver, ne_eq, toLex_inj, Prod.mk.injEq, gt_iff_lt, Int32.lt_iff_toInt_lt,
    show Int32.toInt 0 = 0 from rfl]
  omega

/-- Comparing versions number by number. -/
theorem semver_lt_iff (v w : Int32 × Int32 × Int32) :
    semver v < semver w ↔ v.1 < w.1 ∨ (v.1 = w.1 ∧ (v.2.1 < w.2.1 ∨ (v.2.1 = w.2.1 ∧ v.2.2 < w.2.2))) := by
  simp only [semver, Prod.Lex.toLex_lt_toLex, Int32.lt_iff_toInt_lt, Int32.toInt_inj]

theorem semver_inj (v w : Int32 × Int32 × Int32) :
    semver v = semver w ↔ v.1 = w.1 ∧ v.2.1 = w.2.1 ∧ v.2.2 = w.2.2 := by
  simp only [semver, toLex_inj, Prod.mk.injEq, Int32.toInt_inj]

theorem beats_none {e : Entry} (hpos : 0 < mtime e) : beats e none = true := by
  have hmaj := (version_of_nonneg e.name).1
  have hmajor : (version_of e.name).1 > -1 := by
    rw [gt_iff_lt, Int32.lt_iff_toInt_lt]
    exact Int.lt_of_lt_of_le (by decide) hmaj
  unfold beats is_newer
  split
  · exact if_pos hmajor
  · rw [if_pos (by decide)]
    simpa [found] using hpos

theorem beats_iff (e f : Entry) : beats e (some f) = true ↔
    if Versioned e then version f < version e ∨ (version f = version e ∧ mtime f < mtime e)
    else (version_of f.name).1.toInt < 1 ∧ mtime f < mtime e := by
  unfold beats is_newer
  simp only [← versioned_iff, found]
  by_cases he : Versioned e
  · rw [if_pos he, if_pos he, version, version, semver_lt_iff, semver_inj]
    grind
  · rw [if_neg he, if_neg he]
    have hone : (version_of f.name).1 < 1 ↔ (version_of f.name).1.toInt < 1 := Int32.lt_iff_toInt_lt
    rw [← hone]
    simp

/-! ## Any order -/

theorem rank_lt_iff (e f : Entry) :
    rank f < rank e ↔ version f < version e ∨ (version f = version e ∧ mtime f < mtime e) := by
  rw [rank, rank, Prod.Lex.toLex_lt_toLex]

theorem Versioned.version_lt {e f : Entry} (he : Versioned e) (hf : ¬ Versioned f) : version f < version e := by
  rw [Versioned, not_not] at hf
  rw [hf, version, semver_lt_iff]
  have hnum := (versioned_iff e).1 he
  have hnonneg := version_of_nonneg e.name
  simp only [gt_iff_lt, Int32.lt_iff_toInt_lt, ← Int32.toInt_inj, show Int32.toInt 0 = 0 from rfl] at hnum ⊢
  omega

/-- The file of the highest rank is the latest. -/
theorem latest_of_rank {files : List Entry} {e : Entry} (he : e ∈ files) (hmax : ∀ f ∈ files, rank f ≤ rank e) :
    Latest files e := by
  have hle (f : Entry) (hf : f ∈ files) : version f < version e ∨ (version f = version e ∧ mtime f ≤ mtime e) := by
    simpa only [rank, Prod.Lex.toLex_le_toLex] using hmax f hf
  refine ⟨he, ?_, ?_⟩
  · rintro ⟨g, hg, hgv⟩
    refine ⟨?_, fun f hf _ => hle f hf⟩
    by_contra hev
    have hlt := hgv.version_lt hev
    rcases hle g hg with hgt | ⟨heq, -⟩
    · exact absurd (hlt.trans hgt) (lt_irrefl _)
    · exact absurd hlt (by rw [heq]; exact lt_irrefl _)
  · intro hnone f hf
    have hev : version e = version f := by
      have hfv : ¬ Versioned f := fun h => hnone ⟨f, hf, h⟩
      have hev : ¬ Versioned e := fun h => hnone ⟨e, he, h⟩
      rw [Versioned, not_not] at hfv hev
      rw [hfv, hev]
    rcases hle f hf with hlt | ⟨-, ht⟩
    · exact absurd hlt (by rw [hev]; exact lt_irrefl _)
    · exact ht

/-- The latest file is of a higher rank than all others. -/
theorem Latest.rank_lt {entries : List Entry} (h : FirmwareDir entries) {e : Entry}
    (he : Latest (entries.filter firmware) e) {f : Entry} (hf : f ∈ entries.filter firmware) (hne : f ≠ e) :
    rank f < rank e := by
  have htime : mtime f ≠ mtime e := fun heq => hne (List.inj_on_of_nodup_map h.distinct hf he.mem heq)
  rw [rank_lt_iff]
  by_cases hv : ∃ g ∈ entries.filter firmware, Versioned g
  · obtain ⟨hev, hmax⟩ := he.versioned hv
    by_cases hfv : Versioned f
    · rcases hmax f hf hfv with hlt | ⟨heq, hle⟩
      · exact .inl hlt
      · exact .inr ⟨heq, lt_of_le_of_ne hle htime⟩
    · exact .inl (hev.version_lt hfv)
  · have hfv : ¬ Versioned f := fun hf' => hv ⟨f, hf, hf'⟩
    have hev : ¬ Versioned e := fun he' => hv ⟨e, he.mem, he'⟩
    rw [Versioned, not_not] at hfv hev
    exact .inr ⟨hfv.trans hev.symm, lt_of_le_of_ne (he.unversioned hv f hf) htime⟩

theorem exists_latest {entries : List Entry} (h : FirmwareDir entries) : ∃ e, Latest (entries.filter firmware) e := by
  cases hmax : (entries.filter firmware).argmax rank with
  | none => exact absurd (List.argmax_eq_none.1 hmax) h.nonempty
  | some e => exact ⟨e, latest_of_rank (List.argmax_mem hmax) fun f hf => List.le_of_mem_argmax hf hmax⟩

/-- Files are told apart by their times. -/
theorem found_inj {entries : List Entry} (h : FirmwareDir entries) {e : Entry} (he : e ∈ entries.filter firmware)
    {best : Option Entry} (hbest : ∀ f, best = some f → f ∈ entries.filter firmware)
    (heq : found best = found (some e)) : best = some e := by
  have htime : (found best).mtime = mtime e := congrArg Best.mtime heq
  cases best with
  | none =>
    have hpos := h.positive e he
    rw [← htime] at hpos
    exact absurd hpos (by decide)
  | some f => rw [List.inj_on_of_nodup_map h.distinct (hbest f rfl) he htime]

/-- The order of the directory is an order of its firmware files. -/
theorem select_latest_perm_iff {entries : List Entry} (h : FirmwareDir entries) {e : Entry}
    (he : e ∈ entries.filter firmware) : (∀ l, l.Perm entries → select_latest l = .ok (found (some e))) ↔
      ∀ l, l.Perm (entries.filter firmware) → champion beats l = some e := by
  have hread (l : List Entry) (hl : l.Perm entries) : ∀ f ∈ l.filter firmware, VersionReadable f.name :=
    fun f hf => h.readable f ((hl.filter firmware).mem_iff.1 hf)
  constructor
  · intro hall l hl
    -- the other entries come last
    have hperm : (l ++ entries.filter (!firmware ·)).Perm entries :=
      (hl.append_right _).trans (List.filter_append_perm firmware entries)
    have hfiles : (l ++ entries.filter (!firmware ·)).filter firmware = l := by
      have hkept : l.filter firmware = l :=
        List.filter_eq_self.2 fun f hf => (List.mem_filter.1 (hl.mem_iff.1 hf)).2
      rw [List.filter_append, hkept, List.filter_filter]
      simp
    have hsel := select_latest_eq (hread _ hperm)
    rw [hfiles, hall _ hperm] at hsel
    exact found_inj h he (fun f hf => hl.mem_iff.1 (champion_mem hf)) (Except.ok.inj hsel).symm
  · intro hall l hl
    rw [select_latest_eq (hread l hl), hall _ (hl.filter firmware)]

/-- The handler finds the latest file in every order of the directory exactly
when its version is at least 1.0.0 or no file without a version is newer. -/
theorem latest_iff {entries : List Entry} (h : FirmwareDir entries) : ∃ e, Latest (entries.filter firmware) e ∧
    (∀ f, Latest (entries.filter firmware) f → f = e) ∧
      ((∀ l, l.Perm entries → select_latest l = .ok (found (some e))) ↔
        1 ≤ (version_of e.name).1.toInt ∨
          ∀ f ∈ entries.filter firmware, ¬ Versioned f → mtime f ≤ mtime e) := by
  obtain ⟨e, he⟩ := exists_latest h
  refine ⟨e, he, fun f hf => ?_, ?_⟩
  · by_contra hne
    exact absurd ((he.rank_lt h hf.mem hne).trans (hf.rank_lt h he.mem (Ne.symm hne))) (lt_irrefl _)
  -- the latest file is taken wherever it comes
  have hwin : ∀ f ∈ entries.filter firmware, f ≠ e → beats e (some f) = true := by
    intro f hf hne
    have hlt := (rank_lt_iff e f).1 (he.rank_lt h hf hne)
    rw [beats_iff]
    by_cases hev : Versioned e
    · rwa [if_pos hev]
    · have hfv : ¬ Versioned f := fun hfv => hev (he.versioned ⟨f, hf, hfv⟩).1
      rw [Versioned, not_not] at hev hfv
      have hmajor : (version_of f.name).1 = 0 := ((semver_inj _ _).1 hfv).1
      rw [if_neg (by rw [Versioned, not_not]; exact hev), hmajor]
      rcases hlt with hlt | ⟨-, hlt⟩
      · exact absurd hlt (by rw [hev, hfv]; exact lt_irrefl _)
      · exact ⟨by decide, hlt⟩
  rw [select_latest_perm_iff h he.mem, champion_perm_iff (beats_none (h.positive e he.mem)) hwin he.mem]
  -- but an unversioned file behind it may take its place
  have hbeats (f : Entry) (hf : f ∈ entries.filter firmware) (hne : f ≠ e) : beats f (some e) = false ↔
      (¬ Versioned f → 1 ≤ (version_of e.name).1.toInt ∨ mtime f ≤ mtime e) := by
    have hlt := he.rank_lt h hf hne
    rw [← Bool.not_eq_true, beats_iff]
    by_cases hfv : Versioned f
    · rw [if_pos hfv, ← rank_lt_iff]
      exact iff_of_true (lt_asymm hlt) fun hno => absurd hfv hno
    · rw [if_neg hfv, imp_iff_right hfv, not_and_or, not_lt, not_lt]
  constructor
  · intro hall
    by_cases hmajor : 1 ≤ (version_of e.name).1.toInt
    · exact .inl hmajor
    · refine .inr fun f hf hfv => ?_
      by_cases hne : f = e
      · rw [hne]
      · exact ((hbeats f hf hne).1 (hall f hf hne) hfv).resolve_left hmajor
  · rintro hcond f hf hne
    rw [hbeats f hf hne]
    exact fun hfv => hcond.imp_right fun hall => hall f hf hfv

/-- A version below 1.0.0 and a newer file without one. -/
def early : List Entry :=
  [{ name := "v0.9.0".toList, stat := some (100, 10) }, { name := "beta".toList, stat := some (200, 10) }]

/-- The same with a version of 1.0.0. -/
def released : List Entry :=
  [{ name := "v1.0.0".toList, stat := some (100, 10) }, { name := "beta".toList, stat := some (200, 10) }]

theorem readable_of_isOk {fname : Str} (h : (parse_version fname).isOk = true) : VersionReadable fname := by
  rw [← parse_version_returns_iff]
  cases hv : parse_version fname with
  | error e =>
    rw [hv] at h
    cases h
  | ok v => exact ⟨v, rfl⟩

theorem latest_released : ∃ e, Latest (released.filter firmware) e ∧
    ∀ l, l.Perm released → select_latest l = .ok (found (some e)) := by
  have hok : ∀ e ∈ released.filter firmware, (parse_version e.name).isOk = true := by decide
  have hdir : FirmwareDir released := ⟨by decide, by decide, by decide, fun e he => readable_of_isOk (hok e he)⟩
  obtain ⟨e, he, -, hiff⟩ := latest_iff hdir
  have hversioned : Versioned e := (he.versioned (by decide)).1
  have hmajor : ∀ f ∈ released.filter firmware, Versioned f → 1 ≤ (version_of f.name).1.toInt := by decide
  exact ⟨e, he, hiff.2 (.inl (hmajor e he.mem hversioned))⟩

theorem latest_fails : ¬∀ entries : List Entry, FirmwareDir entries → ∃ e, Latest (entries.filter firmware) e ∧
    ∀ l, l.Perm entries → select_latest l = .ok (found (some e)) := by
  intro h
  have hok : ∀ e ∈ early.filter firmware, (parse_version e.name).isOk = true := by decide
  have hdir : FirmwareDir early := ⟨by decide, by decide, by decide, fun e he => readable_of_isOk (hok e he)⟩
  obtain ⟨e, -, hall⟩ := h early hdir
  have hfirst := hall early (List.Perm.refl _)
  have hlast := hall early.reverse (List.reverse_perm _)
  rw [← hlast] at hfirst
  exact absurd hfirst (by decide)

end DevSys.FirmwareFiles
