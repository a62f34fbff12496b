import Dialects.Proofs.ConfigFaults

/-!
# What a write leaves as it was

A write puts a file in the place of a file or of nothing, so every path that led somewhere leads
there still (`Files.follow_put_eq_ok_iff`), and what stands elsewhere is read as before. What is
written is read back as it was if it has no carriage return in it, and no text that has been read
from a file has one.
-/

namespace Dialects

theorem Text.return_notMem_unifyNewlines (s : Text) : '\r' ∉ s.unifyNewlines := by
  induction s using Text.unifyNewlines.induct with
  | case1 s ih => simpa [Text.unifyNewlines] using ih
  | case2 s hs ih =>
    rw [Text.unifyNewlines.eq_2 _ hs]
    simpa using ih
  | case3 c s h h' ih =>
    have hc : c ≠ '\r' := by
      rintro rfl
      exact h' rfl
    rw [Text.unifyNewlines.eq_3 _ _ h h']
    simpa [hc.symm] using ih
  | case4 => simp [Text.unifyNewlines]

theorem decodeFile_encode {s : Text} (h : '\r' ∉ s) : decodeFile (Utf8.encode s) = .ok s := by
  rw [decodeFile, Utf8.decode_encode]
  exact congrArg Except.ok (Text.unifyNewlines_of_notMem h)

theorem return_notMem_of_decodeFile {bytes : List UInt8} {s : Text} (h : decodeFile bytes = .ok s) :
    '\r' ∉ s := by
  unfold decodeFile at h
  cases hdecode : Utf8.decode bytes with
  | error e =>
    rw [hdecode] at h
    cases h
  | ok t =>
    rw [hdecode] at h
    obtain rfl : t.unifyNewlines = s := Except.ok.inj h
    exact t.return_notMem_unifyNewlines

namespace Files

/-- All components but the last lead to directories. -/
theorem follow_cons_eq_ok_iff {files : Files} {start target : Location} {part : Text}
    {parts : List Text} :
    files.follow start (part :: parts) = .ok target
      ↔ width part ≤ longestPart
        ∧ (parts = [] ∧ enter start part = target
          ∨ parts ≠ [] ∧ files.get? (enter start part) = some .directory
            ∧ files.follow (enter start part) parts = .ok target) := by
  rw [follow]
  split
  · rename_i hwidth
    exact ⟨nofun, fun h => absurd h.1 (by omega)⟩
  rename_i hwidth
  have hle : width part ≤ longestPart := by omega
  split
  · rename_i hparts
    simp [hle, hparts]
  · rename_i hparts
    cases h : files.get? (enter start part) with
    | none => simp [hparts]
    | some entry => cases entry <;> simp [hle, hparts]

theorem locate_eq_ok_iff {files : Files} {p : Path} {target : Location} :
    files.locate p = .ok target
      ↔ width p.toText ≤ longestPath
        ∧ files.follow (if p.slashes = 0 then files.workingDirectory else []) p.parts
          = .ok target := by
  unfold locate
  split
  · rename_i hwidth
    exact ⟨nofun, fun h => absurd h.1 (by omega)⟩
  · rename_i hwidth
    exact ⟨fun h => ⟨by omega, h⟩, fun h => h.2⟩

theorem target_eq_ok_iff {files : Files} {p : Path} {location : Location} :
    files.target p = .ok location
      ↔ files.locate p = .ok location ∧ files.get? location ≠ some .directory := by
  unfold target
  split
  · rename_i hlocate
    rw [hlocate]
    exact ⟨nofun, nofun⟩
  · rename_i found hlocate
    rw [hlocate, Except.ok.injEq]
    split
    · rename_i hdirectory
      refine ⟨nofun, ?_⟩
      rintro ⟨rfl, hnot⟩
      exact absurd hdirectory hnot
    · rename_i hnot
      rw [Except.ok.injEq]
      exact ⟨fun h => ⟨h, h ▸ hnot⟩, fun h => h.1⟩

theorem read_eq_ok_iff {files : Files} {p : Path} {bytes : List UInt8} :
    files.read p = .ok bytes
      ↔ ∃ location, files.locate p = .ok location
        ∧ files.get? location = some (.file bytes) := by
  unfold read
  split
  · rename_i hlocate
    simp [hlocate]
  · rename_i location hlocate
    rw [hlocate]
    cases h : files.get? location with
    | none => simp [h]
    | some entry => cases entry <;> simp [h]

section Put

variable {files : Files} {location : Location} (hfile : files.get? location ≠ some .directory)
  (bytes : List UInt8)
include hfile

theorem get?_put_eq_directory_iff (other : Location) :
    (files.put location bytes).get? other = some .directory
      ↔ files.get? other = some .directory := by
  by_cases h : other = location
  · subst h
    simp [hfile]
  · rw [get?_put_of_ne files bytes h]

/-- A write stands in no way that led somewhere. -/
theorem follow_put_eq_ok_iff (start target : Location) (parts : List Text) :
    (files.put location bytes).follow start parts = .ok target
      ↔ files.follow start parts = .ok target := by
  induction parts generalizing start with
  | nil => exact Iff.rfl
  | cons part parts ih =>
    rw [follow_cons_eq_ok_iff, follow_cons_eq_ok_iff, get?_put_eq_directory_iff hfile, ih]

theorem locate_put_eq_ok_iff (p : Path) (target : Location) :
    (files.put location bytes).locate p = .ok target ↔ files.locate p = .ok target := by
  rw [locate_eq_ok_iff, locate_eq_ok_iff, follow_put_eq_ok_iff hfile]
  rfl

theorem target_put_eq_ok_iff (p : Path) (target : Location) :
    (files.put location bytes).target p = .ok target ↔ files.target p = .ok target := by
  rw [target_eq_ok_iff, target_eq_ok_iff, locate_put_eq_ok_iff hfile,
    ne_eq, ne_eq, get?_put_eq_directory_iff hfile]

theorem read_put_of_locate {p : Path} (h : files.locate p = .ok location) :
    (files.put location bytes).read p = .ok bytes :=
  read_eq_ok_iff.2 ⟨location, (locate_put_eq_ok_iff hfile bytes p location).2 h,
    get?_put_self files location bytes⟩

theorem read_put_of_ne {p : Path} {content : List UInt8} (h : files.read p = .ok content)
    (hne : files.locate p ≠ .ok location) :
    (files.put location bytes).read p = .ok content := by
  obtain ⟨other, hlocate, hget⟩ := read_eq_ok_iff.1 h
  have hother : other ≠ location := by
    rintro rfl
    exact hne hlocate
  refine read_eq_ok_iff.2 ⟨other, (locate_put_eq_ok_iff hfile bytes p other).2 hlocate, ?_⟩
  rw [get?_put_of_ne files bytes hother, hget]

end Put

end Files

/-- Settings are loaded from what a file holds. -/
theorem FileSettings.load_eq_ok_iff {l : Loader} {files : Files} {path : Path}
    {settings : FileSettings} :
    load l files path = .ok settings
      ↔ path.hasNull = false ∧ ∃ bytes, files.read path = .ok bytes
        ∧ ofBytes l bytes = .ok settings := by
  constructor
  · intro h
    obtain ⟨found, hhas, h⟩ := bind_eq_ok_iff.1 h
    rw [mapError_eq_ok_iff] at hhas
    cases found with
    | false => cases h
    | true =>
      obtain ⟨bytes, hread, h⟩ := bind_eq_ok_iff.1 h
      refine ⟨?_, bytes, mapError_eq_ok_iff.1 hread, h⟩
      rw [Bool.eq_false_iff]
      intro hnull
      simp [Files.has, hnull] at hhas
  · rintro ⟨hname, bytes, hread, hbytes⟩
    rw [load_of_read hname hread, hbytes]

/-- All settings are the same after a write to another file than that of the configuration. -/
theorem Settings.load_put {l : Loader} {env : Variables} {file : Option (List UInt8)}
    {files : Files} {location : Location} (hfile : files.get? location ≠ some .directory)
    (bytes : List UInt8) {path? : Option Path}
    (hne : ∀ path ∈ path?, files.locate path ≠ .ok location)
    {settings : Settings} (h : Settings.load l env file files path? = .ok settings) :
    Settings.load l env file (files.put location bytes) path? = .ok settings := by
  cases path? with
  | none => exact h
  | some path =>
    obtain ⟨variables', hvariables, h⟩ := bind_eq_ok_iff.1 h
    obtain ⟨level, hlevel, h⟩ := bind_eq_ok_iff.1 h
    obtain ⟨fromFile, hload, h⟩ := bind_eq_ok_iff.1 h
    obtain ⟨hname, content, hread, hcontent⟩ := FileSettings.load_eq_ok_iff.1 hload
    refine bind_eq_ok_iff.2 ⟨variables', hvariables, bind_eq_ok_iff.2 ⟨level, hlevel,
      bind_eq_ok_iff.2 ⟨fromFile, FileSettings.load_eq_ok_iff.2 ⟨hname, content, ?_, hcontent⟩, h⟩⟩⟩
    exact Files.read_put_of_ne hfile bytes hread (hne path rfl)

namespace Host

variable {host : Host} {location : Location}

/-- The host after a write. -/
def put (host : Host) (location : Location) (bytes : List UInt8) : Host :=
  { host with files := host.files.put location bytes }

theorem target_eq_ok_iff {name : Text} {target : Option Location} :
    host.target name = .ok target
      ↔ name = standard ∧ target = none
        ∨ name ≠ standard ∧ ∃ location, host.files.target (Path.ofText name) = .ok location
          ∧ target = some location := by
  unfold Host.target
  split
  · rename_i hstandard
    simp [hstandard, eq_comm]
  · rename_i hstandard
    rw [map_eq_ok_iff]
    simp [hstandard, eq_comm]

theorem target_eq_some_iff {name : Text} :
    host.target name = .ok (some location)
      ↔ name ≠ standard ∧ host.files.target (Path.ofText name) = .ok location := by
  simp [target_eq_ok_iff]

theorem target_put_eq_ok_iff (hfile : host.files.get? location ≠ some .directory)
    (bytes : List UInt8) (name : Text) (target : Option Location) :
    (host.put location bytes).target name = .ok target ↔ host.target name = .ok target := by
  simp only [target_eq_ok_iff, put, Files.target_put_eq_ok_iff hfile]

theorem return_notMem_of_readDocument {name text : Text}
    (h : host.readDocument name = .ok text) : '\r' ∉ text := by
  obtain ⟨bytes, -, h⟩ := bind_eq_ok_iff.1 h
  exact return_notMem_of_decodeFile (mapError_eq_ok_iff.1 h)

/-- A document that has been written is read back as it was. -/
theorem readDocument_put {name text : Text} (hnull : isNullName name = false)
    (htarget : host.target name = .ok (some location)) (htext : '\r' ∉ text) :
    (host.put location (Utf8.encode text)).readDocument name = .ok text := by
  obtain ⟨hstandard, htarget⟩ := target_eq_some_iff.1 htarget
  obtain ⟨hlocate, hfile⟩ := Files.target_eq_ok_iff.1 htarget
  have hread : (host.put location (Utf8.encode text)).document name = .ok (Utf8.encode text) := by
    rw [document, if_neg hstandard, hnull]
    exact mapError_eq_ok_iff.2 (Files.read_put_of_locate hfile _ hlocate)
  rw [readDocument, hread]
  change (decodeFile (Utf8.encode text)).mapError _ = _
  rw [decodeFile_encode htext]
  rfl

end Host

end Dialects
