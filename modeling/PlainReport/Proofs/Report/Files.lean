import PlainReport.Encoding.Library
import PlainReport.Report.Files

/-!
# What a write changes

Which place a path names is decided by the directories and the working directory alone, and
no operation changes these.  So paths name the same places after a write as before it, and
`SameBut` says of two trees that they differ at the places of some paths at most.  A write makes
such a difference at its own path (`sameBut_of_write`), and what it wrote is read back
(`read_of_write`).  Every other file is read as before (`SameBut.read_eq_ok_iff`).

A system may also refuse an operation for a reason that no tree shows, such as missing rights
or a full disk.  `Refusals` says which ones it refuses.
-/

namespace PlainReport

namespace FileTree

variable {tree middle later : FileTree} {path other : Text} {place : Place} {bytes : Bytes}

/-! ## Places -/

theorem walk_of_same_directories (h : later.directories = tree.directories) (place : Place)
    (parts : List Text) (target : Place) :
    later.walk place parts = .ok target ↔ tree.walk place parts = .ok target := by
  have hdir : ∀ place, later.isDirectory place = tree.isDirectory place := by
    simp [isDirectory, h]
  induction parts generalizing place with
  | nil => rfl
  | cons part parts ih =>
    unfold walk
    rw [hdir]
    split
    · split
      · exact Iff.rfl
      · exact ih (stepTo place part)
    -- Both walks fail here, though perhaps not with the same fault.
    · constructor <;> intro hok <;> split at hok <;> cases hok

/-- The last part of a path is the last step of the walk. -/
theorem walk_concat {parts : List Text} {part : Text} {target : Place}
    (h : tree.walk place (parts ++ [part]) = .ok target) :
    ∃ directory, target = stepTo directory part := by
  induction parts generalizing place with
  | nil =>
    simp only [List.nil_append, walk] at h
    split at h
    · split at h
      · cases h
      · exact ⟨place, (Except.ok.inj h).symm⟩
    · split at h <;> cases h
  | cons first parts ih =>
    simp only [List.cons_append, walk] at h
    split at h
    · split at h
      · cases h
      · exact ih h
    · split at h <;> cases h

/-- Whether two paths name the same place. -/
def SameFile (tree : FileTree) (path other : Text) : Prop :=
  ∃ place, tree.resolve path = .ok place ∧ tree.resolve other = .ok place

theorem sameFile_iff : tree.SameFile path other ↔
    ∃ place ∈ (tree.resolve path).toOption, (tree.resolve other).toOption = some place := by
  unfold SameFile
  cases tree.resolve path <;> cases tree.resolve other <;> simp [Except.toOption]

instance (tree : FileTree) (path other : Text) : Decidable (tree.SameFile path other) :=
  decidable_of_iff _ sameFile_iff.symm

/-! ## Reading and writing -/

theorem read_eq_ok_iff :
    tree.read path = .ok bytes ↔
      ∃ place, tree.resolve path = .ok place ∧ tree.isDirectory place = false ∧
        asksForDirectory path = false ∧ (tree.files.find? place).map File.bytes = some bytes := by
  unfold read
  cases tree.resolve path with
  | error fault => simp
  | ok place =>
    simp only [Except.ok.injEq, exists_eq_left']
    cases tree.isDirectory place with
    | true => simp
    | false => cases tree.files.find? place <;> cases asksForDirectory path <;> simp

theorem write_eq_ok_iff :
    tree.write path bytes = .ok later ↔
      ∃ place, tree.resolve path = .ok place ∧ tree.isDirectory place = false ∧
        asksForDirectory path = false ∧
        later = { tree with files := tree.files.put ⟨place, bytes⟩ } := by
  unfold write
  cases asksForDirectory path with
  | true => simp
  | false =>
    cases tree.resolve path with
    | error fault => simp
    | ok place =>
      simp only [Except.ok.injEq, exists_eq_left', true_and]
      cases tree.isDirectory place with
      | true => simp
      | false => simp [@eq_comm _ later]

/-! ## Trees that differ in some files only -/

/-- Whether two trees have the same directories, and the same files outside the places that
some paths name. -/
structure SameBut (paths : List Text) (tree later : FileTree) : Prop where
  /-- The directories are the same. -/
  directories : later.directories = tree.directories
  /-- Paths start at the same directory. -/
  working : later.working = tree.working
  /-- The other files are the same. -/
  files : ∀ place, (∀ path ∈ paths, tree.resolve path ≠ .ok place) →
    later.files.find? place = tree.files.find? place

namespace SameBut

variable {paths : List Text}

theorem refl (tree : FileTree) : SameBut [] tree tree := ⟨rfl, rfl, fun _ _ => rfl⟩

theorem isDirectory_eq (h : SameBut paths tree later) (place : Place) :
    later.isDirectory place = tree.isDirectory place := by
  rw [isDirectory, isDirectory, h.directories]

/-- A path names the same place in both trees. -/
theorem resolve_eq_ok_iff (h : SameBut paths tree later) :
    later.resolve path = .ok place ↔ tree.resolve path = .ok place := by
  unfold resolve follow
  split
  · exact Iff.rfl
  · rw [h.working]
    exact walk_of_same_directories h.directories _ _ _

theorem sameFile_iff (h : SameBut paths tree later) :
    later.SameFile path other ↔ tree.SameFile path other :=
  exists_congr fun _ => and_congr h.resolve_eq_ok_iff h.resolve_eq_ok_iff

theorem trans {more : List Text} (h : SameBut paths tree middle)
    (hl : SameBut more middle later) : SameBut (paths ++ more) tree later := by
  refine ⟨hl.directories.trans h.directories, hl.working.trans h.working, fun place hp => ?_⟩
  have hmiddle : ∀ path ∈ more, middle.resolve path ≠ .ok place := fun path hm he =>
    hp path (List.mem_append_right _ hm) (h.resolve_eq_ok_iff.1 he)
  exact (hl.files place hmiddle).trans
    (h.files place fun path hm => hp path (List.mem_append_left _ hm))

/-- A file that none of the paths names is read as before. -/
theorem read_eq_ok_iff (h : SameBut paths tree later)
    (hp : ∀ changed ∈ paths, ¬tree.SameFile changed path) :
    later.read path = .ok bytes ↔ tree.read path = .ok bytes := by
  rw [FileTree.read_eq_ok_iff, FileTree.read_eq_ok_iff]
  refine exists_congr fun place => ?_
  rw [h.resolve_eq_ok_iff, h.isDirectory_eq]
  refine and_congr_right fun hplace => ?_
  rw [h.files place fun changed hm he => hp changed hm ⟨place, he, hplace⟩]

/-- What can be written is the same in both trees. -/
theorem exists_write_iff (h : SameBut paths tree later) :
    (∃ written, later.write path bytes = .ok written) ↔
      ∃ written, tree.write path bytes = .ok written := by
  simp only [write_eq_ok_iff, h.resolve_eq_ok_iff, h.isDirectory_eq]
  constructor <;> rintro ⟨-, place, hplace, hdir, hslash, -⟩ <;>
    exact ⟨_, place, hplace, hdir, hslash, rfl⟩

end SameBut

theorem sameBut_of_write (h : tree.write path bytes = .ok later) :
    SameBut [path] tree later := by
  obtain ⟨place, hplace, -, -, rfl⟩ := write_eq_ok_iff.1 h
  refine ⟨rfl, rfl, fun other ho => ?_⟩
  have hne : place ≠ other := fun he => ho path List.mem_cons_self (he ▸ hplace)
  exact (Keyed.find?_put _ _ other).trans (if_neg hne)

/-- What was written is read back. -/
theorem read_of_write (h : tree.write path bytes = .ok later) : later.read path = .ok bytes := by
  have hsame : SameBut [path] tree later := sameBut_of_write h
  obtain ⟨place, hplace, hdir, hslash, hlater⟩ := write_eq_ok_iff.1 h
  refine read_eq_ok_iff.2 ⟨place, hsame.resolve_eq_ok_iff.2 hplace, ?_, hslash, ?_⟩
  · rw [hsame.isDirectory_eq, hdir]
  · have hfound : (tree.files.put ⟨place, bytes⟩).find? place = some ⟨place, bytes⟩ :=
      (Keyed.find?_put _ _ place).trans (if_pos rfl)
    rw [hlater, hfound]
    rfl

end FileTree

/-! ## Refusals -/

/-- The operations that a system refuses, whatever files there are. -/
structure Refusals where
  /-- Why the file at a path is not read. -/
  ofRead : Text → Option FileFault
  /-- Why some bytes are not written at a path. -/
  ofWrite : Text → Bytes → Option FileFault

namespace Refusals

/-- No refusals. -/
def none : Refusals := ⟨fun _ => .none, fun _ _ => .none⟩

/-- Reads a file unless that is refused. -/
def read (r : Refusals) (tree : FileTree) (path : Text) : Except FileFault Bytes :=
  match r.ofRead path with
  | some fault => .error fault
  | .none => tree.read path

/-- Writes a file unless that is refused. -/
def write (r : Refusals) (tree : FileTree) (path : Text) (bytes : Bytes) :
    Except FileFault FileTree :=
  match r.ofWrite path bytes with
  | some fault => .error fault
  | .none => tree.write path bytes

/-- Whether some bytes can be written at a path. -/
def canWrite (r : Refusals) (tree : FileTree) (path : Text) (bytes : Bytes) : Bool :=
  (r.write tree path bytes).isOk

/-- The text in a file of some encoding, if it can be read. -/
def text? (r : Refusals) (tree : FileTree) (e : Encoding) (path : Text) : Option Text :=
  (r.read tree path).toOption.bind e.decode?

/-- File access in a tree with these refusals. -/
def access (r : Refusals) : FileAccess (StateM FileTree) where
  read path := fun tree => (r.read tree path, tree)
  write path bytes := fun tree =>
    match r.write tree path bytes with
    | .ok later => (.ok (), later)
    | .error fault => (.error fault, tree)

/-- Without refusals this is the access to a tree. -/
theorem access_none : none.access = FileTree.access := rfl

variable {r : Refusals} {tree later : FileTree} {path : Text} {paths : List Text} {bytes : Bytes}

theorem access_read (r : Refusals) (path : Text) (tree : FileTree) :
    r.access.read path tree = (r.read tree path, tree) := rfl

theorem access_write_of_ok (h : r.write tree path bytes = .ok later) :
    r.access.write path bytes tree = (.ok (), later) := by
  simp only [access, h]

theorem access_write_of_error {fault : FileFault} (h : r.write tree path bytes = .error fault) :
    r.access.write path bytes tree = (.error fault, tree) := by
  simp only [access, h]

theorem write_eq_ok_iff :
    r.write tree path bytes = .ok later ↔
      r.ofWrite path bytes = .none ∧ tree.write path bytes = .ok later := by
  unfold write
  cases r.ofWrite path bytes <;> simp

theorem read_eq_ok_iff_of_sameBut (h : FileTree.SameBut paths tree later)
    (hp : ∀ changed ∈ paths, ¬tree.SameFile changed path) :
    r.read later path = .ok bytes ↔ r.read tree path = .ok bytes := by
  unfold read
  cases r.ofRead path with
  | none => exact h.read_eq_ok_iff hp
  | some fault => simp

theorem canWrite_iff :
    r.canWrite tree path bytes = true ↔ ∃ later, r.write tree path bytes = .ok later := by
  unfold canWrite
  cases r.write tree path bytes <;> simp [Except.isOk, Except.toBool]

theorem canWrite_of_error {fault : FileFault} (h : r.write tree path bytes = .error fault) :
    r.canWrite tree path bytes = false := by
  rw [canWrite, h]
  rfl

theorem canWrite_of_sameBut (h : FileTree.SameBut paths tree later) :
    r.canWrite later path bytes = r.canWrite tree path bytes := by
  rw [Bool.eq_iff_iff, canWrite_iff, canWrite_iff]
  simp only [write_eq_ok_iff, exists_and_left, h.exists_write_iff]

theorem text?_eq_some_iff {e : Encoding} {t : Text} :
    r.text? tree e path = some t ↔
      ∃ bytes, r.read tree path = .ok bytes ∧ e.decode? bytes = some t := by
  unfold text?
  cases r.read tree path <;> simp [Except.toOption]

/-- A file that none of the changed paths names holds the same text. -/
theorem text?_of_sameBut (h : FileTree.SameBut paths tree later) (e : Encoding)
    (hp : ∀ changed ∈ paths, ¬tree.SameFile changed path) :
    r.text? later e path = r.text? tree e path :=
  Option.ext fun t => by
    rw [text?_eq_some_iff, text?_eq_some_iff]
    exact exists_congr fun bytes => and_congr_left fun _ => read_eq_ok_iff_of_sameBut h hp

end Refusals

end PlainReport
