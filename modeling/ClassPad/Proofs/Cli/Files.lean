import ClassPad.Cli.Files

/-!
What a file below the directory of a command gives when it is read. A path of plain names leads down
from directory to directory; it is missing if one of the places on its way is, and what stands at
its end is read unless it is a directory or no UTF-8.
-/

set_option autoImplicit false
set_option relaxedAutoImplicit false

namespace ClassPad.Cli

/-- What a node gives when it is read as a text. -/
def FileNode.contents : FileNode → Except IoError String
  | .text content => .ok content
  | .bytes content =>
    match Text.ofUtf8? content with
    | some chars => .ok (String.ofList chars)
    | none => .error .invalidUtf8
  | .directory => .error .isDirectory

namespace FileTree

/-- A step that leads down to a file or a directory. -/
def PlainStep (step : String) : Prop :=
  step ≠ "" ∧ step ≠ "." ∧ step ≠ ".." ∧ step.utf8ByteSize ≤ longestStep

instance (step : String) : Decidable (PlainStep step) :=
  inferInstanceAs (Decidable
    (step ≠ "" ∧ step ≠ "." ∧ step ≠ ".." ∧ step.utf8ByteSize ≤ longestStep))

/-- A path that the operating system takes and that leads down at every step. -/
def PlainPath (path : String) : Prop :=
  '\x00' ∉ path.toList ∧ path ≠ "" ∧ path.utf8ByteSize < pathSpace ∧
    path.startsWith "/" = false ∧ ∀ step ∈ steps path, PlainStep step

instance (path : String) : Decidable (PlainPath path) :=
  inferInstanceAs (Decidable ('\x00' ∉ path.toList ∧ path ≠ "" ∧ path.utf8ByteSize < pathSpace ∧
    path.startsWith "/" = false ∧ ∀ step ∈ steps path, PlainStep step))

/-- Only directories are passed on the way to a place. -/
def Clear (t : FileTree) (place : List String) : Prop :=
  ∀ k < place.length, t.nodeAt? (place.take k) = some .directory

/-- Why what stands at a path cannot be loaded. -/
inductive Unreadable (t : FileTree) (path : String) : IoError → Prop
  | missing {place rest : List String} : steps path = place ++ rest → t.Clear place →
      t.nodeAt? place = none → Unreadable t path .notFound
  | directory : t.Clear (steps path) → t.nodeAt? (steps path) = some .directory →
      Unreadable t path .isDirectory
  | undecodable {content : List Nat} : t.Clear (steps path) →
      t.nodeAt? (steps path) = some (.bytes content) → Text.ofUtf8? content = none →
      Unreadable t path .invalidUtf8

/-- A file with a given text stands at a path. -/
inductive Holds (t : FileTree) (path : String) : String → Prop
  | text {content : String} : t.Clear (steps path) →
      t.nodeAt? (steps path) = some (.text content) → Holds t path content
  | bytes {content : List Nat} {chars : List Char} : t.Clear (steps path) →
      t.nodeAt? (steps path) = some (.bytes content) → Text.ofUtf8? content = some chars →
      Holds t path (String.ofList chars)

variable {t : FileTree} {path : String}

private theorem walk_plainStep {place : List String} {step : String} (hstep : PlainStep step)
    (hdirectory : t.nodeAt? place = some .directory) (rest : List String) :
    t.walk (some place) (step :: rest) = t.walk (some (place ++ [step])) rest := by
  obtain ⟨hempty, hdot, hdots, hsize⟩ := hstep
  have hshort : ¬longestStep < step.utf8ByteSize := Nat.not_lt.mpr hsize
  rw [walk, hdirectory]
  simp [hempty, hdot, hdots, hshort]

private theorem walk_append {names : List String} (hnames : ∀ step ∈ names, PlainStep step)
    (place rest : List String)
    (hclear : ∀ k < names.length, t.nodeAt? (place ++ names.take k) = some .directory) :
    t.walk (some place) (names ++ rest) = t.walk (some (place ++ names)) rest := by
  -- what is above `place` has been passed, so the way is clear from there on
  induction names generalizing place with
  | nil => simp
  | cons step names ih =>
    obtain ⟨hstep, hnames⟩ := List.forall_mem_cons.mp hnames
    have hhere : t.nodeAt? place = some .directory := by
      simpa using hclear 0 (Nat.zero_lt_succ _)
    have hbelow : ∀ k < names.length,
        t.nodeAt? (place ++ [step] ++ names.take k) = some .directory := by
      intro k hk
      simpa using hclear (k + 1) (Nat.succ_lt_succ hk)
    rw [List.cons_append, walk_plainStep hstep hhere, ih hnames _ hbelow]
    simp

private theorem walk_steps (hpath : PlainPath path) {place rest : List String}
    (hsteps : steps path = place ++ rest) (hclear : t.Clear place) :
    t.walk (some []) (steps path) = t.walk (some place) rest := by
  obtain ⟨-, -, -, -, hplain⟩ := hpath
  have hnames : ∀ step ∈ place, PlainStep step := by
    intro step hstep
    exact hplain step (hsteps ▸ List.mem_append_left rest hstep)
  rw [hsteps, walk_append hnames [] rest (by simpa [Clear] using hclear), List.nil_append]

private theorem walk_of_missing {place : List String} (h : t.nodeAt? place = none)
    (rest : List String) : t.walk (some place) rest = .error .notFound := by
  cases rest with
  | nil => rw [walk, h]
  | cons step rest => rw [walk, h]

private theorem walk_of_node (hpath : PlainPath path) (hclear : t.Clear (steps path))
    {node : FileNode} (hnode : t.nodeAt? (steps path) = some node) :
    t.walk (some []) (steps path) = .ok node := by
  rw [walk_steps hpath (List.append_nil _).symm hclear, walk, hnode]

private theorem read_eq_bind (hpath : PlainPath path) :
    t.read path = (t.walk (some []) (steps path)).bind FileNode.contents := by
  obtain ⟨hzero, hempty, hsize, hstart, -⟩ := hpath
  have hshort : ¬pathSpace ≤ path.utf8ByteSize := Nat.not_le.mpr hsize
  rcases hwalk : t.walk (some []) (steps path) with e | content | content | _
  · simp [read, hzero, hempty, hshort, hstart, hwalk, Except.bind]
  · simp [read, hzero, hempty, hshort, hstart, hwalk, Except.bind, FileNode.contents]
  · cases hbytes : Text.ofUtf8? content <;>
      simp [read, hzero, hempty, hshort, hstart, hwalk, Except.bind, FileNode.contents, hbytes]
  · simp [read, hzero, hempty, hshort, hstart, hwalk, Except.bind, FileNode.contents]

theorem read_of_unreadable (hpath : PlainPath path) {e : IoError} (h : t.Unreadable path e) :
    t.read path = .error e := by
  rw [read_eq_bind hpath]
  cases h with
  | missing hsteps hclear hnode =>
    rw [walk_steps hpath hsteps hclear, walk_of_missing hnode]
    rfl
  | directory hclear hnode =>
    rw [walk_of_node hpath hclear hnode]
    rfl
  | undecodable hclear hnode hbytes =>
    rw [walk_of_node hpath hclear hnode, Except.bind, FileNode.contents, hbytes]

theorem read_of_holds (hpath : PlainPath path) {text : String} (h : t.Holds path text) :
    t.read path = .ok text := by
  rw [read_eq_bind hpath]
  cases h with
  | text hclear hnode =>
    rw [walk_of_node hpath hclear hnode]
    rfl
  | bytes hclear hnode hbytes =>
    rw [walk_of_node hpath hclear hnode, Except.bind, FileNode.contents, hbytes]

end FileTree

end ClassPad.Cli
