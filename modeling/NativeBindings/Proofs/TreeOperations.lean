import NativeBindings.Command.FileTree
import NativeBindings.Proofs.Outcome

/-!
# What operations do to the files of a tree

Every operation on a tree of files is described by the files that it leaves: which text stands where
afterwards, and that nothing else has changed. A path leads to one place, and what leads there is
directories (`FileTree.Opens`), so a file that comes or goes at the end of one path does not change
where another leads (`foldlM_enter_of_opens`).
-/
namespace NativeBindings

namespace FileTree

variable {tree next : FileTree} {path source target text : String} {place other : TreePath}

/-! ## Files -/

theorem lookup_map_replace (files : List (TreePath × String)) :
    (files.map fun file => if file.1 == place then (place, text) else file).lookup other =
      if other = place then (files.lookup place).map fun _ => text else files.lookup other := by
  -- Replacing keeps every key where it is, so the lookup passes the same keys.
  have kept (file : TreePath × String) : (if file.1 == place then (place, text) else file) =
      (file.1, if file.1 = place then text else file.2) := by
    by_cases here : file.1 = place <;> simp [here]
  simp only [kept]
  induction files with
  | nil => simp
  | cons file rest ih =>
    obtain ⟨first, old⟩ := file
    simp only [List.map_cons, List.lookup_cons]
    by_cases found : other = first
    · subst found
      by_cases same : other = place
      · simp [same]
      · simp [same]
    · rw [beq_eq_false_iff_ne.mpr found]
      by_cases same : other = place
      · subst same
        simpa [beq_eq_false_iff_ne.mpr found] using ih
      · simpa [same] using ih

theorem lookup_filter_ne (files : List (TreePath × String)) :
    (files.filter (·.1 != place)).lookup other =
      if other = place then none else files.lookup other := by
  by_cases same : other = place
  · subst same
    rw [if_pos rfl, List.lookup_eq_none_iff]
    intro file kept
    simpa [bne_comm] using (List.mem_filter.mp kept).2
  · rw [if_neg same]
    induction files with
    | nil => rfl
    | cons file rest ih =>
      obtain ⟨first, old⟩ := file
      by_cases here : first = place
      · have apart : other ≠ first := by rwa [here]
        rw [List.filter_cons_of_neg (by simpa using here), List.lookup_cons,
          beq_eq_false_iff_ne.mpr apart, ih]
      · rw [List.filter_cons_of_pos (by simpa using here), List.lookup_cons, List.lookup_cons, ih]

theorem file?_put (tree : FileTree) (place other : TreePath) (text : String) :
    (tree.put place text).file? other = if other = place then some text else tree.file? other := by
  unfold put
  split
  · rename_i present
    obtain ⟨old, found⟩ := Option.isSome_iff_exists.mp present
    show (tree.files.map _).lookup other = _
    rw [lookup_map_replace, show tree.files.lookup place = some old from found]
    rfl
  · rename_i absent
    have free : tree.file? place = none := by simpa using absent
    show (tree.files ++ [(place, text)]).lookup other = _
    rw [List.lookup_append, List.lookup_cons]
    by_cases same : other = place
    · rw [same, show tree.files.lookup place = none from free]
      simp
    · simp [same, beq_eq_false_iff_ne.mpr same, file?]

theorem file?_drop (tree : FileTree) (place other : TreePath) :
    (tree.drop place).file? other = if other = place then none else tree.file? other :=
  lookup_filter_ne tree.files

@[simp]
theorem isDirectory_put (tree : FileTree) (place other : TreePath) (text : String) :
    (tree.put place text).isDirectory other = tree.isDirectory other := by
  unfold put
  split <;> rfl

@[simp]
theorem isDirectory_drop (tree : FileTree) (place other : TreePath) :
    (tree.drop place).isDirectory other = tree.isDirectory other := rfl

/-! ## Paths -/

/-- A place from which a path goes on. -/
def Opens (tree : FileTree) (place : TreePath) : Prop :=
  tree.file? place = none ∧ tree.isDirectory place = true

theorem enter_eq_ok {name : String} : tree.enter place name = .ok other ↔
    tree.Opens place ∧ name.utf8ByteSize ≤ longestName ∧ place.follow name = other := by
  unfold enter Opens
  split_ifs with file directory long
  · have present : tree.file? place ≠ none := Option.isSome_iff_ne_none.mp file
    simp [present]
  · have closed : tree.isDirectory place ≠ true := by simpa using directory
    simp [closed]
  · simp [Nat.not_le.mpr long]
  · have free : tree.file? place = none := by simpa using file
    have isOpen : tree.isDirectory place = true := by simpa using directory
    simp [free, isOpen, Nat.not_lt.mp long]

/-- Names that can be followed lead where they say. -/
theorem foldl_follow_of_enter {names : List String} {start : TreePath}
    (h : names.foldlM tree.enter start = .ok place) :
    names.foldl TreePath.follow start = place := by
  induction names generalizing start with
  | nil => cases h; rfl
  | cons name rest ih =>
    rw [List.foldlM_cons] at h
    cases first : tree.enter start name with
    | error e => rw [first] at h; cases h
    | ok middle =>
      rw [first] at h
      obtain ⟨-, -, rfl⟩ := enter_eq_ok.mp first
      exact ih h

/-- Where every place that was open is open still, names lead where they led. -/
theorem foldlM_enter_of_opens (opens : ∀ place, tree.Opens place → next.Opens place)
    {names : List String} {start : TreePath} (h : names.foldlM tree.enter start = .ok place) :
    names.foldlM next.enter start = .ok place := by
  induction names generalizing start with
  | nil => exact h
  | cons name rest ih =>
    rw [List.foldlM_cons] at h ⊢
    cases first : tree.enter start name with
    | error e => rw [first] at h; cases h
    | ok middle =>
      rw [first] at h
      obtain ⟨wasOpen, short, leads⟩ := enter_eq_ok.mp first
      rw [enter_eq_ok.mpr ⟨opens start wasOpen, short, leads⟩]
      exact ih h

theorem locate_eq_ok : tree.locate path = .ok place ↔ path.utf8ByteSize ≤ longestPath ∧
    (TreePath.names path).foldlM tree.enter [] = .ok place := by
  unfold locate
  split
  · rename_i long
    simp [Nat.not_le.mpr long]
  · rename_i short
    simp [Nat.not_lt.mp short]

/-- A path leads nowhere but to the place it describes. -/
theorem ofText_of_locate (h : tree.locate path = .ok place) : TreePath.ofText path = place :=
  foldl_follow_of_enter (locate_eq_ok.mp h).2

theorem Opens.drop (h : tree.Opens other) : (tree.drop place).Opens other := by
  refine ⟨?_, h.2⟩
  rw [file?_drop, h.1, ite_self]

/-- A file that is no directory closes no place. -/
theorem Opens.put (h : tree.Opens other) (apart : tree.isDirectory place = false) :
    (tree.put place text).Opens other := by
  have ne : other ≠ place := by
    rintro rfl
    simp [h.2] at apart
  exact ⟨by rw [file?_put, if_neg ne, h.1], by rw [isDirectory_put, h.2]⟩

/-! ## Operations -/

theorem read_eq_ok : tree.read path = .ok text ↔
    tree.locate path = .ok (TreePath.ofText path) ∧
      tree.file? (TreePath.ofText path) = some text := by
  unfold read
  rw [bind_eq_ok]
  constructor
  · rintro ⟨place, located, h⟩
    split at h
    · rename_i found
      cases h
      rw [ofText_of_locate located]
      exact ⟨located, found⟩
    · cases h
  · rintro ⟨located, found⟩
    exact ⟨_, located, by rw [found]; rfl⟩

theorem files_makeFrom {names : List String} (h : tree.makeFrom place names = .ok next) :
    next.files = tree.files := by
  induction names generalizing tree place with
  | nil => cases h; rfl
  | cons name rest ih =>
    obtain ⟨middle, -, h⟩ := bind_eq_ok.mp h
    dsimp only at h
    split at h
    · cases h
    · rw [ih h]
      split <;> rfl

theorem files_makeDirectories (h : tree.makeDirectories path = .ok next) :
    next.files = tree.files := by
  unfold makeDirectories at h
  split at h
  · cases h
  · exact files_makeFrom h

theorem write_eq_ok (h : tree.write path text = .ok next) :
    tree.locate path = .ok (TreePath.ofText path) ∧
      tree.isDirectory (TreePath.ofText path) = false ∧
      next = tree.put (TreePath.ofText path) text := by
  obtain ⟨place, located, h⟩ := bind_eq_ok.mp h
  rw [ofText_of_locate located]
  dsimp only at h
  split_ifs at h with directory
  · cases h
  · cases h
    exact ⟨located, by simpa using directory, rfl⟩

/-- A path that a file was moved to does not end in a slash, so its names are all followed. -/
theorem rename_eq_ok (h : tree.rename source target = .ok next) :
    ∃ text, tree.file? (TreePath.ofText source) = some text ∧
      (TreePath.names target).foldlM tree.enter [] = .ok (TreePath.ofText target) ∧
      tree.isDirectory (TreePath.ofText target) = false ∧
      next = (tree.drop (TreePath.ofText source)).put (TreePath.ofText target) text := by
  obtain ⟨origin, located, h⟩ := bind_eq_ok.mp h
  rw [ofText_of_locate located]
  cases found : tree.file? origin with
  | none =>
    simp only [found] at h
    cases h
  | some text =>
    simp only [found] at h
    split at h
    · obtain ⟨_, -, h⟩ := bind_eq_ok.mp h
      cases h
    · obtain ⟨place, followed, h⟩ := bind_eq_ok.mp h
      split at h
      · cases h
      · rename_i noSlash
        -- Only empty names at the end are passed over, and the last name is not empty.
        have named : (TreePath.names target).reverse.dropWhile (· = "") =
            (TreePath.names target).reverse := by
          cases same : (TreePath.names target).reverse with
          | nil => rfl
          | cons name rest =>
            have nonempty : name ≠ "" := by simpa [same] using noSlash
            simp [nonempty]
        rw [named, List.reverse_reverse] at followed
        obtain rfl : TreePath.ofText target = place := foldl_follow_of_enter followed
        split_ifs at h with directory
        · cases h
        · cases h
          exact ⟨text, rfl, followed, by simpa using directory, rfl⟩

/-! ## Sequences of operations -/

/-- Where there is no file, removing changes no file. -/
theorem file?_remove_of_free (free : tree.file? (TreePath.ofText path) = none) (other : TreePath) :
    (tree.remove path).file? other = tree.file? other := by
  unfold remove
  cases located : tree.locate path with
  | error e => rfl
  | ok place =>
    rw [ofText_of_locate located] at free
    show (tree.drop place).file? other = _
    rw [file?_drop]
    split
    · rename_i same
      rw [same, free]
    · rfl

/-- What was written can be removed: the path still leads to it. -/
theorem file?_remove_of_write (h : tree.write path text = .ok next)
    (free : tree.file? (TreePath.ofText path) = none) (other : TreePath) :
    (next.remove path).file? other = tree.file? other := by
  obtain ⟨located, apart, rfl⟩ := write_eq_ok h
  obtain ⟨short, followed⟩ := locate_eq_ok.mp located
  have again : (tree.put (TreePath.ofText path) text).locate path = .ok (TreePath.ofText path) :=
    locate_eq_ok.mpr ⟨short, foldlM_enter_of_opens (fun _ opens => opens.put apart) followed⟩
  unfold remove
  rw [again]
  show ((tree.put _ text).drop _).file? other = _
  rw [file?_drop, file?_put]
  split
  · rename_i same
    rw [same, free]
  · rfl

/-- What was written to one path and moved to another is read there, and no other file is another
than before. -/
theorem read_of_write_rename {draft : String} {drafted : FileTree}
    (written : tree.write draft text = .ok drafted) (moved : drafted.rename draft path = .ok next)
    (free : tree.file? (TreePath.ofText draft) = none)
    (shorter : path.utf8ByteSize ≤ draft.utf8ByteSize) :
    next.read path = .ok text ∧
      ∀ other, other ≠ TreePath.ofText path → next.file? other = tree.file? other := by
  obtain ⟨draftLocated, -, rfl⟩ := write_eq_ok written
  obtain ⟨found, isDraft, followed, apart, rfl⟩ := rename_eq_ok moved
  obtain rfl : text = found := by simpa [file?_put] using isDraft
  constructor
  · have short : path.utf8ByteSize ≤ longestPath :=
      Nat.le_trans shorter (locate_eq_ok.mp draftLocated).1
    rw [read_eq_ok, locate_eq_ok]
    refine ⟨⟨short, foldlM_enter_of_opens (fun _ opens => opens.drop.put ?_) followed⟩, ?_⟩
    · simpa using apart
    · rw [file?_put, if_pos rfl]
  · intro other ne
    rw [file?_put, if_neg ne, file?_drop, file?_put]
    split
    · rename_i same
      rw [same, free]
    · rfl

end FileTree
end NativeBindings
