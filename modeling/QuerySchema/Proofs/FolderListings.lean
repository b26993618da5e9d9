import QuerySchema.Files.Disk

/-!
The order in which folders are listed.

A tree holds the entries of a folder in the order in which they are listed. No name stands twice in
a folder (`Tree.Sound`), so this order does not decide what is found: `Tree.Relisted` relates the
trees that differ in the listings of their folders only, at any depth, and a path leads to the same
place in both.

What is proved:
  1. `Tree.Relisted.symm`, `Tree.Relisted.sound`: listing folders anew can be undone, and no name
     stands twice afterwards.
  2. `Tree.Relisted.exists_find?`: what is found at a place is found there again, listed anew.
  3. `Disk.Relisted.locate?_eq`: a path leads to the same place, whichever way the folders on it are
     listed.
-/

namespace QuerySchema.Files

/-- Whether a name can stand in a folder. -/
def IsEntryName (name : String) : Prop := name ≠ "" ∧ '/' ∉ name.toList

instance (name : String) : Decidable (IsEntryName name) := inferInstanceAs (Decidable (_ ∧ _))

namespace Tree

/-- A tree as it stands on a disk: in each of its folders every name can stand, and none stands
twice. -/
inductive Sound : Tree → Prop
  | file (bytes : List UInt8) : Sound (.file bytes)
  | folder {entries : List (String × Tree)} : (Keyed.keys entries).Nodup →
      (∀ p ∈ entries, IsEntryName p.1) → (∀ p ∈ entries, Sound p.2) → Sound (.folder entries)

/-- Two trees that differ at most in the order in which their folders are listed. -/
inductive Relisted : Tree → Tree → Prop
  /-- Nothing is listed anew. -/
  | refl (tree : Tree) : Relisted tree tree
  /-- A folder lists its entries in another order. -/
  | listing {entries listed : List (String × Tree)} : entries.Perm listed →
      Relisted (.folder entries) (.folder listed)
  /-- Folders are listed anew within one entry. -/
  | inside (before after : List (String × Tree)) (name : String) {tree other : Tree} :
      Relisted tree other →
      Relisted (.folder (before ++ (name, tree) :: after))
        (.folder (before ++ (name, other) :: after))
  | trans {tree between other : Tree} :
      Relisted tree between → Relisted between other → Relisted tree other

variable {tree other : Tree}

/-! ## Names and places -/

/-- What stands in a folder has a name that can stand there. -/
theorem Sound.entry? (h : tree.Sound) {name : String} {below : Tree}
    (hb : tree.entry? name = some below) : IsEntryName name ∧ below.Sound := by
  cases h with
  | file bytes => cases hb
  | folder hkeys hnames hbelow =>
    have hmem := Keyed.mem_of_get? hb
    exact ⟨hnames _ hmem, hbelow _ hmem⟩

theorem Sound.find? (h : tree.Sound) {place : List String} {found : Tree}
    (hf : tree.find? place = some found) :
    (∀ name ∈ place, IsEntryName name) ∧ found.Sound := by
  induction place generalizing tree with
  | nil =>
    cases hf
    exact ⟨fun _ hname => absurd hname List.not_mem_nil, h⟩
  | cons name rest ih =>
    obtain ⟨below, hbelow, hrest⟩ := Option.bind_eq_some_iff.mp hf
    obtain ⟨hname, hsound⟩ := h.entry? hbelow
    obtain ⟨hnames, hfound⟩ := ih hsound hrest
    exact ⟨List.forall_mem_cons.mpr ⟨hname, hnames⟩, hfound⟩

/-! ## Trees listed anew -/

namespace Relisted

theorem symm (h : Relisted tree other) : Relisted other tree := by
  induction h with
  | refl tree => exact refl tree
  | listing hperm => exact listing hperm.symm
  | inside before after name _ ih => exact inside before after name ih
  | trans _ _ ih ih' => exact trans ih' ih

theorem isFolder_eq (h : Relisted tree other) : other.isFolder = tree.isFolder := by
  induction h with
  | trans _ _ ih ih' => exact ih'.trans ih
  | _ => rfl

/-- A file is not listed. -/
theorem eq_file {bytes : List UInt8} (h : Relisted (.file bytes) other) : other = .file bytes := by
  -- the file becomes a variable, so that the tree in between two steps is covered as well
  generalize he : Tree.file bytes = tree at h
  induction h with
  | refl => rfl
  | listing => cases he
  | inside => cases he
  | trans _ _ ih ih' =>
    obtain rfl := ih he
    exact ih' he

/-- No name stands twice after folders are listed anew. -/
theorem sound (h : Relisted tree other) (hs : tree.Sound) : other.Sound := by
  induction h with
  | refl => exact hs
  | listing hperm =>
    cases hs with
    | folder hkeys hnames hbelow =>
      refine .folder ((hperm.map Prod.fst).nodup_iff.mp hkeys) ?_ ?_
      · intro p hp
        exact hnames p (hperm.mem_iff.mpr hp)
      · intro p hp
        exact hbelow p (hperm.mem_iff.mpr hp)
  | @inside before after name tree other _ ih =>
    cases hs with
    | folder hkeys hnames hbelow =>
      rw [List.forall_mem_append, List.forall_mem_cons] at hnames hbelow
      refine .folder (by simpa [Keyed.keys] using hkeys) ?_ ?_
      · rw [List.forall_mem_append, List.forall_mem_cons]
        exact hnames
      · rw [List.forall_mem_append, List.forall_mem_cons]
        exact ⟨hbelow.1, ih hbelow.2.1, hbelow.2.2⟩
  | trans _ _ ih ih' => exact ih' (ih hs)

/-- What stands under a name stands there again, listed anew. -/
theorem exists_entry? (h : Relisted tree other) (hs : tree.Sound) {name : String} {below : Tree}
    (hb : tree.entry? name = some below) :
    ∃ found, other.entry? name = some found ∧ Relisted below found := by
  induction h generalizing below with
  | refl => exact ⟨below, hb, refl below⟩
  | listing hperm =>
    cases hs with
    | folder hkeys => exact ⟨below, (Keyed.get?_perm hkeys hperm name).symm.trans hb, refl below⟩
  | @inside before after changed tree other h _ =>
    cases (inside before after changed h).sound hs with
    | folder hkeys =>
      -- either the entry itself is asked for, or one that stands as it did
      rcases List.mem_append.mp (Keyed.mem_of_get? hb) with hmem | hmem
      · exact ⟨below, (Keyed.get?_eq_some_iff hkeys).mpr (List.mem_append_left _ hmem), refl below⟩
      rcases List.mem_cons.mp hmem with he | hmem
      · cases he
        exact ⟨other, (Keyed.get?_eq_some_iff hkeys).mpr (by simp), h⟩
      · refine ⟨below, (Keyed.get?_eq_some_iff hkeys).mpr ?_, refl below⟩
        exact List.mem_append_right _ (List.mem_cons_of_mem _ hmem)
  | trans h h' ih ih' =>
    obtain ⟨between, hbetween, hrel⟩ := ih hs hb
    obtain ⟨found, hfound, hrel'⟩ := ih' (h.sound hs) hbetween
    exact ⟨found, hfound, hrel.trans hrel'⟩

/-- What stands at a place stands there again, listed anew. -/
theorem exists_find? (h : Relisted tree other) (hs : tree.Sound) {place : List String}
    {below : Tree} (hb : tree.find? place = some below) :
    ∃ found, other.find? place = some found ∧ Relisted below found := by
  induction place generalizing tree other with
  | nil =>
    cases hb
    exact ⟨other, rfl, h⟩
  | cons name rest ih =>
    obtain ⟨first, hfirst, hrest⟩ := Option.bind_eq_some_iff.mp hb
    obtain ⟨again, hagain, hrel⟩ := h.exists_entry? hs hfirst
    obtain ⟨found, hfound, hrel'⟩ := ih hrel (hs.entry? hfirst).2 hrest
    exact ⟨found, Option.bind_eq_some_iff.mpr ⟨again, hagain, hfound⟩, hrel'⟩

/-- The same files stand at the same places. -/
theorem find?_file (h : Relisted tree other) (hs : tree.Sound) {place : List String}
    {bytes : List UInt8} :
    other.find? place = some (.file bytes) ↔ tree.find? place = some (.file bytes) := by
  constructor
  · intro hfile
    obtain ⟨found, hfound, hrel⟩ := h.symm.exists_find? (h.sound hs) hfile
    rw [hfound, hrel.eq_file]
  · intro hfile
    obtain ⟨found, hfound, hrel⟩ := h.exists_find? hs hfile
    rw [hfound, hrel.eq_file]

/-- The same places are there, and the same of them are folders. -/
theorem map_isFolder_find? (h : Relisted tree other) (hs : tree.Sound) (place : List String) :
    (other.find? place).map isFolder = (tree.find? place).map isFolder := by
  cases hfind : tree.find? place with
  | some below =>
    obtain ⟨found, hfound, hrel⟩ := h.exists_find? hs hfind
    rw [hfound, Option.map_some, Option.map_some, hrel.isFolder_eq]
  | none =>
    cases hother : other.find? place with
    | none => rfl
    | some found =>
      obtain ⟨below, hbelow, -⟩ := h.symm.exists_find? (h.sound hs) hother
      rw [hfind] at hbelow
      cases hbelow

end Relisted

end Tree

/-! ## Disks listed anew -/

namespace Disk

/-- Two disks that differ at most in the order in which their folders are listed. -/
structure Relisted (disk other : Disk) : Prop where
  root : disk.root.Relisted other.root
  home : other.home = disk.home

variable {disk other : Disk}

/-- A name leads on from a folder, and to what is there. -/
theorem step_eq (disk : Disk) (here : List String) (name : String) :
    disk.step here name =
      if (disk.root.find? here).any Tree.isFolder then
        if name = "." then some here
        else if name = ".." then some here.dropLast
        else if (disk.root.find? (here ++ [name])).isSome then some (here ++ [name])
        else none
      else none := by
  rw [step, Tree.find?_append]
  cases disk.root.find? here with
  | none => rfl
  | some tree =>
    cases tree with
    | file bytes => rfl
    | folder entries =>
      simp only [Option.any_some, Tree.isFolder, if_true, Option.bind_some, Tree.find?, Tree.entry?,
        Option.bind_fun_some, Keyed.contains]
      rfl

namespace Relisted

theorem any_isFolder (h : Relisted disk other) (hs : disk.root.Sound) (place : List String) :
    (other.root.find? place).any Tree.isFolder = (disk.root.find? place).any Tree.isFolder := by
  have hmap := congrArg (Option.any id) (h.root.map_isFolder_find? hs place)
  rwa [Option.any_map, Option.any_map] at hmap

theorem isSome_find? (h : Relisted disk other) (hs : disk.root.Sound) (place : List String) :
    (other.root.find? place).isSome = (disk.root.find? place).isSome := by
  have hmap := congrArg Option.isSome (h.root.map_isFolder_find? hs place)
  rwa [Option.isSome_map, Option.isSome_map] at hmap

/-- A path leads to the same place. -/
theorem locate?_eq (h : Relisted disk other) (hs : disk.root.Sound) :
    other.locate? = disk.locate? := by
  have hstep : other.step = disk.step := by
    funext here name
    simp only [step_eq, h.any_isFolder hs, h.isSome_find? hs]
  have hstart : other.start = disk.start := by
    funext path
    rw [start, start, h.home]
  funext text
  simp only [locate?, hstep, hstart, h.any_isFolder hs]

end Relisted

/-- What a path leads to is as sound as the disk. -/
theorem sound_of_tree? (hs : disk.root.Sound) {path : String} {tree : Tree}
    (ht : disk.tree? path = some tree) : tree.Sound := by
  obtain ⟨place, -, hfind⟩ := Option.bind_eq_some_iff.mp ht
  exact (hs.find? hfind).2

end Disk

end QuerySchema.Files
