import QuerySchema.Proofs.ConvertCommand
import QuerySchema.Proofs.FolderListings

/-!
What is loaded from a folder.

The sources below a folder come from a walk in the order in which its folders are listed, and are
then put in the order of their paths. A path joins the names that lead to a file; none of them is
empty or holds a slash, so the path reads back as these names, and no two files have the same one.
So the paths increase strictly, and the files alone decide which sources there are and in which
order, whichever way their folders are listed.

What is proved:
  1. `Outcome.mapM_eq_ok`: what a list of steps yields when it succeeds, step by step.
  2. `pathBelow_injective`: below one path, different places have different paths.
  3. `isSourcePath_join`: the ending of a path is that of its last name.
  4. `Tree.mem_sources`, `Tree.pairwise_sources`: the walk comes to each file with one of the
     endings once.
  5. `Disk.pairwise_sources`, `Disk.Relisted.sources_eq`: the paths of the sources increase, and no
     listing makes a difference.
  6. `load_exact`: all of it, for every disk and path.
-/

namespace QuerySchema

namespace Outcome

variable {ε α β : Type}

/-- A list of steps yields what its steps yield in turn. -/
theorem mapM_eq_ok {f : α → Except ε β} {xs : List α} {ys : List β} :
    xs.mapM f = .ok ys ↔ List.Forall₂ (fun x y => f x = .ok y) xs ys := by
  induction xs generalizing ys with
  | nil => exact ⟨fun h => by cases h; exact .nil, fun h => by cases h; rfl⟩
  | cons x xs ih =>
    rw [List.mapM_cons, bind_eq_ok, List.forall₂_cons_left_iff]
    refine exists_congr fun y => ?_
    constructor
    · rintro ⟨hy, h⟩
      obtain ⟨rest, hrest, hpure⟩ := bind_eq_ok.mp h
      cases hpure
      exact ⟨rest, hy, ih.mp hrest, rfl⟩
    · rintro ⟨rest, hy, hrest, rfl⟩
      exact ⟨hy, bind_eq_ok.mpr ⟨rest, ih.mpr hrest, rfl⟩⟩

end Outcome

namespace Files

open GraphQL Schema

/-! ## Paths -/

/-- The path of a place below a path. -/
def pathBelow (path : String) (place : List String) : String := place.foldl join path

/-- A path with the slash behind which a name is joined to it. -/
def opened (path : String) : List Char :=
  if path.toList.getLast? = some '/' then path.toList else path.toList ++ ['/']

theorem toList_join (folder name : String) :
    (join folder name).toList = opened folder ++ name.toList := by
  unfold join opened
  split
  · rw [String.toList_append]
  · rw [String.toList_append, String.toList_append]
    rfl

/-- A name that is joined to a path needs a slash of its own behind it. -/
theorem opened_join {name : String} (hname : IsEntryName name) (folder : String) :
    opened (join folder name) = opened folder ++ (name.toList ++ ['/']) := by
  have hlast : (join folder name).toList.getLast? ≠ some '/' := by
    rw [toList_join, List.getLast?_append]
    cases hl : name.toList.getLast? with
    | none =>
      rw [List.getLast?_eq_none_iff, String.toList_eq_nil_iff] at hl
      exact absurd hl hname.1
    | some c =>
      rw [Option.some_or, ne_eq, Option.some.injEq]
      rintro rfl
      exact hname.2 (List.mem_of_getLast? hl)
  rw [opened, if_neg hlast, toList_join, List.append_assoc]

theorem opened_pathBelow {place : List String} (hplace : ∀ name ∈ place, IsEntryName name)
    (path : String) :
    opened (pathBelow path place) =
      opened path ++ place.flatMap fun name => name.toList ++ ['/'] := by
  induction place generalizing path with
  | nil => exact (List.append_nil _).symm
  | cons name rest ih =>
    obtain ⟨hname, hrest⟩ := List.forall_mem_cons.mp hplace
    show opened (pathBelow (join path name) rest) = _
    rw [ih hrest, opened_join hname, List.flatMap_cons, List.append_assoc]

theorem pieces_append_slash {cs : List Char} (h : '/' ∉ cs) (rest : List Char) :
    pieces (cs ++ '/' :: rest) = cs :: pieces rest := by
  induction cs with
  | nil => rfl
  | cons c cs ih =>
    rw [List.mem_cons, not_or] at h
    rw [List.cons_append, pieces, if_neg (fun e => h.1 e.symm), ih h.2]

/-- Names that hold no slash are what stands between the slashes behind them. -/
theorem pieces_flatMap {place : List String} (hplace : ∀ name ∈ place, IsEntryName name) :
    pieces (place.flatMap fun name => name.toList ++ ['/']) = place.map String.toList ++ [[]] := by
  induction place with
  | nil => rfl
  | cons name rest ih =>
    obtain ⟨hname, hrest⟩ := List.forall_mem_cons.mp hplace
    rw [List.flatMap_cons, List.append_assoc, List.singleton_append, pieces_append_slash hname.2,
      ih hrest, List.map_cons, List.cons_append]

/-- Below one path, different places have different paths. -/
theorem pathBelow_injective {path : String} {place other : List String}
    (hplace : ∀ name ∈ place, IsEntryName name) (hother : ∀ name ∈ other, IsEntryName name)
    (h : pathBelow path place = pathBelow path other) : place = other := by
  have hopened := congrArg opened h
  rw [opened_pathBelow hplace, opened_pathBelow hother] at hopened
  have hpieces := congrArg pieces (List.append_cancel_left hopened)
  rw [pieces_flatMap hplace, pieces_flatMap hother] at hpieces
  exact List.map_injective_iff.mpr (fun _ _ => String.toList_injective)
    (List.append_cancel_right hpieces)

/-! ## Endings -/

/-- Whether a name is that of a GraphQL file. -/
def IsSourceName (name : String) : Prop :=
  ∃ ending ∈ [".graphql", ".graphqls", ".gql"], ending.toList <:+ name.toList

theorem slash_not_mem_ending : ∀ ending ∈ endings, '/' ∉ ending.toList := by decide

theorem exists_opened_eq (folder : String) : ∃ before, opened folder = before ++ ['/'] := by
  unfold opened
  split
  · next hlast => exact List.getLast?_eq_some_iff.mp hlast
  · exact ⟨_, rfl⟩

/-- What a text ends with stands behind its last slash, if it holds none itself. -/
theorem suffix_of_suffix_append {ending before rest : List Char} (hslash : '/' ∉ ending)
    (h : ending <:+ before ++ '/' :: rest) : ending <:+ rest := by
  rcases List.suffix_or_suffix_of_suffix h (List.suffix_append before _) with hshort | hlong
  · rcases List.suffix_cons_iff.mp hshort with rfl | hrest
    · exact absurd List.mem_cons_self hslash
    · exact hrest
  · exact absurd (hlong.subset List.mem_cons_self) hslash

/-- A path ends like its last name: no ending reaches beyond the slash. -/
theorem isSourcePath_join (folder name : String) :
    isSourcePath (join folder name) = true ↔ IsSourceName name := by
  obtain ⟨before, hopened⟩ := exists_opened_eq folder
  have hpath : (join folder name).toList = before ++ '/' :: name.toList := by
    rw [toList_join, hopened, List.append_assoc, List.singleton_append]
  rw [isSourcePath, List.any_eq_true]
  refine exists_congr fun ending => and_congr_right fun hending => ?_
  rw [List.isSuffixOf_iff_suffix, hpath]
  constructor
  · intro hsuffix
    exact suffix_of_suffix_append (slash_not_mem_ending ending hending) hsuffix
  · intro hsuffix
    exact (hsuffix.trans (List.suffix_cons '/' _)).trans (List.suffix_append before _)

/-! ## The walk -/

theorem entrySources_eq (path : String) (entries : List (String × Tree)) :
    entrySources path entries = entries.flatMap fun p => p.2.sources (join path p.1) := by
  induction entries with
  | nil => rfl
  | cons p rest ih => rw [entrySources, ih, List.flatMap_cons]

namespace Tree

variable {tree : Tree}

/-- The walk comes to the files that have a source path, each under the path of its place. -/
theorem mem_sources (h : tree.Sound) {path : String} {source : Source} :
    source ∈ tree.sources path ↔ ∃ place, tree.find? place = some (.file source.bytes) ∧
      source.path = pathBelow path place ∧ isSourcePath source.path = true := by
  induction h generalizing path with
  | file bytes =>
    rw [sources]
    constructor
    · intro hmem
      split at hmem
      · next hpath =>
        obtain rfl := List.mem_singleton.mp hmem
        exact ⟨[], rfl, rfl, hpath⟩
      · cases hmem
    · rintro ⟨place, hfind, hpath, hsource⟩
      cases place with
      | nil =>
        cases hfind
        rw [← show source.path = path from hpath, if_pos hsource]
        exact List.mem_singleton.mpr rfl
      | cons name rest => cases hfind
  | @folder entries hkeys _ _ ih =>
    rw [sources, entrySources_eq, List.mem_flatMap]
    -- the first name of a place leads to an entry, the others go on below it
    constructor
    · rintro ⟨p, hp, hmem⟩
      obtain ⟨place, hfind, hpath, hsource⟩ := (ih p hp).mp hmem
      have hentry : entry? (.folder entries) p.1 = some p.2 :=
        (Keyed.get?_eq_some_iff hkeys).mpr hp
      exact ⟨p.1 :: place, Option.bind_eq_some_iff.mpr ⟨p.2, hentry, hfind⟩, hpath, hsource⟩
    · rintro ⟨place, hfind, hpath, hsource⟩
      cases place with
      | nil => cases hfind
      | cons name rest =>
        obtain ⟨below, hbelow, hrest⟩ := Option.bind_eq_some_iff.mp hfind
        have hp : (name, below) ∈ entries := Keyed.mem_of_get? hbelow
        exact ⟨(name, below), hp, (ih _ hp).mpr ⟨rest, hrest, hpath, hsource⟩⟩

/-- A source below an entry has the path of a place below it. -/
theorem exists_place_of_mem {p : String × Tree} (hname : IsEntryName p.1) (h : p.2.Sound)
    {path : String} {source : Source} (hmem : source ∈ p.2.sources (join path p.1)) :
    ∃ place, (∀ name ∈ p.1 :: place, IsEntryName name) ∧
      source.path = pathBelow path (p.1 :: place) := by
  obtain ⟨place, hfind, hpath, -⟩ := (mem_sources h).mp hmem
  exact ⟨place, List.forall_mem_cons.mpr ⟨hname, (h.find? hfind).1⟩, hpath⟩

/-- The walk comes to no path twice. -/
theorem pairwise_sources (h : tree.Sound) (path : String) :
    (tree.sources path).Pairwise fun a b => a.path ≠ b.path := by
  induction h generalizing path with
  | file bytes =>
    rw [sources]
    split
    · exact List.pairwise_singleton _ _
    · exact .nil
  | @folder entries hkeys hnames hbelow ih =>
    rw [sources, entrySources_eq, List.pairwise_flatMap]
    refine ⟨fun p hp => ih p hp _, (List.pairwise_map.mp hkeys).imp_of_mem ?_⟩
    intro p q hp hq hne a ha b hb he
    -- the paths of two entries part at the names of these
    obtain ⟨place, hplace, hpath⟩ := exists_place_of_mem (hnames p hp) (hbelow p hp) ha
    obtain ⟨place', hplace', hpath'⟩ := exists_place_of_mem (hnames q hq) (hbelow q hq) hb
    rw [hpath, hpath'] at he
    exact hne (List.cons.inj (pathBelow_injective hplace hplace' he)).1

end Tree

/-! ## The sources of a disk -/

/-- Sorted sources stand in the order of their paths. -/
theorem Source.pairwise_mergeSort (sources : List Source) :
    (sources.mergeSort fun a b => !decide (b.path < a.path)).Pairwise
      fun a b => a.path ≤ b.path := by
  have hle (a b : Source) : (!decide (b.path < a.path)) = true ↔ a.path ≤ b.path := by
    rw [Bool.not_eq_true', decide_eq_false_iff_not, String.not_lt]
  have htrans (a b c : Source) : (!decide (b.path < a.path)) = true →
      (!decide (c.path < b.path)) = true → (!decide (c.path < a.path)) = true := by
    rw [hle, hle, hle]
    exact String.le_trans
  have htotal (a b : Source) :
      (!decide (b.path < a.path) || !decide (a.path < b.path)) = true := by
    rw [Bool.or_eq_true, hle, hle]
    exact String.le_total a.path b.path
  exact (List.pairwise_mergeSort htrans htotal sources).imp fun {a b} h => (hle a b).mp h

namespace Disk

variable {disk other : Disk}

theorem mem_sources (hs : disk.root.Sound) {path : String} {source : Source} :
    source ∈ disk.sources path ↔ ∃ top place, disk.locate? path = some top ∧
      disk.root.find? (top ++ place) = some (.file source.bytes) ∧
        source.path = pathBelow path place ∧ isSourcePath source.path = true := by
  unfold sources tree?
  cases disk.locate? path with
  | none => simp
  | some top =>
    simp only [Option.bind_some, Option.some.injEq, exists_and_left, exists_eq_left',
      Tree.find?_append]
    cases hfind : disk.root.find? top with
    | none => simp
    | some tree =>
      rw [(List.mergeSort_perm _ _).mem_iff, Tree.mem_sources (hs.find? hfind).2]
      rfl

/-- The paths of the sources increase. -/
theorem pairwise_sources (hs : disk.root.Sound) (path : String) :
    (disk.sources path).Pairwise fun a b => a.path < b.path := by
  unfold sources
  cases htree : disk.tree? path with
  | none => exact .nil
  | some tree =>
    have hdistinct : ((tree.sources path).mergeSort fun a b => !decide (b.path < a.path)).Pairwise
        fun a b => a.path ≠ b.path :=
      ((List.mergeSort_perm _ _).pairwise_iff fun h => h.symm).mpr
        (Tree.pairwise_sources (sound_of_tree? hs htree) path)
    refine ((Source.pairwise_mergeSort _).and hdistinct).imp fun {a b} ⟨hle, hne⟩ => ?_
    exact Decidable.byContradiction fun hlt => hne (String.le_antisymm hle (String.not_lt.mp hlt))

/-- Listing folders anew makes no difference to the sources. -/
theorem Relisted.sources_eq (h : disk.Relisted other) (hs : disk.root.Sound) (path : String) :
    other.sources path = disk.sources path := by
  have hs' := h.root.sound hs
  -- two lists in strict order are the same once they hold the same sources
  have : Std.Asymm fun a b : Source => a.path < b.path := ⟨fun _ _ => String.lt_asymm⟩
  refine (pairwise_sources hs' path).eq_of_mem_iff (pairwise_sources hs path) fun source => ?_
  simp only [mem_sources hs, mem_sources hs', h.locate?_eq hs, h.root.find?_file hs]

end Disk

/-! ## What is loaded -/

namespace Source

variable {source : Source}

/-- A source holds no document when it cannot be decoded or its text cannot be parsed. -/
theorem exists_document_eq_error : (∃ e, source.document = .error e) ↔
    (∃ fault, readText source.bytes = .error fault) ∨
      ∃ text e, readText source.bytes = .ok text ∧ Document.ofText text = .error e := by
  simp only [Source.document, Outcome.bind_eq_error, Outcome.mapError_eq_error,
    Outcome.mapError_eq_ok]
  constructor
  · rintro ⟨e, ⟨fault, hfault, rfl⟩ | ⟨text, htext, error, herror, rfl⟩⟩
    · exact .inl ⟨fault, hfault⟩
    · exact .inr ⟨text, error, htext, herror⟩
  · rintro (⟨fault, hfault⟩ | ⟨text, error, htext, herror⟩)
    · exact ⟨_, .inl ⟨fault, hfault, rfl⟩⟩
    · exact ⟨_, .inr ⟨text, htext, error, herror, rfl⟩⟩

end Source

namespace Disk

variable {disk other : Disk}

/-- The sources below a folder are the files in it, at any depth, whose name has one of the three
endings. -/
theorem mem_sources_folder (hs : disk.root.Sound) {path : String} {entries : List (String × Tree)}
    (htree : disk.tree? path = some (.folder entries)) {source : Source} :
    source ∈ disk.sources path ↔ ∃ folders name,
      (Tree.folder entries).find? (folders ++ [name]) = some (.file source.bytes) ∧
        IsSourceName name ∧ source.path = join (pathBelow path folders) name := by
  have hbelow (folders : List String) (name : String) :
      pathBelow path (folders ++ [name]) = join (pathBelow path folders) name :=
    List.foldl_concat ..
  rw [sources, htree, (List.mergeSort_perm _ _).mem_iff, Tree.mem_sources (sound_of_tree? hs htree)]
  constructor
  · rintro ⟨place, hfind, hpath, hsource⟩
    rcases List.eq_nil_or_concat' place with rfl | ⟨folders, name, rfl⟩
    · cases hfind
    · rw [hpath, hbelow, isSourcePath_join] at hsource
      exact ⟨folders, name, hfind, hsource, hpath.trans (hbelow folders name)⟩
  · rintro ⟨folders, name, hfind, hname, hpath⟩
    refine ⟨folders ++ [name], hfind, hpath.trans (hbelow folders name).symm, ?_⟩
    rw [hpath, isSourcePath_join]
    exact hname

theorem load_eq_ok {path : String} {document : Document} :
    (disk.load path).result = .ok document ↔ ∃ documents,
      List.Forall₂ (fun source document => Source.document source = .ok document)
        (disk.sources path) documents ∧ document = documents.flatten := by
  rw [load, result_loadAll, Outcome.map_eq_ok]
  exact exists_congr fun documents => and_congr Outcome.mapM_eq_ok eq_comm

theorem load_eq_error {path : String} {e : LoadError} :
    (disk.load path).result = .error e ↔ ∃ before source after,
      disk.sources path = before ++ source :: after ∧
        (∀ earlier ∈ before, ∃ document, Source.document earlier = .ok document) ∧
          source.document = .error e := by
  rw [load, result_loadAll, Outcome.map_eq_error, Outcome.mapM_eq_error]

/-- Loading fails just when it does for some source. -/
theorem exists_load_eq_error {path : String} : (∃ e, (disk.load path).result = .error e) ↔
    ∃ source ∈ disk.sources path, ∃ e, Source.document source = .error e := by
  constructor
  · rintro ⟨e, h⟩
    obtain ⟨before, source, after, hsources, -, he⟩ := load_eq_error.mp h
    exact ⟨source, hsources ▸ List.mem_append_right _ List.mem_cons_self, e, he⟩
  · rintro ⟨source, hsource, e, he⟩
    cases hload : (disk.load path).result with
    | error e' => exact ⟨e', rfl⟩
    | ok document =>
      rw [load, result_loadAll] at hload
      obtain ⟨documents, hdocuments, -⟩ := Outcome.map_eq_ok.mp hload
      obtain ⟨found, -, hfound⟩ := Outcome.exists_of_mapM hdocuments source hsource
      rw [he] at hfound
      cases hfound

/-- The sources below a path stand in the order of their paths, each path once. Below a folder they
are the files at any depth whose name has one of the three endings, each under the path that joins
the names that lead to it. What is loaded are the documents in the sources, one behind the other; it
fails just when some source cannot be decoded or parsed, as the first such source does. A disk that
lists its folders in another order has the same sources, loads the same and so leads to the same
conversion. -/
theorem load_exact (disk : Disk) (hs : disk.root.Sound) (path : String) :
    (disk.sources path).Pairwise (fun a b => a.path < b.path) ∧
    (∀ entries, disk.tree? path = some (.folder entries) → ∀ source,
      source ∈ disk.sources path ↔ ∃ folders name,
        (Tree.folder entries).find? (folders ++ [name]) = some (.file source.bytes) ∧
          IsSourceName name ∧ source.path = join (pathBelow path folders) name) ∧
    (∀ document, (disk.load path).result = .ok document ↔ ∃ documents,
      List.Forall₂ (fun source document => Source.document source = .ok document)
        (disk.sources path) documents ∧ document = documents.flatten) ∧
    (∀ e, (disk.load path).result = .error e ↔ ∃ before source after,
      disk.sources path = before ++ source :: after ∧
        (∀ earlier ∈ before, ∃ document, Source.document earlier = .ok document) ∧
          source.document = .error e) ∧
    ((∃ e, (disk.load path).result = .error e) ↔ ∃ source ∈ disk.sources path,
      (∃ fault, readText source.bytes = .error fault) ∨
        ∃ text e, readText source.bytes = .ok text ∧ Document.ofText text = .error e) ∧
    ∀ other, disk.Relisted other →
      other.sources path = disk.sources path ∧ other.load path = disk.load path ∧
        ∀ converter : Converter, (other.load path).result.map converter.convertDocument =
          (disk.load path).result.map converter.convertDocument := by
  refine ⟨pairwise_sources hs path, ?_, ?_, ?_, ?_, ?_⟩
  · intro entries htree source
    exact mem_sources_folder hs htree
  · intro document
    exact load_eq_ok
  · intro e
    exact load_eq_error
  · simp only [exists_load_eq_error, Source.exists_document_eq_error]
  · intro other hother
    have hsources := hother.sources_eq hs path
    have hload : other.load path = disk.load path := by rw [load, load, hsources]
    refine ⟨hsources, hload, ?_⟩
    intro converter
    rw [hload]

/-- A folder that lists a folder first, and files in an order unlike that of their paths. -/
def mixedFolder : Tree := .folder
  [("a", .folder [("x.gql", .file []), ("y", .folder [])]), ("b.txt", .file []),
    ("a.graphqls", .file [0xFF]), ("a-b.graphql", .file CommandLine.spreadBytes)]

/-- A disk with the folder. -/
def mixedDisk : Disk := ⟨.folder [("w", mixedFolder)], []⟩

/-- The disk when the folder, and the folder in it, list their entries in another order. -/
def mixedDiskAnew : Disk := ⟨.folder [("w", .folder
  [("b.txt", .file []), ("a", .folder [("y", .folder []), ("x.gql", .file [])]),
    ("a.graphqls", .file [0xFF]), ("a-b.graphql", .file CommandLine.spreadBytes)])], []⟩

theorem sound_mixedDisk : mixedDisk.root.Sound := by
  refine .folder (by decide) (by decide) (List.forall_mem_singleton.mpr ?_)
  refine .folder (by decide) (by decide) ?_
  simp only [List.forall_mem_cons]
  refine ⟨.folder (by decide) (by decide) ?_, .file _, .file _, .file _, List.forall_mem_nil _⟩
  simp only [List.forall_mem_cons]
  exact ⟨.file _, .folder (by decide) (by decide) (List.forall_mem_nil _), List.forall_mem_nil _⟩

theorem relisted_mixedDisk : mixedDisk.Relisted mixedDiskAnew where
  root := .inside [] [] "w"
    (.trans (.inside [] _ "a" (.listing (.swap _ _ _))) (.listing (.swap _ _ _)))
  home := rfl

theorem tree?_mixedDisk : mixedDisk.tree? "w" = some mixedFolder := by cbv

theorem sources_mixedDisk : mixedDisk.sources "w" =
    [⟨"w/a-b.graphql", CommandLine.spreadBytes⟩, ⟨"w/a.graphqls", [0xFF]⟩, ⟨"w/a/x.gql", []⟩] := by
  have hwalk : mixedFolder.sources "w" = [⟨"w/a/x.gql", []⟩, ⟨"w/a.graphqls", [0xFF]⟩,
      ⟨"w/a-b.graphql", CommandLine.spreadBytes⟩] := by
    simp only [mixedFolder, Tree.sources, entrySources]
    rfl
  simp [sources, tree?_mixedDisk, hwalk, List.mergeSort, List.MergeSort.Internal.splitInTwo,
    -String.lt_iff_ltb]

/-- Of the three sources the second holds no text and the third no document. The walk comes to the
third first, but the second ends the loading, in whichever order the folders are listed. -/
theorem load_exact_mixedDisk :
    mixedDisk.root.Sound ∧ mixedDisk.Relisted mixedDiskAnew ∧
      mixedDisk.tree? "w" = some mixedFolder ∧
      (⟨"w/a/x.gql", []⟩ : Source) ∈ mixedDisk.sources "w" ∧
      (mixedDisk.sources "w").map Source.path =
        ["w/a-b.graphql", "w/a.graphqls", "w/a/x.gql"] ∧
      (mixedDiskAnew.load "w").result = .error (.undecodable ⟨.invalidStart, 0, 0xFF, 1⟩) := by
  have hsecond : Source.document ⟨"w/a.graphqls", [0xFF]⟩ =
      .error (.undecodable ⟨.invalidStart, 0, 0xFF, 1⟩) := by
    have htext : readText [0xFF] = .error ⟨.invalidStart, 0, 0xFF, 1⟩ := by cbv
    rw [Source.document, htext]
    rfl
  obtain ⟨-, hmem, -, hfails, -, hanew⟩ := load_exact mixedDisk sound_mixedDisk "w"
  refine ⟨sound_mixedDisk, relisted_mixedDisk, tree?_mixedDisk, ?_, ?_, ?_⟩
  · refine (hmem _ tree?_mixedDisk _).mpr ⟨["a"], "x.gql", rfl, ⟨".gql", ?_, ?_⟩, ?_⟩ <;> decide
  · rw [sources_mixedDisk]
    rfl
  · rw [(hanew _ relisted_mixedDisk).2.1, hfails, sources_mixedDisk]
    refine ⟨[_], _, [_], rfl, fun earlier hearlier => ?_, hsecond⟩
    obtain rfl := List.mem_singleton.mp hearlier
    exact ⟨_, CommandLine.document_spreadBytes _⟩

end Disk

end Files

end QuerySchema
