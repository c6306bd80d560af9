import Mathlib.Data.List.Sort
import NetworkRollout.Manifest.Directory
import NetworkRollout.Proofs.Readings
import NetworkRollout.Proofs.Text.ByteOrder
import NetworkRollout.Proofs.Text.Pieces

/-!
# Loading manifests

The files of a directory are told by their names and loaded in the order of the names, whatever the
order in which the directory lists them. All of their documents become objects, or none does: the
first file that fails decides.

* `Directory.IsManifestFile`: which entries are loaded.
* `Directory.FilesOf`, `Directory.filesOf_manifests`: the files and their order.
* `Object.OfDocuments`: the objects of documents.
* `Directory.Holds`, `Directory.Fails`: what a file gives, and how it fails.
* `Directory.load_by_name`: what a directory gives.
-/

namespace NetworkRollout

namespace Directory

/-! ## Files -/

/-- The extension of a name is behind its last dot, and something is in front of the dot. -/
theorem extension?_eq_some_iff {name extension : String} :
    extension? name = some extension ↔ '.' ∉ extension.toList ∧
      ∃ stem, stem ≠ [] ∧ name.toList = stem ++ '.' :: extension.toList := by
  have hcut : extension? name = (Text.cutAt '.' name.toList.reverse).2.bind fun stem =>
      if stem.isEmpty then none
      else some (String.ofList (Text.cutAt '.' name.toList.reverse).1.reverse) := by
    unfold extension? Text.cutAt
    dsimp only
    rcases name.toList.reverse.dropWhile (· ≠ '.') with _ | ⟨c, _ | ⟨d, rest⟩⟩ <;> rfl
  rw [hcut]
  constructor
  · intro h
    rcases hback : Text.cutAt '.' name.toList.reverse with ⟨back, stem?⟩
    rw [hback] at h
    obtain ⟨stem, rfl, h⟩ := Option.bind_eq_some_iff.mp h
    obtain ⟨hne, h⟩ := Option.ite_none_left_eq_some.mp h
    cases h
    obtain ⟨hdot, hname⟩ := Text.cutAt_eq_iff.mp hback
    rw [String.toList_ofList]
    refine ⟨fun hmem => hdot (List.mem_reverse.mp hmem), stem.reverse, by simpa using hne, ?_⟩
    rw [← List.reverse_reverse name.toList, hname]
    simp [Text.rejoin]
  · rintro ⟨hdot, stem, hstem, hname⟩
    have hback : name.toList.reverse = extension.toList.reverse ++ '.' :: stem.reverse := by
      rw [hname]
      simp
    rw [hback, Text.cutAt_append fun hmem => hdot (List.mem_reverse.mp hmem)]
    cases hfront : stem.reverse with
    | nil => exact absurd (List.reverse_eq_nil_iff.mp hfront) hstem
    | cons c cs => simp

/-- A file with something in front of the last dot of its name and an extension behind it. -/
structure IsManifestFile (entry : String × DirectoryEntry) : Prop where
  file : entry.2 ≠ .directory
  named : ∃ extension ∈ ["yaml", "yml", "json"], ∃ stem, stem ≠ [] ∧
    entry.1.toList = stem ++ '.' :: extension.toList

theorem isManifest_iff {entry : String × DirectoryEntry} :
    isManifest entry = true ↔ IsManifestFile entry := by
  have hdots : ∀ extension ∈ ["yaml", "yml", "json"], '.' ∉ extension.toList := by decide
  unfold isManifest
  rw [Bool.and_eq_true, decide_eq_true_iff, decide_eq_true_iff]
  constructor
  · rintro ⟨hfile, hextension⟩
    obtain ⟨extension, hmem, heq⟩ :
        ∃ extension ∈ ["yaml", "yml", "json"], extension? entry.1 = some extension := by
      simpa using hextension
    exact ⟨hfile, extension, hmem, (extension?_eq_some_iff.mp heq).2⟩
  · rintro ⟨hfile, extension, hmem, hnamed⟩
    rw [extension?_eq_some_iff.mpr ⟨hdots extension hmem, hnamed⟩]
    exact ⟨hfile, by simpa using hmem⟩

/-- The files are those of the entries, in the order of their names. -/
structure FilesOf (entries files : List (String × DirectoryEntry)) : Prop where
  ascending : files.Pairwise fun a b => Text.bytes a.1 < Text.bytes b.1
  mem_iff : ∀ entry, entry ∈ files ↔ entry ∈ entries ∧ IsManifestFile entry

/-- No two lists are the files of one directory. -/
theorem FilesOf.eq {entries files files' : List (String × DirectoryEntry)}
    (h : FilesOf entries files) (h' : FilesOf entries files') : files = files' := by
  have hnodup : ∀ {fs : List (String × DirectoryEntry)}, FilesOf entries fs → fs.Nodup := by
    intro fs hfs
    refine hfs.ascending.imp fun hlt heq => ?_
    rw [heq] at hlt
    exact List.lt_irrefl _ hlt
  refine List.Perm.eq_of_pairwise (fun a b _ _ hab hba => absurd hab (List.lt_asymm hba))
    h.ascending h'.ascending ((List.perm_ext_iff_of_nodup (hnodup h) (hnodup h')).mpr ?_)
  intro entry
  rw [h.mem_iff, h'.mem_iff]

theorem filesOf_manifests {entries : List (String × DirectoryEntry)}
    (hnames : (entries.map (·.1)).Nodup) : FilesOf entries (manifests entries) := by
  have hperm : (manifests entries).Perm (entries.filter isManifest) := List.mergeSort_perm _ _
  have hsorted : (manifests entries).Pairwise fun a b => decide (a.1 ≤ b.1) = true := by
    refine List.pairwise_mergeSort ?_ ?_ _
    · intro a b c hab hbc
      exact decide_eq_true (le_trans (of_decide_eq_true hab) (of_decide_eq_true hbc))
    · intro a b
      rw [Bool.or_eq_true, decide_eq_true_iff, decide_eq_true_iff]
      exact le_total a.1 b.1
  have hdifferent : (manifests entries).Pairwise fun a b => a.1 ≠ b.1 := by
    refine hperm.symm.pairwise ?_ fun h => h.symm
    exact (List.pairwise_map.mp hnames).filter _
  constructor
  · refine (hsorted.and hdifferent).imp fun ⟨hle, hne⟩ => ?_
    exact Text.bytes_lt_iff.mpr (lt_of_le_of_ne (of_decide_eq_true hle) hne)
  · intro entry
    rw [hperm.mem_iff, List.mem_filter, isManifest_iff]

/-- The order of the entries does not matter. -/
theorem manifests_eq_of_perm {entries entries' : List (String × DirectoryEntry)}
    (hnames : (entries.map (·.1)).Nodup) (horder : entries'.Perm entries) :
    manifests entries' = manifests entries := by
  have hfiles := filesOf_manifests ((horder.map (·.1)).nodup_iff.mpr hnames)
  refine FilesOf.eq ⟨hfiles.ascending, fun entry => ?_⟩ (filesOf_manifests hnames)
  rw [hfiles.mem_iff, horder.mem_iff]

end Directory

/-! ## Documents -/

namespace Object

/-- The objects of documents in their order. A document that is null is passed over, and any other
one is an object. -/
inductive OfDocuments : List Yaml.Value → List Object → Prop
  | nil : OfDocuments [] []
  | null {v : Yaml.Value} {vs : List Yaml.Value} {objects : List Object}
    (hnull : v.untag = .null) (hrest : OfDocuments vs objects) : OfDocuments (v :: vs) objects
  | object {v : Yaml.Value} {vs : List Yaml.Value} {object : Object} {objects : List Object}
    (hnull : v.untag ≠ .null) (hobject : ofYaml? v = some object) (hrest : OfDocuments vs objects) :
    OfDocuments (v :: vs) (object :: objects)

theorem bne_null_iff {v : Yaml.Value} : (v != .null) = true ↔ v ≠ .null := by
  cases v <;> simp [bne, BEq.beq, Yaml.Value.beq]

theorem ofDocuments?_cons_null {v : Yaml.Value} (vs : List Yaml.Value) (h : v.untag = .null) :
    ofDocuments? (v :: vs) = ofDocuments? vs := by
  rw [ofDocuments?, List.filter_cons, if_neg fun hnull => bne_null_iff.mp hnull h]
  rfl

theorem ofDocuments?_cons {v : Yaml.Value} (vs : List Yaml.Value) (h : v.untag ≠ .null) :
    ofDocuments? (v :: vs) = (ofYaml? v).bind fun o => (ofDocuments? vs).map (o :: ·) := by
  rw [ofDocuments?, List.filter_cons, if_pos (bne_null_iff.mpr h), List.mapM_cons]
  simp only [ofDocuments?, Option.map_eq_bind]
  rfl

theorem ofDocuments?_eq_some_iff {documents : List Yaml.Value} {objects : List Object} :
    ofDocuments? documents = some objects ↔ OfDocuments documents objects := by
  constructor
  · intro h
    induction documents generalizing objects with
    | nil =>
      cases h
      exact .nil
    | cons v vs ih =>
      by_cases hnull : v.untag = .null
      · rw [ofDocuments?_cons_null vs hnull] at h
        exact .null hnull (ih h)
      · rw [ofDocuments?_cons vs hnull] at h
        obtain ⟨object, hobject, h⟩ := Option.bind_eq_some_iff.mp h
        obtain ⟨rest, hrest, rfl⟩ := Option.map_eq_some_iff.mp h
        exact .object hnull hobject (ih hrest)
  · intro h
    induction h with
    | nil => rfl
    | null hnull _ ih => rw [ofDocuments?_cons_null _ hnull, ih]
    | object hnull hobject _ ih =>
      rw [ofDocuments?_cons _ hnull, hobject, ih]
      rfl

theorem ofDocuments?_eq_none_iff {documents : List Yaml.Value} :
    ofDocuments? documents = none ↔ ∃ v ∈ documents, v.untag ≠ .null ∧ ofYaml? v = none := by
  rw [← Option.not_isSome_iff_eq_none, ofDocuments?, isSome_mapM_iff]
  simp [bne_null_iff]

end Object

namespace Directory

/-! ## What a file gives -/

section Contents

variable {path : String} {vars : Template.Variables} {entry : String × DirectoryEntry}

/-- Where a file lies. -/
def sourceOf (path name : String) : String := path ++ "/" ++ name

/-- The objects of a file that can be read and rendered: those of its documents, one by one. -/
inductive Holds (vars : Template.Variables) : String × DirectoryEntry → List Object → Prop
  | intro {name text rendered : String} {documents : List Yaml.Value} {objects : List Object}
    (hrendered : Template.render? text vars = some rendered)
    (hdocuments : Yaml.values? rendered = some documents)
    (hobjects : Object.OfDocuments documents objects) : Holds vars (name, .file text) objects

/-- The ways in which a file fails, with the detail of the failure. -/
inductive Fails (path : String) (vars : Template.Variables) :
    String × DirectoryEntry → String → Prop
  | unreadable {name : String} :
    Fails path vars (name, .unreadable) s!"Failed to read {sourceOf path name}: {Failure.elided}"
  | unrendered {name text : String} (hrendered : Template.render? text vars = none) :
    Fails path vars (name, .file text) (Failure.located (sourceOf path name))
  | unparsed {name text rendered : String} (hrendered : Template.render? text vars = some rendered)
    (hdocuments : Yaml.values? rendered = none) :
    Fails path vars (name, .file text) (Failure.located (sourceOf path name))
  | noObject {name text rendered : String} {documents : List Yaml.Value} {v : Yaml.Value}
    (hrendered : Template.render? text vars = some rendered)
    (hdocuments : Yaml.values? rendered = some documents) (hv : v ∈ documents)
    (hnull : v.untag ≠ .null) (hobject : Object.ofYaml? v = none) :
    Fails path vars (name, .file text) (Failure.located (sourceOf path name))

/-- The objects of a text that is rendered and parsed. -/
def objects? (vars : Template.Variables) (text : String) : Option (List Object) :=
  (Template.render? text vars).bind fun rendered =>
    (Yaml.values? rendered).bind Object.ofDocuments?

theorem loadEntry_file (path name text : String) (vars : Template.Variables) :
    loadEntry path vars (name, .file text) = match objects? vars text with
      | some objects => .ok objects
      | none => .error (.manifest (Failure.located (sourceOf path name))) := by
  unfold loadEntry renderAt objects?
  dsimp only
  cases Template.render? text vars <;> rfl

theorem objects?_eq_some_iff {name text : String} {objects : List Object} :
    objects? vars text = some objects ↔ Holds vars (name, .file text) objects := by
  unfold objects?
  constructor
  · intro h
    obtain ⟨rendered, hrendered, h⟩ := Option.bind_eq_some_iff.mp h
    obtain ⟨documents, hdocuments, h⟩ := Option.bind_eq_some_iff.mp h
    exact ⟨hrendered, hdocuments, Object.ofDocuments?_eq_some_iff.mp h⟩
  · rintro ⟨hrendered, hdocuments, hobjects⟩
    rw [hrendered, Option.bind_some, hdocuments, Option.bind_some,
      Object.ofDocuments?_eq_some_iff.mpr hobjects]

theorem fails_file_iff {name text detail : String} :
    Fails path vars (name, .file text) detail ↔
      objects? vars text = none ∧ detail = Failure.located (sourceOf path name) := by
  unfold objects?
  constructor
  · rintro (_ | hrendered | ⟨hrendered, hdocuments⟩ | ⟨hrendered, hdocuments, hv, hnull, hobject⟩)
    · rw [hrendered]
      exact ⟨rfl, rfl⟩
    · rw [hrendered, Option.bind_some, hdocuments]
      exact ⟨rfl, rfl⟩
    · rw [hrendered, Option.bind_some, hdocuments, Option.bind_some,
        Object.ofDocuments?_eq_none_iff.mpr ⟨_, hv, hnull, hobject⟩]
      exact ⟨rfl, rfl⟩
  · rintro ⟨h, rfl⟩
    cases hrendered : Template.render? text vars with
    | none => exact .unrendered hrendered
    | some rendered =>
      rw [hrendered, Option.bind_some] at h
      cases hdocuments : Yaml.values? rendered with
      | none => exact .unparsed hrendered hdocuments
      | some documents =>
        rw [hdocuments, Option.bind_some] at h
        obtain ⟨v, hv, hnull, hobject⟩ := Object.ofDocuments?_eq_none_iff.mp h
        exact .noObject hrendered hdocuments hv hnull hobject

theorem loadEntry_eq_ok_iff {objects : List Object} :
    loadEntry path vars entry = .ok objects ↔ Holds vars entry objects := by
  obtain ⟨name, content⟩ := entry
  cases content with
  | unreadable => exact ⟨by rintro ⟨⟩, by rintro ⟨⟩⟩
  | directory => exact ⟨by rintro ⟨⟩, by rintro ⟨⟩⟩
  | file text =>
    rw [loadEntry_file, ← objects?_eq_some_iff]
    cases objects? vars text <;> simp

theorem loadEntry_eq_error_iff {e : Failure} (hfile : entry.2 ≠ .directory) :
    loadEntry path vars entry = .error e ↔ ∃ detail, e = .manifest detail ∧
      Fails path vars entry detail := by
  obtain ⟨name, content⟩ := entry
  cases content with
  | unreadable =>
    constructor
    · rintro ⟨⟩
      exact ⟨_, rfl, .unreadable⟩
    · rintro ⟨_, rfl, ⟨⟩⟩
      rfl
  | directory => exact absurd rfl hfile
  | file text =>
    rw [loadEntry_file]
    simp only [fails_file_iff]
    cases objects? vars text <;> simp [eq_comm]

theorem loadEntry_error {e : Failure} (h : loadEntry path vars entry = .error e) :
    ∃ detail, e = .manifest detail := by
  by_cases hfile : entry.2 = .directory
  · unfold loadEntry at h
    rw [hfile] at h
    cases h
    exact ⟨_, rfl⟩
  · obtain ⟨detail, rfl, -⟩ := (loadEntry_eq_error_iff hfile).mp h
    exact ⟨detail, rfl⟩

end Contents

/-! ## What a directory gives -/

section Directories

variable (path : String) (vars : Template.Variables)
  {entries entries' : List (String × DirectoryEntry)}

theorem load_some : load ⟨path, some entries⟩ vars =
    ((manifests entries).mapM (loadEntry path vars)).map List.flatten := by
  unfold load
  dsimp only
  cases (manifests entries).mapM (loadEntry path vars) <;> rfl

theorem load_eq_ok_iff {objects : List Object} : load ⟨path, some entries⟩ vars = .ok objects ↔
    ∃ parts, List.Forall₂ (Holds vars) (manifests entries) parts ∧ parts.flatten = objects := by
  rw [load_some]
  constructor
  · intro h
    cases hparts : (manifests entries).mapM (loadEntry path vars) with
    | error e =>
      rw [hparts] at h
      cases h
    | ok parts =>
      rw [hparts] at h
      cases h
      exact ⟨parts, (mapM_eq_ok_iff_forall₂.mp hparts).imp fun _ _ => loadEntry_eq_ok_iff.mp, rfl⟩
  · rintro ⟨parts, hparts, rfl⟩
    rw [mapM_eq_ok_iff_forall₂.mpr (hparts.imp fun _ _ => loadEntry_eq_ok_iff.mpr)]
    rfl

theorem load_eq_error_iff {e : Failure} : load ⟨path, some entries⟩ vars = .error e ↔
    ∃ before file behind, manifests entries = before ++ file :: behind ∧
      (∀ f ∈ before, ∃ objects, Holds vars f objects) ∧ loadEntry path vars file = .error e := by
  have hmap : ∀ parts : Except Failure (List (List Object)),
      parts.map List.flatten = .error e ↔ parts = .error e := by
    intro parts
    cases parts <;> simp [Except.map]
  rw [load_some, hmap, mapM_eq_error_iff]
  simp only [loadEntry_eq_ok_iff]

theorem load_error {dir : Directory} {vars : Template.Variables} {e : Failure}
    (h : dir.load vars = .error e) : ∃ detail, e = .manifest detail := by
  obtain ⟨path, _ | entries⟩ := dir
  · cases h
    exact ⟨_, rfl⟩
  · obtain ⟨_, file, _, -, -, hfails⟩ := (load_eq_error_iff path vars).mp h
    exact loadEntry_error hfails

/-- A directory whose entries have different names gives the same in whatever order it lists them.
Its first file that fails decides; if there is none, all objects are given, in the order of the
files and of the documents in each. -/
theorem load_by_name (hnames : (entries.map (·.1)).Nodup) (horder : entries'.Perm entries) :
    load ⟨path, some entries'⟩ vars = load ⟨path, some entries⟩ vars ∧
      ∃ files, FilesOf entries files ∧
        (∀ e, load ⟨path, some entries⟩ vars = .error e ↔
          ∃ before file behind detail, files = before ++ file :: behind ∧
            (∀ f ∈ before, ∃ objects, Holds vars f objects) ∧ Fails path vars file detail ∧
            e = .manifest detail) ∧
        ∀ objects, load ⟨path, some entries⟩ vars = .ok objects ↔
          ∃ parts, List.Forall₂ (Holds vars) files parts ∧ parts.flatten = objects := by
  have hfiles := filesOf_manifests hnames
  refine ⟨?_, manifests entries, hfiles, fun e => ?_, fun objects => load_eq_ok_iff path vars⟩
  · rw [load_some, load_some, manifests_eq_of_perm hnames horder]
  · rw [load_eq_error_iff]
    constructor
    · rintro ⟨before, file, behind, hsplit, hbefore, hfails⟩
      have hfile : file ∈ manifests entries := by
        rw [hsplit]
        exact List.mem_append_right _ List.mem_cons_self
      obtain ⟨detail, rfl, hdetail⟩ :=
        (loadEntry_eq_error_iff ((hfiles.mem_iff file).mp hfile).2.file).mp hfails
      exact ⟨before, file, behind, detail, hsplit, hbefore, hdetail, rfl⟩
    · rintro ⟨before, file, behind, detail, hsplit, hbefore, hdetail, rfl⟩
      have hfile : file.2 ≠ .directory := by
        cases hdetail <;> rintro ⟨⟩
      exact ⟨before, file, behind, hsplit, hbefore,
        (loadEntry_eq_error_iff hfile).mpr ⟨detail, rfl, hdetail⟩⟩

/-- A directory with a manifest of two documents, a second manifest and another file. -/
def twoManifests (second : DirectoryEntry) : List (String × DirectoryEntry) :=
  [("a.json", .file "metadata:\n name: a\n---\n---\nmetadata:\n name: c\n"), ("b.yaml", second),
    ("c.txt", .unreadable)]

theorem filesOf_twoManifests {second : DirectoryEntry} (h : second ≠ .directory) :
    FilesOf (twoManifests second) ((twoManifests second).take 2) := by
  have hfilter : (twoManifests second).filter isManifest = (twoManifests second).take 2 := by
    have hextensions : extension? "a.json" = some "json" ∧ extension? "b.yaml" = some "yaml" ∧
        extension? "c.txt" = some "txt" := by decide
    simp [twoManifests, isManifest, h, hextensions]
  refine ⟨?_, fun entry => ?_⟩
  · have hless : Text.bytes "a.json" < Text.bytes "b.yaml" := by decide
    simp [twoManifests, hless]
  · rw [← hfilter, List.mem_filter, isManifest_iff]

theorem exists_holds (name text : String) {objectNames : List String}
    (h : (objects? [] text).map (·.map (·.anyName)) = some objectNames) :
    ∃ objects, Holds [] (name, .file text) objects ∧ objects.map (·.anyName) = objectNames := by
  obtain ⟨objects, hobjects, hnames⟩ := Option.map_eq_some_iff.mp h
  exact ⟨objects, objects?_eq_some_iff.mp hobjects, hnames⟩

/-- In either order the second file fails if it cannot be read, although the first one is good; and
if it can, the objects are those of the files in the order of their names. -/
theorem load_either_order :
    let broken := twoManifests .unreadable
    let good := twoManifests (.file "metadata:\n name: b\n")
    let failure : Failure := .manifest "Failed to read manifests/b.yaml: <detail>"
    load ⟨"manifests", some broken⟩ [] = .error failure ∧
      load ⟨"manifests", some broken.reverse⟩ [] = .error failure ∧
      ∃ objects, objects.map (·.anyName) = ["a", "c", "b"] ∧
        load ⟨"manifests", some good⟩ [] = .ok objects ∧
        load ⟨"manifests", some good.reverse⟩ [] = .ok objects := by
  intro broken good failure
  have hnames : (objects? [] "metadata:\n name: a\n---\n---\nmetadata:\n name: c\n").map
      (·.map (·.anyName)) = some ["a", "c"] ∧
      (objects? [] "metadata:\n name: b\n").map (·.map (·.anyName)) = some ["b"] := by
    decide +kernel
  obtain ⟨first, hfirst, hfirstNames⟩ := exists_holds "a.json" _ hnames.1
  obtain ⟨second, hsecond, hsecondNames⟩ := exists_holds "b.yaml" _ hnames.2
  have hnodup : (broken.map (·.1)).Nodup ∧ (good.map (·.1)).Nodup := by decide
  obtain ⟨hbroken, files, hfiles, herror, -⟩ :=
    load_by_name "manifests" [] hnodup.1 (List.reverse_perm broken)
  obtain ⟨hgood, files', hfiles', -, hok⟩ :=
    load_by_name "manifests" [] hnodup.2 (List.reverse_perm good)
  have hfails := (herror failure).mpr ⟨[_], ("b.yaml", .unreadable), [], _,
    hfiles.eq (filesOf_twoManifests (by decide)), by simpa using ⟨first, hfirst⟩, .unreadable, rfl⟩
  have hloads := (hok (first ++ second)).mpr ⟨[first, second], ?_, by simp⟩
  · exact ⟨hfails, hbroken.trans hfails, first ++ second, by simp [hfirstNames, hsecondNames],
      hloads, hgood.trans hloads⟩
  · rw [hfiles'.eq (filesOf_twoManifests (by decide))]
    exact .cons hfirst (.cons hsecond .nil)

end Directories

end Directory

end NetworkRollout
