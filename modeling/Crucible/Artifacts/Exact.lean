import Crucible.Artifacts.Contained

/-!
# What strict loading refuses (`crates/artifacts/src/loader.rs`)

The loader compares the files on disk with the declared paths by how their names are rendered, and
rendering is not injective: `\` becomes `/`, and bytes that are not UTF-8 become `U+FFFD`.

* `relativePath_pathNames`    the rendering of a declared path is that path;
* `Disguised`                 a file that is not declared, with the rendering of one that is;
* `not_disguised_of_text`     there is none among names that are text without `\`;
* `authentic_iff`             a declared path is read, and it need not be that of a file;
* `strict_exact_iff`          strict loading is exact unless a file is disguised, or a device is
                              declared.
-/

namespace Crucible
open Checked Text Files Paths

/-! ## renderings -/

/-- joining and then encoding is encoding and then joining -/
theorem intercalate_flatMap {α β : Type} {f : α → List β} {sep : List α} {parts : List (List α)} :
    (sep.flatMap f).intercalate (parts.map fun part => part.flatMap f)
      = (sep.intercalate parts).flatMap f := by
  induction parts with
  | nil => rfl
  | cons first parts ih =>
    cases parts with
    | nil => simp
    | cons second parts =>
      rw [List.map_cons] at ih
      rw [List.map_cons, List.map_cons, List.intercalate_cons_cons, List.intercalate_cons_cons, ih,
        List.flatMap_append, List.flatMap_append]

theorem not_mem_intercalate {α : Type} {a : α} {sep : List α} {parts : List (List α)}
    (hsep : a ∉ sep) (hparts : ∀ part ∈ parts, a ∉ part) : a ∉ sep.intercalate parts := by
  induction parts with
  | nil => exact List.not_mem_nil
  | cons first parts ih =>
    have hfirst : a ∉ first := hparts first List.mem_cons_self
    have hrest : a ∉ sep.intercalate parts := ih fun p hp => hparts p (List.mem_cons_of_mem _ hp)
    cases parts with
    | nil =>
      rw [List.intercalate_singleton]
      exact hfirst
    | cons second parts =>
      rw [List.intercalate_cons_cons, List.mem_append, List.mem_append]
      exact fun h => (h.resolve_right hrest).elim hfirst hsep

/-- the names of a path, joined again -/
theorem intercalate_pathNames (path : String) :
    "/".toUTF8.data.toList.intercalate (pathNames path) = path.toUTF8.data.toList := by
  have hnames : pathNames path = ((split '/' path).map String.toList).map
      fun part => part.flatMap String.utf8EncodeChar := by
    rw [pathNames, List.map_map]
    exact List.map_congr_left fun part _ => Utf8.toUTF8_toList part
  have hslash : "/".toList = ['/'] := rfl
  rw [hnames, Utf8.toUTF8_toList, intercalate_flatMap, hslash, intercalate_split,
    Utf8.toUTF8_toList]

/-- text without `\` is rendered as it is -/
theorem relativePath_of_text {names : List Name} {path : String}
    (hnames : "/".toUTF8.data.toList.intercalate names = path.toUTF8.data.toList)
    (hback : '\\' ∉ path.toList) : relativePath Utf8.toStringLossy names = path := by
  have hmap : path.toList.map (fun c => if c = '\\' then '/' else c) = path.toList := by
    refine (List.map_congr_left fun c hc => ?_).trans (List.map_id _)
    have hc' : c ≠ '\\' := fun h => hback (h ▸ hc)
    exact if_neg hc'
  rw [relativePath, hnames, Utf8.toStringLossy_toUTF8, hmap, String.ofList_toList]

theorem relativePath_pathNames {path : String} (h : isSafeRelativePath path) :
    relativePath Utf8.toStringLossy (pathNames path) = path :=
  relativePath_of_text (intercalate_pathNames path) (isSafeRelativePath_parts h).2

/-! ## files that pass for others -/

section
variable (crates : ArtifactCrates) (root : Node) (manifest : ArtifactManifest)

/-- the names are those of a declared path, or of the manifest -/
def Declared (names : List Name) : Prop :=
  names = pathNames manifestFilename ∨ ∃ file ∈ manifest.files, names = pathNames file.path

/-- they are not, but are rendered like it -/
def Disguised (names : List Name) : Prop :=
  ¬ Declared manifest names ∧ (relativePath crates.lossy names = manifestFilename ∨
    relativePath crates.lossy names ∈ manifest.files.map ManifestFile.path)

/-- every declared path is that of a regular file with the declared digest -/
def Authentic : Prop :=
  ∀ file ∈ manifest.files, ∃ bytes, root.find (pathNames file.path) = .ok (.file (.ok bytes)) ∧
    ArtifactChecksum.fromBytes crates.sha256 bytes = file.sha256

/-- what is read at every declared path has the declared digest -/
def Digested : Prop :=
  ∀ file ∈ manifest.files, ∃ bytes, root.read (pathNames file.path) = .ok bytes ∧
    ArtifactChecksum.fromBytes crates.sha256 bytes = file.sha256

/-- a declared path is that of a device or a pipe -/
def DeclaresDevice : Prop :=
  ∃ file ∈ manifest.files, ∃ content, root.find (pathNames file.path) = .ok (.special content)

end

variable {crates : ArtifactCrates} {dir : ArtifactDir} {root : Node}
  {manifest : ArtifactManifest} {json : List UInt8}

/-- what is read is a file or a device -/
theorem read_iff {names : List Name} {bytes : List UInt8} : root.read names = .ok bytes ↔
    root.find names = .ok (.file (.ok bytes)) ∨ root.find names = .ok (.special (.ok bytes)) := by
  unfold Node.read
  cases root.find names with
  | error reason => exact iff_of_false (fun h => by cases h) (by rintro (h | h) <;> cases h)
  | ok node =>
    show node.contents = .ok bytes ↔ _
    cases node with
    | file content => simp [Node.contents]
    | dir entries failure => simp [Node.contents]
    | special content => simp [Node.contents]

theorem authentic_iff : Authentic crates root manifest ↔
    Digested crates root manifest ∧ ¬ DeclaresDevice root manifest := by
  refine ⟨fun h => ⟨fun file hfile => ?_, fun ⟨file, hfile, content, hdevice⟩ => ?_⟩,
    fun ⟨hdigested, hnone⟩ file hfile => ?_⟩
  · obtain ⟨bytes, hfind, hdigest⟩ := h file hfile
    exact ⟨bytes, read_iff.mpr (Or.inl hfind), hdigest⟩
  · obtain ⟨bytes, hfind, _⟩ := h file hfile
    rw [hdevice] at hfind
    cases hfind
  · obtain ⟨bytes, hread, hdigest⟩ := hdigested file hfile
    rcases read_iff.mp hread with hfind | hdevice
    · exact ⟨bytes, hfind, hdigest⟩
    · exact absurd ⟨file, hfile, _, hdevice⟩ hnone

theorem safe_of_parse (h : ArtifactManifest.parse crates.parseManifest json = .ok manifest) :
    ∀ file ∈ manifest.files, isSafeRelativePath file.path := by
  obtain ⟨document, _, hnormalize⟩ := ArtifactManifest.parse_ok.mp h
  obtain ⟨_, hsafe, rfl⟩ := ArtifactManifest.normalize_ok.mp hnormalize
  intro file hfile
  exact hsafe file (List.mem_mergeSort.mp hfile)

theorem rendered_iff (hlossy : crates.lossy = Utf8.toStringLossy)
    (hsafe : ∀ file ∈ manifest.files, isSafeRelativePath file.path) {names : List Name} :
    (relativePath crates.lossy names = manifestFilename ∨
      relativePath crates.lossy names ∈ manifest.files.map ManifestFile.path) ↔
      Declared manifest names ∨ Disguised crates manifest names := by
  by_cases hdeclared : Declared manifest names
  · refine iff_of_true ?_ (Or.inl hdeclared)
    rcases hdeclared with rfl | ⟨file, hfile, rfl⟩
    · rw [hlossy, relativePath_pathNames (by decide)]
      exact Or.inl rfl
    · rw [hlossy, relativePath_pathNames (hsafe file hfile)]
      exact Or.inr (List.mem_map_of_mem hfile)
  · exact ⟨fun h => Or.inr ⟨hdeclared, h⟩, fun h => (h.resolve_left hdeclared).2⟩

/-- names that are text without separators pass for no others -/
theorem not_disguised_of_text (hlossy : crates.lossy = Utf8.toStringLossy) {parts : List String}
    (hne : parts ≠ []) (htext : ∀ part ∈ parts, '/' ∉ part.toList ∧ '\\' ∉ part.toList) :
    ¬ Disguised crates manifest (parts.map fun part => part.toUTF8.data.toList) := by
  have hslash : ∀ part ∈ parts.map String.toList, '/' ∉ part := by
    intro part hpart
    obtain ⟨text, htextmem, rfl⟩ := List.mem_map.mp hpart
    exact (htext text htextmem).1
  have hback : '\\' ∉ (String.ofList (['/'].intercalate (parts.map String.toList))).toList := by
    rw [String.toList_ofList]
    refine not_mem_intercalate (by decide) fun part hpart => ?_
    obtain ⟨text, htextmem, rfl⟩ := List.mem_map.mp hpart
    exact (htext text htextmem).2
  have hsplit : split '/' (String.ofList (['/'].intercalate (parts.map String.toList))) = parts := by
    have hne' : parts.map String.toList ≠ [] := fun h => hne (List.map_eq_nil_iff.mp h)
    rw [split, String.toList_ofList, List.splitOn_intercalate '/' hslash hne', List.map_map]
    exact (List.map_congr_left fun _ _ => String.ofList_toList).trans (List.map_id _)
  have hnames : pathNames (String.ofList (['/'].intercalate (parts.map String.toList)))
      = parts.map fun part => part.toUTF8.data.toList := by rw [pathNames, hsplit]
  have hrendered := relativePath_of_text (intercalate_pathNames _) hback
  rw [← hnames]
  intro hdisguised
  obtain ⟨hnot, hmatch⟩ := hdisguised
  rw [hlossy, hrendered] at hmatch
  rcases hmatch with heq | hmem
  · exact hnot (Or.inl (congrArg pathNames heq))
  · obtain ⟨file, hfile, hpath⟩ := List.mem_map.mp hmem
    exact hnot (Or.inr ⟨file, hfile, congrArg pathNames hpath.symm⟩)

/-! ## strict loading -/

theorem checkDeclared_iff {entries : List (Name × Node)}
    (hroot : dir.root = .ok (.dir entries none)) (hsound : (Node.dir entries none).Sound) :
    ArtifactLoader.checkDeclared crates dir manifest = .ok () ↔
      ∀ names, (Node.dir entries none).HasFile names →
        relativePath crates.lossy names = manifestFilename ∨
          relativePath crates.lossy names ∈ manifest.files.map ManifestFile.path := by
  obtain ⟨found, hfound, hmem⟩ := Node.files_sound hsound
  have hwalk : ArtifactLoader.walkFiles crates dir
      = .ok (found.map (relativePath crates.lossy)) := by
    simp only [ArtifactLoader.walkFiles, bind_ok, mapError_ok]
    exact ⟨_, hroot, bind_ok.mpr ⟨found, mapError_ok.mpr hfound, rfl⟩⟩
  simp only [ArtifactLoader.checkDeclared, hwalk, bind_ok, ensureAll_ok]
  refine ⟨fun h names hfile => ?_, fun hall => ⟨_, rfl, fun entry hentry => ?_⟩⟩
  · obtain ⟨_, hok, hall⟩ := h
    obtain rfl := Except.ok.inj hok
    exact hall _ (List.mem_map_of_mem ((hmem names).mpr hfile))
  · obtain ⟨names, hnames, rfl⟩ := List.mem_map.mp hentry
    exact hall names ((hmem names).mp hnames)

theorem verifyFiles_iff (hroot : dir.root = .ok root)
    (hsafe : ∀ file ∈ manifest.files, isSafeRelativePath file.path) :
    (∃ files, manifest.files.mapM (ArtifactLoader.verifyFile crates dir) = .ok files) ↔
      Digested crates root manifest := by
  refine ⟨fun ⟨files, hfiles⟩ file hfile => ?_, fun hall => ?_⟩
  · obtain ⟨entry, _, hverify⟩ := exists_of_forall₂ (mapM_ok hfiles) hfile
    obtain ⟨_, hread, hdigest, _⟩ := ArtifactLoader.verifyFile_ok.mp hverify
    obtain ⟨root', hroot', hfind⟩ := ArtifactDir.read_ok.mp hread
    rw [hroot] at hroot'
    obtain rfl := Except.ok.inj hroot'
    exact ⟨entry.2, hfind, hdigest⟩
  · have hverify : ∀ file ∈ manifest.files, ∃ entry,
        ArtifactLoader.verifyFile crates dir file = .ok entry := by
      intro file hfile
      obtain ⟨bytes, hfind, hdigest⟩ := hall file hfile
      exact ⟨(file.path, bytes), ArtifactLoader.verifyFile_ok.mpr
        ⟨hsafe file hfile, ArtifactDir.read_ok.mpr ⟨root, hroot, hfind⟩, hdigest, rfl⟩⟩
    obtain ⟨files, hfiles⟩ := forall₂_of_exists hverify
    exact ⟨files, mapM_of_forall₂ hfiles⟩

/-- what the strict loader checks -/
theorem strict_loads_iff {entries : List (Name × Node)}
    (hlossy : crates.lossy = Utf8.toStringLossy) (hroot : dir.root = .ok (.dir entries none))
    (hsound : (Node.dir entries none).Sound) :
    (∃ loaded, ArtifactLoader.new.loadWithManifest crates dir json = .ok loaded) ↔
      ∃ manifest, ArtifactManifest.parse crates.parseManifest json = .ok manifest ∧
        Digested crates (.dir entries none) manifest ∧
        ∀ names, (Node.dir entries none).HasFile names →
          Declared manifest names ∨ Disguised crates manifest names := by
  refine ⟨fun ⟨loaded, hload⟩ => ?_, fun ⟨manifest, hparse, hdigested, hnames⟩ => ?_⟩
  · obtain ⟨hparse, hstrict, hfiles⟩ := ArtifactLoader.loadWithManifest_ok.mp hload
    have hsafe := safe_of_parse hparse
    refine ⟨loaded.manifest, hparse, (verifyFiles_iff hroot hsafe).mp ⟨_, hfiles⟩, ?_⟩
    intro names hfile
    exact (rendered_iff hlossy hsafe).mp
      ((checkDeclared_iff hroot hsound).mp (hstrict rfl) names hfile)
  · have hsafe := safe_of_parse hparse
    obtain ⟨files, hfiles⟩ := (verifyFiles_iff hroot hsafe).mpr hdigested
    have hcheck : ArtifactLoader.checkDeclared crates dir manifest = .ok () :=
      (checkDeclared_iff hroot hsound).mpr fun names hfile =>
        (rendered_iff hlossy hsafe).mpr (hnames names hfile)
    have hload : ArtifactLoader.new.loadWithManifest crates dir json = .ok ⟨manifest, files⟩ :=
      ArtifactLoader.loadWithManifest_ok.mpr ⟨hparse, fun _ => hcheck, hfiles⟩
    exact ⟨_, hload⟩

/-- the manifest parses, the declared files are there, and nothing else is -/
def Exact (crates : ArtifactCrates) (root : Node) (json : List UInt8) : Prop :=
  ∃ manifest, ArtifactManifest.parse crates.parseManifest json = .ok manifest ∧
    Authentic crates root manifest ∧ ∀ names, root.HasFile names → Declared manifest names

/-- **Strict loading is exact, unless something passes for a declared file.**  On a sound tree the
strict loader accepts exactly the artifacts that are as they are declared, except where what is read
has the declared digests and every file is declared or disguised, and a file is disguised or a
device is declared. -/
theorem strict_exact_iff {entries : List (Name × Node)}
    (hlossy : crates.lossy = Utf8.toStringLossy) (hroot : dir.root = .ok (.dir entries none))
    (hsound : (Node.dir entries none).Sound) :
    ((∃ loaded, ArtifactLoader.new.loadWithManifest crates dir json = .ok loaded) ↔
      Exact crates (.dir entries none) json) ↔
    ¬ ∃ manifest, ArtifactManifest.parse crates.parseManifest json = .ok manifest ∧
      Digested crates (.dir entries none) manifest ∧
      (∀ names, (Node.dir entries none).HasFile names →
        Declared manifest names ∨ Disguised crates manifest names) ∧
      ((∃ names, (Node.dir entries none).HasFile names ∧ Disguised crates manifest names) ∨
        DeclaresDevice (.dir entries none) manifest) := by
  rw [strict_loads_iff hlossy hroot hsound]
  refine ⟨fun hexact ⟨manifest, hparse, hdigested, hall, hbad⟩ => ?_,
    fun hnone => ⟨fun ⟨manifest, hparse, hdigested, hall⟩ => ?_, ?_⟩⟩
  · obtain ⟨manifest', hparse', hauthentic, hdeclared⟩ :=
      hexact.mp ⟨manifest, hparse, hdigested, hall⟩
    rw [hparse] at hparse'
    obtain rfl := Except.ok.inj hparse'
    rcases hbad with ⟨names, hfile, hdisguised⟩ | hdevice
    · exact hdisguised.1 (hdeclared names hfile)
    · exact (authentic_iff.mp hauthentic).2 hdevice
  · have hgood := fun hbad => hnone ⟨manifest, hparse, hdigested, hall, hbad⟩
    refine ⟨manifest, hparse, authentic_iff.mpr ⟨hdigested, fun h => hgood (Or.inr h)⟩, ?_⟩
    intro names hfile
    rcases hall names hfile with hdeclared | hdisguised
    · exact hdeclared
    · exact absurd (Or.inl ⟨names, hfile, hdisguised⟩) hgood
  · intro hdeclaration
    obtain ⟨manifest, hparse, hauthentic, hdeclared⟩ := hdeclaration
    exact ⟨manifest, hparse, (authentic_iff.mp hauthentic).1,
      fun names hfile => Or.inl (hdeclared names hfile)⟩

/-- a file that is planted in the root under the name `keys\vk.bin` -/
def plantedName : Name := "keys\\vk.bin".toUTF8.data.toList

def planted : List (Name × Node) := [(plantedName, .file (.ok "evil".toUTF8.data.toList))]

theorem keyTree_sound {more : List (Name × Node)} (hmore : Node.SoundIn more)
    (hnodup : (([manifestFilename.toUTF8.data.toList, "keys".toUTF8.data.toList] : List Name)
      ++ more.map Prod.fst).Nodup) : (keyTree more).Sound := by
  refine ⟨hnodup, ⟨by decide, _, rfl⟩, ⟨by decide, ?_⟩, hmore⟩
  exact ⟨by decide, ⟨by decide, _, rfl⟩, trivial⟩

theorem keyManifest_parsed : ArtifactManifest.parse keyCrates.parseManifest
    keyManifest.toCanonicalJson = .ok keyManifest := by
  decide +kernel

/-- the strict loader accepts the planted file -/
theorem planted_accepted :
    (keyTree planted).Sound ∧ (keyTree planted).HasFile [plantedName] ∧
    ArtifactLoader.new.loadWithManifest keyCrates (keyDir planted) keyManifest.toCanonicalJson
      = .ok keyLoaded ∧
    ¬ Exact keyCrates (keyTree planted) keyManifest.toCanonicalJson := by
  have hfile : (keyTree planted).HasFile [plantedName] := ⟨_, rfl⟩
  refine ⟨keyTree_sound ⟨⟨by decide, _, rfl⟩, trivial⟩ (by decide), hfile, by decide +kernel, ?_⟩
  intro hexact
  obtain ⟨manifest, hparse, _, hdeclared⟩ := hexact
  rw [keyManifest_parsed] at hparse
  obtain rfl := Except.ok.inj hparse
  rcases hdeclared _ hfile with hname | ⟨file, hmem, hname⟩
  · exact absurd hname (by decide +kernel)
  · obtain rfl := List.mem_singleton.mp hmem
    exact absurd hname (by decide +kernel)

/-- its files pass for no others -/
theorem keyTree_not_disguised {manifest : ArtifactManifest} {names : List Name}
    (hfile : (keyTree []).HasFile names) : ¬ Disguised keyCrates manifest names := by
  have hsound : (keyTree []).Sound := keyTree_sound trivial (by decide)
  intro hdisguised
  obtain ⟨found, hfound, hmem⟩ := Node.files_sound hsound
  have hlisted : (keyTree []).files [] = .ok
      [["manifest.json"].map fun part => part.toUTF8.data.toList,
        ["keys", "vk.bin"].map fun part => part.toUTF8.data.toList] := rfl
  rw [hlisted] at hfound
  obtain rfl := Except.ok.inj hfound
  rcases List.mem_pair.mp ((hmem names).mpr hfile) with rfl | rfl
  · exact not_disguised_of_text rfl (by decide) (by decide) hdisguised
  · exact not_disguised_of_text rfl (by decide) (by decide) hdisguised

/-- without it, strict loading is exact -/
theorem strict_exact_iff_key :
    (∃ loaded, ArtifactLoader.new.loadWithManifest keyCrates (keyDir [])
      keyManifest.toCanonicalJson = .ok loaded) ↔
      Exact keyCrates (keyTree []) keyManifest.toCanonicalJson := by
  have hsound : (keyTree []).Sound := keyTree_sound trivial (by decide)
  refine (strict_exact_iff rfl rfl hsound).mpr ?_
  intro hbad
  obtain ⟨manifest, hparse, _, _, ⟨names, hfile, hdisguised⟩ | ⟨file, hfile, _, hdevice⟩⟩ := hbad
  · exact keyTree_not_disguised hfile hdisguised
  · rw [keyManifest_parsed] at hparse
    obtain rfl := Except.ok.inj hparse
    obtain rfl := List.mem_singleton.mp hfile
    cases hdevice

end Crucible
