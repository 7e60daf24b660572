import BuildGate.Proofs.Settings.Layers

namespace BuildGate

theorem Path.isAbsolute_append {base : String} (some : base.isEmpty = false) (more : String) :
    Path.isAbsolute (base ++ more) = Path.isAbsolute base := by
  have letters : base.toList ≠ [] := by simpa using some
  rw [isAbsolute, isAbsolute, String.toList_append, List.head?_append_of_ne_nil _ letters]

theorem Path.isAbsolute_join {child : String} (relative : Path.isAbsolute child = false) (base : String) :
    Path.isAbsolute (Path.join base child) = Path.isAbsolute base := by
  unfold join
  rw [relative, Bool.false_or]
  cases empty : base.isEmpty with
  | true =>
    obtain rfl := String.isEmpty_iff.1 empty
    exact relative
  | false =>
    simp only [Bool.false_eq_true, if_false]
    split
    · exact isAbsolute_append empty child
    · rw [String.append_assoc, isAbsolute_append empty]

namespace FileSystem

variable {files : FileSystem} {path place content : String}

theorem contains_of_content? (regular : files.content? path = some content) : files.contains path = true := by
  unfold content? at regular
  split at regular
  · simp [contains, *]
  · cases regular

theorem content?_of_missing (missing : files.contains path = false) : files.content? path = none := by
  by_contra held
  obtain ⟨content, regular⟩ := Option.ne_none_iff_exists'.1 held
  cases missing.symm.trans (contains_of_content? regular)

theorem find?_of_content? (regular : files.content? path = some content) :
    files.find? path = some (path, content) := by
  simp [find?, places, regular]

theorem find?_elsewhere (special : files.content? path = none) (found : files.find? path = some (place, content)) :
    Path.isAbsolute path = false ∧ Path.isAbsolute place = true := by
  obtain ⟨other, member, held⟩ := List.exists_of_findSome?_eq_some found
  obtain ⟨text, regular, same⟩ := Option.map_eq_some_iff.1 held
  obtain ⟨rfl, rfl⟩ := Prod.mk.inj same
  -- The path itself is no regular file, so what is found lies above the working directory.
  rcases List.mem_cons.1 member with rfl | above
  · cases special.symm.trans regular
  · cases absolute : Path.isAbsolute path with
    | true => simp [absolute] at above
    | false =>
      simp only [absolute, Bool.false_eq_true, if_false, List.mem_map, Path.above] at above
      obtain ⟨directory, ⟨n, -, rfl⟩, rfl⟩ := above
      exact ⟨rfl, by rw [Path.isAbsolute_join absolute, Path.isAbsolute_append rfl]; rfl⟩

def withContents (files : FileSystem) (contents : String → String) : FileSystem where
  workingDirectory := files.workingDirectory
  entry? path := (files.entry? path).map fun
    | .regular _ => .regular (contents path)
    | entry => entry

variable (files) (contents : String → String)

theorem contains_withContents : (files.withContents contents).contains = files.contains := by
  funext path
  simp [contains, withContents]

theorem content?_withContents (path : String) :
    (files.withContents contents).content? path = (files.content? path).map fun _ => contents path := by
  unfold content?
  cases entry : files.entry? path with
  | none => simp [withContents, entry]
  | some held => cases held <;> simp [withContents, entry]

theorem find?_withContents (path : String) :
    (files.withContents contents).find? path = (files.find? path).map fun found => (found.1, contents found.1) := by
  have places : (files.withContents contents).places path = files.places path := rfl
  rw [find?, find?, places]
  induction files.places path with
  | nil => rfl
  | cons place rest ih =>
    rw [List.findSome?_cons, List.findSome?_cons, content?_withContents, ih]
    cases files.content? place <;> rfl

end FileSystem

namespace Loader

variable {loader : Loader} {files : FileSystem} {fields : Dict Value} {u : String}

/-- The fields that are to count: those of the file that was asked for, which has to be a regular one, or else of
    the first usual file that is a regular one, or else none. -/
inductive Sourced (loader : Loader) (files : FileSystem) (fields : Dict Value) : Prop
  | asked {path content : String} (asks : loader.configPath = some path)
      (regular : files.content? path = some content) (reads : fileFields (some content) = .ok fields) :
      Sourced loader files fields
  | usual (asks : loader.configPath = none)
      (reads : fileFields ((loader.candidates files).findSome? files.content?) = .ok fields) :
      Sourced loader files fields

def Heeds (loader : Loader) (host : Host) : Prop :=
  ∀ c, (loader.load host).2 = .ok c ↔
    ∃ fields, loader.Sourced host.files fields ∧ loader.Parts host.environment fields c ∧ Fit c

/-- The chosen place holds no regular file; and it was asked for, or there is another file to be read, a usual one or
    one that is found above the working directory. -/
def Obstructed (loader : Loader) (files : FileSystem) : Prop :=
  ∃ u, loader.chooseFile files = .ok (some u) ∧ files.content? u = none ∧
    (loader.configPath = none →
      (loader.candidates files).findSome? files.content? ≠ none ∨ files.find? u ≠ none)

theorem chooseFile_asked {path : String} (asks : loader.configPath = some path) (files : FileSystem) :
    loader.chooseFile files = if files.contains path then .ok (some path) else .error path := by
  rw [chooseFile, asks]

theorem chooseFile_usual (asks : loader.configPath = none) (files : FileSystem) :
    loader.chooseFile files = .ok ((loader.candidates files).find? files.contains) := by
  rw [chooseFile, asks]

theorem sourced_asked_iff {path : String} (asks : loader.configPath = some path) :
    loader.Sourced files fields ↔
      ∃ content, files.content? path = some content ∧ fileFields (some content) = .ok fields := by
  constructor
  · rintro (⟨asks', regular, reads⟩ | ⟨asks', -⟩)
    · obtain rfl := Option.some.inj (asks.symm.trans asks')
      exact ⟨_, regular, reads⟩
    · cases asks.symm.trans asks'
  · rintro ⟨content, regular, reads⟩
    exact .asked asks regular reads

theorem sourced_usual_iff (asks : loader.configPath = none) :
    loader.Sourced files fields ↔
      fileFields ((loader.candidates files).findSome? files.content?) = .ok fields := by
  constructor
  · rintro (⟨asks', -, -⟩ | ⟨-, reads⟩)
    · cases asks.symm.trans asks'
    · exact reads
  · exact .usual asks

theorem findSome?_content?_of_missing {paths : List String} (missing : ∀ path ∈ paths, files.contains path = false) :
    paths.findSome? files.content? = none :=
  List.findSome?_eq_none_iff.2 fun path member => FileSystem.content?_of_missing (missing path member)

theorem findSome?_content? {content : String} {paths : List String} (first : paths.find? files.contains = some u)
    (regular : files.content? u = some content) : paths.findSome? files.content? = some content := by
  obtain ⟨-, before, after, rfl, missing⟩ := List.find?_eq_some_iff_append.1 first
  have none : before.findSome? files.content? = none := findSome?_content?_of_missing (by simpa using missing)
  rw [List.findSome?_append, none, Option.none_or, List.findSome?_cons, regular]

theorem holds_iff_sourced_asked {path : String} (asks : loader.configPath = some path)
    (clear : ¬ loader.Obstructed files) : loader.Holds files fields ↔ loader.Sourced files fields := by
  rw [sourced_asked_iff asks, Holds, chooseFile_asked asks]
  cases regular : files.content? path with
  | some content => simp [FileSystem.contains_of_content? regular, FileSystem.find?_of_content? regular]
  | none =>
    have missing : files.contains path = false := by
      by_contra there
      exact clear ⟨path, by rw [chooseFile_asked asks, if_pos (by simpa using there)], regular, by simp [asks]⟩
    simp [missing]

theorem holds_iff_sourced_usual (asks : loader.configPath = none) (clear : ¬ loader.Obstructed files) :
    loader.Holds files fields ↔ loader.Sourced files fields := by
  rw [sourced_usual_iff asks, Holds, chooseFile_usual asks]
  simp only [Except.ok.injEq, exists_eq_left']
  cases first : (loader.candidates files).find? files.contains with
  | none =>
    rw [findSome?_content?_of_missing (by simpa using first), Option.bind_none, Option.map_none]
  | some u =>
    cases regular : files.content? u with
    | some content =>
      rw [findSome?_content? first regular, Option.bind_some, FileSystem.find?_of_content? regular, Option.map_some]
    | none =>
      have nothing : (loader.candidates files).findSome? files.content? = none ∧ files.find? u = none := by
        by_contra some
        exact clear ⟨u, by rw [chooseFile_usual asks, first], regular, fun _ => not_and_or.1 some⟩
      rw [nothing.1, Option.bind_some, nothing.2, Option.map_none]

theorem holds_iff_sourced (clear : ¬ loader.Obstructed files) :
    loader.Holds files fields ↔ loader.Sourced files fields := by
  cases asks : loader.configPath with
  | some path => exact holds_iff_sourced_asked asks clear
  | none => exact holds_iff_sourced_usual asks clear

theorem heeds_of_unobstructed (clear : ¬ loader.Obstructed files) (environment : Dict String) :
    loader.Heeds ⟨files, environment⟩ := by
  intro c
  simp only [load_ok_iff, holds_iff_sourced clear]

theorem candidates_withContents (loader : Loader) (files : FileSystem) (contents : String → String) :
    loader.candidates (files.withContents contents) = loader.candidates files := rfl

theorem chooseFile_withContents (loader : Loader) (files : FileSystem) (contents : String → String) :
    loader.chooseFile (files.withContents contents) = loader.chooseFile files := by
  rw [chooseFile, chooseFile, FileSystem.contains_withContents, candidates_withContents]

theorem obstructed_withContents (contents : String → String) :
    loader.Obstructed (files.withContents contents) ↔ loader.Obstructed files := by
  simp only [Obstructed, chooseFile_withContents, candidates_withContents, FileSystem.content?_withContents,
    FileSystem.find?_withContents, ne_eq, Option.map_eq_none_iff, List.findSome?_eq_none_iff]

def switchedOn (told : Option Toggle) : Config := told.elim .default fun t => Config.default.setToggle t true

theorem parts_switchedOn (loader : Loader) (told : Option Toggle) :
    loader.Parts ∅ (told.elim ∅ fun t => .ofList [(t.key, .bool true)]) (switchedOn told) := by
  refine decode_merge_iff.1 ?_
  cases told with
  | none => rfl
  | some t => cases t <;> rfl

theorem fit_switchedOn (told : Option Toggle) : Fit (switchedOn told) := by
  cases told with
  | none => exact ⟨nofun, .info, rfl⟩
  | some t => cases t <;> exact ⟨nofun, .info, rfl⟩

theorem toggle_switchedOn (told : Option Toggle) {t : Toggle} (off : Config.default.toggle t = false) :
    (switchedOn told).toggle t = true ↔ told = some t := by
  cases told with
  | none => simp [switchedOn, off]
  | some u => simp [switchedOn, Config.toggle_setToggle, off, eq_comm]

theorem told_iff {told other : Option Toggle} (same : switchedOn told = switchedOn other) {t : Toggle}
    (off : Config.default.toggle t = false) : told = some t ↔ other = some t := by
  rw [← toggle_switchedOn told off, same, toggle_switchedOn other off]

theorem load_switchOn (tell : String → Toggle) (chosen : loader.chooseFile files = .ok (some u)) :
    (loader.load ⟨files.withContents fun place => switchOn (tell place), ∅⟩).2 =
      .ok (switchedOn ((files.find? u).map fun found => tell found.1)) := by
  have reads := fileFields_switchOn ((files.find? u).map fun found => tell found.1)
  rw [Option.map_map] at reads
  refine (load_ok_iff _ _ _ _).2 ⟨_, ⟨some u, ?_, ?_⟩, parts_switchedOn loader _, fit_switchedOn _⟩
  · rw [chooseFile_withContents, chosen]
  · rw [Option.bind_some, FileSystem.find?_withContents, Option.map_map]
    exact reads

theorem candidates_absolute {path : String} (listed : path ∈ loader.candidates files) :
    Path.isAbsolute path = Path.isAbsolute (loader.searchDir.getD files.workingDirectory) := by
  have relative : Path.isAbsolute fileName = false ∧ Path.isAbsolute directoryName = false := ⟨rfl, rfl⟩
  simp only [candidates, List.mem_cons, List.not_mem_nil, or_false] at listed
  rcases listed with rfl | rfl
  · rw [Path.isAbsolute_join relative.1]
  · rw [Path.isAbsolute_join relative.1, Path.isAbsolute_join relative.2]

theorem findSome?_withContents {contents : String → String} {text : String} {paths : List String}
    (same : ∀ path ∈ paths, contents path = text) :
    paths.findSome? (files.withContents contents).content? = (paths.findSome? files.content?).map fun _ => text := by
  induction paths with
  | nil => rfl
  | cons path rest ih =>
    rw [List.findSome?_cons, List.findSome?_cons, FileSystem.content?_withContents, same path List.mem_cons_self,
      ih fun other member => same other (List.mem_cons_of_mem _ member)]
    cases files.content? path <;> rfl

theorem unlisted_of_find? {found : String × String} (listed : u ∈ loader.candidates files)
    (special : files.content? u = none) (held : files.find? u = some found) : found.1 ∉ loader.candidates files := by
  intro member
  obtain ⟨relative, absolute⟩ := FileSystem.find?_elsewhere special held
  rw [candidates_absolute listed, ← candidates_absolute member, absolute] at relative
  cases relative

theorem exists_unsourced (obstructed : loader.Obstructed files) : ∃ contents c,
    (loader.load ⟨files.withContents contents, ∅⟩).2 = .ok c ∧
      ∀ fields, loader.Sourced (files.withContents contents) fields → ¬ loader.Parts ∅ fields c := by
  obtain ⟨u, chosen, special, others⟩ := obstructed
  -- Usual files turn on one switch and all others another one, so the settings show which file was read.
  let tell : String → Toggle := fun place => if place ∈ loader.candidates files then .skip else .failFast
  refine ⟨fun place => switchOn (tell place), _, load_switchOn tell chosen, fun fields sourced parts => ?_⟩
  cases asks : loader.configPath with
  | some path =>
    obtain ⟨content, regular, -⟩ := (sourced_asked_iff asks).1 sourced
    rw [chooseFile_asked asks] at chosen
    split at chosen
    · obtain rfl := Option.some.inj (Except.ok.inj chosen)
      rw [FileSystem.content?_withContents, special] at regular
      cases regular
    · cases chosen
  | none =>
    have reads := (sourced_usual_iff asks).1 sourced
    rw [chooseFile_usual asks] at chosen
    have listed := List.mem_of_find?_eq_some (Except.ok.inj chosen)
    have elsewhere : ∀ found, files.find? u = some found → tell found.1 = .failFast :=
      fun found held => if_neg (unlisted_of_find? listed special held)
    have usual : ∀ place ∈ loader.candidates files, switchOn (tell place) = switchOn .skip :=
      fun place member => congrArg switchOn (if_pos member)
    have told := fileFields_switchOn (((loader.candidates files).findSome? files.content?).map fun _ => .skip)
    rw [Option.map_map] at told
    have read := (congrArg fileFields (findSome?_withContents usual)).symm.trans reads
    obtain rfl := Except.ok.inj (told.symm.trans read)
    have same := parts.unique (parts_switchedOn loader _)
    rcases others asks with regular | found
    · obtain ⟨text, held⟩ := Option.ne_none_iff_exists'.1 regular
      have skips := (told_iff same rfl).2 (congrArg (Option.map fun _ => Toggle.skip) held)
      obtain ⟨found, held, skip⟩ := Option.map_eq_some_iff.1 skips
      cases (elsewhere found held).symm.trans skip
    · obtain ⟨found, held⟩ := Option.ne_none_iff_exists'.1 found
      have hurries := (told_iff same rfl).1 (Option.map_eq_some_iff.2 ⟨found, held, elsewhere found held⟩)
      obtain ⟨text, -, hurry⟩ := Option.map_eq_some_iff.1 hurries
      cases hurry

/-- The settings are those of the file that is to count, whatever the files contain and the environment says, just
    where nothing obstructs the loader. -/
theorem heeds_iff_unobstructed (loader : Loader) (files : FileSystem) :
    (∀ contents environment, loader.Heeds ⟨files.withContents contents, environment⟩) ↔
      ¬ loader.Obstructed files := by
  constructor
  · intro heeds obstructed
    obtain ⟨contents, c, loads, unsourced⟩ := exists_unsourced obstructed
    obtain ⟨fields, sourced, parts, -⟩ := (heeds contents ∅ c).1 loads
    exact unsourced fields sourced parts
  · intro clear contents environment
    exact heeds_of_unobstructed ((obstructed_withContents contents).not.2 clear) environment

def askedDirectory : FileSystem := ⟨"/w", fun path => if path = "conf" then some .directory else none⟩

def hidingDirectory : FileSystem where
  workingDirectory := "/w"
  entry? path :=
    if path = "/w/enforcer.toml" then some .directory
    else if path = "/w/.enforcer/enforcer.toml" then some (.regular (switchOn .skip))
    else none

/-- Directories go for settings files: one that was asked for is no error, and one with the preferred name hides the
    other file. -/
theorem not_heeds_directory :
    let asking : Loader := { new with configPath := some "conf" }
    (asking.load ⟨askedDirectory, ∅⟩).2 = .ok .default ∧ ¬ asking.Heeds ⟨askedDirectory, ∅⟩ ∧
      (new.load ⟨hidingDirectory, ∅⟩).2 = .ok .default ∧ ¬ new.Heeds ⟨hidingDirectory, ∅⟩ := by
  have nothing : askedDirectory.find? "conf" = none := by
    have special : ∀ place, askedDirectory.content? place = none := by
      intro place
      by_cases named : place = "conf" <;> simp [FileSystem.content?, askedDirectory, named]
    simp [FileSystem.find?, special]
  have asked : (({ new with configPath := some "conf" } : Loader).load ⟨askedDirectory, ∅⟩).2 = .ok .default :=
    (load_ok_iff _ _ _ _).2 ⟨∅, ⟨some "conf", rfl, by rw [Option.bind_some, nothing]; rfl⟩,
      parts_switchedOn _ none, fit_switchedOn none⟩
  have hidden : (new.load ⟨hidingDirectory, ∅⟩).2 = .ok .default := rfl
  refine ⟨asked, fun heeds => ?_, hidden, fun heeds => ?_⟩
  · obtain ⟨fields, sourced, -⟩ := (heeds _).1 asked
    obtain ⟨content, regular, -⟩ := (sourced_asked_iff rfl).1 sourced
    cases regular
  · obtain ⟨fields, sourced, parts, -⟩ := (heeds _).1 hidden
    have reads := (sourced_usual_iff rfl).1 sourced
    obtain rfl := Except.ok.inj ((fileFields_switchOn (some .skip)).symm.trans reads)
    have same : switchedOn none = switchedOn (some .skip) := parts.unique (parts_switchedOn new (some .skip))
    cases (told_iff same rfl).2 rfl

end Loader

end BuildGate
