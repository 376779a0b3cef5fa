import PayloadModels.Proofs.Command.DryRun

/-!
# Failing runs

All that a run of `generate` reads is read before the first file is written, but for the files among
which it looks for orphans. So a run that fails has left the disk alone, unless a file could not be
written or one of these files is no text (`Run.generate_eq_error`). In the last case the run has
written all its files by then (`Run.not_generate_eq_error_unchanged`).
-/

namespace PayloadModels

variable {disk after : Disk} {generator : Generator} {files : List GeneratedFile}
  {paths : List Path} {error : Error}

/-! ## What can go wrong -/

namespace Disk

/-- Writing fails when a file cannot be written. -/
theorem exists_of_writeChanged_eq_error (h : disk.writeChanged files = (after, .error error)) :
    ∃ path reason, error = .fileUnwritable path reason := by
  induction files generalizing disk with
  | nil => cases h
  | cons file files ih =>
    rw [writeChanged_cons] at h
    split at h
    · cases hwrite : disk.write file.path (.text file.contents) with
      | mk next done =>
        rw [hwrite] at h
        cases done with
        | false =>
          cases h
          exact ⟨_, _, rfl⟩
        | true =>
          simp only [Prod.mk.injEq, map_eq_error_iff] at h
          exact ih (Prod.ext h.1 h.2)
    · exact ih h

/-- A file that is no text holds other bytes. -/
theorem find?_eq_of_read?_eq_none {path : Path} {entry : Entry}
    (hfind : disk.find? path = some entry) (hfile : entry.isFile)
    (hread : disk.read? path = none) : ∃ bytes, disk.find? path = some (.binary bytes) := by
  cases entry with
  | directory => cases hfile
  | text contents => simp [read?, hfind] at hread
  | binary bytes => exact ⟨bytes, hfind⟩

end Disk

namespace Generator

/-- The search among files fails at one that is no text. -/
theorem exists_of_generatedAmong_eq_error (h : generatedAmong disk paths = .error error) :
    ∃ path ∈ paths, disk.read? path = none ∧
      error = .fileUnreadable path.text "the file is no text" := by
  induction paths with
  | nil => cases h
  | cons path paths ih =>
    rw [generatedAmong] at h
    split at h
    · next hread =>
      cases h
      exact ⟨path, List.mem_cons_self, hread, rfl⟩
    · cases hrest : generatedAmong disk paths with
      | error _ =>
        rw [hrest] at h
        cases h
        obtain ⟨other, hother, hread⟩ := ih hrest
        exact ⟨other, List.mem_cons_of_mem _ hother, hread⟩
      | ok _ =>
        rw [hrest] at h
        cases h

/-- The search for orphans fails at a file of the language under a spare name that is no text. -/
theorem exists_of_orphans_eq_error (hdisk : disk.IsTree)
    (h : generator.orphans disk files = .error error) :
    ∃ name bytes, Path.IsPlainName name ∧ generator.isSpare files name ∧
      (Path.extensionOf? name).any (· ∈ generator.language.extensions) ∧
      disk.find? (generator.directory.join ⟨name⟩) = some (.binary bytes) ∧
      error = .fileUnreadable (generator.directory.join ⟨name⟩).text "the file is no text" := by
  rw [orphans_eq hdisk] at h
  obtain ⟨path, hpath, hread, rfl⟩ := exists_of_generatedAmong_eq_error h
  obtain ⟨name, hname, rfl⟩ := List.mem_map.1 hpath
  obtain ⟨hmem, hspare⟩ := List.mem_filter.1 hname
  have hmem := List.mem_mergeSort.1 hmem
  have hplain := hdisk.isPlainName_of_mem_namesWithExtensions hmem
  obtain ⟨-, hfile, hextension⟩ := (hdisk.mem_namesWithExtensions_iff hplain).1 hmem
  obtain ⟨entry, hentry, hisFile⟩ := Disk.isFile_iff.1 hfile
  obtain ⟨bytes, hbytes⟩ := Disk.find?_eq_of_read?_eq_none hentry hisFile hread
  exact ⟨name, bytes, hplain, hspare, hextension, hbytes, rfl⟩

end Generator

namespace Run

variable {surroundings : Surroundings} {config : Option Path} {verbose : Bool}
  {options : GenerateOptions}

/-- A run that fails in another way than at writing a file has left the disk alone. Or it was no dry
run, it has written its files, and it failed at a file of the language in their directory that was
there before it, is no text and is none of its own. -/
theorem generate_eq_error (hdisk : disk.IsTree)
    (h : generate disk surroundings config verbose options = (after, .error error))
    (hwrite : ∀ path reason, error ≠ .fileUnwritable path reason) :
    after = disk ∨ options.dryRun = false ∧ ∃ project files count name location bytes,
      Project.load disk surroundings config options.language options.output = .ok project ∧
      project.generator.files disk project.models = .ok files ∧
      disk.writeChanged files = (after, .ok count) ∧
      disk.Updated files [] after ∧
      Path.IsPlainName name ∧ project.generator.isSpare files name ∧
      (Path.extensionOf? name).any (· ∈ project.generator.language.extensions) ∧
      after.locate? (project.generator.directory.join ⟨name⟩) = some location ∧
      disk.entry? location = some (.binary bytes) ∧
      error = .fileUnreadable (project.generator.directory.join ⟨name⟩).text
        "the file is no text" := by
  rw [generate] at h
  split at h
  · cases h
    exact .inl rfl
  · next project files hloaded =>
    obtain ⟨loaded, hproject, hloaded⟩ := Json.exists_of_bind_eq_ok hloaded
    obtain ⟨worked, hfiles, hloaded⟩ := Json.exists_of_bind_eq_ok hloaded
    cases hloaded
    rw [Project.render_eq] at hfiles
    simp only [generateProject, Prod.mk.injEq, map_eq_error_iff] at h
    have hsync : project.generator.sync disk files (!options.dryRun)
        (options.prune && !options.dryRun) = (after, .error error) := Prod.ext h.1 h.2
    cases hdry : options.dryRun with
    | true =>
      simp only [hdry, Bool.not_true, Bool.and_false, Generator.sync_dry, Prod.mk.injEq] at hsync
      exact .inl hsync.1.symm
    | false =>
      simp only [hdry, Bool.not_false, Bool.and_true] at hsync
      rcases (Generator.sync_eq_error_iff hdisk).1 hsync with
        hwritten | ⟨⟨count, hwritten⟩, horphans⟩
      · obtain ⟨path, reason, rfl⟩ := Disk.exists_of_writeChanged_eq_error hwritten
        exact absurd rfl (hwrite path reason)
      have hlie := Generator.liesIn_of_files (Project.isNameText_of_load hproject) hfiles
      have hupdated := Disk.updated_of_writeChanged hlie hwritten
      obtain ⟨name, bytes, hname, hspare, hextension, hfound, herror⟩ :=
        Generator.exists_of_orphans_eq_error (hdisk.of_writeChanged hwritten) horphans
      obtain ⟨location, hlocate, hentry⟩ := Option.bind_eq_some_iff.1 hfound
      refine .inr ⟨rfl, project, files, count, name, location, bytes, hproject, hfiles, hwritten,
        hupdated, hname, hspare, hextension, hlocate, ?_, herror⟩
      -- A spare name is none that the run writes to, and no directory is a file.
      have hframe := hupdated.entry?_frame location (fun file hfile _ => hlocate ▸
        Generator.locate?_ne_of_isSpare hspare hname hfile (hlie file hfile) hfound) (by simp)
      rw [hentry] at hframe
      rcases hframe with hsame | ⟨-, hdirectory⟩
      · exact hsame.symm
      · cases hdirectory

/-! ## A file that is no text -/

/-- The project with the stale file, and with a file beside it that is no text. -/
def unreadableDisk : Disk := (staleDisk.write ⟨"Models/Notes.swift"⟩ (.binary [0xff])).1

/-- The files go to where the configuration says. -/
def plainOptions : GenerateOptions :=
  { output := none
    language := none
    dryRun := false
    prune := false }

/-- Everything on the disk with a file that is no text lies in a directory. -/
theorem isTree_unreadableDisk : unreadableDisk.IsTree := isTree_staleDisk.write

/-- The model has no file yet. -/
theorem entry?_unreadableDisk : unreadableDisk.entry? ["Models", "Rating.swift"] = none := by
  decide +kernel

/-- On the disk with a file that is no text, a project with the one model `Rating` is loaded. -/
theorem load_unreadableDisk (surroundings : Surroundings) :
    Project.load unreadableDisk surroundings none plainOptions.language plainOptions.output
      = .ok (ratingProject surroundings ⟨"/Models"⟩) := by
  have hdirectory : staleConfig.outputPath = ⟨"/Models"⟩ := by decide
  rw [plainOptions, load_ratingProject surroundings none (by decide +kernel) (by decide +kernel),
    Option.getD_none, hdirectory]

/-- The search for orphans fails. -/
theorem orphans_unreadableDisk (surroundings : Surroundings) {files : List GeneratedFile}
    (hfiles : ∀ file ∈ files, file.GoesTo ⟨"/Models"⟩ "Rating.swift") :
    (ratingProject surroundings ⟨"/Models"⟩).generator.orphans unreadableDisk files
      = .error (.fileUnreadable "/Models/Notes.swift" "the file is no text") := by
  have hnames : unreadableDisk.namesWithExtensions ⟨"/Models"⟩ Language.swift.extensions
      = ["Notes.swift", "Review.swift"] := by decide +kernel
  have hsorted : ["Notes.swift", "Review.swift"].Pairwise fun a b => Path.nameLe a b := by
    decide
  have hspare : (ratingProject surroundings ⟨"/Models"⟩).generator.isSpare files "Notes.swift" := by
    rw [Generator.isSpare_iff]
    intro file hfile hsame
    have hname := ((hfiles file hfile).same_iff ⟨by decide, rfl⟩).1 hsame
    exact absurd hname (by decide)
  have hjoin : (⟨"/Models"⟩ : Path).join ⟨"Notes.swift"⟩ = ⟨"/Models/Notes.swift"⟩ := by
    decide
  have hread : unreadableDisk.read? ⟨"/Models/Notes.swift"⟩ = none := by decide +kernel
  rw [Generator.orphans_eq isTree_unreadableDisk]
  show Generator.generatedAmong unreadableDisk
    ((((unreadableDisk.namesWithExtensions ⟨"/Models"⟩ Language.swift.extensions).mergeSort
      Path.nameLe).filter _).map fun name => (⟨"/Models"⟩ : Path).join ⟨name⟩) = _
  rw [hnames, List.mergeSort_of_pairwise hsorted, List.filter_cons_of_pos hspare, List.map_cons,
    hjoin, Generator.generatedAmong, hread]

/-- The run fails after it has written the file of the model. -/
theorem exists_generate_unreadableDisk (surroundings : Surroundings) : ∃ after,
    generate unreadableDisk surroundings none false plainOptions
        = (after, .error (.fileUnreadable "/Models/Notes.swift" "the file is no text")) ∧
      ∃ contents, after.entry? ["Models", "Rating.swift"] = some (.text contents) := by
  have hfree : unreadableDisk.isFile ((⟨"/Models"⟩ : Path).join ⟨"Rating.swift"⟩) = false := by
    decide +kernel
  obtain ⟨file, -, hfile, hfiles⟩ := exists_files_ratingProject surroundings hfree
  have hgoes : ∀ other ∈ [file], other.GoesTo ⟨"/Models"⟩ "Rating.swift" :=
    List.forall_mem_singleton.2 hfile
  have hlie : ∀ other ∈ [file],
      other.LiesIn (ratingProject surroundings ⟨"/Models"⟩).generator.directory :=
    fun other hother => ⟨_, (hgoes other hother).isPlainName, (hgoes other hother).path_eq⟩
  have hthere : unreadableDisk.HasDirectoryAt ⟨"/Models"⟩ ["Models"] :=
    Disk.leadsTo_iff_follow?.2 (by decide +kernel)
  have hname : unreadableDisk.hasDirectory (["Models"] ++ ["Rating.swift"]) = false := by
    simp [Disk.hasDirectory, entry?_unreadableDisk]
  obtain ⟨written, hwritten⟩ := Disk.exists_writeChanged hthere
    (fun other hother => ⟨_, hgoes other hother, hname⟩) fun other hother name hname => by
      rw [← (hgoes other hother).name_unique hname]
      decide
  have hseen : unreadableDisk.overlooks ⟨"/Models"⟩ = false := by decide +kernel
  have horphans := Generator.orphans_writeChanged isTree_unreadableDisk hlie hwritten hseen
  rw [orphans_unreadableDisk surroundings hgoes] at horphans
  refine ⟨written, ?_, file.contents, ?_⟩
  · have hsync : (ratingProject surroundings ⟨"/Models"⟩).generator.sync unreadableDisk [file]
        true false = (written, .error _) :=
      (Generator.sync_eq_error_iff isTree_unreadableDisk).2 (.inr ⟨⟨_, hwritten⟩, horphans⟩)
    rw [generate_eq_generateProject (load_unreadableDisk surroundings) hfiles, generateProject]
    simp only [plainOptions, Bool.not_false, Bool.false_and, hsync]
    rfl
  · have hwrites := Disk.writes_of_writeChanged hthere hlie hwritten
    have hsplit : [file] = [] ++ file :: [] := rfl
    have hlast := hwrites.entry?_last hsplit hfile (by simp)
    exact hlast

/-- The run fails at the file that is no text, and it has written a file. -/
theorem generate_eq_error_rating : ∃ surroundings after error,
    unreadableDisk.IsTree ∧
      generate unreadableDisk surroundings none false plainOptions = (after, .error error) ∧
      (∀ path reason, error ≠ .fileUnwritable path reason) ∧ after ≠ unreadableDisk ∧
      ∃ files count location bytes, unreadableDisk.writeChanged files = (after, .ok count) ∧
        unreadableDisk.entry? location = some (.binary bytes) := by
  obtain ⟨after, hfails, contents, hentry⟩ := exists_generate_unreadableDisk ⟨⟨2018, 1, 4⟩, false⟩
  have hchanged : after ≠ unreadableDisk := by
    intro hsame
    rw [hsame, entry?_unreadableDisk] at hentry
    cases hentry
  refine ⟨_, after, _, isTree_unreadableDisk, hfails, by simp, hchanged, ?_⟩
  rcases generate_eq_error isTree_unreadableDisk hfails (by simp) with hsame | ⟨-, hwritten⟩
  · exact absurd hsame hchanged
  · obtain ⟨_, files, count, _, location, bytes, -, -, hwritten, -, -, -, -, -, hbytes, -⟩ :=
      hwritten
    exact ⟨files, count, location, bytes, hwritten, hbytes⟩

/-- A run that fails may have changed files although no write failed. -/
theorem not_generate_eq_error_unchanged :
    ¬ ∀ (disk after : Disk) (surroundings : Surroundings) (config : Option Path) (verbose : Bool)
      (options : GenerateOptions) (error : Error), disk.IsTree →
        generate disk surroundings config verbose options = (after, .error error) →
        (∀ path reason, error ≠ .fileUnwritable path reason) →
        ∀ location entry, entry.isFile →
          (after.entry? location = some entry ↔ disk.entry? location = some entry) := by
  intro h
  obtain ⟨after, hfails, contents, hentry⟩ := exists_generate_unreadableDisk ⟨⟨2018, 1, 4⟩, false⟩
  have hsame := h _ _ _ _ _ _ _ isTree_unreadableDisk hfails (by simp) _ _ rfl |>.1 hentry
  rw [entry?_unreadableDisk] at hsame
  cases hsame

end Run

end PayloadModels
