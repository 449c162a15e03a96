import SlidePress.Deck.Generation
import SlidePress.Proofs.DeckSlides
import SlidePress.Proofs.FolderMaking

/-! What the making of a deck does to files. A document that cannot be read leaves all as it is. Otherwise
nothing changes but the file of the deck and the folders on the way to it, whether or not the deck comes
to be; and if it does not, there is no new file, not even where the deck was to be. -/

namespace SlidePress

namespace FileTree

variable {tree newer : FileTree} {path : Path} {place : Location} {content : Content}

/-- Whether a path leads to a file with a text. -/
def HoldsText (tree : FileTree) (path : Path) (text : String) : Prop :=
  ∃ content runnable, tree.entry? path = some (.file content runnable) ∧
    String.fromUTF8? content.data = some text

/-- What may become of the files when one of them is written: nothing that is not at the path of that
file changes, and the new folders are above that path. -/
structure Spares (older newer : FileTree) (output : Path) : Prop where
  others : ∀ place entry, older.find? place = some entry → newer.locate output ≠ .ok place →
    newer.find? place = some entry
  folders : ∀ place, newer.find? place = some .folder → older.find? place ≠ some .folder →
    ∃ upper : Path, upper.IsAbove output ∧ newer.locate upper = .ok place

def HasMade (older newer : FileTree) (output : Path) (place : Location) : Prop :=
  older.find? place = none ∧ newer.find? place = some .folder ∧
    ∃ upper : Path, upper.IsAbove output ∧ newer.locate upper = .ok place

/-- What becomes of the files when one of them cannot be written: all that was there is still there, there
is nothing new but folders on the way, and the path of that file leads to what it has led to. Only where it
has led to nothing and climbs, it may lead to a folder once the folders on the way are there: to one of
them, or to one that was there before and could not be reached. -/
structure Keeps (older newer : FileTree) (output : Path) : Prop where
  all : ∀ place entry, older.find? place = some entry → newer.find? place = some entry
  made : ∀ place entry, older.find? place = none → newer.find? place = some entry →
    older.HasMade newer output place
  output : newer.entry? output = older.entry? output ∨
    older.entry? output = none ∧ output.Climbs ∧ ∃ place, newer.locate output = .ok place ∧
      (older.find? place = some .folder ∨ older.HasMade newer output place)

theorem requireFile_eq_ok_iff : tree.requireFile path = .ok () ↔
    ∃ content runnable, tree.entry? path = some (.file content runnable) := by
  rw [requireFile, holds, isFile]
  rcases tree.entry? path with _ | folder | ⟨content, runnable⟩ | device <;> simp

private theorem read_of_file {runnable : Bool} (found : tree.entry? path = some (.file content runnable)) :
    tree.read path = .ok content := by
  obtain ⟨place, located, there⟩ := entry?_eq_some_iff.mp found
  rw [read]
  simp only [located, there]

private theorem MakesFolders.spares {output : Path} (makes : tree.MakesFolders newer (·.IsAbove output)) :
    tree.Spares newer output where
  others := fun place entry found _ => makes.kept place entry found
  folders := by
    intro place found new
    cases before : tree.find? place with
    | none => exact (makes.made place .folder before found).2
    | some entry =>
      rw [makes.kept place entry before] at found
      exact absurd (before.trans found) new

theorem newPlace_of_write (written : tree.write path content = .ok newer) :
    ∃ place, tree.newPlace path = .ok (some (place, false)) := by
  rw [write] at written
  split at written
  · cases written
  · cases written
  · cases written
  next place named => exact ⟨place, named⟩

/-- What is written is a file afterwards, unless a device takes it. -/
theorem find?_of_write (written : tree.write path content = .ok newer)
    (named : tree.newPlace path = .ok (some (place, false))) :
    (∃ runnable, newer.find? place = some (.file content runnable)) ∨
      ∃ device, newer.find? place = some (.device device) := by
  rw [write, named] at written
  dsimp only at written
  split at written
  · cases written
  next device there =>
    obtain rfl := Except.ok.inj written
    exact .inr ⟨device, there⟩
  next old runnable there =>
    obtain rfl := Except.ok.inj written
    exact .inl ⟨runnable, by rw [find?_put tree (newPlace_ne_nil named), if_pos rfl]⟩
  next free =>
    obtain rfl := Except.ok.inj written
    exact .inl ⟨false, by rw [find?_put tree (newPlace_ne_nil named), if_pos rfl]⟩

/-- What has been written is what its path leads to. -/
theorem locate_of_write (written : tree.write path content = .ok newer)
    (named : tree.newPlace path = .ok (some (place, false))) : newer.locate path = .ok place := by
  have same := (writesOnly_write written).toSameFolders
  apply locate_newFile (same.newPlace named)
  rcases find?_of_write written named with ⟨runnable, there⟩ | ⟨device, there⟩
  · rw [there]
    rfl
  · rw [there]
    rfl

private theorem spares_write {older : FileTree} (makes : older.MakesFolders tree (·.IsAbove path))
    (written : tree.write path content = .ok newer) : older.Spares newer path := by
  have writes := writesOnly_write written
  constructor
  · intro place entry found elsewhere
    rw [writes.elsewhere place]
    · exact makes.kept place entry found
    · intro other only named
      obtain rfl := List.mem_singleton.mp only
      exact elsewhere (locate_of_write written named)
  · intro place found new
    have before := (writes.folders place).mp found
    obtain ⟨upper, above, led⟩ := makes.spares.folders place before new
    obtain ⟨usable, walked⟩ := locate_eq_ok_iff.mp led
    rw [← writes.toSameFolders.base_eq] at walked
    exact ⟨upper, above, locate_eq_ok_iff.mpr ⟨usable, writes.toSameFolders.walk walked (found.trans before.symm)⟩⟩

/-- A piece that is no name leads from a folder to a folder. -/
theorem folder_of_walk_unnamed (sound : tree.IsSound) {folder : Location} {last : List Char}
    (uncut : '/' ∉ last)
    (unnamed : ¬ Path.IsName last) (reached : tree.walk folder [last] = .ok place) :
    tree.find? place = some .folder := by
  have inside := folder_of_walk reached
  have above : tree.find? folder.dropLast = some .folder := by
    rcases List.eq_nil_or_concat' folder with rfl | ⟨upper, name, rfl⟩
    · rfl
    · rw [List.dropLast_concat]
      exact sound upper name .folder inside
  rw [walk, inside] at reached
  dsimp only at reached
  split at reached
  · obtain rfl := Except.ok.inj reached
    exact inside
  next busy =>
    split at reached
    · obtain rfl := Except.ok.inj reached
      exact above
    next named => exact absurd ⟨eq_false_of_ne_true busy, named, uncut⟩ unnamed

/-- A file can be written where a path leads to one, so only a folder stands in the way. -/
theorem folder_of_write_error (sound : tree.IsSound) {fault : Fault} {entry : Entry}
    (failed : tree.write path content = .error fault) (found : tree.entry? path = some entry) :
    entry = .folder := by
  obtain ⟨place, located, there⟩ := entry?_eq_some_iff.mp found
  obtain ⟨usable, walked⟩ := locate_eq_ok_iff.mp located
  have nonempty : Text.pieces '/' path.text.toList ≠ [] := by
    rw [Text.pieces_eq_splitOn]
    exact List.splitOn_ne_nil _ _
  obtain ⟨front, last, parts⟩ := (List.eq_nil_or_concat' _).resolve_left nonempty
  by_cases step : Path.IsName last
  · rw [write, newPlace_of_locate parts step located] at failed
    simp only [there] at failed
    cases entry with
    | folder => rfl
    | file content runnable => cases failed
    | device device => cases failed
  · rw [parts, walk_append] at walked
    cases way : tree.walk (tree.base path) front with
    | error fault =>
      rw [way] at walked
      cases walked
    | ok folder =>
      rw [way] at walked
      have uncut : '/' ∉ last := Text.notMem_of_mem_pieces (parts ▸ List.mem_append_right front List.mem_cons_self)
      exact Option.some.inj (there.symm.trans (folder_of_walk_unnamed sound uncut step walked))

private theorem MakesFolders.hasMade {output : Path} {entry : Entry}
    (makes : tree.MakesFolders newer (·.IsAbove output))
    (free : tree.find? place = none) (found : newer.find? place = some entry) :
    tree.HasMade newer output place := by
  obtain ⟨rfl, above⟩ := makes.made place entry free found
  exact ⟨free, found, above⟩

private theorem keeps_of_ensureParent {failure : Failure}
    (failed : tree.ensureParent path = (newer, some failure)) :
    tree.Keeps newer path := by
  have makes := makesFolders_ensureParent tree path
  rw [failed] at makes
  refine ⟨makes.kept, fun _ _ => makes.hasMade, .inl ?_⟩
  have nothing := entry?_of_ensureParent failed
  cases before : tree.entry? path with
  | none => exact nothing
  | some entry =>
    rw [makes.entry? before] at nothing
    cases nothing

private theorem keeps_of_write {older : FileTree} (sound : older.IsSound)
    (makes : older.MakesFolders tree (·.IsAbove path)) {fault : Fault}
    (failed : tree.write path content = .error fault) : older.Keeps tree path := by
  refine ⟨makes.kept, fun _ _ => makes.hasMade, ?_⟩
  by_cases climbs : path.Climbs
  · cases before : older.entry? path with
    | some entry => exact .inl (makes.entry? before)
    | none =>
      cases after : tree.entry? path with
      | none => exact .inl rfl
      | some entry =>
        obtain rfl := folder_of_write_error (makes.sound sound) failed after
        obtain ⟨place, located, found⟩ := entry?_eq_some_iff.mp after
        refine .inr ⟨rfl, climbs, place, located, ?_⟩
        cases was : older.find? place with
        | none => exact .inr (makes.hasMade was found)
        | some entry =>
          have kept := makes.kept place entry was
          exact .inl (kept.symm.trans found)
  · exact .inl (makes.entry?_eq sound climbs)

end FileTree

namespace Deck

variable {tree : FileTree}

theorem readDocument_eq_ok_iff {input : Path} {document : String} :
    readDocument tree input = .ok document ↔ tree.HoldsText input document := by
  rw [readDocument]
  constructor
  · intro reads
    split at reads
    · cases reads
    next required =>
      obtain ⟨content, runnable, found⟩ := FileTree.requireFile_eq_ok_iff.mp required
      refine ⟨content, runnable, found, ?_⟩
      rw [FileTree.readText, FileTree.read_of_file found] at reads
      cases text : String.fromUTF8? content.data with
      | none => simp [text, Except.mapError] at reads
      | some text' => simpa [text, Except.mapError] using reads
  · rintro ⟨content, runnable, found, text⟩
    rw [FileTree.requireFile_eq_ok_iff.mpr ⟨content, runnable, found⟩, FileTree.readText,
      FileTree.read_of_file found]
    simp only [text, Except.mapError]

/-- A deck leaves all files but its own, and if it cannot be written it leaves its own, too. -/
theorem save_spares (sound : tree.IsSound) {deck : Deck} {created : String} {package : Package}
    (drawn : deck.package? created = some package) (output : Path) :
    tree.Spares (deck.save created tree output).1 output ∧
      ∀ stop, (deck.save created tree output).2 = some stop →
        (∃ failure, stop = .failure failure) ∧ tree.Keeps (deck.save created tree output).1 output := by
  have makes := FileTree.makesFolders_ensureParent tree output
  rw [save]
  split
  next newer failure failed =>
    rw [failed] at makes
    refine ⟨makes.spares, fun stop stopped => ⟨⟨failure, ?_⟩, FileTree.keeps_of_ensureParent failed⟩⟩
    exact (Option.some.inj stopped).symm
  next newer reached =>
    rw [reached] at makes
    simp only [drawn]
    split
    next written =>
      refine ⟨FileTree.spares_write makes written, fun stop stopped => ?_⟩
      cases stopped
    next fault failed =>
      refine ⟨makes.spares, fun stop stopped => ⟨⟨.system fault, ?_⟩, FileTree.keeps_of_write sound makes failed⟩⟩
      exact (Option.some.inj stopped).symm

/-- A document that is not there, not in a file or no text leaves all files as they are, and nothing is told.
A document that can be read leaves all files but that of the deck as they are, and the new folders are
above its path as that is written; if there is no deck in the end, that has a cause, and no file has changed
at all. -/
theorem generation_spares_files (sound : tree.IsSound) (settings : Settings) (created : String)
    (input output : Path) :
    ((¬ ∃ document, tree.HoldsText input document) →
      ∃ failure, generate tree settings created input output = ⟨tree, [], .error (.failure failure)⟩) ∧
    ∀ document, tree.HoldsText input document →
      tree.Spares (generate tree settings created input output).tree output ∧
      ∀ stop, (generate tree settings created input output).result = .error stop →
        (∃ failure, stop = .failure failure) ∧
          tree.Keeps (generate tree settings created input output).tree output := by
  constructor
  · intro unreadable
    rw [generate]
    split
    next failure stopped => exact ⟨failure, rfl⟩
    next document reads => exact absurd ⟨document, readDocument_eq_ok_iff.mp reads⟩ unreadable
  · intro document reads
    obtain ⟨package, drawn⟩ := package?_ofDrafts settings (Draft.ofDocument document) created
    have saved := save_spares sound drawn output
    rw [generate, readDocument_eq_ok_iff.mpr reads]
    dsimp only
    split
    next newer stop stopped =>
      rw [stopped] at saved
      refine ⟨saved.1, fun other same => saved.2 other ?_⟩
      exact congrArg some (Except.error.inj same)
    next newer written =>
      rw [written] at saved
      refine ⟨saved.1, fun stop stopped => ?_⟩
      cases stopped

def oneFile : FileTree where
  entries := [(["a.md"], .file (.bytes .empty) false)]

private theorem isSound_oneFile : oneFile.IsSound := by
  intro folder name entry found
  rw [FileTree.find?, if_neg (List.append_ne_nil_of_right_ne_nil _ (List.cons_ne_nil _ _)), oneFile,
    List.lookup_cons] at found
  split at found
  next same =>
    have whole : folder ++ [name] = [] ++ ["a.md"] := eq_of_beq same
    obtain ⟨rfl, -⟩ := List.append_inj' whole rfl
    rfl
  next => cases found

private theorem holdsText_oneFile : oneFile.HoldsText ⟨"a.md"⟩ "" := by
  have valid : FileTree.IsFileName "a.md" := by decide +kernel
  have there : oneFile.find? ["a.md"] = some (.file (.bytes .empty) false) := rfl
  refine ⟨.bytes .empty, false, ?_, by decide +kernel⟩
  rw [FileTree.entry?, FileTree.locate_name valid rfl there]
  exact there

/-- Two folders have to be made for the deck. -/
theorem generation_spares_files_two_folders_down :
    oneFile.IsSound ∧ oneFile.HoldsText ⟨"a.md"⟩ "" ∧
      oneFile.Spares (generate oneFile {} "" ⟨"a.md"⟩ ⟨"x/y/a.pptx"⟩).tree ⟨"x/y/a.pptx"⟩ :=
  ⟨isSound_oneFile, holdsText_oneFile,
    ((generation_spares_files isSound_oneFile {} "" ⟨"a.md"⟩ ⟨"x/y/a.pptx"⟩).2 "" holdsText_oneFile).1⟩

/-- The folder of the first step is made for a path that climbs out of it again. -/
theorem ensureParent_climbing :
    oneFile.ensureParent ⟨"x/../x"⟩ = (oneFile.put ["x"] .folder, none) := by
  have absent : oneFile.holds ⟨"x/.."⟩ = false := by
    rw [FileTree.holds, FileTree.entry?, FileTree.locate_of_short _ (by decide +kernel)]
    decide +kernel
  have missing : oneFile.makeFolder ⟨"x/.."⟩ = .error .notFound := by
    rw [FileTree.makeFolder, FileTree.newPlace, FileTree.isTaken_of_short (by decide +kernel)]
    rfl
  have first : oneFile.makeFolder ⟨"x"⟩ = .ok (oneFile.put ["x"] .folder) :=
    FileTree.makeFolder_eq_ok_iff.mpr
      ⟨["x"], false, FileTree.newPlace_name (by decide +kernel) rfl, rfl, rfl⟩
  have back : (oneFile.put ["x"] .folder).isFolder ⟨"x/.."⟩ = true := by
    rw [FileTree.isFolder, FileTree.entry?, FileTree.locate_of_short _ (by decide +kernel)]
    decide +kernel
  have parent : (⟨"x/../x"⟩ : Path).parent? = some ⟨"x/.."⟩ := by decide +kernel
  have upper : (⟨"x/.."⟩ : Path).parent? = some ⟨"x"⟩ := by decide +kernel
  have made : oneFile.makeFolders ⟨"x/.."⟩ 5 = (oneFile.put ["x"] .folder, none) := by
    rw [FileTree.makeFolders, if_neg (by decide), missing]
    simp only [upper]
    rw [FileTree.makeFolders, if_neg (by decide), first]
    simp only [FileTree.makeFolder_of_isFolder back, back, if_true]
  rw [FileTree.ensureParent, parent]
  simp only [FileTree.ensureFolder, absent]
  exact congrArg (fun made => (made.1, made.2.map Failure.system)) made

/-- A path that goes back over its own first step leads to the folder that has been made for that step, where
the deck cannot be written. -/
theorem climbing_output_becomes_folder :
    ¬ ∀ (tree : FileTree) (settings : Settings) (created : String) (input output : Path),
      tree.IsSound → (∃ document, tree.HoldsText input document) →
      ∀ failure, (generate tree settings created input output).result = .error failure →
        (generate tree settings created input output).tree.entry? output = tree.entry? output := by
  intro kept
  have located : (oneFile.put ["x"] .folder).locate ⟨"x/../x"⟩ = .ok ["x"] := by
    rw [FileTree.locate_of_short _ (by decide +kernel)]
    rfl
  have parts : Text.pieces '/' (⟨"x/../x"⟩ : Path).text.toList = [['x'], ['.', '.']] ++ [['x']] := by
    decide +kernel
  have place : (oneFile.put ["x"] .folder).newPlace ⟨"x/../x"⟩ = .ok (some (["x"], false)) :=
    FileTree.newPlace_of_locate parts (by decide +kernel) located
  have failed : generate oneFile {} "" ⟨"a.md"⟩ ⟨"x/../x"⟩ =
      ⟨oneFile.put ["x"] .folder, [.parsed 0], .error (.failure (.system .isFolder))⟩ := by
    rw [generate, readDocument_eq_ok_iff.mpr holdsText_oneFile]
    simp only [save, ensureParent_climbing, FileTree.write, place]
    rfl
  have same := kept oneFile {} "" ⟨"a.md"⟩ ⟨"x/../x"⟩ isSound_oneFile ⟨"", holdsText_oneFile⟩ _
    (congrArg Generation.result failed)
  have before : oneFile.holds ⟨"x/../x"⟩ = false := by
    rw [FileTree.holds, FileTree.entry?, FileTree.locate_of_short _ (by decide +kernel)]
    decide +kernel
  rw [failed, FileTree.entry?, located] at same
  rw [FileTree.holds, ← same] at before
  cases before

end Deck

end SlidePress
