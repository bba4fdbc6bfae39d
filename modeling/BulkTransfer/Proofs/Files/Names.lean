import BulkTransfer.Disk
import Mathlib.Control.Monad.Basic

/-!
# Names of files

What a path leads to after the file system has changed. A path that leads to a file leads to it
after every change that leaves the directories (`Disk.approach_of_within`), a file that was opened
is where its path leads (`Disk.shown_of_openNew`), and one that was discarded is nowhere
(`Disk.shown_discard`). Whatever is done comes of single changes (`Disk.Edited`). The names of a
sound file system lead to files that exist (`Disk.Sound`); every change keeps it sound
(`Disk.Edited.sound`) and leaves its format (`Disk.Edited.format`).
-/

namespace BulkTransfer

/-- A computation that succeeds does so in each of its steps. -/
lemma of_bind_eq_ok {ε α β : Type} {first : Except ε α} {rest : α → Except ε β} {result : β}
    (h : first >>= rest = .ok result) :
    ∃ between, first = .ok between ∧ rest between = .ok result := by
  cases first with
  | error error => cases h
  | ok between => exact ⟨between, rfl, h⟩

/-- What a path shows: what stands where it leads, and the content if that is a file. -/
structure Shown where
  node : Except IoCause Node
  content : Except IoCause Bytes
  deriving DecidableEq

/-- What the path of a file with the given content shows. -/
def Shown.file (file : FileId) (bytes : Bytes) : Shown := ⟨.ok (.file file), .ok bytes⟩

/-- What a path that leads nowhere shows. -/
def Shown.nothing : Shown := ⟨.error .notFound, .error .notFound⟩

namespace Disk

variable {disk after : Disk} {path : LocalPath} {file : FileId}

/-! ## What stands at a place -/

lemma lookup_filter (nodes : List (Place × Node)) (place other : Place) :
    (nodes.filter (·.1 ≠ place)).lookup other =
      if other = place then none else nodes.lookup other := by
  induction nodes with
  | nil => simp
  | cons entry nodes ih =>
      by_cases here : entry.1 = place
      · rw [List.filter_cons_of_neg (by simpa using here), ih]
        by_cases same : other = place
        · rw [if_pos same, if_pos same]
        · have apart : (other == entry.1) = false := by rw [here]; exact beq_eq_false_iff_ne.2 same
          rw [if_neg same, if_neg same, List.lookup_cons, apart]
      · rw [List.filter_cons_of_pos (by simpa using here), List.lookup_cons, ih, List.lookup_cons]
        by_cases same : other = entry.1
        · have apart : other ≠ place := fun equal => here (same.symm.trans equal)
          rw [if_neg apart, if_neg apart, same, beq_self_eq_true]
        · rw [beq_eq_false_iff_ne.2 same]

lemma node?_put (disk : Disk) (place other : Place) (node : Node) :
    (disk.put place node).node? other =
      if other = place then some node else disk.node? other := by
  rw [node?_eq_lookup, node?_eq_lookup, put, List.lookup_cons, lookup_filter]
  by_cases same : other = place
  · rw [if_pos same, if_pos same, same, beq_self_eq_true]
  · rw [if_neg same, beq_eq_false_iff_ne.2 same, if_neg same]

lemma node?_erase (disk : Disk) (place other : Place) :
    (disk.erase place).node? other = if other = place then none else disk.node? other := by
  rw [node?_eq_lookup, node?_eq_lookup, erase, lookup_filter]

/-! ## Directories that stay -/

/-- Whether every directory of a file system is one of another, too. -/
structure Within (disk after : Disk) : Prop where
  home : after.home = disk.home
  directories : ∀ place modified, disk.node? place = some (.directory modified) →
    ∃ later, after.node? place = some (.directory later)

lemma enter_of_within (within : disk.Within after) {at_ place : Place} {name : String}
    (entered : disk.enter at_ name = .ok place) : after.enter at_ name = .ok place := by
  unfold enter at entered ⊢
  split
  · next same => rwa [if_pos same] at entered
  · next other =>
      rw [if_neg other] at entered
      split
      · next up => rwa [if_pos up] at entered
      · next down =>
          rw [if_neg down] at entered
          split
          · next long =>
              rw [if_pos long] at entered
              cases entered
          · next short =>
              rw [if_neg short] at entered
              split at entered
              · next modified there =>
                  obtain ⟨later, stays⟩ := within.directories _ _ there
                  rw [stays]
                  exact entered
              · cases entered
              · cases entered

lemma foldlM_enter_of_within (within : disk.Within after) {names : List String}
    {start place : Place} (walked : names.foldlM disk.enter start = .ok place) :
    names.foldlM after.enter start = .ok place := by
  induction names generalizing start with
  | nil => exact walked
  | cons name names ih =>
      rw [List.foldlM_cons] at walked ⊢
      cases entered : disk.enter start name with
      | error cause =>
          rw [entered] at walked
          cases walked
      | ok next =>
          rw [entered] at walked
          rw [enter_of_within within entered]
          exact ih walked

/-- The way to the last name of a path stays while the directories do. -/
theorem approach_of_within (within : disk.Within after) {approach : Approach}
    (approached : disk.approach path = .ok approach) : after.approach path = .ok approach := by
  unfold Disk.approach at approached ⊢
  simp only [within.home] at approached ⊢
  split at approached
  · cases approached
  · next clean =>
      rw [if_neg clean]
      split at approached
      · cases approached
      · next filled =>
          rw [if_neg filled]
          split at approached
          · cases approached
          · next short =>
              rw [if_neg short]
              split at approached
              · exact approached
              · next last named =>
                  obtain ⟨place, walked, rest⟩ := of_bind_eq_ok approached
                  rw [foldlM_enter_of_within within walked]
                  by_cases dots : last = "." ∨ last = ".."
                  · rw [if_pos dots] at rest
                    obtain ⟨inner, entered, made⟩ := of_bind_eq_ok rest
                    rw [← Except.ok.inj made]
                    change (if last = "." ∨ last = ".." then _ else _) = _
                    rw [if_pos dots, enter_of_within within entered]
                    rfl
                  · rw [if_neg dots] at rest
                    rw [← Except.ok.inj rest]
                    exact if_neg dots

/-! ## What a path leads to -/

/-- A path leads to a file when its last name is that of the file. -/
lemma look_eq_file_iff :
    disk.look path = .ok (.file file) ↔
      ∃ spot, disk.spot path = .ok spot ∧ spot.node = some (.file file) ∧ spot.slash = false := by
  constructor
  · intro looked
    obtain ⟨spot, found, node⟩ := of_bind_eq_ok looked
    refine ⟨spot, found, ?_⟩
    split at node
    · cases node
    · next other there =>
        split at node
        · cases node
        · next plain =>
            obtain rfl := Node.file.inj (Except.ok.inj node)
            exact ⟨there, Bool.eq_false_iff.2 plain⟩
    · cases node
  · rintro ⟨spot, found, there, plain⟩
    simp [look, found, there, plain, bind, Except.bind]

/-- What the last name of a path leads to is what stands at its place. -/
lemma node_of_arrive {approach : Approach} {spot : Spot}
    (arrived : disk.arrive approach = .ok spot) :
    spot.node = disk.node? spot.place ∧ spot.slash = approach.slash := by
  unfold arrive at arrived
  split at arrived
  · obtain rfl := Except.ok.inj arrived
    exact ⟨rfl, rfl⟩
  · dsimp only at arrived
    split at arrived
    · cases arrived
    · obtain rfl := Except.ok.inj arrived
      exact ⟨rfl, rfl⟩

/-- The last name of a path leads to the same place in every file system. -/
lemma arrive_of_arrive {approach : Approach} {spot : Spot} (after : Disk)
    (arrived : disk.arrive approach = .ok spot) :
    after.arrive approach = .ok { spot with node := after.node? spot.place } := by
  unfold arrive at arrived ⊢
  split
  · next none =>
      simp only [none] at arrived
      obtain rfl := Except.ok.inj arrived
      rfl
  · next name some =>
      simp only [some] at arrived
      split at arrived
      · cases arrived
      · next short =>
          obtain rfl := Except.ok.inj arrived
          exact if_neg short

/-- A path leads to the same place while the directories stay. -/
lemma spot_of_within (within : disk.Within after) {spot : Spot}
    (found : disk.spot path = .ok spot) :
    after.spot path = .ok { spot with node := after.node? spot.place } := by
  obtain ⟨approach, approached, arrived⟩ := of_bind_eq_ok found
  rw [Disk.spot, approach_of_within within approached]
  exact arrive_of_arrive after arrived

lemma node_of_spot {spot : Spot} (found : disk.spot path = .ok spot) :
    spot.node = disk.node? spot.place := by
  obtain ⟨approach, -, arrived⟩ := of_bind_eq_ok found
  exact (node_of_arrive arrived).1

lemma within_put {place : Place} (node : Node) (new : disk.node? place = none) :
    disk.Within (disk.put place node) where
  home := rfl
  directories other modified there := by
    refine ⟨modified, ?_⟩
    have apart : other ≠ place := by
      rintro rfl
      rw [new] at there
      cases there
    rw [node?_put, if_neg apart]
    exact there

lemma within_erase {place : Place} (isFile : disk.node? place = some (.file file)) :
    disk.Within (disk.erase place) where
  home := rfl
  directories other modified there := by
    refine ⟨modified, ?_⟩
    have apart : other ≠ place := by
      rintro rfl
      rw [isFile] at there
      cases there
    rw [node?_erase, if_neg apart]
    exact there

/-! ## Files at the end of a path -/

/-- What a path shows in a file system. -/
def shown (disk : Disk) (path : LocalPath) : Shown :=
  ⟨disk.look path, disk.readWhole path⟩

lemma look_of_shown {bytes : Bytes} (shows : disk.shown path = .file file bytes) :
    disk.look path = .ok (.file file) := congrArg Shown.node shows

lemma read_of_shown {bytes : Bytes} (shows : disk.shown path = .file file bytes) :
    disk.readWhole path = .ok bytes := congrArg Shown.content shows

lemma shown_of_look {bytes : Bytes} (looked : disk.look path = .ok (.file file))
    (read : disk.readWhole path = .ok bytes) : disk.shown path = .file file bytes := by
  rw [shown, looked, read]
  rfl

lemma readWhole_of_look (looked : disk.look path = .ok (.file file)) :
    disk.readWhole path = .ok ((disk.file? file).getD {}).content := by
  rw [readWhole, looked]
  rfl

lemma file?_update (disk : Disk) (file other : FileId) (change : FileData → FileData) :
    (disk.update file change).file? other =
      (disk.file? other).map fun data => if file = other then change data else data :=
  List.getElem?_modify ..

lemma content_empty : FileData.content {} = [] := by
  rw [FileData.content_eq_foldr]
  rfl

/-- A file that was opened is where its path leads, and it is empty. -/
lemma shown_of_openEmpty (opened : disk.openEmpty path = .ok (file, after)) :
    after.shown path = .file file [] := by
  unfold openEmpty at opened
  obtain ⟨approach, approached, rest⟩ := of_bind_eq_ok opened
  split at rest
  · cases rest
  · next named =>
      have plain : approach.slash = false := by
        cases slash : approach.slash with
        | false => rfl
        | true => exact absurd (.inr slash) named
      obtain ⟨spot, arrived, made⟩ := of_bind_eq_ok rest
      have found : disk.spot path = .ok spot := by
        rw [Disk.spot, approached]
        exact arrived
      obtain ⟨there, slash⟩ := node_of_arrive arrived
      rw [plain] at slash
      split at made
      · cases made
      · next id isFile =>
          obtain ⟨rfl, rfl⟩ := Prod.mk.inj (Except.ok.inj made)
          have looked : disk.look path = .ok (.file id) :=
            look_eq_file_iff.2 ⟨spot, found, isFile, slash⟩
          refine shown_of_look looked ?_
          have emptied : ((disk.update id fun _ => {}).file? id).getD {} = {} := by
            rw [file?_update]
            cases disk.file? id with
            | none => rfl
            | some data => exact if_pos rfl
          rw [@readWhole_of_look (disk.update id fun _ => {}) path id looked, emptied,
            content_empty]
      · next absent =>
          obtain ⟨rfl, rfl⟩ := Prod.mk.inj (Except.ok.inj made)
          rw [there] at absent
          have found := spot_of_within (within_put (.file disk.files.length) absent) found
          rw [node?_put, if_pos rfl] at found
          have looked : (disk.put spot.place (.file disk.files.length)).look path =
              .ok (.file disk.files.length) := look_eq_file_iff.2 ⟨_, found, rfl, slash⟩
          refine shown_of_look looked ?_
          have new : (disk.files ++ [({} : FileData)])[disk.files.length]?.getD {} = {} := by
            rw [List.getElem?_append_right (Nat.le_refl _), Nat.sub_self]
            rfl
          have read := @readWhole_of_look
            { disk.put spot.place (.file disk.files.length) with
              files := disk.files ++ [({} : FileData)] }
            path disk.files.length looked
          rw [read, file?, new, content_empty]

theorem shown_of_openNew (opened : disk.openNew path = (.ok file, after)) :
    after.shown path = .file file [] := by
  unfold openNew at opened
  split at opened
  · cases (Prod.mk.inj opened).1
  · next between made =>
      split at opened
      · cases (Prod.mk.inj opened).1
      · next id last openedNow =>
          obtain ⟨same, rfl⟩ := Prod.mk.inj opened
          obtain rfl := Except.ok.inj same
          exact shown_of_openEmpty openedNow

/-- A file that is discarded is nowhere any more. -/
theorem shown_discard {bytes : Bytes} (shows : disk.shown path = .file file bytes) :
    (disk.discard path).shown path = .nothing := by
  obtain ⟨spot, found, isFile, plain⟩ := look_eq_file_iff.1 (look_of_shown shows)
  have removed : disk.unlink path = .ok (disk.erase spot.place) := by
    simp [unlink, found, isFile, plain, bind, Except.bind]
  have there : disk.node? spot.place = some (.file file) := (node_of_spot found).symm.trans isFile
  have gone := spot_of_within (within_erase there) found
  rw [node?_erase, if_pos rfl] at gone
  rw [discard, removed]
  have nowhere : (disk.erase spot.place).look path = .error .notFound := by
    rw [look, gone]
    rfl
  change (disk.erase spot.place).shown path = _
  rw [shown, readWhole, nowhere]
  rfl

/-! ## Sound file systems -/

/-- Whether every name of a file leads to a file that exists. -/
def Sound (disk : Disk) : Prop :=
  ∀ place file, disk.node? place = some (.file file) → file < disk.files.length

lemma sound_empty : empty.Sound := by
  intro place file there
  rw [node?_eq_lookup] at there
  simp only [empty, List.lookup_cons, List.lookup_nil] at there
  split at there
  · cases there
  · split at there <;> cases there

/-- What can become of a file system in a step of a run. -/
inductive Altered (disk : Disk) : Disk → Prop where
  | same : Altered disk disk
  | opened (path : LocalPath) : Altered disk (disk.openNew path).2
  | written (file : FileId) (offset : Nat) (piece : Bytes) :
      Altered disk (disk.write file offset piece)
  | stamped {path : LocalPath} {time : Time} {after : Disk}
      (set : disk.setModified path time = .ok after) : Altered disk after
  | removed {path : LocalPath} {after : Disk} (gone : disk.unlink path = .ok after) :
      Altered disk after

lemma Sound.exists (sound : disk.Sound) (looked : disk.look path = .ok (.file file)) :
    ∃ data, disk.file? file = some data := by
  obtain ⟨spot, found, isFile, -⟩ := look_eq_file_iff.1 looked
  have there := sound spot.place file ((node_of_spot found).symm.trans isFile)
  exact ⟨_, List.getElem?_eq_getElem there⟩

/-- What comes of a file system by single changes: a directory is put in a place, a new file gets a
name, the data of a file change, or what is in a place goes. -/
inductive Edited (disk : Disk) : Disk → Prop where
  | refl : Edited disk disk
  | directory {after : Disk} (edited : Edited disk after) (place : Place)
      (modified : Option Time) : Edited disk (after.put place (.directory modified))
  | created {after : Disk} (edited : Edited disk after) (place : Place) :
      Edited disk
        { after.put place (.file after.files.length) with files := after.files ++ [{}] }
  | updated {after : Disk} (edited : Edited disk after) (file : FileId)
      (change : FileData → FileData) : Edited disk (after.update file change)
  | erased {after : Disk} (edited : Edited disk after) (place : Place) :
      Edited disk (after.erase place)

variable {start : Disk}

lemma Edited.makeDirectory (edited : start.Edited disk)
    (made : disk.makeDirectory path = .ok after) : start.Edited after := by
  obtain ⟨spot, -, rest⟩ := of_bind_eq_ok made
  split at rest
  · cases rest
  · obtain rfl := Except.ok.inj rest
    exact edited.directory spot.place none

lemma Edited.makeDirectoriesWith (edited : start.Edited disk) (path : LocalPath) (fuel : Nat) :
    start.Edited (disk.makeDirectoriesWith path fuel).2 := by
  induction fuel generalizing disk path with
  | zero => exact edited
  | succ fuel ih =>
      unfold Disk.makeDirectoriesWith
      split
      · exact edited
      · split
        · next disk made => exact edited.makeDirectory made
        · split
          · exact edited
          · next parent _ =>
              have outer := ih edited parent
              split
              · next cause disk refused =>
                  rw [refused] at outer
                  exact outer
              · next disk made =>
                  rw [made] at outer
                  split
                  · next disk made => exact outer.makeDirectory made
                  · exact outer
        · exact edited

lemma Edited.makeParent (edited : start.Edited disk) (path : LocalPath) :
    start.Edited (disk.makeParent path).2 := by
  unfold Disk.makeParent
  split
  · exact edited
  · next parent _ => exact edited.makeDirectoriesWith parent _

lemma Edited.openEmpty (edited : start.Edited disk)
    (opened : disk.openEmpty path = .ok (file, after)) : start.Edited after := by
  unfold Disk.openEmpty at opened
  obtain ⟨approach, approached, rest⟩ := of_bind_eq_ok opened
  split at rest
  · cases rest
  · obtain ⟨spot, arrived, made⟩ := of_bind_eq_ok rest
    split at made
    · cases made
    · obtain ⟨rfl, rfl⟩ := Prod.mk.inj (Except.ok.inj made)
      exact edited.updated _ _
    · obtain ⟨rfl, rfl⟩ := Prod.mk.inj (Except.ok.inj made)
      exact edited.created _

lemma Edited.openNew (edited : start.Edited disk) (path : LocalPath) :
    start.Edited (disk.openNew path).2 := by
  have parent := edited.makeParent path
  unfold Disk.openNew
  split
  · next error between made =>
      rw [made] at parent
      exact parent
  · next between made =>
      rw [made] at parent
      split
      · exact parent
      · next opened => exact parent.openEmpty opened

lemma Edited.setModified {time : Time} (edited : start.Edited disk)
    (set : disk.setModified path time = .ok after) : start.Edited after := by
  unfold Disk.setModified at set
  obtain ⟨spot, -, rest⟩ := of_bind_eq_ok set
  obtain ⟨node, -, made⟩ := of_bind_eq_ok rest
  split at made
  · obtain rfl := Except.ok.inj made
    exact edited.directory _ _
  · obtain rfl := Except.ok.inj made
    exact edited.updated _ _

lemma Edited.unlink (edited : start.Edited disk) (gone : disk.unlink path = .ok after) :
    start.Edited after := by
  obtain ⟨spot, -, rest⟩ := of_bind_eq_ok gone
  split at rest
  · cases rest
  · cases rest
  · split at rest
    · cases rest
    · obtain rfl := Except.ok.inj rest
      exact edited.erased _

/-- Whatever a step of a run does to a file system comes of single changes. -/
lemma Altered.edited (altered : disk.Altered after) : disk.Edited after := by
  cases altered with
  | same => exact .refl
  | opened path => exact Edited.refl.openNew path
  | written file offset piece => exact Edited.refl.updated _ _
  | stamped set => exact Edited.refl.setModified set
  | removed gone => exact Edited.refl.unlink gone

/-- A sound file system stays sound. -/
theorem Edited.sound (edited : disk.Edited after) (sound : disk.Sound) : after.Sound := by
  induction edited with
  | refl => exact sound
  | @directory between edited place modified ih =>
      intro other file there
      rw [node?_put] at there
      split at there
      · cases there
      · exact ih other file there
  | @created between edited place ih =>
      intro other file there
      have there : (between.put place (.file between.files.length)).node? other =
          some (.file file) := there
      rw [node?_put] at there
      change file < (between.files ++ [({} : FileData)]).length
      rw [List.length_append, List.length_singleton]
      split at there
      · obtain rfl := Node.file.inj (Option.some.inj there)
        exact Nat.lt_succ_self _
      · exact Nat.lt_succ_of_lt (ih other file there)
  | @updated between edited id change ih =>
      intro place file there
      rw [show (between.update id change).files.length = between.files.length from
        List.length_modify ..]
      exact ih place file there
  | @erased between edited place ih =>
      intro other file there
      rw [node?_erase] at there
      split at there
      · cases there
      · exact ih other file there

/-- No change is one of the format. -/
theorem Edited.format (edited : disk.Edited after) : after.format = disk.format := by
  induction edited with
  | refl => rfl
  | directory _ _ _ same | created _ _ same | updated _ _ _ same | erased _ _ same => exact same

/-! ## What changes of the content keep -/

/-- What is written to the file that a path leads to is placed in its content. -/
lemma shown_write {bytes : Bytes} (shows : disk.shown path = .file file bytes)
    (sound : disk.Sound) (offset : Nat) (piece : Bytes) :
    (disk.write file offset piece).shown path =
      .file file (bytes.placed offset (disk.format.fitting offset piece)) := by
  have looked := look_of_shown shows
  have read := read_of_shown shows
  obtain ⟨data, present⟩ := sound.exists looked
  rw [readWhole_of_look looked, present] at read
  obtain rfl := Except.ok.inj read
  refine shown_of_look looked ?_
  rw [@readWhole_of_look (disk.write file offset piece) path file looked, Disk.write, file?_update,
    present, Option.map_some, if_pos rfl, Option.getD_some, Option.getD_some,
    FileData.content_write]

/-- The time of a file is not part of its content. -/
lemma shown_setModified {bytes : Bytes} {time : Time}
    (shows : disk.shown path = .file file bytes)
    (set : disk.setModified path time = .ok after) : after.shown path = .file file bytes := by
  have looked := look_of_shown shows
  have read := read_of_shown shows
  obtain ⟨spot, -, rest⟩ := of_bind_eq_ok set
  rw [looked] at rest
  obtain rfl := Except.ok.inj rest
  refine shown_of_look looked ?_
  rw [readWhole_of_look looked] at read
  rw [@readWhole_of_look (disk.update file _) path file looked, file?_update, ← read]
  cases disk.file? file with
  | none => rfl
  | some data =>
      rw [Option.map_some, if_pos rfl, Option.getD_some, Option.getD_some,
        FileData.content_eq_foldr, FileData.content_eq_foldr]

end Disk
end BulkTransfer
