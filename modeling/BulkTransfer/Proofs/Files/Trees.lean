import BulkTransfer.Proofs.Files.Names
import BulkTransfer.Proofs.Files.Paths
import Mathlib.Data.List.Nodup

/-!
# Trees of files

What stands within a directory is a tree if it is made of directories within each other and of files
in them, under names that entries of a directory can have (`Disk.TreeAt`). The paths that go down
from a path to the directory lead to what stands there, unless they are too long
(`Disk.TreeAt.spot_descend`). A walk of the tree finds each of its files once
(`Disk.TreeAt.walk_cases`); it fails only where the path of a directory is too long.
-/

namespace BulkTransfer

lemma Place.descend_concat (place : Place) (names : List String) (name : String) :
    place.descend (names ++ [name]) = (place.descend names).child name := by
  rw [descend, descend, List.foldl_append]
  rfl

namespace Disk

variable {disk : Disk} {root : LocalPath} {place at_ : Place} {names : List String} {node : Node}

/-- Whether a place holds a tree: no place holds two things, what stands within the given one has
names that an entry of a directory can have, and it stands in a directory. -/
structure TreeAt (disk : Disk) (place : Place) : Prop where
  once : (disk.nodes.map Prod.fst).Nodup
  proper : ∀ names node, disk.node? (place.descend names) = some node →
    ∀ name ∈ names, LocalPath.Proper name
  around : ∀ names name node, disk.node? (place.descend (names ++ [name])) = some node →
    ∃ modified, disk.node? (place.descend names) = some (.directory modified)

/-- A path is too long to be read if it has this many bytes. -/
def TooLong (path : LocalPath) : Prop := pathBound ≤ path.text.utf8ByteSize

instance (path : LocalPath) : Decidable (TooLong path) :=
  inferInstanceAs (Decidable (_ ≤ _))

/-! ## The way down -/

/-- Where the names of a path start. -/
def start (disk : Disk) (path : LocalPath) : Place :=
  if path.text.toList.head? = some '/' then .root else disk.home

lemma approach_eq (disk : Disk) (path : LocalPath) :
    disk.approach path =
      if '\x00' ∈ path.text.toList then .error .nulInPath
      else if path.text.isEmpty then .error .notFound
      else if TooLong path then .error .nameTooLong
      else (match path.way.getLast? with
        | none => .ok ⟨disk.start path, none, path.text.toList.getLast? = some '/'⟩
        | some last => do
            let place ← path.way.dropLast.foldlM disk.enter (disk.start path)
            if last = "." ∨ last = ".." then
              .ok ⟨← disk.enter place last, none, path.text.toList.getLast? = some '/'⟩
            else .ok ⟨place, some last, path.text.toList.getLast? = some '/'⟩) :=
  rfl

lemma foldlM_enter_concat (disk : Disk) (names : List String) (name : String) (place : Place) :
    (names ++ [name]).foldlM disk.enter place =
      names.foldlM disk.enter place >>= (disk.enter · name) := by
  rw [List.foldlM_append]
  refine congrArg _ (funext fun inner => ?_)
  rw [List.foldlM_cons]
  exact bind_pure _

lemma enter_of_directory {name : String} {modified : Option Time} (here : name ≠ ".")
    (up : name ≠ "..") (short : ¬255 < name.utf8ByteSize)
    (there : disk.node? (at_.child name) = some (.directory modified)) :
    disk.enter at_ name = .ok (at_.child name) := by
  rw [enter, if_neg here, if_neg up, if_neg short, there]

/-- The directories of a tree can be gone through. -/
lemma TreeAt.foldlM_enter (tree : disk.TreeAt place) {modified : Option Time}
    (there : disk.node? (place.descend names) = some (.directory modified)) :
    names.foldlM disk.enter place = .ok (place.descend names) := by
  induction names using List.reverseRecOn generalizing modified with
  | nil => rfl
  | append_singleton names name ih =>
      obtain ⟨outer, isDirectory⟩ := tree.around names name _ there
      have proper := tree.proper _ _ there name (by simp)
      rw [Place.descend_concat] at there ⊢
      rw [foldlM_enter_concat, ih isDirectory]
      exact enter_of_directory proper.here proper.up (Nat.not_lt.2 proper.short) there

/-- What is read of a path that leads up to its last name: all of its names are walked, or all but
the last one. -/
lemma walked_of_approach {approach : Approach} (approached : disk.approach root = .ok approach) :
    '\x00' ∉ root.text.toList ∧ root.text.toList ≠ [] ∧ ¬TooLong root ∧
      ((approach.name = none ∧
          root.way.foldlM disk.enter (disk.start root) = .ok approach.place) ∨
        ∃ before last, root.way = before ++ [last] ∧ last ≠ "." ∧ last ≠ ".." ∧
          approach.name = some last ∧
            before.foldlM disk.enter (disk.start root) = .ok approach.place) := by
  rw [approach_eq] at approached
  split at approached
  · cases approached
  next clean =>
  split at approached
  · cases approached
  next filled =>
  split at approached
  · cases approached
  next short =>
  refine ⟨clean, fun none => filled (String.isEmpty_iff.2 (String.toList_inj.1 none)), short, ?_⟩
  split at approached
  · next empty =>
      obtain rfl := Except.ok.inj approached
      rw [List.getLast?_eq_none_iff.1 empty]
      exact .inl ⟨rfl, rfl⟩
  · next last named =>
      obtain ⟨before, way⟩ := List.getLast?_eq_some_iff.1 named
      obtain ⟨place, walked, rest⟩ := of_bind_eq_ok approached
      rw [way, List.dropLast_concat] at walked
      split at rest
      · obtain ⟨inner, entered, made⟩ := of_bind_eq_ok rest
        obtain rfl := Except.ok.inj made
        refine .inl ⟨rfl, ?_⟩
        rw [way, foldlM_enter_concat, walked]
        exact entered
      · next plain =>
          obtain rfl := Except.ok.inj rest
          exact .inr ⟨before, last, way, fun here => plain (.inl here), fun up => plain (.inr up),
            rfl, walked⟩

lemma not_tooLong_of_spot {spot : Spot} (found : disk.spot root = .ok spot) : ¬TooLong root := by
  obtain ⟨approach, approached, -⟩ := of_bind_eq_ok found
  exact (walked_of_approach approached).2.2.1

/-- Whether a path leads to a place that one can go down from. -/
structure Leads (disk : Disk) (path : LocalPath) (place : Place) : Prop where
  clean : '\x00' ∉ path.text.toList
  filled : path.text.toList ≠ []
  walked : path.way.foldlM disk.enter (disk.start path) = .ok place

/-- What leads to a directory can be gone on from. -/
lemma leads_of_spot {spot : Spot} {modified : Option Time} (found : disk.spot root = .ok spot)
    (isDirectory : spot.node = some (.directory modified)) : disk.Leads root spot.place := by
  have there := (node_of_spot found).symm.trans isDirectory
  obtain ⟨approach, approached, arrived⟩ := of_bind_eq_ok found
  obtain ⟨clean, filled, -, ⟨none, walked⟩ | ⟨before, last, way, here, up, named, walked⟩⟩ :=
    walked_of_approach approached
  · rw [arrive, none] at arrived
    obtain rfl := Except.ok.inj arrived
    exact ⟨clean, filled, walked⟩
  · rw [arrive, named] at arrived
    dsimp only at arrived
    split at arrived
    · cases arrived
    · next short =>
        obtain rfl := Except.ok.inj arrived
        refine ⟨clean, filled, ?_⟩
        rw [way, foldlM_enter_concat, walked]
        exact enter_of_directory here up short there

/-- A path that goes down in a tree leads to what stands there, unless it is too long. -/
theorem TreeAt.spot_descend (tree : disk.TreeAt place) (leads : disk.Leads root place)
    (some : names ≠ []) (there : disk.node? (place.descend names) = .some node) :
    disk.spot (root.descend names) =
      if TooLong (root.descend names) then .error .nameTooLong
      else .ok ⟨place.descend names, .some node, false⟩ := by
  have proper := tree.proper names node there
  have clean := LocalPath.nul_notMem_descend leads.clean proper
  have filled : (root.descend names).text.isEmpty ≠ true := by
    intro none
    obtain ⟨more, longer⟩ := root.exists_append_descend names
    rw [String.isEmpty_iff.1 none] at longer
    exact leads.filled (List.append_eq_nil_iff.1 longer.symm).1
  by_cases long : TooLong (root.descend names)
  · rw [spot, approach_eq, if_neg clean, if_neg filled, if_pos long, if_pos long]
    rfl
  · obtain ⟨before, last, rfl⟩ := (List.eq_nil_or_concat' names).resolve_left some
    obtain ⟨modified, isDirectory⟩ := tree.around before last node there
    have properLast := proper last (by simp)
    have walked : (root.way ++ before).foldlM disk.enter (disk.start root) =
        .ok (place.descend before) := by
      rw [List.foldlM_append, leads.walked]
      exact tree.foldlM_enter isDirectory
    have approached : disk.approach (root.descend (before ++ [last])) =
        .ok ⟨place.descend before, .some last, false⟩ := by
      have plain : ¬(last = "." ∨ last = "..") := not_or_intro properLast.here properLast.up
      rw [approach_eq, if_neg clean, if_neg filled, if_neg long, LocalPath.way_descend proper,
        ← List.append_assoc, List.getLast?_concat, List.dropLast_concat, start,
        LocalPath.head?_descend leads.filled,
        decide_eq_false (LocalPath.getLast?_descend proper some)]
      change ((root.way ++ before).foldlM disk.enter (disk.start root) >>= fun _ => _) = _
      rw [walked]
      exact if_neg plain
    rw [spot, approached, if_neg long, Place.descend_concat]
    rw [Place.descend_concat] at there
    change disk.arrive ⟨place.descend before, .some last, false⟩ = _
    rw [arrive]
    dsimp only
    rw [if_neg (Nat.not_lt.2 properLast.short), there]

/-- What a path that goes down in a tree to a file leads to. -/
lemma TreeAt.look_descend {file : FileId} (tree : disk.TreeAt place)
    (leads : disk.Leads root place) (some : names ≠ [])
    (there : disk.node? (place.descend names) = .some (.file file)) :
    disk.look (root.descend names) =
      if TooLong (root.descend names) then .error .nameTooLong else .ok (.file file) := by
  rw [look, tree.spot_descend leads some there]
  split <;> rfl

/-! ## What a walk finds -/

lemma mem_iff_lookup {nodes : List (Place × Node)} (once : (nodes.map Prod.fst).Nodup) :
    (at_, node) ∈ nodes ↔ nodes.lookup at_ = some node := by
  induction nodes with
  | nil => simp
  | cons entry nodes ih =>
      rw [List.map_cons, List.nodup_cons] at once
      rw [List.mem_cons, List.lookup_cons, ih once.2]
      by_cases here : at_ = entry.1
      · have others : nodes.lookup at_ ≠ some node := by
          intro held
          have among := List.mem_map_of_mem (f := Prod.fst) ((ih once.2).2 held)
          exact once.1 (here ▸ among)
        rw [here, beq_self_eq_true]
        constructor
        · rintro (same | held)
          · exact congrArg some (congrArg Prod.snd same).symm
          · exact absurd (here ▸ held) others
        · intro same
          exact .inl (Prod.ext rfl (Option.some.inj same).symm)
      · rw [beq_eq_false_iff_ne.2 here]
        exact or_iff_right fun same => here (congrArg Prod.fst same)

/-- How the names that lead down to a place are read off. -/
lemma below?_match_eq_some {entry : Place × Node} {shown : List String × Node} :
    (match place.below? entry.1 with
      | none | some [] => none
      | some names => some (names, entry.2)) = some shown ↔
    entry = (place.descend shown.1, shown.2) ∧ shown.1 ≠ [] := by
  constructor
  · intro read
    split at read
    · cases read
    · cases read
    · next names filled leads =>
        obtain rfl := Option.some.inj read
        exact ⟨Prod.ext (Place.eq_descend_of_below? leads) rfl, fun none => filled none⟩
  · rintro ⟨rfl, some⟩
    rw [Place.below?_descend]
    split
    · next none => cases none
    · next empty => exact absurd (Option.some.inj empty) some
    · next way _ same => rw [← Option.some.inj same]

/-- What stands within a place, by the names that lead there. -/
lemma mem_below_iff (once : (disk.nodes.map Prod.fst).Nodup) :
    (names, node) ∈ disk.below place ↔
      names ≠ [] ∧ disk.node? (place.descend names) = some node := by
  rw [below, List.mem_filterMap, node?_eq_lookup, ← mem_iff_lookup once]
  constructor
  · rintro ⟨entry, held, read⟩
    obtain ⟨rfl, some⟩ := below?_match_eq_some.1 read
    exact ⟨some, held⟩
  · rintro ⟨some, held⟩
    exact ⟨_, held, below?_match_eq_some.2 ⟨rfl, some⟩⟩

/-- Whether a place holds a tree can be found out from what stands within it. -/
lemma treeAt_of_below (once : (disk.nodes.map Prod.fst).Nodup)
    (proper : ∀ entry ∈ disk.below place, ∀ name ∈ entry.1, LocalPath.Proper name)
    (around : ∀ entry ∈ disk.below place,
      ∃ modified, disk.node? (place.descend entry.1.dropLast) = some (.directory modified)) :
    disk.TreeAt place where
  once := once
  proper names node there := by
    by_cases none : names = []
    · rw [none]
      exact nofun
    · exact proper _ ((mem_below_iff once).2 ⟨none, there⟩)
  around names name node there := by
    have outer := around _ ((mem_below_iff once).2 ⟨by simp, there⟩)
    rwa [List.dropLast_concat] at outer

lemma TreeAt.pairwise_below (tree : disk.TreeAt place) :
    (disk.below place).Pairwise fun entry other => entry.1 ≠ other.1 := by
  rw [below, List.pairwise_filterMap]
  refine (List.pairwise_map.1 tree.once).imp ?_
  intro entry other apart first read second readOther same
  obtain ⟨rfl, -⟩ := below?_match_eq_some.1 read
  obtain ⟨rfl, -⟩ := below?_match_eq_some.1 readOther
  exact apart (congrArg place.descend same)

/-- Only a directory has anything within it. -/
lemma TreeAt.directory_of_within (tree : disk.TreeAt place) (some : names ≠ [])
    (there : disk.node? (place.descend names) = .some node) :
    ∃ modified, disk.node? place = .some (.directory modified) := by
  induction names using List.reverseRecOn generalizing node with
  | nil => exact absurd rfl some
  | append_singleton names name ih =>
      obtain ⟨modified, isDirectory⟩ := tree.around names name node there
      cases names with
      | nil => exact ⟨modified, isDirectory⟩
      | cons first names => exact ih (List.cons_ne_nil _ _) isDirectory

/-- A directory whose path is too long is within one whose path is not, or is that one itself. -/
lemma TreeAt.exists_outermost (tree : disk.TreeAt place) (short : ¬TooLong root)
    {modified : Option Time} (there : disk.node? (place.descend names) = some (.directory modified))
    (long : TooLong (root.descend names)) :
    ∃ outer modified, outer ≠ [] ∧ disk.node? (place.descend outer) = some (.directory modified) ∧
      TooLong (root.descend outer) ∧ ¬TooLong (root.descend outer.dropLast) := by
  induction names using List.reverseRecOn generalizing modified with
  | nil => exact absurd long short
  | append_singleton names name ih =>
      by_cases longAround : TooLong (root.descend names)
      · obtain ⟨outer, isDirectory⟩ := tree.around names name _ there
        exact ih isDirectory longAround
      · exact ⟨names ++ [name], modified, by simp, there, long,
          by rwa [List.dropLast_concat]⟩

lemma unreadable?_eq (disk : Disk) (root : LocalPath) (place : Place) :
    disk.unreadable? root place =
      (disk.below place).findSome? fun entry =>
        match entry.2 with
        | .file _ => none
        | .directory _ =>
            if TooLong (root.descend entry.1) ∧ ¬TooLong (root.descend entry.1.dropLast) then
              some (root.descend entry.1)
            else none := by
  unfold unreadable?
  refine congrArg (List.findSome? · _) (funext fun entry => ?_)
  obtain ⟨names, node⟩ := entry
  cases node with
  | file => rfl
  | directory => simp [TooLong]

/-- What a walk looks out for is a directory whose path is too long. -/
lemma TreeAt.unreadable?_cases (tree : disk.TreeAt place) (short : ¬TooLong root) :
    (disk.unreadable? root place = none ∧
      ∀ names modified, disk.node? (place.descend names) = some (.directory modified) →
        ¬TooLong (root.descend names)) ∨
    ∃ names modified, disk.unreadable? root place = some (root.descend names) ∧
      disk.node? (place.descend names) = some (.directory modified) ∧
        TooLong (root.descend names) := by
  cases found : disk.unreadable? root place with
  | none =>
      rw [unreadable?_eq] at found
      refine .inl ⟨rfl, fun names modified there long => ?_⟩
      obtain ⟨outer, modified, some, isDirectory, isLong, around⟩ :=
        tree.exists_outermost short there long
      have among := (mem_below_iff tree.once).2 ⟨some, isDirectory⟩
      have passed := List.findSome?_eq_none_iff.1 found _ among
      dsimp only at passed
      rw [if_pos ⟨isLong, around⟩] at passed
      cases passed
  | some path =>
      rw [unreadable?_eq] at found
      obtain ⟨⟨names, node⟩, held, met⟩ := List.exists_of_findSome?_eq_some found
      cases node with
      | file => cases met
      | directory modified =>
          obtain ⟨⟨long, -⟩, same⟩ := Option.ite_none_right_eq_some.1 met
          exact .inr ⟨names, modified, congrArg some (Option.some.inj same).symm,
            ((mem_below_iff tree.once).1 held).2, long⟩

/-- The files within a place, by the names that lead there. -/
def filesWithin (disk : Disk) (place : Place) : List (List String) :=
  (disk.below place).filterMap fun entry =>
    match entry.2 with
    | .file _ => some entry.1
    | .directory _ => none

lemma TreeAt.mem_filesWithin_iff (tree : disk.TreeAt place) :
    names ∈ disk.filesWithin place ↔
      names ≠ [] ∧ ∃ file, disk.node? (place.descend names) = some (.file file) := by
  rw [filesWithin, List.mem_filterMap]
  constructor
  · rintro ⟨⟨way, node⟩, held, shown⟩
    cases node with
    | file file =>
        obtain rfl := Option.some.inj shown
        obtain ⟨some, there⟩ := (mem_below_iff tree.once).1 held
        exact ⟨some, file, there⟩
    | directory => cases shown
  · rintro ⟨some, file, there⟩
    exact ⟨(names, .file file), (mem_below_iff tree.once).2 ⟨some, there⟩, rfl⟩

lemma TreeAt.nodup_filesWithin (tree : disk.TreeAt place) : (disk.filesWithin place).Nodup := by
  rw [filesWithin, List.Nodup, List.pairwise_filterMap]
  refine tree.pairwise_below.imp ?_
  rintro ⟨way, node⟩ ⟨other, node'⟩ apart names shown names' shown'
  cases node with
  | directory => cases shown
  | file =>
      cases node' with
      | directory => cases shown'
      | file =>
          obtain rfl := Option.some.inj shown
          obtain rfl := Option.some.inj shown'
          exact apart

lemma node_of_look {spot : Spot} (found : disk.spot root = .ok spot)
    (looked : disk.look root = .ok node) : disk.node? spot.place = some node := by
  obtain ⟨spot', found', rest⟩ := of_bind_eq_ok looked
  obtain rfl := Except.ok.inj (found.symm.trans found')
  rw [← node_of_spot found]
  split at rest
  · cases rest
  · next there =>
      split at rest
      · cases rest
      · rw [there, Except.ok.inj rest]
  · next there => rw [there, Except.ok.inj rest]

/-- What a path to a file of a tree leads to. -/
lemma TreeAt.look_of_file {spot : Spot} {file : FileId} (tree : disk.TreeAt spot.place)
    (found : disk.spot root = .ok spot) (looked : disk.look root = .ok node)
    (there : disk.node? (spot.place.descend names) = some (.file file)) :
    disk.look (root.descend names) =
      if TooLong (root.descend names) then .error .nameTooLong else .ok (.file file) := by
  have here := node_of_look found looked
  by_cases none : names = []
  · obtain rfl := none
    obtain rfl := Option.some.inj (here.symm.trans there)
    exact looked.trans (if_neg (not_tooLong_of_spot found)).symm
  · obtain ⟨modified, isDirectory⟩ := tree.directory_of_within none there
    have leads := leads_of_spot found ((node_of_spot found).trans isDirectory)
    exact tree.look_descend leads none there

/-- Nothing stands within a file. -/
lemma TreeAt.eq_nil_of_file {file : FileId} (tree : disk.TreeAt place)
    (isFile : disk.node? place = some (.file file))
    (there : disk.node? (place.descend names) = some node) : names = [] := by
  by_contra within
  obtain ⟨modified, isDirectory⟩ := tree.directory_of_within within there
  cases isFile.symm.trans isDirectory

section

variable {spot : Spot} {modified : Option Time} (found : disk.spot root = .ok spot)
include found

lemma walk_of_file {file : FileId} (looked : disk.look root = .ok (.file file)) :
    disk.walk root = .ok [[]] := by
  rw [walk, found, looked]
  rfl

lemma walk_of_readable (looked : disk.look root = .ok (.directory modified))
    (readable : disk.unreadable? root spot.place = none) :
    disk.walk root = .ok (disk.filesWithin spot.place) := by
  simp only [walk, found, looked, Except.mapError, bind, Except.bind, readable]
  rfl

lemma walk_of_unreadable {path : LocalPath}
    (looked : disk.look root = .ok (.directory modified))
    (unreadable : disk.unreadable? root spot.place = some path) :
    disk.walk root = .error (path, .nameTooLong) := by
  simp only [walk, found, looked, Except.mapError, bind, Except.bind, unreadable]

/-- What a walk of a tree comes to. If the path of no directory is too long, it finds the files of
the tree, each of them once. -/
theorem TreeAt.walk_cases (tree : disk.TreeAt spot.place) (looked : disk.look root = .ok node) :
    (∃ files, disk.walk root = .ok files ∧ files.Nodup ∧
      (∀ names, names ∈ files ↔ ∃ file, disk.node? (spot.place.descend names) = some (.file file)) ∧
      ∀ names modified, disk.node? (spot.place.descend names) = some (.directory modified) →
        ¬TooLong (root.descend names)) ∨
    ∃ names modified, disk.walk root = .error (root.descend names, .nameTooLong) ∧
      disk.node? (spot.place.descend names) = some (.directory modified) ∧
        TooLong (root.descend names) := by
  have here := node_of_look found looked
  cases node with
  | file file =>
      refine .inl ⟨[[]], walk_of_file found looked, List.nodup_singleton _, fun names => ?_,
        fun names modified there => ?_⟩
      · rw [List.mem_singleton]
        constructor
        · rintro rfl
          exact ⟨file, here⟩
        · rintro ⟨other, there⟩
          exact tree.eq_nil_of_file here there
      · rw [tree.eq_nil_of_file here there] at there
        cases here.symm.trans there
  | directory modified =>
      obtain ⟨readable, allShort⟩ | ⟨names, modified, unreadable, there, long⟩ :=
        tree.unreadable?_cases (not_tooLong_of_spot found)
      · refine .inl ⟨_, walk_of_readable found looked readable, tree.nodup_filesWithin,
          fun names => ?_, allShort⟩
        rw [tree.mem_filesWithin_iff]
        refine and_iff_right_of_imp ?_
        rintro ⟨file, there⟩ rfl
        cases here.symm.trans there
      · exact .inr ⟨names, modified, walk_of_unreadable found looked unreadable, there, long⟩

end

end Disk
end BulkTransfer
