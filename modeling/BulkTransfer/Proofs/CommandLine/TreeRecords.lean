import BulkTransfer.CommandLine.Program
import BulkTransfer.Proofs.Files.Trees

/-!
# Records for a tree

The transfer of a tree has one record for each file, with a destination of its own
(`CommandLine.treeRecords_of_tree`). Destinations are the given text followed by the names that lead
to the file, so they are apart where the names are (`CommandLine.not_same_treeDestination`), and the
last name is that of the file (`CommandLine.fileName?_treeDestination`). A root that is itself a
file has no names to go by: its object is called by the given text and a slash
(`CommandLine.fileRoot_unnamed`).
-/

namespace BulkTransfer

/-! ## Destinations -/

/-- What follows a slash is part of the key. -/
lemma ObjectName.ofText_append (rest : String) :
    ∃ bucket start, (start = [] ∨ ∃ before, start = before ++ ['/']) ∧
      ∀ text, ofText (rest ++ "/" ++ text) = ⟨bucket, String.ofList (start ++ text.toList)⟩ := by
  have chars (text : String) :
      (rest ++ "/" ++ text).toList = rest.toList ++ '/' :: text.toList := by
    rw [String.toList_append, String.toList_append, List.append_assoc]
    rfl
  by_cases slash : '/' ∈ rest.toList
  · obtain ⟨bucket, key, whole, first⟩ := List.eq_append_cons_of_mem slash
    refine ⟨String.ofList bucket, key ++ ['/'], .inr ⟨key, rfl⟩, fun text => ?_⟩
    have cut : Text.cut? '/' (rest ++ "/" ++ text).toList =
        some (bucket, key ++ '/' :: text.toList) := by
      rw [chars, whole, List.append_assoc]
      exact Text.cut?_append _ first
    rw [ofText, cut, List.append_assoc]
    rfl
  · refine ⟨rest, [], .inl rfl, fun text => ?_⟩
    rw [ofText, chars, Text.cut?_append _ slash, List.nil_append]
    exact congrArg (ObjectName.mk · _) String.ofList_toList

namespace Location

/-- Whether two locations are the same: equal objects, or paths with the same components. -/
def same : Location → Location → Bool
  | .file path, .file other => path.same other
  | .object name, .object other => name = other
  | _, _ => false

lemma afterScheme?_eq_some_iff {text rest : String} :
    afterScheme? text = some rest ↔ text = scheme ++ rest := by
  rw [afterScheme?, Option.map_eq_some_iff]
  constructor
  · rintro ⟨list, cut, rfl⟩
    apply String.toList_inj.1
    rw [Text.after?_eq_some.1 cut, String.toList_append, String.toList_ofList]
  · rintro rfl
    exact ⟨rest.toList, Text.after?_eq_some.2 (String.toList_append ..), String.ofList_toList⟩

/-- A slash and what follows it do not make a text remote. -/
lemma afterScheme?_append {base text : String} (isLocal : afterScheme? base = none)
    (noSlash : base.toList.getLast? ≠ some '/') (plain : text.toList.head? ≠ some '/') :
    afterScheme? (base ++ "/" ++ text) = none := by
  rw [Option.eq_none_iff_forall_ne_some]
  intro rest cut
  have whole := congrArg String.toList (afterScheme?_eq_some_iff.1 cut)
  have schemeless (more : List Char) : base.toList ≠ scheme.toList ++ more := by
    intro same
    have remote : afterScheme? base = some (String.ofList more) :=
      afterScheme?_eq_some_iff.2 (String.toList_inj.1 (by
        rw [same, String.toList_append, String.toList_ofList]))
    rw [isLocal] at remote
    cases remote
  rw [String.toList_append, String.toList_append, String.toList_append, List.append_assoc] at whole
  change base.toList ++ '/' :: text.toList = 's' :: '3' :: ':' :: '/' :: '/' :: rest.toList at whole
  -- the slash would have to be one of the scheme's
  match chars : base.toList with
  | [] | [_] | [_, _] => simp [chars] at whole
  | [_, _, _] =>
      simp only [chars, List.cons_append, List.nil_append, List.cons.injEq] at whole
      exact plain (by rw [whole.2.2.2.2]; rfl)
  | [_, _, _, last] =>
      simp only [chars, List.cons_append, List.nil_append, List.cons.injEq] at whole
      exact noSlash (by rw [chars, whole.2.2.2.1]; rfl)
  | _ :: _ :: _ :: _ :: _ :: more =>
      simp only [chars, List.cons_append, List.cons.injEq] at whole
      refine schemeless more ?_
      rw [chars, whole.1, whole.2.1, whole.2.2.1, whole.2.2.2.1, whole.2.2.2.2.1]
      rfl

end Location

namespace CommandLine

open LocalPath (Proper joinedNames)

variable {disk : Disk} {root : LocalPath} {names other : List String}

/-- A destination without the slashes at its end. -/
def treeBase (destination : String) : String :=
  String.ofList (Text.trimEnd '/' destination.toList)

/-- The destination for the file that names lead to. -/
def treeDestination (destination : String) (names : List String) : Location :=
  Location.ofText (treeBase destination ++ "/" ++ String.intercalate "/" names)

/-- The destination of a tree is in a bucket, where keys start with a text that is empty or ends
in a slash, or on the local file system. -/
lemma treeDestination_cases (destination : String) :
    (∃ bucket start, (start = [] ∨ ∃ before, start = before ++ ['/']) ∧
      ∀ names, treeDestination destination names =
        .object ⟨bucket, String.ofList (start ++ joinedNames names)⟩) ∨
    ∀ names, (∀ name ∈ names, Proper name) →
      treeDestination destination names =
        .file ⟨treeBase destination ++ "/" ++ String.intercalate "/" names⟩ := by
  have noSlash : (treeBase destination).toList.getLast? ≠ some '/' := by
    rw [treeBase, String.toList_ofList]
    exact Text.getLast?_trimEnd_ne '/' _
  cases remote : Location.afterScheme? (treeBase destination) with
  | none =>
      refine .inr fun names proper => ?_
      have plain : (String.intercalate "/" names).toList.head? ≠ some '/' := by
        rw [LocalPath.toList_intercalate]
        exact LocalPath.head?_joinedNames_ne proper
      rw [treeDestination, Location.ofText, Location.afterScheme?_append remote noSlash plain]
  | some rest =>
      refine .inl ?_
      have remoteEach (text : String) :
          Location.afterScheme? (treeBase destination ++ "/" ++ text) =
            some (rest ++ "/" ++ text) := by
        rw [Location.afterScheme?_eq_some_iff] at remote ⊢
        rw [remote, String.append_assoc, String.append_assoc, String.append_assoc]
      obtain ⟨bucket, start, ends, object⟩ := ObjectName.ofText_append rest
      refine ⟨bucket, start, ends, fun names => ?_⟩
      rw [treeDestination, Location.ofText, remoteEach, ← LocalPath.toList_intercalate]
      exact congrArg Location.object (object _)

/-- What is read of a destination on the local file system. -/
lemma names_treeDestination (proper : ∀ name ∈ names, Proper name) (destination : String) :
    (⟨treeBase destination ++ "/" ++ String.intercalate "/" names⟩ : LocalPath).names =
      (⟨treeBase destination⟩ : LocalPath).names ++ names := by
  have chars : (treeBase destination ++ "/" ++ String.intercalate "/" names).toList =
      (treeBase destination).toList ++ '/' :: joinedNames names := by
    rw [String.toList_append, String.toList_append, LocalPath.toList_intercalate, List.append_assoc]
    rfl
  rw [LocalPath.names_eq, LocalPath.names_eq, chars, Text.pieces_append, List.filter_append,
    List.map_append, LocalPath.filter_pieces_joinedNames rfl
      (fun name among => (proper name among).slash) (fun name among => (proper name among).isName),
    LocalPath.map_ofList_toList]

/-- Files with different names have different destinations. -/
theorem not_same_treeDestination (proper : ∀ name ∈ names, Proper name)
    (properOther : ∀ name ∈ other, Proper name) (apart : names ≠ other) (destination : String) :
    (treeDestination destination names).same (treeDestination destination other) = false := by
  obtain ⟨bucket, start, -, object⟩ | path := treeDestination_cases destination
  · rw [object, object, Location.same, decide_eq_false_iff_not, ObjectName.mk.injEq]
    rintro ⟨-, same⟩
    rw [String.ofList_inj, List.append_cancel_left_eq] at same
    exact apart (LocalPath.joinedNames_inj proper properOther same)
  · rw [path names proper, path other properOther, Location.same, LocalPath.same,
      names_treeDestination proper, names_treeDestination properOther]
    simp [apart]

/-- Every file below the root is called the same at its destination. -/
theorem fileName?_treeDestination (proper : ∀ name ∈ names, Proper name) (some : names ≠ [])
    (destination : String) :
    (treeDestination destination names).fileName? = names.getLast? := by
  obtain ⟨bucket, start, ends, object⟩ | path := treeDestination_cases destination
  · obtain ⟨above, last, rfl⟩ := (List.eq_nil_or_concat' names).resolve_left some
    have read := LocalPath.afterLast_joinedNames above (proper last (by simp)).slash
    have whole : Text.afterLast '/' (start ++ joinedNames (above ++ [last])) = last.toList := by
      obtain rfl | ⟨before, rfl⟩ := ends
      · exact read
      · rw [List.append_assoc]
        exact (Text.afterLast_append '/' before _).trans read
    rw [object, Location.fileName?, String.toList_ofList, whole, String.ofList_toList,
      List.getLast?_concat]
  · rw [path names proper]
    exact LocalPath.fileName?_of_names (names_treeDestination proper destination) proper some

/-- The object of a root that is itself a file has no name. -/
lemma fileName?_treeDestination_nil {destination : String} {object : ObjectName}
    (remote : treeDestination destination [] = .object object) :
    (treeDestination destination []).fileName? = some "" := by
  obtain ⟨bucket, start, ends, made⟩ | path := treeDestination_cases destination
  · rw [made, Location.fileName?, String.toList_ofList]
    obtain rfl | ⟨before, rfl⟩ := ends
    · rfl
    · rw [List.append_assoc]
      exact congrArg (some <| String.ofList ·) (Text.afterLast_append '/' before [])
  · rw [path [] nofun] at remote
    cases remote

/-! ## Records -/

lemma mapM_eq_ok {α β ε : Type} {f : α → Except ε β} {holds : α → β → Prop} {list : List α}
    (all : ∀ input ∈ list, ∃ result, f input = .ok result ∧ holds input result) :
    ∃ results, list.mapM f = .ok results ∧ List.Forall₂ holds list results := by
  induction list with
  | nil => exact ⟨[], rfl, .nil⟩
  | cons input list ih =>
      obtain ⟨⟨result, first, held⟩, others⟩ := List.forall_mem_cons.1 all
      obtain ⟨results, rest, each⟩ := ih others
      rw [List.mapM_cons, first, rest]
      exact ⟨result :: results, rfl, .cons held each⟩

lemma mapM_eq_error {α β ε : Type} {f : α → Except ε β} {holds : ε → Prop} {list : List α}
    (one : ∃ input ∈ list, ∃ error, f input = .error error)
    (only : ∀ input ∈ list, ∀ error, f input = .error error → holds error) :
    ∃ error, list.mapM f = .error error ∧ holds error := by
  induction list with
  | nil =>
      obtain ⟨input, among, -⟩ := one
      cases among
  | cons input list ih =>
      obtain ⟨onlyFirst, onlyOthers⟩ := List.forall_mem_cons.1 only
      rw [List.mapM_cons]
      cases first : f input with
      | error error => exact ⟨error, rfl, onlyFirst error first⟩
      | ok result =>
          obtain ⟨other, among, error, failed⟩ := one
          have later : other ∈ list := by
            refine (List.mem_cons.1 among).resolve_left ?_
            rintro rfl
            rw [first] at failed
            cases failed
          obtain ⟨last, rest, held⟩ := ih ⟨other, later, error, failed⟩ onlyOthers
          rw [rest]
          exact ⟨last, rfl, held⟩

/-- The record that the tree at a place has for the file that names lead to. A file below the root
is called the same at its destination; the object of a root that is itself a file has no name. -/
structure TreeRecord (disk : Disk) (kind : RecordKind) (root : LocalPath) (place : Place)
    (destination : String) (names : List String) (record : Record) : Prop where
  kind : record.kind = kind
  source : record.source = .file (root.descend names)
  leads : ∃ file, disk.node? (place.descend names) = some (.file file) ∧
    disk.look (root.descend names) = .ok (.file file)
  measured : disk.stat (root.descend names) = .ok (record.size, record.modified)
  destination : record.destination = some (treeDestination destination names)
  named : names ≠ [] → record.source.fileName? = names.getLast? ∧
    record.destination.bind Location.fileName? = names.getLast?
  unnamed : names = [] → ∀ object, record.destination = some (.object object) →
    record.destination.bind Location.fileName? = some ""

variable {kind : RecordKind} {place : Place} {destination : String}

/-- The record for the file that names lead to, or why there is none. -/
def recordBelow (disk : Disk) (kind : RecordKind) (root : LocalPath) (destination : String)
    (names : List String) : Except Complaint Record :=
  fileRecord disk kind (root.descend names)
    (treeBase destination ++ "/" ++ String.intercalate "/" names)

lemma treeRecords_eq (apart : root.same Stream.streamPath = false) :
    treeRecords disk kind root destination =
      match disk.walk root with
      | .error (path, cause) =>
          .error ⟨["could not walk " ++ root.text,
            "IO error for operation on " ++ path.text ++ ": " ++ cause.message, cause.message]⟩
      | .ok files => files.mapM (recordBelow disk kind root destination) := by
  rw [treeRecords, apart]
  rfl

lemma recordBelow_of_error {cause : IoCause}
    (looked : disk.look (root.descend names) = .error cause) :
    recordBelow disk kind root destination names =
      .error ⟨["could not stat " ++ (root.descend names).text, cause.message]⟩ := by
  rw [recordBelow, fileRecord, Disk.stat, looked]
  rfl

/-- A file whose path is not too long has a record. -/
lemma exists_treeRecord {file : FileId} (proper : ∀ name ∈ names, Proper name)
    (there : disk.node? (place.descend names) = some (.file file))
    (looked : disk.look (root.descend names) = .ok (.file file)) :
    ∃ record, recordBelow disk kind root destination names = .ok record ∧
      TreeRecord disk kind root place destination names record := by
  obtain ⟨size, modified, measured⟩ :
      ∃ size modified, disk.stat (root.descend names) = .ok (size, modified) := by
    rw [Disk.stat, looked]
    exact ⟨_, _, rfl⟩
  have made : recordBelow disk kind root destination names =
      .ok ⟨kind, .file (root.descend names), some (treeDestination destination names), size,
        modified, none, none⟩ := by
    rw [recordBelow, fileRecord, measured, treeDestination]
  refine ⟨_, made, rfl, rfl, ⟨file, there, looked⟩, measured, rfl, ?_, ?_⟩
  · intro some
    dsimp only
    rw [Option.bind_some]
    exact ⟨LocalPath.fileName?_descend proper some,
      fileName?_treeDestination proper some destination⟩
  · rintro rfl object remote
    dsimp only at remote ⊢
    rw [Option.bind_some]
    exact fileName?_treeDestination_nil (Option.some.inj remote)

/-- Records for files with different names have different destinations. -/
lemma apart_of_treeRecords {files : List (List String)} {records : List Record}
    (nodup : files.Nodup) (proper : ∀ names ∈ files, ∀ name ∈ names, Proper name)
    (each : List.Forall₂ (TreeRecord disk kind root place destination) files records) :
    records.Pairwise fun record other =>
      ∀ target ∈ record.destination, ∀ target' ∈ other.destination,
        target.same target' = false := by
  have targets : records.map Record.destination =
      files.map fun names => some (treeDestination destination names) := by
    clear nodup proper
    induction each with
    | nil => rfl
    | cons first _ ih => rw [List.map_cons, List.map_cons, first.destination, ih]
  have apart : (records.map Record.destination).Pairwise fun record other =>
      ∀ target ∈ record, ∀ target' ∈ other, target.same target' = false := by
    rw [targets, List.pairwise_map]
    refine nodup.imp_of_mem ?_
    intro names other among amongOther different target held target' held'
    rw [← Option.mem_some_iff.1 held, ← Option.mem_some_iff.1 held']
    exact not_same_treeDestination (proper _ among) (proper _ amongOther) different destination
  exact List.pairwise_map.1 apart

/-! ## Trees -/

section

variable {spot : Spot} {node : Node} (found : disk.spot root = .ok spot)
  (looked : disk.look root = .ok node) (tree : disk.TreeAt spot.place)
include found looked tree

lemma recordBelow_of_short {file : FileId}
    (there : disk.node? (spot.place.descend names) = some (.file file))
    (short : ¬Disk.TooLong (root.descend names)) :
    ∃ record, recordBelow disk kind root destination names = .ok record ∧
      TreeRecord disk kind root spot.place destination names record := by
  have leads := tree.look_of_file found looked there
  rw [if_neg short] at leads
  exact exists_treeRecord (tree.proper names _ there) there leads

lemma recordBelow_of_long {file : FileId}
    (there : disk.node? (spot.place.descend names) = some (.file file))
    (long : Disk.TooLong (root.descend names)) :
    ∃ complaint, recordBelow disk kind root destination names = .error complaint ∧
      complaint.texts.getLast? = some IoCause.nameTooLong.message := by
  have leads := tree.look_of_file found looked there
  rw [if_pos long] at leads
  exact ⟨_, recordBelow_of_error leads, rfl⟩

/-- **Records for a tree.** If no path is too long, each file at or below the root has one record,
and the destinations of the records are apart. If a path is too long, the program complains about
that. -/
theorem treeRecords_of_tree (apart : root.same Stream.streamPath = false) (kind : RecordKind)
    (destination : String) :
    let at_ (names : List String) := disk.node? (spot.place.descend names)
    ((∀ names node, at_ names = some node → ¬Disk.TooLong (root.descend names)) →
      ∃ files records, treeRecords disk kind root destination = .ok records ∧
        files.Nodup ∧ (∀ names, names ∈ files ↔ ∃ file, at_ names = some (.file file)) ∧
        List.Forall₂ (TreeRecord disk kind root spot.place destination) files records ∧
        records.Pairwise fun record other =>
          ∀ target ∈ record.destination, ∀ target' ∈ other.destination,
            target.same target' = false) ∧
    ((∃ names node, at_ names = some node ∧ Disk.TooLong (root.descend names)) →
      ∃ complaint, treeRecords disk kind root destination = .error complaint ∧
        complaint.texts.getLast? = some IoCause.nameTooLong.message) := by
  intro at_
  obtain ⟨files, walk, nodup, all, shortDirectories⟩ | ⟨names, modified, walk, there, long⟩ :=
    tree.walk_cases found looked
  · rw [treeRecords_eq apart, walk]
    constructor
    · intro short
      have each : ∀ names ∈ files, ∃ record,
          recordBelow disk kind root destination names = .ok record ∧
            TreeRecord disk kind root spot.place destination names record := by
        intro names among
        obtain ⟨file, there⟩ := (all names).1 among
        exact recordBelow_of_short found looked tree there (short names _ there)
      have proper : ∀ names ∈ files, ∀ name ∈ names, Proper name := by
        intro names among
        obtain ⟨file, there⟩ := (all names).1 among
        exact tree.proper names _ there
      obtain ⟨records, made, each⟩ := mapM_eq_ok each
      exact ⟨files, records, made, nodup, all, each, apart_of_treeRecords nodup proper each⟩
    · rintro ⟨names, directory | file, there, long⟩
      · exact absurd long (shortDirectories _ _ there)
      · obtain ⟨complaint, failed, -⟩ := recordBelow_of_long found looked tree there long
        refine mapM_eq_error ⟨names, (all names).2 ⟨file, there⟩, complaint, failed⟩ ?_
        intro other among error failed
        obtain ⟨file, there⟩ := (all other).1 among
        by_cases long : Disk.TooLong (root.descend other)
        · obtain ⟨complaint, made, last⟩ := recordBelow_of_long found looked tree there long
          rwa [Except.error.inj (failed.symm.trans made)]
        · obtain ⟨record, made, -⟩ := recordBelow_of_short found looked tree there long
          cases failed.symm.trans made
  · refine ⟨fun short => absurd long (short _ _ there), fun _ => ?_⟩
    rw [treeRecords_eq apart, walk]
    exact ⟨_, rfl, rfl⟩

end

/-- A directory with two files of one name, one of them in a directory within. -/
theorem treeRecords_of_twoFiles :
    let home := Place.root.child "home"
    let root := home.child "d"
    let disk : Disk := ⟨home, [((root.child "s").child "a", .file 1),
      (root.child "s", .directory none), (root.child "a", .file 0), (root, .directory none),
      (home, .directory none), (.root, .directory none)], [{}, {}], .ext4⟩
    disk.spot ⟨"d"⟩ = .ok ⟨root, some (.directory none), false⟩ ∧ disk.TreeAt root ∧
      ∃ files records, treeRecords disk .upload ⟨"d"⟩ "s3://b/p/" = .ok records ∧
        files.Nodup ∧
        (∀ names, names ∈ files ↔ ∃ file, disk.node? (root.descend names) = some (.file file)) ∧
        List.Forall₂ (TreeRecord disk .upload ⟨"d"⟩ root "s3://b/p/") files records ∧
        records.Pairwise fun record other =>
          ∀ target ∈ record.destination, ∀ target' ∈ other.destination,
            target.same target' = false := by
  intro home root disk
  have below : disk.below root =
      [(["s", "a"], .file 1), (["s"], .directory none), (["a"], .file 0)] := by decide +kernel
  have tree : disk.TreeAt root := by
    refine Disk.treeAt_of_below (by decide +kernel) ?_ ?_
    · rw [below]
      decide +kernel
    · rw [below]
      intro entry among
      refine ⟨none, ?_⟩
      revert entry
      decide +kernel
  have short (names : List String) (node : Node)
      (there : disk.node? (root.descend names) = some node) :
      ¬Disk.TooLong ((⟨"d"⟩ : LocalPath).descend names) := by
    by_cases empty : names = []
    · rw [empty]
      decide +kernel
    · have among := (Disk.mem_below_iff tree.once).2 ⟨empty, there⟩
      rw [below] at among
      have each : ∀ entry ∈ [(["s", "a"], Node.file 1), (["s"], .directory none), (["a"], .file 0)],
          ¬Disk.TooLong ((⟨"d"⟩ : LocalPath).descend entry.1) := by decide +kernel
      exact each _ among
  have found : disk.spot ⟨"d"⟩ = .ok ⟨root, some (.directory none), false⟩ := by decide +kernel
  have looked : disk.look ⟨"d"⟩ = .ok (.directory none) := by decide +kernel
  exact ⟨found, tree, (treeRecords_of_tree found looked tree (by decide +kernel) .upload
    "s3://b/p/").1 short⟩

/-- A root that is itself a file: its object ends in a slash instead of in the file's name. -/
theorem fileRoot_unnamed :
    let home := Place.root.child "home"
    let disk : Disk := ⟨home, [(home.child "f", .file 0), (home, .directory none),
      (.root, .directory none)], [{}], .ext4⟩
    ∃ record, treeRecords disk .upload ⟨"f"⟩ "s3://b/p" = .ok [record] ∧
      record.source.fileName? = some "f" ∧
      record.destination = some (.object ⟨"b", "p/"⟩) ∧
      record.destination.bind Location.fileName? = some "" := by
  refine ⟨⟨.upload, .file ⟨"f"⟩, some (.object ⟨"b", "p/"⟩), 0, none, none, none⟩, ?_⟩
  decide +kernel

end CommandLine
end BulkTransfer
