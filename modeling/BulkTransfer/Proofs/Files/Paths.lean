import BulkTransfer.LocalPath
import Mathlib.Data.List.Basic
import Mathlib.Data.List.Induction

/-!
# Paths that go down

A path that goes down from another along proper names has the names of the one followed by these
(`LocalPath.names_descend`), and so has what is walked along it (`LocalPath.way_descend`). So the
last of the names is that of what it leads to (`LocalPath.fileName?_descend`).
-/

namespace BulkTransfer.LocalPath

variable {path : LocalPath} {name : String} {names : List String} {counts : List Char → Bool}

/-- A name that an entry of a directory can have. -/
structure Proper (name : String) : Prop where
  filled : name ≠ ""
  here : name ≠ "."
  up : name ≠ ".."
  slash : '/' ∉ name.toList
  nul : '\x00' ∉ name.toList
  short : name.utf8ByteSize ≤ 255

instance (name : String) : Decidable (Proper name) :=
  decidable_of_iff
    (name ≠ "" ∧ name ≠ "." ∧ name ≠ ".." ∧ '/' ∉ name.toList ∧ '\x00' ∉ name.toList ∧
      name.utf8ByteSize ≤ 255)
    ⟨fun ⟨filled, here, up, slash, nul, short⟩ => ⟨filled, here, up, slash, nul, short⟩,
      fun proper => ⟨proper.filled, proper.here, proper.up, proper.slash, proper.nul, proper.short⟩⟩

lemma Proper.toList_ne_nil (proper : Proper name) : name.toList ≠ [] :=
  fun none => proper.filled (String.toList_inj.1 none)

lemma Proper.isName (proper : Proper name) : isName name.toList = true := by
  have here : name.toList ≠ ['.'] := fun same => proper.here (String.toList_inj.1 same)
  rw [LocalPath.isName, decide_eq_true proper.toList_ne_nil, decide_eq_true here]
  rfl

/-- The name of an entry follows a slash, which a path may already end with. -/
lemma toList_child (path : LocalPath) (name : String) :
    (∃ before, path.text.toList = before ++ ['/'] ∧
      (path.child name).text.toList = before ++ '/' :: name.toList) ∨
    (path.child name).text.toList = path.text.toList ++ '/' :: name.toList := by
  unfold child
  split
  · next ends =>
      rw [String.endsWith_eq_endsWith_toSlice, String.Slice.endsWith_string_iff,
        String.copy_toSlice] at ends
      obtain ⟨before, text⟩ := ends
      change before ++ ['/'] = path.text.toList at text
      refine .inl ⟨before, text.symm, ?_⟩
      rw [String.toList_append, ← text, List.append_assoc]
      rfl
  · right
    rw [String.toList_append, String.toList_append, List.append_assoc]
    rfl

lemma filter_pieces_child (hollow : counts [] = false) (slash : '/' ∉ name.toList)
    (counted : counts name.toList = true) (path : LocalPath) :
    (Text.pieces '/' (path.child name).text.toList).filter counts =
      (Text.pieces '/' path.text.toList).filter counts ++ [name.toList] := by
  have last : (Text.pieces '/' name.toList).filter counts = [name.toList] := by
    rw [Text.pieces_of_notMem slash, List.filter_cons_of_pos counted, List.filter_nil]
  obtain ⟨before, text, child⟩ | child := toList_child path name
  · -- the piece after the slash at the end of the path is empty and does not count
    have ending : (Text.pieces '/' []).filter counts = [] :=
      List.filter_cons_of_neg (by rw [hollow]; exact Bool.false_ne_true)
    rw [child, text, Text.pieces_append, Text.pieces_append, List.filter_append,
      List.filter_append, last, ending, List.append_nil]
  · rw [child, Text.pieces_append, List.filter_append, last]

lemma filter_pieces_descend (hollow : counts [] = false)
    (slash : ∀ name ∈ names, '/' ∉ name.toList)
    (counted : ∀ name ∈ names, counts name.toList = true) (path : LocalPath) :
    (Text.pieces '/' (path.descend names).text.toList).filter counts =
      (Text.pieces '/' path.text.toList).filter counts ++ names.map String.toList := by
  induction names generalizing path with
  | nil => exact (List.append_nil _).symm
  | cons name names ih =>
      obtain ⟨slashFirst, slashOthers⟩ := List.forall_mem_cons.1 slash
      obtain ⟨countedFirst, countedOthers⟩ := List.forall_mem_cons.1 counted
      have inner := ih slashOthers countedOthers (path.child name)
      rw [filter_pieces_child hollow slashFirst countedFirst, List.append_assoc] at inner
      exact inner

lemma map_ofList_toList (names : List String) :
    (names.map String.toList).map String.ofList = names := by
  rw [List.map_map]
  exact (List.map_congr_left fun _ _ => String.ofList_toList).trans (List.map_id _)

/-! ## The names of a path -/

/-- The anchor of a path is no name. -/
lemma names_eq (path : LocalPath) :
    path.names = ((Text.pieces '/' path.text.toList).filter isName).map String.ofList := by
  unfold names anchored
  split
  · next pieces =>
      rw [pieces]
      rfl
  · next pieces =>
      rw [pieces]
      rfl
  · rfl

theorem names_descend (proper : ∀ name ∈ names, Proper name) (path : LocalPath) :
    (path.descend names).names = path.names ++ names := by
  rw [names_eq, names_eq, filter_pieces_descend rfl (fun name among => (proper name among).slash)
    (fun name among => (proper name among).isName), List.map_append, map_ofList_toList]

/-- A path that ends in proper names is called by the last of them. -/
lemma fileName?_of_names {before : List String} (named : path.names = before ++ names)
    (proper : ∀ name ∈ names, Proper name) (some : names ≠ []) :
    path.fileName? = names.getLast? := by
  obtain ⟨above, last, rfl⟩ := (List.eq_nil_or_concat' names).resolve_left some
  have up : last ≠ ".." := (proper last (by simp)).up
  rw [fileName?, named, ← List.append_assoc, List.getLast?_concat, List.getLast?_concat]
  exact Option.filter_eq_some_iff.2 ⟨rfl, decide_eq_true up⟩

/-- Whatever stands in a directory is called by the last name of its path. -/
theorem fileName?_descend (proper : ∀ name ∈ names, Proper name) (some : names ≠ []) :
    (path.descend names).fileName? = names.getLast? :=
  fileName?_of_names (names_descend proper path) proper some

/-! ## The way along a path -/

/-- The names that are walked along a path, `.` and `..` among them. -/
def way (path : LocalPath) : List String :=
  ((Text.pieces '/' path.text.toList).filter (· ≠ [])).map String.ofList

theorem way_descend (proper : ∀ name ∈ names, Proper name) (path : LocalPath) :
    (path.descend names).way = path.way ++ names := by
  rw [way, way, filter_pieces_descend (decide_eq_false (not_not_intro rfl))
    (fun name among => (proper name among).slash)
    (fun name among => decide_eq_true (proper name among).toList_ne_nil), List.map_append,
    map_ofList_toList]

lemma descend_concat (path : LocalPath) (names : List String) (name : String) :
    path.descend (names ++ [name]) = (path.descend names).child name := by
  rw [descend, descend, List.foldl_append]
  rfl

lemma exists_append_descend (path : LocalPath) (names : List String) :
    ∃ more, (path.descend names).text.toList = path.text.toList ++ more := by
  induction names using List.reverseRecOn with
  | nil => exact ⟨[], (List.append_nil _).symm⟩
  | append_singleton names name ih =>
      obtain ⟨more, text⟩ := ih
      rw [descend_concat]
      obtain ⟨before, ending, child⟩ | child := toList_child (path.descend names) name
      · refine ⟨more ++ name.toList, ?_⟩
        rw [child, ← List.append_assoc, ← text, ending, List.append_assoc]
        rfl
      · exact ⟨more ++ '/' :: name.toList, by rw [child, text, List.append_assoc]⟩

/-- A path that is not empty starts where those start that go down from it. -/
lemma head?_descend (filled : path.text.toList ≠ []) (names : List String) :
    (path.descend names).text.toList.head? = path.text.toList.head? := by
  obtain ⟨first, rest, text⟩ := List.exists_cons_of_ne_nil filled
  obtain ⟨more, longer⟩ := exists_append_descend path names
  rw [longer, text]
  rfl

/-- A path that goes down along names ends in the last of them, not in a slash. -/
lemma getLast?_descend (proper : ∀ name ∈ names, Proper name) (some : names ≠ []) :
    (path.descend names).text.toList.getLast? ≠ .some '/' := by
  obtain ⟨above, last, rfl⟩ := (List.eq_nil_or_concat' names).resolve_left some
  have properLast := proper last (by simp)
  have ending (before : List Char) (same : (before ++ '/' :: last.toList).getLast? = .some '/') :
      False := by
    rw [List.getLast?_append, List.getLast?_cons_of_ne_nil properLast.toList_ne_nil,
      List.getLast?_eq_some_getLast properLast.toList_ne_nil, Option.some_or,
      Option.some.injEq] at same
    exact properLast.slash (same ▸ List.getLast_mem _)
  rw [descend_concat]
  obtain ⟨before, -, child⟩ | child := toList_child (path.descend above) last
  · rw [child]
    exact ending before
  · rw [child]
    exact ending _

/-- No name brings a character into a path that ends it. -/
lemma nul_notMem_descend (clean : '\x00' ∉ path.text.toList)
    (proper : ∀ name ∈ names, Proper name) : '\x00' ∉ (path.descend names).text.toList := by
  induction names using List.reverseRecOn with
  | nil => exact clean
  | append_singleton names name ih =>
      have outer := ih fun other among => proper other (List.mem_append_left _ among)
      have inner := (proper name (by simp)).nul
      rw [descend_concat]
      obtain ⟨before, ending, child⟩ | child := toList_child (path.descend names) name
      · rw [ending] at outer
        rw [child]
        simp_all
      · rw [child]
        simp_all

/-! ## Names in a text -/

/-- Names with slashes between them. -/
def joinedNames (names : List String) : List Char :=
  Text.joined '/' (names.map String.toList)

lemma toList_intercalate (names : List String) :
    (String.intercalate "/" names).toList = joinedNames names := by
  rw [String.toList_intercalate, joinedNames, Text.joined_eq_intercalate]
  rfl

lemma filter_pieces_joinedNames {counts : List Char → Bool} (hollow : counts [] = false)
    (slash : ∀ name ∈ names, '/' ∉ name.toList)
    (counted : ∀ name ∈ names, counts name.toList = true) :
    (Text.pieces '/' (joinedNames names)).filter counts = names.map String.toList := by
  cases names with
  | nil => exact List.filter_cons_of_neg (by rw [hollow]; exact Bool.false_ne_true)
  | cons name names =>
      rw [joinedNames, Text.pieces_joined (by simp)]
      · exact List.filter_eq_self.2 (by simpa using counted)
      · simpa using slash

/-- Names can be read off the text that they make with slashes between them. -/
lemma joinedNames_inj {other : List String} (proper : ∀ name ∈ names, Proper name)
    (properOther : ∀ name ∈ other, Proper name) (same : joinedNames names = joinedNames other) :
    names = other := by
  have read := filter_pieces_joinedNames rfl (fun name among => (proper name among).slash)
    (fun name among => (proper name among).isName)
  have readOther := filter_pieces_joinedNames rfl
    (fun name among => (properOther name among).slash)
    (fun name among => (properOther name among).isName)
  rw [same, readOther] at read
  rw [← map_ofList_toList names, ← read, map_ofList_toList]

lemma afterLast_joinedNames (above : List String) {last : String} (slash : '/' ∉ last.toList) :
    Text.afterLast '/' (joinedNames (above ++ [last])) = last.toList := by
  rw [joinedNames, List.map_append]
  induction above with
  | nil => exact Text.afterLast_of_notMem slash
  | cons name above ih =>
      obtain ⟨next, more, rest⟩ := List.exists_cons_of_ne_nil (l :=
        above.map String.toList ++ [last].map String.toList) (by simp)
      rw [List.map_cons, List.cons_append, rest, Text.joined, Text.afterLast_append, ← rest, ih]
      exact List.cons_ne_nil _ _

lemma head?_joinedNames_ne (proper : ∀ name ∈ names, Proper name) :
    (joinedNames names).head? ≠ some '/' := by
  cases names with
  | nil => exact nofun
  | cons name names =>
      obtain ⟨first, rest, text⟩ := List.exists_cons_of_ne_nil
        (proper name List.mem_cons_self).toList_ne_nil
      have slash : '/' ∉ first :: rest := text ▸ (proper name List.mem_cons_self).slash
      intro head
      have same : first = '/' := by
        rw [joinedNames, List.map_cons, text] at head
        cases more : names.map String.toList with
        | nil => simpa [more, Text.joined] using head
        | cons next others => simpa [more, Text.joined] using head
      exact slash (same ▸ List.mem_cons_self)

end BulkTransfer.LocalPath
