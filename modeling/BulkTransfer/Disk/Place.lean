/-!
# Places

A place in the file system is named by the way to it from the root. The names below a place lead
from there to the places within it: going down along them and asking for them are inverse to each
other (`Place.below?_eq_some_iff`).
-/

namespace BulkTransfer

/-- A place in the file system: how deep it lies below the root, and the names on the way to it,
the last one first. Places of different depths are told apart without a look at their names. -/
structure Place where
  depth : Nat
  names : List String
  depth_eq : depth = names.length
  deriving DecidableEq, Repr

namespace Place

/-- The place above all others. -/
def root : Place := ⟨0, [], rfl⟩

/-- The place that a name leads to. -/
def child (place : Place) (name : String) : Place :=
  ⟨place.depth + 1, name :: place.names, congrArg (· + 1) place.depth_eq⟩

/-- The place above a place; the root is above itself. -/
def parent (place : Place) : Place :=
  ⟨place.depth - 1, place.names.tail, by rw [List.length_tail, place.depth_eq]⟩

/-- The place that names lead to one after the other. -/
def descend (place : Place) (names : List String) : Place :=
  names.foldl child place

/-- The names that lead down to a place from one above it, or from itself. -/
def below? (place inner : Place) : Option (List String) :=
  let count := inner.depth - place.depth
  if inner.names.drop count = place.names then some (inner.names.take count).reverse else none

/-- Whether two places are the same. -/
@[inline]
def isSame (place other : Place) : Bool :=
  place.depth == other.depth && place.names == other.names

@[simp]
theorem parent_child (place : Place) (name : String) : (place.child name).parent = place := rfl

theorem names_descend (place : Place) (names : List String) :
    (place.descend names).names = names.reverse ++ place.names := by
  unfold descend
  induction names generalizing place with
  | nil => rfl
  | cons name names ih =>
      rw [List.foldl_cons, ih, child, List.reverse_cons, List.append_assoc]
      rfl

theorem ext_names {place other : Place} (h : place.names = other.names) : place = other := by
  obtain ⟨depth, names, rfl⟩ := place
  obtain ⟨depth', names', rfl⟩ := other
  subst h
  rfl

theorem isSame_iff {place other : Place} : place.isSame other = true ↔ place = other := by
  constructor
  · intro h
    exact ext_names (eq_of_beq (Bool.and_eq_true_iff.1 h).2)
  · intro h
    rw [h, isSame, beq_self_eq_true, beq_self_eq_true, Bool.and_self]

theorem below?_descend (place : Place) (names : List String) :
    place.below? (place.descend names) = some names := by
  have depths : (place.descend names).depth - place.depth = names.reverse.length := by
    rw [depth_eq, depth_eq, names_descend, List.length_append]
    omega
  rw [below?, depths, names_descend, List.drop_left, List.take_left, if_pos rfl,
    List.reverse_reverse]

theorem eq_descend_of_below? {place inner : Place} {names : List String}
    (h : place.below? inner = some names) : inner = place.descend names := by
  obtain ⟨same, way⟩ := Option.ite_none_right_eq_some.1 h
  obtain rfl := Option.some.inj way
  apply ext_names
  rw [names_descend, List.reverse_reverse, ← same, List.take_append_drop]

theorem below?_eq_some_iff {place inner : Place} {names : List String} :
    place.below? inner = some names ↔ inner = place.descend names :=
  ⟨eq_descend_of_below?, fun h => h ▸ below?_descend place names⟩

end Place
end BulkTransfer
