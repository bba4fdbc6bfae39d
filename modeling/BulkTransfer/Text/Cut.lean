/-!
# Cutting texts

A text is cut at a character or stripped of a known start or end. The functions work on
lists of characters, and each one says in its result whether the cut was possible; nothing of
the text is lost by a cut but the separator itself.
-/

namespace BulkTransfer.Text

/-- The parts of a text before and after its first `c`, if it holds one. -/
def cut? (c : Char) : List Char → Option (List Char × List Char)
  | [] => none
  | d :: rest =>
      if d = c then some ([], rest)
      else (cut? c rest).map fun parts => (d :: parts.1, parts.2)

/-- The part of a text after its last `c`; the whole text if it holds none. -/
def afterLast (c : Char) (text : List Char) : List Char :=
  (text.reverse.takeWhile (· ≠ c)).reverse

/-- The parts of a text before and after its last `c`, if it holds one. -/
def cutLast? (c : Char) (text : List Char) : Option (List Char × List Char) :=
  (cut? c text.reverse).map fun parts => (parts.2.reverse, parts.1.reverse)

/-- What follows `start` in a text that begins with it. -/
def after? : List Char → List Char → Option (List Char)
  | [], text => some text
  | _ :: _, [] => none
  | s :: start, c :: text => if s = c then after? start text else none

/-- What precedes `ending` in a text that ends with it. -/
def before? (ending text : List Char) : Option (List Char) :=
  (after? ending.reverse text.reverse).map List.reverse

/-- A text without the `c`s at its end. -/
def trimEnd (c : Char) (text : List Char) : List Char :=
  (text.reverse.dropWhile (· = c)).reverse

/-- The pieces of a text between its `c`s; a text without one is a single piece. -/
def pieces (c : Char) : List Char → List (List Char)
  | [] => [[]]
  | d :: rest =>
      if d = c then [] :: pieces c rest
      else match pieces c rest with
        | [] => [[d]]
        | piece :: more => (d :: piece) :: more

/-- Texts put together with `c` between each two. -/
def joined (c : Char) : List (List Char) → List Char
  | [] => []
  | [piece] => piece
  | piece :: more => piece ++ c :: joined c more

/-- The lines of a text, without their ends. A line ends in a line feed, or in a carriage return
and a line feed; the last line may lack its end, and then a carriage return belongs to it. -/
def lines (text : String) : List String :=
  let all := pieces '\n' text.toList
  let ended := all.dropLast.map fun line => (before? ['\r'] line).getD line
  (ended ++ all.getLast?.toList.filter (· ≠ [])).map String.ofList

theorem cut?_eq_some {c : Char} {text before after : List Char}
    (h : cut? c text = some (before, after)) :
    text = before ++ c :: after ∧ c ∉ before := by
  induction text generalizing before with
  | nil => simp [cut?] at h
  | cons d rest ih =>
      by_cases hd : d = c
      · simp only [cut?, hd, if_true, Option.some.injEq, Prod.mk.injEq] at h
        obtain ⟨rfl, rfl⟩ := h
        simp [hd]
      · simp only [cut?, hd, if_false, Option.map_eq_some_iff] at h
        obtain ⟨parts, hparts, heq⟩ := h
        obtain ⟨rfl, rfl⟩ := Prod.mk.inj heq
        obtain ⟨hrest, hnot⟩ := ih hparts
        exact ⟨by rw [hrest]; rfl, by simp [hnot, Ne.symm hd]⟩

theorem cut?_append {c : Char} {before : List Char} (after : List Char) (h : c ∉ before) :
    cut? c (before ++ c :: after) = some (before, after) := by
  induction before with
  | nil => simp [cut?]
  | cons d rest ih =>
      have hd : d ≠ c := fun hdc => h (by simp [hdc])
      have hrest : c ∉ rest := fun hc => h (by simp [hc])
      simp [cut?, hd, ih hrest]

theorem after?_eq_some {start text rest : List Char} :
    after? start text = some rest ↔ text = start ++ rest := by
  induction start generalizing text with
  | nil => simp [after?, eq_comm]
  | cons s start ih =>
      cases text with
      | nil => simp [after?]
      | cons c text =>
          by_cases hs : s = c
          · simp [after?, hs, ih]
          · simp [after?, hs, Ne.symm hs]

theorem pieces_ne_nil (c : Char) (text : List Char) : pieces c text ≠ [] := by
  cases text with
  | nil => simp [pieces]
  | cons d rest =>
      unfold pieces
      split
      · simp
      · split <;> simp

theorem joined_pieces (c : Char) (text : List Char) : joined c (pieces c text) = text := by
  induction text with
  | nil => rfl
  | cons d rest ih =>
      obtain ⟨piece, more, hp⟩ := List.exists_cons_of_ne_nil (pieces_ne_nil c rest)
      rw [hp] at ih
      by_cases hd : d = c
      · simp [pieces, hd, hp, joined, ih]
      · cases more with
        | nil => simpa [pieces, hd, hp, joined] using ih
        | cons next more => simpa [pieces, hd, hp, joined] using ih

/-- The pieces of two texts with a separator between them are those of the one and of the other. -/
theorem pieces_append (c : Char) (text more : List Char) :
    pieces c (text ++ c :: more) = pieces c text ++ pieces c more := by
  induction text with
  | nil => simp [pieces]
  | cons d rest ih =>
      obtain ⟨piece, others, hp⟩ := List.exists_cons_of_ne_nil (pieces_ne_nil c rest)
      rw [hp] at ih
      by_cases hd : d = c
      · simp [pieces, hd, ih, hp]
      · simp [pieces, hd, ih, hp]

theorem pieces_of_notMem {c : Char} {text : List Char} (h : c ∉ text) :
    pieces c text = [text] := by
  induction text with
  | nil => rfl
  | cons d rest ih =>
      have hd : d ≠ c := fun hdc => h (by simp [hdc])
      have hrest : c ∉ rest := fun hc => h (by simp [hc])
      simp [pieces, hd, ih hrest]

theorem pieces_joined {c : Char} {texts : List (List Char)} (some : texts ≠ [])
    (clean : ∀ text ∈ texts, c ∉ text) : pieces c (joined c texts) = texts := by
  induction texts with
  | nil => exact absurd rfl some
  | cons text more ih =>
      have first := pieces_of_notMem (clean text List.mem_cons_self)
      cases more with
      | nil => exact first
      | cons next more =>
          have others := ih (List.cons_ne_nil _ _) fun text h =>
            clean text (List.mem_cons_of_mem _ h)
          rw [joined, pieces_append, first, others]
          · rfl
          · exact List.cons_ne_nil _ _

theorem joined_eq_intercalate (c : Char) (texts : List (List Char)) :
    joined c texts = List.intercalate [c] texts := by
  induction texts with
  | nil => rfl
  | cons text more ih =>
      cases more with
      | nil => rw [joined, List.intercalate_singleton]
      | cons next more =>
          rw [joined, ih, List.intercalate_cons_cons, List.append_assoc]
          · rfl
          · exact List.cons_ne_nil _ _

theorem afterLast_of_notMem {c : Char} {text : List Char} (h : c ∉ text) :
    afterLast c text = text := by
  have all : ∀ d ∈ text.reverse, decide (d ≠ c) = true := by
    intro d hd
    exact decide_eq_true fun hdc => h (hdc ▸ List.mem_reverse.1 hd)
  have whole : text.reverse.takeWhile (fun d => decide (d ≠ c)) = text.reverse := by
    simpa using @List.takeWhile_append_of_pos _ _ _ [] all
  rw [afterLast, whole, List.reverse_reverse]

theorem afterLast_append (c : Char) (text more : List Char) :
    afterLast c (text ++ c :: more) = afterLast c more := by
  unfold afterLast
  rw [List.reverse_append, List.reverse_cons, List.append_assoc, List.takeWhile_append]
  split
  · next all =>
      rw [List.cons_append, List.nil_append, List.takeWhile_cons_of_neg (by simp), List.append_nil]
      exact congrArg _ (List.takeWhile_prefix _ |>.eq_of_length all).symm
  · rfl

theorem getLast?_trimEnd_ne (c : Char) (text : List Char) :
    (trimEnd c text).getLast? ≠ some c := by
  unfold trimEnd
  rw [List.getLast?_reverse]
  intro last
  have kept := List.head?_dropWhile_not (fun d => decide (d = c)) text.reverse
  rw [last] at kept
  simp at kept

end BulkTransfer.Text
