import IndexShards.Proofs.Path.Below
import IndexShards.Segment.Layout

/-!
# What joining a name does to the parts

A directory is joined to its segment as a text, and the text decides where it lands.  One that
starts with a slash is a place of its own.  Any other adds its pieces to the parts of the path, and
that may be several parts, a double dot among them, or none at all.

## What is here

* `isAbsolute s`, `added s` — whether the text stands for itself, and the parts that it adds.
* `split_append` — a path with a slash and a text behind it is split into the pieces of both.
* `parts_join` — **the parts of a joined path**.
* `SegmentId.IsName` — the segment is a single name.  `parts_indexPath` says where the directory of
  an index lies in such a segment.
-/

set_option autoImplicit false

namespace IndexShards

open Text

namespace Path

/-! ## What a text adds -/

/-- The text starts with a slash. -/
def isAbsolute (s : String) : Bool := s.toList.head? == some '/'

/-- The parts that a text adds to a path that it is joined to. -/
def added (s : String) : List Part := (pieces '/' s.toList).filterMap partOf?

/-- More pieces go with the same lead, if there is any text before them. -/
theorem WellSplit.append {lead : Lead} {ps qs : List (List Char)} (h : WellSplit lead ps)
    (hne : ps ≠ []) (hempty : lead = .plain → ps ≠ [[]]) (hqs : ∀ q ∈ qs, '/' ∉ q) :
    WellSplit lead (ps ++ qs) := by
  cases ps with
  | nil => exact absurd rfl hne
  | cons p ps =>
    refine ⟨fun r hr => ?_, h.dot, h.notDot, fun hl rs hrs => ?_⟩
    · exact (List.mem_append.1 hr).elim (h.noSlash r) (hqs r)
    · obtain ⟨rfl, -⟩ := List.cons.inj hrs
      exact absurd (congrArg _ (h.notSlash hl ps rfl)) (hempty hl)

/-- **A slash and a text behind a path add the pieces of the text.** -/
theorem split_append {cs : List Char} (hne : cs ≠ []) (ds : List Char) :
    split (cs ++ '/' :: ds) = ((split cs).1, (split cs).2 ++ pieces '/' ds) := by
  have hj := lead_append_joined_split cs
  have hw := wellSplit_split cs
  have hempty : (split cs).1 = .plain → (split cs).2 ≠ [[]] := fun hl hps => by
    rw [hl, hps] at hj
    exact hne hj.symm
  have hslash : ∀ q ∈ pieces '/' ds, '/' ∉ q := fun _ hq => not_mem_of_mem_pieces hq
  have happend := hw.append (split_ne_nil cs) hempty hslash
  -- the pieces of both go with the lead of the path, so the text that they make splits into them
  have hsplit := split_eq happend (List.append_ne_nil_of_left_ne_nil (split_ne_nil cs) _)
  rw [joined_append '/' (split_ne_nil cs) (pieces_ne_nil '/' ds), joined_pieces,
    ← List.append_assoc, hj] at hsplit
  exact hsplit

/-- The text after a slash adds the same parts wherever it stands. -/
theorem partsOf_append {cs : List Char} (hne : cs ≠ []) (ds : List Char) :
    partsOf (cs ++ '/' :: ds) = partsOf cs ++ (pieces '/' ds).filterMap partOf? := by
  rw [partsOf, partsOf, split_append hne, List.filterMap_append, List.append_assoc]

/-- So it does if the slash is the end of the path. -/
theorem partsOf_append_of_slash (cs ds : List Char) :
    partsOf (cs ++ '/' :: ds) = partsOf (cs ++ ['/']) ++ (pieces '/' ds).filterMap partOf? := by
  cases cs with
  | nil => rfl
  | cons c cs =>
    rw [partsOf_append (List.cons_ne_nil c cs), partsOf_append (List.cons_ne_nil c cs)]
    exact congrArg (· ++ _) (List.append_nil _).symm

theorem parts_of_isAbsolute {s : String} (h : isAbsolute s = true) :
    (⟨s⟩ : Path).parts = .root :: added s := by
  rw [isAbsolute, beq_iff_eq, List.head?_eq_some_iff] at h
  obtain ⟨cs, hcs⟩ := h
  rw [parts, added, hcs, pieces_cons_sep]
  rfl

/-- An absolute text stands for itself. -/
theorem join_of_isAbsolute (p : Path) {s : String} (h : isAbsolute s = true) : p.join s = ⟨s⟩ := by
  rw [isAbsolute, beq_iff_eq, List.head?_eq_some_iff] at h
  obtain ⟨cs, hcs⟩ := h
  simp only [join, hcs]

/-- So does any text behind the empty path. -/
theorem join_of_parts_eq_nil {p : Path} (h : p.parts = []) (s : String) : p.join s = ⟨s⟩ := by
  have hlast : p.text.toList.getLast? = none := by rw [parts_eq_nil_iff.1 h]; rfl
  rw [join, hlast]
  split
  · rfl
  · rfl
  · next hsome _ => cases hsome
  · next hsome _ => cases hsome

/-- Any other text adds its parts. -/
theorem parts_join_of_relative {p : Path} (hp : p.parts ≠ []) {s : String}
    (h : isAbsolute s = false) : (p.join s).parts = p.parts ++ added s := by
  have htext : p.text.toList ≠ [] := fun hnil =>
    hp (parts_eq_nil_iff.2 (String.toList_eq_nil_iff.1 hnil))
  rw [join]
  split
  · next hcs =>
    rw [isAbsolute, hcs] at h
    cases h
  · next hlast _ => exact absurd (List.getLast?_eq_none_iff.1 hlast) htext
  · next hlast _ =>
    obtain ⟨cs, hcs⟩ := List.getLast?_eq_some_iff.1 hlast
    rw [parts, parts, String.toList_append, hcs, List.append_assoc]
    exact partsOf_append_of_slash cs s.toList
  · rw [parts, parts, String.toList_append, String.toList_append, List.append_assoc]
    exact partsOf_append htext s.toList

/-- **The parts of a joined path.** -/
theorem parts_join {p : Path} (hp : p.parts ≠ []) (s : String) :
    (p.join s).parts = if isAbsolute s then .root :: added s else p.parts ++ added s := by
  by_cases h : isAbsolute s = true
  · rw [if_pos h, join_of_isAbsolute p h, parts_of_isAbsolute h]
  · rw [if_neg h, parts_join_of_relative hp (Bool.eq_false_iff.2 h)]

/-- A text that is a single name is not absolute, and adds that name. -/
theorem added_of_parts_eq_name {s n : String} (h : (⟨s⟩ : Path).parts = [.name n]) :
    isAbsolute s = false ∧ added s = [.name n] := by
  have hj := lead_append_joined_split s.toList
  rw [parts, partsOf] at h
  constructor
  · rw [← Bool.not_eq_true]
    intro habs
    have hroot := parts_of_isAbsolute habs
    rw [parts, partsOf, h] at hroot
    cases hroot
  · cases hl : (split s.toList).1 with
    | slash => rw [hl] at h; cases h
    | dot => rw [hl] at h; cases h
    | plain =>
      rw [hl] at h hj
      have hpieces := pieces_joined (split_ne_nil s.toList) (wellSplit_split s.toList).noSlash
      rw [show joined '/' (split s.toList).2 = s.toList from hj] at hpieces
      rw [added, hpieces]
      exact h

end Path

/-! ## Where the directories of an index lie -/

/-- The segment is a single name, however it is spelled. -/
def SegmentId.IsName (segment : SegmentId) : Prop :=
  ∃ n, (⟨segment.text⟩ : Path).parts = [.name n]

section Layout

variable {table : TableId} {segment : SegmentId} {n : String}

theorem parts_segmentPath (hn : (⟨segment.text⟩ : Path).parts = [.name n]) :
    (segmentPath table segment).parts = table.path.parts ++ [.name n] := by
  obtain ⟨hrelative, hadded⟩ := Path.added_of_parts_eq_name hn
  rw [segmentPath]
  by_cases h : table.path.parts = []
  · rw [Path.join_of_parts_eq_nil h, hn, h, List.nil_append]
  · rw [Path.parts_join_of_relative h hrelative, hadded]

/-- **Where the directory of an index lies** in a segment that is a single name. -/
theorem parts_indexPath (hn : (⟨segment.text⟩ : Path).parts = [.name n]) (index : String) :
    (indexPath table segment index).parts = if Path.isAbsolute index then
      .root :: Path.added index else table.path.parts ++ .name n :: Path.added index := by
  have hsegment : (segmentPath table segment).parts = table.path.parts ++ [.name n] :=
    parts_segmentPath hn
  have hne : (segmentPath table segment).parts ≠ [] := by simp [hsegment]
  rw [indexPath, Path.parts_join hne, hsegment, List.append_assoc, List.singleton_append]

end Layout

end IndexShards
