import IndexShards.Path.Basic

/-!
# What lies above a path

The ancestors of a path are computed on its text, so that each keeps the spelling of the path.  This
file says what they are in terms of parts.

## What is here

* `WellSplit`, `split_eq` — the pieces that a text is split into, and all their initial stretches,
  are split again into the same pieces when they are put together.
* `parts_parent?` — **the parent has all parts but the last one.**
* `parent?_eq_none_iff` — only the root and the empty path have no parent.
* `ancestors_eq` — the ancestors of a path are its parent and the ancestors of its parent.
-/

set_option autoImplicit false

namespace IndexShards
namespace Path

open Text

/-! ## Pieces that can be split again -/

/-- The pieces hold no slash, and the first of them goes with the lead: behind a single dot it is
empty, and where the path starts with a name it is neither a dot nor, unless it is alone, empty. -/
structure WellSplit (lead : Lead) (ps : List (List Char)) : Prop where
  noSlash : ∀ p ∈ ps, '/' ∉ p
  dot : lead = .dot → ∀ p, ps.head? = some p → p = []
  notDot : lead = .plain → ps.head? ≠ some ['.']
  notSlash : lead = .plain → ∀ qs, ps = [] :: qs → qs = []

theorem wellSplit_split (cs : List Char) : WellSplit (split cs).1 (split cs).2 := by
  unfold split
  split
  · exact ⟨fun p hp => not_mem_of_mem_pieces hp, by simp, by simp, by simp⟩
  · exact ⟨by simp, by simp, by simp, by simp⟩
  · next cs =>
    refine ⟨fun p hp => ?_, by simp, by simp, by simp⟩
    rcases List.mem_cons.1 hp with rfl | hp
    · simp
    · exact not_mem_of_mem_pieces hp
  · next h1 h2 h3 =>
    refine ⟨fun p hp => not_mem_of_mem_pieces hp, by simp, fun _ h => ?_, fun _ qs h => ?_⟩
    · have hj := joined_pieces '/' cs
      cases hps : pieces '/' cs with
      | nil => exact absurd hps (pieces_ne_nil _ _)
      | cons p ps =>
        rw [hps] at h hj
        obtain rfl : p = ['.'] := by simpa using h
        cases ps with
        | nil => exact h2 (by simpa [joined] using hj.symm)
        | cons q qs => exact h3 _ (by simpa [joined] using hj.symm)
    · have hj := joined_pieces '/' cs
      rw [show pieces '/' cs = [] :: qs from h] at hj
      cases qs with
      | nil => rfl
      | cons q qs => exact absurd (by simpa [joined] using hj.symm) (h1 (joined '/' (q :: qs)))

theorem split_ne_nil (cs : List Char) : (split cs).2 ≠ [] := by
  unfold split
  split <;> simp [pieces_ne_nil]

/-- Pieces that go with their lead are found again in the text that they make. -/
theorem split_eq {lead : Lead} {ps : List (List Char)} (h : WellSplit lead ps) (hne : ps ≠ []) :
    split (lead.chars ++ joined '/' ps) = (lead, ps) := by
  have hp := pieces_joined hne h.noSlash
  cases lead with
  | slash => simp [Lead.chars, split, hp]
  | dot =>
    cases ps with
    | nil => exact absurd rfl hne
    | cons p qs =>
      obtain rfl := h.dot rfl p rfl
      cases qs with
      | nil => rfl
      | cons q qs =>
        have hq : pieces '/' (joined '/' (q :: qs)) = q :: qs :=
          pieces_joined (by simp) fun r hr => h.noSlash r (List.mem_cons_of_mem _ hr)
        simp [Lead.chars, joined, split, hq]
  | plain =>
    rw [Lead.chars, List.nil_append]
    unfold split
    split
    · next cs hcs =>
      rw [hcs, pieces_cons_sep] at hp
      exact absurd (h.notSlash rfl _ hp.symm) (pieces_ne_nil _ _)
    · next hcs =>
      rw [hcs] at hp
      exact absurd (by rw [← hp]; rfl) (h.notDot rfl)
    · next cs hcs =>
      rw [hcs, show '.' :: '/' :: cs = ['.'] ++ '/' :: cs from rfl,
        pieces_append_sep (by simp)] at hp
      exact absurd (by rw [← hp]; rfl) (h.notDot rfl)
    · rw [hp]

/-- An initial stretch of pieces goes with the same lead. -/
theorem WellSplit.of_append {lead : Lead} {ps qs : List (List Char)}
    (h : WellSplit lead (ps ++ qs)) : WellSplit lead ps := by
  cases ps with
  | nil => exact ⟨by simp, by simp, by simp, by simp⟩
  | cons p ps =>
    refine ⟨fun r hr => h.noSlash r (List.mem_append_left _ hr), fun hl r hr => h.dot hl r hr,
      fun hl => h.notDot hl, fun hl rs hrs => ?_⟩
    have := h.notSlash hl (ps ++ qs) (by rw [List.cons_append]; congr; exact (List.cons.inj hrs).1)
    rw [← (List.cons.inj hrs).2]
    exact (List.append_eq_nil_iff.1 this).1

theorem parts_ofPieces {lead : Lead} {ps : List (List Char)} (h : WellSplit lead ps) :
    (ofPieces lead ps).parts = lead.parts ++ ps.filterMap partOf? := by
  rw [parts, ofPieces, String.toList_ofList, partsOf]
  cases ps with
  | nil => cases lead <;> rfl
  | cons p ps => rw [split_eq h (by simp)]

/-! ## Stems -/

theorem stems_dropSilent (ps : List (List Char)) : stems (dropSilent ps) = stems ps := by
  induction ps with
  | nil => rfl
  | cons p ps ih =>
    by_cases hp : (partOf? p).isNone = true
    · simpa [dropSilent, stems, hp] using ih
    · simp [dropSilent, stems, hp]

/-- Behind the first stem stand the stems of it. -/
theorem stems_of_stems_eq_cons {ps s : List (List Char)} {ss : List (List (List Char))}
    (h : stems ps = s :: ss) : stems s = ss := by
  induction ps with
  | nil => simp [stems] at h
  | cons p ps ih =>
    rw [stems] at h
    split at h
    · exact ih h
    · obtain ⟨rfl, rfl⟩ := List.cons.inj h
      exact stems_dropSilent ps

theorem suffix_of_mem_stems {ps s : List (List Char)} (h : s ∈ stems ps) : s <:+ ps := by
  induction ps with
  | nil => simp [stems] at h
  | cons p ps ih =>
    rw [stems] at h
    split at h
    · exact (ih h).trans (List.suffix_cons p ps)
    · rcases List.mem_cons.1 h with rfl | h
      · exact (List.dropWhile_suffix _).trans (List.suffix_cons p ps)
      · exact (ih h).trans (List.suffix_cons p ps)

theorem filterMap_dropSilent (ps : List (List Char)) :
    (dropSilent ps).filterMap partOf? = ps.filterMap partOf? := by
  induction ps with
  | nil => rfl
  | cons p ps ih =>
    cases hp : partOf? p with
    | none => simpa [dropSilent, hp] using ih
    | some a => simp [dropSilent, hp]

/-- The first stem has all parts but the last one; without a stem there are no parts. -/
theorem stems_head (ps : List (List Char)) :
    match stems ps with
    | [] => ps.filterMap partOf? = []
    | s :: _ => s.filterMap partOf? = (ps.filterMap partOf?).tail ∧ ps.filterMap partOf? ≠ [] := by
  induction ps with
  | nil => rfl
  | cons p ps ih =>
    cases hp : partOf? p with
    | none => simpa [stems, hp] using ih
    | some a => simp [stems, hp, filterMap_dropSilent]

/-! ## Parents -/

theorem filterMap_reverse_dropLast (ps : List (List Char)) :
    (ps.filterMap partOf?).dropLast = ((ps.reverse.filterMap partOf?).tail).reverse := by
  rw [List.filterMap_reverse, List.tail_reverse, List.reverse_reverse]

/-- **The parent has all parts but the last one.** -/
theorem parts_parent? {p q : Path} (h : p.parent? = some q) : q.parts = p.parts.dropLast := by
  rw [parent?, ancestors] at h
  have hw := wellSplit_split p.text.toList
  have hh := stems_head (split p.text.toList).2.reverse
  have hp : p.parts = (split p.text.toList).1.parts ++
    (split p.text.toList).2.filterMap partOf? := rfl
  rw [hp]
  generalize split p.text.toList = sp at h hw hh ⊢
  obtain ⟨lead, ps⟩ := sp
  cases hs : stems ps.reverse with
  | nil =>
    simp only [hs, List.map_nil, List.nil_append, List.filterMap_reverse,
      List.reverse_eq_nil_iff] at h hh
    split at h
    · next hl =>
      obtain rfl : (⟨""⟩ : Path) = q := by simpa using h
      subst hl
      rw [hh]
      rfl
    · simp at h
  | cons s ss =>
    simp only [hs, List.map_cons, List.cons_append, List.head?_cons, Option.some.injEq] at h hh
    subst h
    obtain ⟨htail, hne⟩ := hh
    have hsuf : s <:+ ps.reverse := suffix_of_mem_stems (by rw [hs]; simp)
    obtain ⟨r, hr⟩ := hsuf
    have hps : ps = s.reverse ++ r.reverse := by
      rw [← List.reverse_append, hr, List.reverse_reverse]
    have hne' : ps.filterMap partOf? ≠ [] := by
      simpa [List.filterMap_reverse] using hne
    have hsw : WellSplit lead s.reverse := by
      rw [hps] at hw
      exact hw.of_append
    rw [parts_ofPieces hsw, List.dropLast_append_of_ne_nil hne', filterMap_reverse_dropLast,
      ← htail, List.filterMap_reverse]

/-- No piece stands for the root. -/
theorem root_not_mem_filterMap (ps : List (List Char)) : Part.root ∉ ps.filterMap partOf? := by
  rw [List.mem_filterMap]
  rintro ⟨p, -, hp⟩
  unfold partOf? at hp
  split at hp <;> simp at hp

/-- **Only the root and the empty path have no parent.** -/
theorem parent?_eq_none_iff {p : Path} :
    p.parent? = none ↔ p.parts = [] ∨ p.parts = [.root] := by
  rw [parent?, ancestors, parts, partsOf]
  have hh := stems_head (split p.text.toList).2.reverse
  generalize split p.text.toList = sp at hh ⊢
  obtain ⟨lead, ps⟩ := sp
  cases hs : stems ps.reverse with
  | nil =>
    simp only [hs, List.filterMap_reverse, List.reverse_eq_nil_iff] at hh
    cases lead <;> simp [hs, hh, Lead.parts]
  | cons s ss =>
    simp only [hs, List.filterMap_reverse] at hh
    have hne : ps.filterMap partOf? ≠ [] := by simpa using hh.2
    have hroot : ps.filterMap partOf? ≠ [.root] := fun h =>
      root_not_mem_filterMap ps (by rw [h]; simp)
    cases lead <;> simp [hs, hne, hroot, Lead.parts]

/-- **The ancestors of a path are its parent and the ancestors of its parent.** -/
theorem ancestors_eq (p : Path) :
    p.ancestors = match p.parent? with
      | none => []
      | some q => q :: q.ancestors := by
  rw [parent?, ancestors]
  have hw := wellSplit_split p.text.toList
  generalize split p.text.toList = sp at hw ⊢
  obtain ⟨lead, ps⟩ := sp
  cases hs : stems ps.reverse with
  | nil => cases lead <;> simp [hs, ancestors, split, pieces, stems, partOf?]
  | cons s ss =>
    simp only [hs, List.map_cons, List.cons_append, List.head?_cons, List.cons.injEq, true_and]
    have hsuf : s <:+ ps.reverse := suffix_of_mem_stems (by rw [hs]; simp)
    obtain ⟨r, hr⟩ := hsuf
    have hps : ps = s.reverse ++ r.reverse := by
      rw [← List.reverse_append, hr, List.reverse_reverse]
    have hsw : WellSplit lead s.reverse := by
      rw [hps] at hw
      exact hw.of_append
    rw [ancestors, ofPieces, String.toList_ofList, ← stems_of_stems_eq_cons hs]
    cases s with
    | nil => cases lead <;> simp [Lead.chars, joined, split, pieces, stems, partOf?]
    | cons a s =>
      have he := split_eq hsw (by simp)
      rw [he]
      simp only [List.reverse_reverse]

/-- An ancestor has some of the parts at the front, but not all. -/
theorem parts_of_mem_ancestors {p q : Path} (h : q ∈ p.ancestors) :
    q.parts <+: p.parts ∧ q.parts.length < p.parts.length := by
  generalize hn : p.parts.length = n
  induction n using Nat.strongRecOn generalizing p with
  | ind n ih =>
    rw [ancestors_eq] at h
    split at h
    · simp at h
    · next r hr =>
      have hparts := parts_parent? hr
      have hpos : p.parts ≠ [] := fun h0 => by
        rw [parent?_eq_none_iff.2 (Or.inl h0)] at hr
        cases hr
      have hlt : r.parts.length < n := by
        rw [hparts, List.length_dropLast, ← hn]
        have := List.length_pos_iff.2 hpos
        omega
      have hpre : r.parts <+: p.parts := by rw [hparts]; exact List.dropLast_prefix _
      rcases List.mem_cons.1 h with rfl | h
      · exact ⟨hpre, hlt⟩
      · obtain ⟨h1, h2⟩ := ih _ hlt h rfl
        exact ⟨h1.trans hpre, Nat.lt_trans h2 hlt⟩

end Path
end IndexShards
