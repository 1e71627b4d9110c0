import IndexShards.Proofs.Path.Join

/-!
# Paths that are made of names

A relative path whose parts are all names can be told by its list of names.  Two of them are
equivalent if the lists are equal, one is at or above the other if its list is the shorter one and
the other begins with it, and every beginning of the list is the list of a path.

## What is here

* `Path.names p`, `Path.HasNames p` — the names of a path, and that it has nothing else.
* `equiv_iff_names`, `isAtOrAbove_iff_names`, `isChildOf_iff_names` — the relations of such paths in
  terms of names.
* `HasNames.exists_parent`, `exists_hasNames_of_prefix` — the parent, and every beginning of the
  names, is a path.
* `HasNames.exists_pieces_of_parent` — the text of the parent.
* `HasNames.join` — a name of one path, joined to another, adds itself.
-/

set_option autoImplicit false

namespace IndexShards

open Text

/-- The text of a name. -/
def Part.name? : Part → Option String
  | name s => some s
  | _ => none

namespace Path

/-- The names of a path. -/
def names (p : Path) : List String := p.parts.filterMap Part.name?

/-- The path is relative and not empty, and all its parts are names. -/
structure HasNames (p : Path) : Prop where
  parts_ne_nil : p.parts ≠ []
  isSome_name? : ∀ a ∈ p.parts, a.name?.isSome = true

variable {p q : Path}

/-! ## Parts and names -/

theorem filterMap_name?_map_name (ns : List String) :
    (ns.map Part.name).filterMap Part.name? = ns := by
  rw [List.filterMap_map]
  exact List.filterMap_some

theorem map_name_filterMap_name? {ps : List Part} (h : ∀ a ∈ ps, a.name?.isSome = true) :
    (ps.filterMap Part.name?).map Part.name = ps := by
  induction ps with
  | nil => rfl
  | cons a ps ih =>
    obtain ⟨ha, hps⟩ := List.forall_mem_cons.1 h
    cases a with
    | name s => exact congrArg (Part.name s :: ·) (ih hps)
    | _ => cases ha

theorem HasNames.parts_eq (h : p.HasNames) : p.parts = p.names.map Part.name :=
  (map_name_filterMap_name? h.isSome_name?).symm

theorem HasNames.names_ne_nil (h : p.HasNames) : p.names ≠ [] := fun hnil =>
  h.parts_ne_nil (by rw [h.parts_eq, hnil, List.map_nil])

theorem hasNames_of_parts {ns : List String} (hne : ns ≠ []) (h : p.parts = ns.map Part.name) :
    p.HasNames ∧ p.names = ns := by
  refine ⟨⟨?_, ?_⟩, ?_⟩
  · rw [h]
    exact fun hnil => hne (List.map_eq_nil_iff.1 hnil)
  · rw [h]
    exact List.forall_mem_map.2 fun _ _ => rfl
  · rw [names, h, filterMap_name?_map_name]

theorem names_congr (h : p ≈ q) : p.names = q.names :=
  congrArg (List.filterMap Part.name?) (equiv_iff.1 h)

theorem HasNames.congr (hp : p.HasNames) (h : p ≈ q) : q.HasNames :=
  (hasNames_of_parts hp.names_ne_nil ((equiv_iff.1 h).symm.trans hp.parts_eq)).1

/-- Paths of names are equivalent if the names are the same. -/
theorem equiv_iff_names (hp : p.HasNames) (hq : q.HasNames) : p ≈ q ↔ p.names = q.names := by
  refine ⟨names_congr, fun h => equiv_iff.2 ?_⟩
  rw [hp.parts_eq, hq.parts_eq, h]

/-- Paths of names stand one above the other if the names do. -/
theorem isAtOrAbove_iff_names (hp : p.HasNames) (hq : q.HasNames) :
    p.isAtOrAbove q = true ↔ p.names <+: q.names := by
  rw [isAtOrAbove_iff]
  refine ⟨fun h => h.filterMap Part.name?, fun h => ?_⟩
  rw [hp.parts_eq, hq.parts_eq]
  exact h.map Part.name

theorem isAbove_iff_names (hp : p.HasNames) (hq : q.HasNames) :
    p.IsAbove q ↔ p.names <+: q.names ∧ p.names ≠ q.names :=
  and_congr (isAtOrAbove_iff_names hp hq) (not_congr (equiv_iff_names hp hq))

/-- Whatever is at or above a path of names has names only, unless it is empty. -/
theorem HasNames.of_isAtOrAbove (hq : q.HasNames) (h : p.isAtOrAbove q = true)
    (hne : p.parts ≠ []) : p.HasNames :=
  ⟨hne, fun a ha => hq.isSome_name? a ((isAtOrAbove_iff.1 h).subset ha)⟩

/-! ## Parents -/

theorem HasNames.parts_ne_root (h : p.HasNames) : p.parts ≠ [.root] := fun hroot => by
  cases h.isSome_name? .root (by rw [hroot]; exact List.mem_singleton_self _)

/-- A path of names is directly below another if it has one name more. -/
theorem isChildOf_iff_names (hp : p.HasNames) (hq : q.HasNames) :
    p.IsChildOf q ↔ ∃ n, p.names = q.names ++ [n] := by
  rw [isChildOf_iff]
  constructor
  · rintro ⟨hparts, -⟩
    have hnames : q.names = p.names.dropLast := by
      rw [names, hparts, hp.parts_eq, ← List.map_dropLast, filterMap_name?_map_name]
    exact ⟨p.names.getLast hp.names_ne_nil, by rw [hnames, List.dropLast_concat_getLast]⟩
  · rintro ⟨n, hn⟩
    refine ⟨?_, hp.parts_ne_nil, hp.parts_ne_root⟩
    rw [hp.parts_eq, hn, hq.parts_eq, ← List.map_dropLast, List.dropLast_concat]

/-- A path of names has a parent, which has all names but the last one. -/
theorem HasNames.exists_parent (h : p.HasNames) :
    ∃ q, p.parent? = some q ∧ q.parts = p.names.dropLast.map Part.name := by
  cases hq : p.parent? with
  | none => exact absurd (parent?_eq_none_iff.1 hq) (not_or.2 ⟨h.parts_ne_nil, h.parts_ne_root⟩)
  | some q => exact ⟨q, rfl, by rw [parts_parent? hq, h.parts_eq, List.map_dropLast]⟩

/-- Every beginning of the names of a path is a path. -/
theorem exists_hasNames_of_prefix {ns : List String} (hne : ns ≠ []) (hp : p.HasNames)
    (hns : ns <+: p.names) : ∃ q : Path, q.HasNames ∧ q.names = ns := by
  generalize hl : p.names.length = l
  induction l generalizing p with
  | zero => exact absurd (List.length_eq_zero_iff.1 hl) hp.names_ne_nil
  | succ l ih =>
    rw [← List.dropLast_concat_getLast hp.names_ne_nil, List.prefix_concat_iff] at hns
    rcases hns with heq | hns
    · exact ⟨p, hp, by rw [heq, List.dropLast_concat_getLast]⟩
    · obtain ⟨q, -, hparts⟩ := hp.exists_parent
      have hlong : p.names.dropLast ≠ [] := fun hnil => hne (List.prefix_nil.1 (hnil ▸ hns))
      obtain ⟨hq, hnames⟩ := hasNames_of_parts hlong hparts
      refine ih hq (hnames ▸ hns) ?_
      rw [hnames, List.length_dropLast, hl]
      rfl

/-! ## Texts -/

/-- A path of names is split without a lead. -/
theorem HasNames.split_eq (h : p.HasNames) :
    split p.text.toList = (.plain, pieces '/' p.text.toList) := by
  have hlead : ∀ lead : Lead, (∀ a ∈ lead.parts, a ∈ p.parts) → lead = .plain := by
    intro lead hmem
    cases lead with
    | plain => rfl
    | slash => cases h.isSome_name? _ (hmem .root (List.mem_singleton_self _))
    | dot => cases h.isSome_name? _ (hmem .here (List.mem_singleton_self _))
  have hplain := hlead (split p.text.toList).1 fun a ha => List.mem_append_left _ ha
  have hj := lead_append_joined_split p.text.toList
  have hpieces := pieces_joined (split_ne_nil p.text.toList) (wellSplit_split p.text.toList).noSlash
  rw [hplain] at hj
  rw [show joined '/' (split p.text.toList).2 = p.text.toList from hj] at hpieces
  exact Prod.ext hplain hpieces.symm

/-- So its parts are those of its pieces. -/
theorem HasNames.parts_eq_filterMap (h : p.HasNames) :
    p.parts = (pieces '/' p.text.toList).filterMap partOf? := by
  rw [parts, partsOf, h.split_eq]
  rfl

theorem HasNames.isAbsolute_eq_false (h : p.HasNames) : isAbsolute p.text = false := by
  rw [← Bool.not_eq_true]
  intro habs
  have hroot : Part.root ∈ p.parts := by
    rw [show p.parts = _ from parts_of_isAbsolute habs]
    exact List.mem_cons_self
  cases h.isSome_name? _ hroot

/-- A name of a path holds no slash, and it is neither empty nor one of the two kinds of dots. -/
theorem HasNames.piece_of_mem (h : p.HasNames) {n : String} (hn : n ∈ p.names) :
    '/' ∉ n.toList ∧ partOf? n.toList = some (.name n) := by
  rw [names, h.parts_eq_filterMap] at hn
  obtain ⟨a, ha, hname⟩ := List.mem_filterMap.1 hn
  obtain ⟨c, hc, hpart⟩ := List.mem_filterMap.1 ha
  obtain rfl : a = .name n := by
    cases a with
    | name s => exact congrArg _ (Option.some.inj hname)
    | _ => cases hname
  have htext : c = n.toList := by
    unfold partOf? at hpart
    split at hpart
    · cases hpart
    · cases hpart
    · cases hpart
    · rw [← Part.name.inj (Option.some.inj hpart), String.toList_ofList]
  subst htext
  exact ⟨not_mem_of_mem_pieces hc, hpart⟩

/-- The first stem begins, from the back, with a piece that is a part. -/
theorem isSome_partOf?_of_stems {ps s : List (List Char)} {ss : List (List (List Char))}
    (h : stems ps = s :: ss) {c : List Char} (hc : s.head? = some c) :
    (partOf? c).isSome = true := by
  induction ps with
  | nil => cases h
  | cons p ps ih =>
    rw [stems] at h
    split at h
    · exact ih h
    · obtain ⟨rfl, -⟩ := List.cons.inj h
      have hnot := List.head?_dropWhile_not (fun p => (partOf? p).isNone) ps
      rw [show (ps.dropWhile fun p => (partOf? p).isNone).head? = some c from hc] at hnot
      simpa using hnot

/-- The pieces of the parent are the first pieces of the path, up to one that is a part. -/
theorem HasNames.exists_pieces_of_parent (h : p.HasNames) (hq : p.parent? = some q)
    (hne : q.parts ≠ []) : ∃ ps c, (partOf? c).isSome = true ∧
      q.text.toList = joined '/' (ps ++ [c]) ∧ ps ++ [c] <+: pieces '/' p.text.toList := by
  have hsplit : split p.text.toList = (.plain, pieces '/' p.text.toList) := h.split_eq
  rw [parent?, ancestors, hsplit] at hq
  cases hs : stems (pieces '/' p.text.toList).reverse with
  | nil => simp [hs] at hq
  | cons s ss =>
    obtain rfl : ofPieces .plain s.reverse = q := by simpa [hs] using hq
    have hpre : s.reverse <+: pieces '/' p.text.toList := by
      rw [← List.reverse_suffix, List.reverse_reverse]
      exact suffix_of_mem_stems (hs ▸ List.mem_cons_self)
    cases s with
    | nil => exact absurd rfl hne
    | cons c s =>
      rw [List.reverse_cons] at hpre
      refine ⟨s.reverse, c, isSome_partOf?_of_stems hs rfl, ?_, hpre⟩
      rw [ofPieces, List.reverse_cons, String.toList_ofList]
      rfl

/-- A name of one path, joined to another, adds itself. -/
theorem HasNames.join (hp : p.HasNames) (hq : q.HasNames) {n : String} (hn : n ∈ q.names) :
    (p.join n).HasNames ∧ (p.join n).names = p.names ++ [n] := by
  obtain ⟨hslash, hpart⟩ := hq.piece_of_mem hn
  have hrelative : isAbsolute n = false := by
    rw [isAbsolute, beq_eq_false_iff_ne]
    exact fun hhead => hslash (List.mem_of_mem_head? hhead)
  have hadded : added n = [.name n] := by
    rw [added, pieces_eq_singleton hslash, List.filterMap_cons, hpart]
    rfl
  refine hasNames_of_parts (List.append_ne_nil_of_right_ne_nil _ (List.cons_ne_nil _ _)) ?_
  rw [parts_join_of_relative hp.parts_ne_nil hrelative, hadded, hp.parts_eq, List.map_append]
  rfl

end Path
end IndexShards
