import IndexShards.Proofs.Path.Names
import IndexShards.Storage.Disk

/-!
# The steps of a path that is made of names

A path is a list of names to a tree in memory.  To a system it is a text, and the text says more: a
single dot or a slash behind a name asks for a directory there.  So two paths with the same names
need not be the same to a system, and the difference lies in how the text ends.

## What is here

* `Path.IsPlain p` — the path is made of names, and the system accepts its text.
* `endsInName s` — the text ends in its last name.
* `filterMap_name?_stepsOf`, `up_not_mem_stepsOf` — the steps of a path of names lead into its names
  and never up.
* `parts_withoutSlashes` — the slashes at the end of a text are no parts.
* `exists_parent_of_isPlain` — **the parent of a plain path is plain, and its text ends in a name**.
-/

set_option autoImplicit false

namespace IndexShards

open Text IndexShards.Path

namespace Disk

/-! ## Steps and names -/

/-- The name that a step leads into. -/
def Step.name? : Step → Option String
  | into name => some name
  | _ => none

/-- The text ends in its last name, with neither a slash nor a dot behind it. -/
def endsInName (s : String) : Bool :=
  match (stepsOf s.toList).getLast? with
  | some (.into _) => true
  | _ => false

/-- A piece leads into the name that it stands for. -/
theorem name?_stepOf? (c : List Char) :
    (stepOf? c).bind Step.name? = (partOf? c).bind Part.name? := by
  unfold stepOf?
  split
  · rfl
  · rfl
  · rfl
  · next hempty hdot hup =>
    rw [partOf?.eq_4 c hempty hdot hup]
    rfl

/-- The steps of a text lead into the names among its pieces. -/
theorem filterMap_name?_stepsOf (cs : List Char) :
    (stepsOf cs).filterMap Step.name? =
      ((pieces '/' cs).filterMap partOf?).filterMap Part.name? := by
  have hslash : (if cs.getLast? = some '/' then [Step.slash] else []).filterMap Step.name? =
      [] := by
    split <;> rfl
  rw [stepsOf, List.filterMap_append, hslash, List.append_nil, List.filterMap_filterMap,
    List.filterMap_filterMap]
  exact congrFun (congrArg _ (funext name?_stepOf?)) _

/-- Only a double dot leads up. -/
theorem up_not_mem_stepsOf {cs : List Char}
    (h : ∀ a ∈ (pieces '/' cs).filterMap partOf?, a.name?.isSome = true) : .up ∉ stepsOf cs := by
  intro hup
  rcases List.mem_append.1 hup with hup | hup
  · obtain ⟨c, hc, hstep⟩ := List.mem_filterMap.1 hup
    have hpart : partOf? c = some .up := by
      unfold stepOf? at hstep
      split at hstep
      · cases hstep
      · cases hstep
      · rfl
      · cases hstep
    cases h .up (List.mem_filterMap.2 ⟨c, hc, hpart⟩)
  · split at hup
    · cases List.mem_singleton.1 hup
    · cases hup

/-- A text whose last piece is not empty ends in the step of that piece. -/
theorem stepsOf_joined {ps : List (List Char)} {c : List Char} (hslash : ∀ q ∈ ps ++ [c], '/' ∉ q)
    (hc : c ≠ []) : stepsOf (joined '/' (ps ++ [c])) = (ps ++ [c]).filterMap stepOf? := by
  have hlast : (joined '/' (ps ++ [c])).getLast? = c.getLast? := by
    cases ps with
    | nil => rfl
    | cons p ps =>
      rw [joined_append '/' (List.cons_ne_nil p ps) (List.cons_ne_nil c []), joined,
        List.getLast?_append, List.getLast?_cons]
      cases h : c.getLast? with
      | none => exact absurd (List.getLast?_eq_none_iff.1 h) hc
      | some d => rfl
  have hnot : c.getLast? ≠ some '/' := fun h =>
    hslash c (List.mem_append_right _ (List.mem_singleton_self c)) (List.mem_of_getLast? h)
  rw [stepsOf, hlast, if_neg hnot, List.append_nil,
    pieces_joined (List.append_ne_nil_of_right_ne_nil _ (List.cons_ne_nil c [])) hslash]

/-! ## Slashes at the end -/

theorem exists_eq_withoutSlashes_append (s : String) :
    ∃ k, s.toList = (withoutSlashes s).toList ++ List.replicate k '/' := by
  have hall : s.toList.reverse.takeWhile (· == '/') =
      List.replicate (s.toList.reverse.takeWhile (· == '/')).length '/' :=
    List.eq_replicate_iff.2 ⟨rfl, fun c hc => by
      simpa using List.all_eq_true.1 List.all_takeWhile c hc⟩
  refine ⟨(s.toList.reverse.takeWhile (· == '/')).length, ?_⟩
  rw [withoutSlashes, String.toList_ofList, ← List.reverse_replicate, ← hall, ← List.reverse_append,
    List.takeWhile_append_dropWhile, List.reverse_reverse]

/-- A text that ends in a name has no slash behind it. -/
theorem withoutSlashes_of_endsInName {s : String} (h : endsInName s = true) :
    withoutSlashes s = s := by
  have hnot : s.toList.getLast? ≠ some '/' := fun hlast => by
    rw [endsInName, stepsOf, if_pos hlast, List.getLast?_concat] at h
    cases h
  have hhead : ¬∃ cs, s.toList.reverse = '/' :: cs := by
    rintro ⟨cs, hcs⟩
    rw [← List.head?_reverse, hcs] at hnot
    exact hnot rfl
  have hdrop : s.toList.reverse.dropWhile (· == '/') = s.toList.reverse := by
    cases hr : s.toList.reverse with
    | nil => rfl
    | cons c cs =>
      refine List.dropWhile_cons_of_neg fun hc => hhead ⟨cs, ?_⟩
      rw [hr, eq_of_beq hc]
  rw [withoutSlashes, hdrop, List.reverse_reverse, String.ofList_toList]

/-- Slashes behind a text are no parts. -/
theorem partsOf_append_replicate {cs : List Char} (hne : cs ≠ []) (k : Nat) :
    partsOf (cs ++ List.replicate k '/') = partsOf cs := by
  have hsilent : ∀ k, (pieces '/' (List.replicate k '/')).filterMap partOf? = [] := fun k => by
    induction k with
    | zero => rfl
    | succ k ih => rw [List.replicate_succ, pieces_cons_sep, List.filterMap_cons, ih]; rfl
  cases k with
  | zero => rw [List.replicate_zero, List.append_nil]
  | succ k => rw [List.replicate_succ, partsOf_append hne, hsilent, List.append_nil]

/-- A text without parts but slashes is no path of names. -/
theorem withoutSlashes_ne_empty {p : Path} (h : p.HasNames) : withoutSlashes p.text ≠ "" := by
  intro hempty
  obtain ⟨k, hk⟩ := exists_eq_withoutSlashes_append p.text
  rw [hempty] at hk
  cases k with
  | zero => exact h.parts_ne_nil (by rw [parts, hk]; rfl)
  | succ k =>
    have habs := h.isAbsolute_eq_false
    rw [isAbsolute, hk] at habs
    cases habs

theorem parts_withoutSlashes {p : Path} (h : p.HasNames) :
    (⟨withoutSlashes p.text⟩ : Path).parts = p.parts := by
  obtain ⟨k, hk⟩ := exists_eq_withoutSlashes_append p.text
  have hne : (withoutSlashes p.text).toList ≠ [] := fun hnil =>
    withoutSlashes_ne_empty h (String.toList_eq_nil_iff.1 hnil)
  rw [parts, parts, hk]
  exact (partsOf_append_replicate hne k).symm

end Disk

/-! ## Plain paths -/

/-- The path is made of names, and the system accepts its text: it holds no NUL, and neither the
text nor a name is too long. -/
structure Path.IsPlain (p : Path) : Prop where
  hasNames : p.HasNames
  checkText_eq : Disk.checkText p.text = .ok ()
  short : ∀ n ∈ p.names, n.utf8ByteSize ≤ Disk.nameLimit

instance (s : String) : Decidable (Disk.checkText s = .ok ()) :=
  match Disk.checkText s with
  | .ok () => isTrue rfl
  | .error _ => isFalse nofun

instance (p : Path) : Decidable p.IsPlain :=
  decidable_of_iff ((p.parts ≠ [] ∧ ∀ a ∈ p.parts, a.name?.isSome = true) ∧
      Disk.checkText p.text = .ok () ∧ ∀ n ∈ p.names, n.utf8ByteSize ≤ Disk.nameLimit)
    ⟨fun h => ⟨⟨h.1.1, h.1.2⟩, h.2.1, h.2.2⟩,
      fun h => ⟨⟨h.hasNames.parts_ne_nil, h.hasNames.isSome_name?⟩, h.checkText_eq, h.short⟩⟩

namespace Disk

/-- The system accepts what a text that it accepts begins with, unless that is nothing. -/
theorem checkText_of_prefix {s s' : String} (h : checkText s = .ok ()) (hne : s' ≠ "")
    (hpre : s'.toList <+: s.toList) : checkText s' = .ok () := by
  obtain ⟨rest, hrest⟩ := hpre
  have hs : s = s' ++ String.ofList rest := by
    rw [← String.ofList_toList (s := s), ← hrest, String.ofList_append, String.ofList_toList]
  unfold checkText at h ⊢
  split at h
  · cases h
  · next hnul =>
    split at h
    · cases h
    · split at h
      · cases h
      · next hlong =>
        rw [if_neg, if_neg hne, if_neg]
        · rw [hs, String.utf8ByteSize_append] at hlong
          omega
        · rw [List.contains_iff_mem] at hnul ⊢
          exact fun hmem => hnul (hrest ▸ List.mem_append_left _ hmem)

/-- Without the slashes at its end, a plain path is a plain path with the same names. -/
theorem exists_eq_withoutSlashes {p : Path} (h : p.IsPlain) :
    ∃ q : Path, withoutSlashes p.text = q.text ∧ q.IsPlain ∧ q.names = p.names := by
  have hequiv : p ≈ ⟨withoutSlashes p.text⟩ := (parts_withoutSlashes h.hasNames).symm
  have hnames := names_congr hequiv
  obtain ⟨k, hk⟩ := exists_eq_withoutSlashes_append p.text
  refine ⟨_, rfl, ⟨h.hasNames.congr hequiv, ?_, hnames ▸ h.short⟩, hnames.symm⟩
  exact checkText_of_prefix h.checkText_eq (withoutSlashes_ne_empty h.hasNames) ⟨_, hk.symm⟩

/-- **The parent of a plain path is plain, and its text ends in a name.** -/
theorem exists_parent_of_isPlain {p : Path} (h : p.IsPlain) (hlong : p.names.dropLast ≠ []) :
    ∃ q, p.parent? = some q ∧ q.IsPlain ∧ q.names = p.names.dropLast ∧
      endsInName q.text = true := by
  obtain ⟨q, hq, hparts⟩ := h.hasNames.exists_parent
  obtain ⟨hnames, hdrop⟩ := hasNames_of_parts hlong hparts
  obtain ⟨ps, c, hpart, htext, hpre⟩ :=
    h.hasNames.exists_pieces_of_parent hq hnames.parts_ne_nil
  have hslash : ∀ r ∈ ps ++ [c], '/' ∉ r := fun r hr => not_mem_of_mem_pieces (hpre.subset hr)
  refine ⟨q, hq, ⟨hnames, ?_, fun n hn => ?_⟩, hdrop, ?_⟩
  · refine checkText_of_prefix h.checkText_eq ?_ ?_
    · exact fun hempty => hnames.parts_ne_nil (parts_eq_nil_iff.2 hempty)
    · rw [htext, ← joined_pieces '/' p.text.toList]
      exact joined_prefix_joined hpre
  · rw [hdrop] at hn
    exact h.short n (List.dropLast_subset _ hn)
  · obtain ⟨a, ha⟩ := Option.isSome_iff_exists.1 hpart
    have hmem : a ∈ p.parts := by
      rw [h.hasNames.parts_eq_filterMap]
      exact List.mem_filterMap.2 ⟨c, hpre.subset (by simp), ha⟩
    obtain ⟨n, hn⟩ := Option.isSome_iff_exists.1 (h.hasNames.isSome_name? a hmem)
    have hstep : (stepOf? c).bind Step.name? = some n := by
      rw [name?_stepOf?, ha]
      exact hn
    obtain ⟨step, hc, hinto⟩ := Option.bind_eq_some_iff.1 hstep
    obtain rfl : step = .into n := by
      cases step with
      | into m => exact congrArg _ (Option.some.inj hinto)
      | _ => cases hinto
    have hne : c ≠ [] := fun hnil => by
      rw [hnil] at hc
      cases hc
    rw [endsInName, htext, stepsOf_joined hslash hne, List.filterMap_append, List.filterMap_cons,
      hc]
    simp

end Disk
end IndexShards
