import IndexShards.Proofs.Disk.Steps
import Mathlib.Data.List.Induction

/-!
# Where a plain path leads

A system takes the steps of a path one by one, and each has to start from a directory.  On the way
of a plain path there are only names below the working directory, so it depends on what is there
how far the steps lead: to the place with the names of the path if the directories above it are
there, and to the first of them that is missing if not.

At the end it matters how the text ends.  With a slash or a dot behind its last name a path asks
for a directory, so a file is refused there, and nothing new can be put there.

## What is here

* `Open d l ns` — the directories from `l` down along the names are there; `open_or_first` — or one
  of the names is the first at which there is none.
* `advance_append` — steps through directories that are there are taken.
* `Way d ns` — the way to the names: whatever is on it is a directory, and nothing is behind a gap.
* `spotOf_of_open`, `spotOf_of_gap` — **where a plain path leads**, with the directories above it
  there, and with one of them missing.
* `nodeAt_eq` — **what is at a plain path**; `mem_children` — what a listing of a directory shows.
-/

set_option autoImplicit false

namespace IndexShards
namespace Disk

open Text IndexShards.Path

variable {d : Disk} {aim : Aim}

/-! ## Through directories -/

/-- The directories from `l` down along the names are there. -/
def Open (d : Disk) (l : Location) (ns : List String) : Prop :=
  ∀ m, m <+: ns → d.node? (l ++ m) = some .dir

theorem Open.node?_eq {l : Location} {ns : List String} (h : d.Open l ns) :
    d.node? l = some .dir := by
  have hstart := h [] List.nil_prefix
  rwa [List.append_nil] at hstart

/-- All directories down along the names are there, or one of the names is the first at which no
directory is. -/
theorem open_or_first {l : Location} (h : d.node? l = some .dir) (ns : List String) :
    d.Open l ns ∨ ∃ m n rest, ns = m ++ n :: rest ∧ d.Open l m ∧
      d.node? (l ++ (m ++ [n])) ≠ some .dir := by
  induction ns using List.reverseRecOn with
  | nil =>
    refine Or.inl fun m hm => ?_
    rw [List.prefix_nil.1 hm, List.append_nil]
    exact h
  | append_singleton ns n ih =>
    rcases ih with hopen | ⟨m, k, rest, rfl, hfirst⟩
    · by_cases hn : d.node? (l ++ (ns ++ [n])) = some .dir
      · refine Or.inl fun m hm => ?_
        rcases List.prefix_concat_iff.1 hm with rfl | hm
        · exact hn
        · exact hopen m hm
      · exact Or.inr ⟨ns, n, [], rfl, hopen, hn⟩
    · exact Or.inr ⟨m, k, rest ++ [n], by simp, hfirst⟩

/-- Steps through directories that are there are taken.  Only where a file is to be written must no
slash end the path. -/
theorem advance_append {l : Location} {front back : List Step} (hup : .up ∉ front)
    (hshort : ∀ n ∈ front.filterMap Step.name?, n.utf8ByteSize ≤ nameLimit)
    (hopen : d.Open l (front.filterMap Step.name?))
    (hslash : aim = .file → (front ++ back).getLast? ≠ some .slash) :
    d.advance aim l (front ++ back) =
      d.advance aim (l ++ front.filterMap Step.name?) back := by
  induction front generalizing l with
  | nil => rw [List.filterMap_nil, List.append_nil, List.nil_append]
  | cons s front ih =>
    rw [List.mem_cons, not_or] at hup
    have hdir := hopen.node?_eq
    have hrest : aim = .file → (front ++ back).getLast? ≠ some .slash := fun haim hlast => by
      refine hslash haim ?_
      rw [List.cons_append, List.getLast?_cons, hlast]
      rfl
    rw [List.cons_append, advance.eq_def]
    simp only [hdir]
    cases s with
    | stay => exact ih hup.2 hshort hopen hrest
    | slash => exact ih hup.2 hshort hopen hrest
    | up => exact absurd rfl hup.1
    | into n =>
      rw [List.filterMap_cons_some (rfl : Step.name? (.into n) = some n)] at hshort hopen ⊢
      obtain ⟨hn, hshort⟩ := List.forall_mem_cons.1 hshort
      have hnext : d.node? (l ++ [n]) = some .dir := hopen [n] ⟨_, rfl⟩
      have hfile : ¬(aim = .file ∧ front ++ back = [.slash]) := fun h =>
        hrest h.1 (by rw [h.2]; rfl)
      have hopen' : d.Open (l ++ [n]) (front.filterMap Step.name?) := fun m hm => by
        rw [List.append_assoc]
        exact hopen (n :: m) (List.cons_prefix_cons.2 ⟨rfl, hm⟩)
      simp only [if_neg hfile, if_neg (Nat.not_lt.2 hn), hnext]
      rw [ih hup.2 hshort hopen' hrest, List.append_assoc, List.singleton_append]

/-- The names that steps lead into can be cut where the steps can. -/
theorem exists_eq_append_into {steps : List Step} {ms rest : List String} {n : String}
    (h : steps.filterMap Step.name? = ms ++ n :: rest) :
    ∃ front back, steps = front ++ .into n :: back ∧ front.filterMap Step.name? = ms ∧
      back.filterMap Step.name? = rest := by
  obtain ⟨front, behind, rfl, hfront, hbehind⟩ := List.filterMap_eq_append_iff.1 h
  obtain ⟨silent, s, back, rfl, hsilent, hs, hback⟩ := List.filterMap_eq_cons_iff.1 hbehind
  obtain rfl : s = .into n := by
    cases s with
    | into m => exact congrArg _ (Option.some.inj hs)
    | _ => cases hs
  refine ⟨front ++ silent, back, by rw [List.append_assoc], ?_, hback⟩
  rw [List.filterMap_append, hfront, List.filterMap_eq_nil_iff.2 hsilent, List.append_nil]

/-! ## To the end of a path -/

section Paths

variable {p : Path}

/-- A plain path is followed from the working directory, step by step. -/
theorem spotOf_eq (hp : p.IsPlain) {answer : Except SystemError Spot}
    (h : d.advance aim d.workDir (stepsOf p.text.toList) = answer.map .spot) :
    d.spotOf aim p.text = answer := by
  have hstart : startOf d.workDir p.text.toList = d.workDir := by
    have habs := hp.hasNames.isAbsolute_eq_false
    rw [isAbsolute, beq_eq_false_iff_ne] at habs
    exact if_neg habs
  rw [spotOf, hp.checkText_eq, hstart, linkLimit]
  show d.follow aim (39 + 1) d.workDir (stepsOf p.text.toList) = answer
  rw [follow, h]
  cases answer <;> rfl

/-- The last step of a text that ends in a name leads into a name, and no other does. -/
theorem endsInName_iff {s : String} {front back : List Step} {n : String}
    (h : stepsOf s.toList = front ++ .into n :: back)
    (hback : back.filterMap Step.name? = []) : endsInName s = true ↔ back = [] := by
  rw [endsInName, h]
  cases hlast : back.getLast? with
  | none =>
    obtain rfl := List.getLast?_eq_none_iff.1 hlast
    simp
  | some last =>
    have hne : back ≠ [] := fun hnil => by
      rw [hnil] at hlast
      cases hlast
    have hsilent := List.filterMap_eq_nil_iff.1 hback last (List.mem_of_getLast? hlast)
    rw [List.getLast?_append, List.getLast?_cons, hlast]
    cases last with
    | into m => cases hsilent
    | _ => simp [hne]

/-- The steps of a plain path up to one of its names, and behind it. -/
theorem exists_stepsOf_eq (hp : p.IsPlain) {ms rest : List String} {n : String}
    (hnames : p.names = ms ++ n :: rest) :
    ∃ front back, stepsOf p.text.toList = front ++ .into n :: back ∧
      front.filterMap Step.name? = ms ∧ back.filterMap Step.name? = rest ∧
      .up ∉ front ∧ .up ∉ back := by
  have hup : .up ∉ stepsOf p.text.toList := up_not_mem_stepsOf fun a ha =>
    hp.hasNames.isSome_name? a (hp.hasNames.parts_eq_filterMap ▸ ha)
  have hsteps : (stepsOf p.text.toList).filterMap Step.name? = ms ++ n :: rest := by
    rw [filterMap_name?_stepsOf, ← hp.hasNames.parts_eq_filterMap, ← hnames]
    rfl
  obtain ⟨front, back, heq, hfront, hback⟩ := exists_eq_append_into hsteps
  rw [heq] at hup
  exact ⟨front, back, heq, hfront, hback, fun h => hup (List.mem_append_left _ h),
    fun h => hup (List.mem_append_right _ (List.mem_cons_of_mem _ h))⟩

/-- A plain path leads up to one of its names if the directories above it are there.  How it goes on
from there depends on what is at the name; no link is. -/
theorem advance_eq_of_open (hp : p.IsPlain) {ms rest : List String} {n : String}
    (hnames : p.names = ms ++ n :: rest) (hopen : d.Open d.workDir ms)
    (hlink : ∀ target, d.node? (d.workDir ++ (ms ++ [n])) ≠ some (.link target))
    (hfile : aim = .file → endsInName p.text = true) :
    ∃ front back, stepsOf p.text.toList = front ++ .into n :: back ∧
      back.filterMap Step.name? = rest ∧ .up ∉ back ∧
      d.advance aim d.workDir (stepsOf p.text.toList) =
        if d.node? (d.workDir ++ (ms ++ [n])) ≠ none then
          d.advance aim (d.workDir ++ (ms ++ [n])) back
        else if back = [] then .ok (.spot ⟨d.workDir ++ (ms ++ [n]), false⟩)
        else .error .notFound := by
  obtain ⟨front, back, heq, hfront, hback, hup, hup'⟩ := exists_stepsOf_eq hp hnames
  refine ⟨front, back, heq, hback, hup', ?_⟩
  have hshort : ∀ m ∈ ms ++ n :: rest, m.utf8ByteSize ≤ nameLimit := hnames ▸ hp.short
  have hslash : aim = .file → (stepsOf p.text.toList).getLast? ≠ some .slash := fun haim hlast => by
    have hends := hfile haim
    rw [endsInName, hlast] at hends
    cases hends
  have hnot : ¬(aim = .file ∧ back = [.slash]) := fun h => hslash h.1 (by simp [heq, h.2])
  rw [heq] at hslash ⊢
  rw [advance_append hup (fun m hm => hshort m (List.mem_append_left _ (hfront ▸ hm)))
    (hfront.symm ▸ hopen) hslash, hfront, advance.eq_def]
  simp only [hopen ms (List.prefix_refl _), if_neg hnot, if_neg (Nat.not_lt.2 (hshort n (by simp))),
    List.append_assoc]
  cases hk : d.node? (d.workDir ++ (ms ++ [n])) with
  | none => rw [if_neg (not_not_intro rfl)]
  | some node =>
    rw [if_pos (Option.some_ne_none node)]
    cases node with
    | link target => exact absurd hk (hlink target)
    | _ => rfl

/-- **Where a plain path leads if the directories above it are there.**  A directory may have
slashes and dots behind its name.  Behind the name of a file, or of nothing, they are refused. -/
theorem spotOf_of_open (hp : p.IsPlain) (hopen : d.Open d.workDir p.names.dropLast)
    (hlink : ∀ target, d.node? (d.workDir ++ p.names) ≠ some (.link target))
    (hfile : aim = .file → endsInName p.text = true) :
    d.spotOf aim p.text =
      match d.node? (d.workDir ++ p.names) with
      | some .dir => .ok ⟨d.workDir ++ p.names, true⟩
      | some _ =>
        if endsInName p.text then .ok ⟨d.workDir ++ p.names, true⟩ else .error .notDirectory
      | none =>
        if endsInName p.text then .ok ⟨d.workDir ++ p.names, false⟩ else .error .notFound := by
  have hconcat := List.dropLast_concat_getLast hp.hasNames.names_ne_nil
  have hnames := hconcat.symm
  obtain ⟨front, back, heq, hback, hup, hadvance⟩ := advance_eq_of_open hp hnames hopen
    (by rwa [hconcat]) hfile
  have hends := endsInName_iff heq hback
  rw [hconcat] at hadvance
  apply spotOf_eq hp
  rw [hadvance]
  cases hk : d.node? (d.workDir ++ p.names) with
  | none =>
    rw [if_neg (not_not_intro rfl)]
    by_cases hb : back = []
    · simp only [if_pos hb, if_pos (hends.2 hb)]
      rfl
    · simp only [if_neg hb, if_neg fun h => hb (hends.1 h)]
      rfl
  | some node =>
    rw [if_pos (Option.some_ne_none node)]
    cases node with
    | link target => exact absurd hk (hlink target)
    | dir =>
      have hdir : d.Open (d.workDir ++ p.names) (back.filterMap Step.name?) := fun m hm => by
        rw [hback, List.prefix_nil] at hm
        rw [hm, List.append_nil, hk]
      have hshort : ∀ n ∈ back.filterMap Step.name?, n.utf8ByteSize ≤ nameLimit := by
        rw [hback]
        exact fun n hn => by cases hn
      have hslash : aim = .file → (back ++ []).getLast? ≠ some .slash := fun haim => by
        rw [hends.1 (hfile haim)]
        exact nofun
      have hstay := advance_append hup hshort hdir hslash
      rw [List.append_nil, hback, List.append_nil] at hstay
      exact hstay
    | file =>
      cases back with
      | nil =>
        simp only [if_pos (hends.2 rfl)]
        rfl
      | cons s back =>
        have hends' : ¬endsInName p.text = true := fun h => List.cons_ne_nil s back (hends.1 h)
        rw [advance.eq_def]
        simp only [hk, if_neg hends']
        rfl

/-- **A plain path leads nowhere if a directory above it is missing.** -/
theorem spotOf_of_gap (hp : p.IsPlain) {ms rest : List String} {n : String}
    (hnames : p.names = ms ++ n :: rest) (hrest : rest ≠ []) (hopen : d.Open d.workDir ms)
    (hnone : d.node? (d.workDir ++ (ms ++ [n])) = none)
    (hfile : aim = .file → endsInName p.text = true) :
    d.spotOf aim p.text = .error .notFound := by
  obtain ⟨front, back, -, hback, -, hadvance⟩ := advance_eq_of_open hp hnames hopen
    (by rw [hnone]; exact nofun) hfile
  have hne : back ≠ [] := fun hnil => hrest (by rw [← hback, hnil]; rfl)
  apply spotOf_eq hp
  rw [hadvance, hnone, if_neg (not_not_intro rfl), if_neg hne]
  rfl

end Paths

/-! ## What is on the way -/

/-- The way to the names: whatever is on it above the last name is a directory, nothing is behind a
gap, and no link is at the end. -/
structure Way (d : Disk) (ns : List String) : Prop where
  start : d.node? d.workDir = some .dir
  dir_of_some : ∀ {m : List String} {n : Node}, m <+: ns → m ≠ ns →
    d.node? (d.workDir ++ m) = some n → n = .dir
  none_of_none : ∀ {m m' : List String}, m <+: m' → m' <+: ns →
    d.node? (d.workDir ++ m) = none → d.node? (d.workDir ++ m') = none
  noLink : ∀ target, d.node? (d.workDir ++ ns) ≠ some (.link target)

variable {ns : List String}

theorem dropLast_ne_self (hne : ns ≠ []) : ns.dropLast ≠ ns := fun heq => by
  have hlength := congrArg List.length heq
  have hpos := List.length_pos_iff.2 hne
  rw [List.length_dropLast] at hlength
  omega

/-- What is above the last name is all that is on the way to it. -/
theorem prefix_dropLast_iff (hne : ns ≠ []) {m : List String} :
    m <+: ns.dropLast ↔ m <+: ns ∧ m ≠ ns := by
  have hiff : m <+: ns ↔ m = ns ∨ m <+: ns.dropLast := by
    conv_lhs => rw [← List.dropLast_concat_getLast hne, List.prefix_concat_iff,
      List.dropLast_concat_getLast hne]
  refine ⟨fun h => ⟨hiff.2 (Or.inr h), ?_⟩, fun h => (hiff.1 h.1).resolve_left h.2⟩
  rintro rfl
  exact dropLast_ne_self hne ((List.dropLast_prefix m).eq_of_length_le h.length_le)

theorem Way.dir_of_dropLast (h : d.Way ns) (hne : ns ≠ []) {m : List String} {n : Node}
    (hm : m <+: ns.dropLast) (hn : d.node? (d.workDir ++ m) = some n) : n = .dir := by
  obtain ⟨hm, hmne⟩ := (prefix_dropLast_iff hne).1 hm
  exact h.dir_of_some hm hmne hn

/-- The way to names leads by what is directly above them. -/
theorem Way.dropLast (h : d.Way ns) (hne : ns ≠ []) : d.Way ns.dropLast := by
  refine ⟨h.start, fun hm _ => h.dir_of_dropLast hne hm,
    fun hm hm' => h.none_of_none hm (hm'.trans (List.dropLast_prefix _)), fun target hlink => ?_⟩
  cases h.dir_of_dropLast hne (List.prefix_refl _) hlink

/-- Down to names on the way all directories are there, or one of them is the first to be
missing. -/
theorem Way.open_or_gap_of_prefix {ms : List String} (h : d.Way ns) (hms : ms <+: ns)
    (hne : ms ≠ ns) : d.Open d.workDir ms ∨ ∃ m n rest, ms = m ++ n :: rest ∧ d.Open d.workDir m ∧
      d.node? (d.workDir ++ (m ++ [n])) = none := by
  rcases open_or_first h.start ms with hopen | ⟨m, n, rest, rfl, hopen, hfirst⟩
  · exact Or.inl hopen
  · have hm : m ++ [n] <+: m ++ n :: rest := ⟨rest, by simp⟩
    have hmne : m ++ [n] ≠ ns := fun heq => hne (hms.eq_of_length_le (heq ▸ hm.length_le))
    cases hk : d.node? (d.workDir ++ (m ++ [n])) with
    | none => exact Or.inr ⟨m, n, rest, rfl, hopen, hk⟩
    | some node =>
      obtain rfl := h.dir_of_some (hm.trans hms) hmne hk
      exact absurd hk hfirst

/-- **Above the last name all directories are there, or one of them is the first to be missing** and
nothing is at the names. -/
theorem Way.open_or_gap (h : d.Way ns) (hne : ns ≠ []) :
    d.Open d.workDir ns.dropLast ∨ ∃ m n rest, ns = m ++ n :: rest ∧ rest ≠ [] ∧
      d.Open d.workDir m ∧ d.node? (d.workDir ++ (m ++ [n])) = none ∧
      d.node? (d.workDir ++ ns) = none := by
  rcases h.open_or_gap_of_prefix (List.dropLast_prefix ns) (dropLast_ne_self hne) with
    hopen | ⟨m, n, rest, hm, hopen, hnone⟩
  · exact Or.inl hopen
  · have hns : ns = m ++ n :: (rest ++ [ns.getLast hne]) := by
      rw [← List.cons_append, ← List.append_assoc, ← hm, List.dropLast_concat_getLast]
    have hgap : m ++ [n] <+: ns := ⟨rest ++ [ns.getLast hne], by simpa using hns.symm⟩
    exact Or.inr ⟨m, n, _, hns, by simp, hopen, hnone,
      h.none_of_none hgap (List.prefix_refl _) hnone⟩

/-- All of them are there if something is at the names. -/
theorem Way.open_of_some {n : Node} (h : d.Way ns) (hne : ns ≠ [])
    (hn : d.node? (d.workDir ++ ns) = some n) : d.Open d.workDir ns.dropLast := by
  rcases h.open_or_gap hne with hopen | ⟨m, k, rest, -, -, -, -, hnone⟩
  · exact hopen
  · rw [hnone] at hn
    cases hn

/-! ## What is at the end -/

theorem nodeAt_of_spot {s : String} {l : Location} {n : Node} (h : d.spotOf aim s = .ok ⟨l, true⟩)
    (hn : d.node? l = some n) : d.nodeAt aim s = .ok (l, n) := by
  rw [nodeAt, h]
  simp only [bind, Except.bind, hn]
  rfl

theorem nodeAt_of_error {s : String} {e : SystemError} (h : d.spotOf aim s = .error e) :
    d.nodeAt aim s = .error e := by
  rw [nodeAt, h]
  rfl

theorem nodeAt_of_vacant {s : String} {l : Location} (h : d.spotOf aim s = .ok ⟨l, false⟩)
    (hn : d.node? l = none) : d.nodeAt aim s = .error .notFound := by
  rw [nodeAt, h]
  simp only [bind, Except.bind, hn]

/-- **What is at a plain path.**  A directory may have slashes and dots behind its name, and a file
may not. -/
theorem nodeAt_eq {p : Path} (hp : p.IsPlain) (h : d.Way p.names) (haim : aim ≠ .file) :
    d.nodeAt aim p.text =
      match d.node? (d.workDir ++ p.names) with
      | some .dir => .ok (d.workDir ++ p.names, .dir)
      | some n =>
        if endsInName p.text then .ok (d.workDir ++ p.names, n) else .error .notDirectory
      | none => .error .notFound := by
  have hne := hp.hasNames.names_ne_nil
  have hfile : aim = .file → endsInName p.text = true := fun h => absurd h haim
  rcases h.open_or_gap hne with hopen | ⟨m, k, rest, hnames, hrest, hopen, hgap, hnone⟩
  · have hspot := spotOf_of_open hp hopen h.noLink hfile
    cases hk : d.node? (d.workDir ++ p.names) with
    | none =>
      rw [hk] at hspot
      by_cases hends : endsInName p.text = true
      · simp only [if_pos hends] at hspot
        exact nodeAt_of_vacant hspot hk
      · simp only [if_neg hends] at hspot
        exact nodeAt_of_error hspot
    | some n =>
      rw [hk] at hspot
      cases n with
      | link target => exact absurd hk (h.noLink target)
      | dir => exact nodeAt_of_spot hspot hk
      | file =>
        by_cases hends : endsInName p.text = true
        · simp only [if_pos hends] at hspot ⊢
          exact nodeAt_of_spot hspot hk
        · simp only [if_neg hends] at hspot ⊢
          exact nodeAt_of_error hspot
  · rw [hnone]
    exact nodeAt_of_error (spotOf_of_gap hp hnames hrest hopen hgap hfile)

/-! ## What is below -/

/-- The entries of a directory are its nodes, under their names. -/
theorem mem_children {l : Location} {path : Path} {e : Entry} :
    e ∈ d.children l path ↔
      ∃ name n, d.node? (l ++ [name]) = some n ∧ e = ⟨path.join name, n == .dir⟩ := by
  have hnode : ∀ name, d.node? (l ++ [name]) = d.nodes[l ++ [name]]? := fun name =>
    if_neg (List.append_ne_nil_of_right_ne_nil _ (List.cons_ne_nil _ _))
  rw [children, List.mem_filterMap]
  constructor
  · rintro ⟨⟨k, n⟩, hmem, he⟩
    have hk := Std.ExtTreeMap.mem_toList_iff_getElem?_eq_some.1 hmem
    cases hlast : k.getLast? with
    | none => simp [hlast] at he
    | some name =>
      simp only [hlast] at he
      split at he
      · next hl =>
        obtain ⟨front, hfront⟩ := List.getLast?_eq_some_iff.1 hlast
        subst hfront
        rw [List.dropLast_concat] at hl
        subst hl
        exact ⟨name, n, (hnode name).trans hk, (Option.some.inj he).symm⟩
      · cases he
  · rintro ⟨name, n, hn, rfl⟩
    refine ⟨(l ++ [name], n), Std.ExtTreeMap.mem_toList_iff_getElem?_eq_some.2 ?_, ?_⟩
    · rw [← hnode, hn]
    · simp

end Disk
end IndexShards
