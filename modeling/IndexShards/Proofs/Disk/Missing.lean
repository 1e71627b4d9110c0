import IndexShards.Proofs.Disk.Walk
import Mathlib.Data.List.Infix

/-!
# Paths at which nothing is

A file system makes a promise about paths at which nothing is: nothing is there, a listing of them
is empty, and to delete them there is nothing to do.  On a disk without links there are three ways
in which nothing is at a plain path.  Only its last name is missing, or a directory on the way is,
and then the promise is kept.  Or a file stands on the way, where a directory would have to be; that
is another error to the system, and each of the three operations passes it on.

What is left of a disk when things have been deleted from it has no links either, and where no file
stood on a way none stands there now.  So the promise is kept for a path as long as nothing is
created, if it was kept once.

## What is here

* `LinkFree` — a disk without links.
* `Blocked d ns` — a file stands on the way to the names.
* `nodeAt_of_blocked`, `nodeAt_of_not_blocked` — the two ways of finding nothing.
* `TakesAsMissing`, `Refuses` — what the operations say of a path; `operations_of_error` — **they
  take a failed look in the same way**.
* `takesAsMissing_iff` — **the promise is kept exactly where no file stands on the way**;
  `not_forall_takesAsMissing` — a path at which it is not.
* `Shrunk d d'` — `d'` is what is left of `d`; `shrunk_delete` — whatever path is deleted.
-/

set_option autoImplicit false

namespace IndexShards
namespace Disk

open Std IndexShards.Path

variable {d d' : Disk} {aim : Aim} {p : Path} {ns : List String}

/-! ## Disks without links -/

/-- No link is anywhere, and the working directory, if it is still there, is a directory. -/
structure LinkFree (d : Disk) : Prop where
  noLink : ∀ l target, d.node? l ≠ some (.link target)
  start : ∀ n, d.node? d.workDir = some n → n = .dir

instance (d : Disk) : Decidable d.LinkFree :=
  decidable_of_iff ((∀ x ∈ d.nodes.toList, x.1 = [] ∨ x.2 = .dir ∨ x.2 = .file) ∧
      (d.node? d.workDir = none ∨ d.node? d.workDir = some .dir)) <| by
    constructor
    · rintro ⟨hnodes, hstart⟩
      refine ⟨fun l target hlink => ?_, fun n hn => ?_⟩
      · rw [node?] at hlink
        split at hlink
        · cases hlink
        · next hl =>
          have hmem := ExtTreeMap.mem_toList_iff_getElem?_eq_some.2 hlink
          rcases hnodes _ hmem with hroot | hdir | hfile
          · exact hl hroot
          · cases hdir
          · cases hfile
      · rcases hstart with hnone | hdir
        · rw [hnone] at hn
          cases hn
        · exact Option.some.inj (hn.symm.trans hdir)
    · intro h
      refine ⟨fun ⟨l, n⟩ hmem => or_iff_not_imp_left.2 fun hl => ?_, ?_⟩
      · have hn : d.node? l = some n :=
          (if_neg hl).trans (ExtTreeMap.mem_toList_iff_getElem?_eq_some.1 hmem)
        cases n with
        | dir => exact Or.inl rfl
        | file => exact Or.inr rfl
        | link target => exact absurd hn (h.noLink l target)
      · cases hstart : d.node? d.workDir with
        | none => exact Or.inl rfl
        | some n => exact Or.inr (congrArg some (h.start n hstart))

/-! ## On the way -/

/-- A file stands on the way to the names, behind directories that are there. -/
def Blocked (d : Disk) (ns : List String) : Prop :=
  ∃ front name, front ++ [name] <+: ns ∧ front ++ [name] ≠ ns ∧ d.Open d.workDir front ∧
    d.node? (d.workDir ++ (front ++ [name])) = some .file

instance (l : Location) (ns : List String) : Decidable (d.Open l ns) :=
  decidable_of_iff (∀ m ∈ ns.inits, d.node? (l ++ m) = some .dir) <| by
    simp only [List.mem_inits, Open]

instance (ns : List String) : Decidable (d.Blocked ns) :=
  decidable_of_iff (∃ m ∈ ns.inits, m ≠ [] ∧ m ≠ ns ∧ d.Open d.workDir m.dropLast ∧
      d.node? (d.workDir ++ m) = some .file) <| by
    simp only [List.mem_inits]
    constructor
    · rintro ⟨m, hpre, hne, hshort, hopen, hfile⟩
      have hconcat := List.dropLast_concat_getLast hne
      exact ⟨m.dropLast, m.getLast hne, by rwa [hconcat], by rwa [hconcat], hopen,
        by rwa [hconcat]⟩
    · rintro ⟨front, name, hpre, hshort, hopen, hfile⟩
      refine ⟨_, hpre, by simp, hshort, ?_, hfile⟩
      rwa [List.dropLast_concat]

/-- A path that leads through a file leads nowhere, and the system says that the file is no
directory. -/
theorem nodeAt_of_blocked (hp : p.IsPlain) (h : d.Blocked p.names) (haim : aim ≠ .file) :
    d.nodeAt aim p.text = .error .notDirectory := by
  obtain ⟨front, name, ⟨rest, hnames⟩, hne, hopen, hfile⟩ := h
  have hrest : rest ≠ [] := fun hnil => hne (by rw [← hnames, hnil, List.append_nil])
  have hends : aim = .file → endsInName p.text = true := fun h => absurd h haim
  rw [List.append_assoc, List.singleton_append] at hnames
  obtain ⟨-, back, -, hback, -, hadvance⟩ := advance_eq_of_open hp hnames.symm hopen
    (by rw [hfile]; exact nofun) hends
  rw [hfile, if_pos (Option.some_ne_none _)] at hadvance
  apply nodeAt_of_error
  apply spotOf_eq hp
  rw [hadvance]
  cases back with
  | nil => exact absurd hback.symm hrest
  | cons step back =>
    rw [advance.eq_def]
    simp only [hfile]
    rfl

/-- A path at which nothing is, without a file on the way, leads nowhere, and the system says that
it found nothing. -/
theorem nodeAt_of_not_blocked (hd : d.LinkFree) (hp : p.IsPlain)
    (hnone : d.node? (d.workDir ++ p.names) = none) (h : ¬d.Blocked p.names) (haim : aim ≠ .file) :
    d.nodeAt aim p.text = .error .notFound := by
  have hends : aim = .file → endsInName p.text = true := fun h => absurd h haim
  cases hstart : d.node? d.workDir with
  | none =>
    apply nodeAt_of_error
    apply spotOf_eq hp
    cases hsteps : stepsOf p.text.toList with
    | nil =>
      have hnames := filterMap_name?_stepsOf p.text.toList
      rw [hsteps, ← hp.hasNames.parts_eq_filterMap] at hnames
      exact absurd hnames.symm hp.hasNames.names_ne_nil
    | cons step steps =>
      rw [advance.eq_def]
      simp only [hstart]
      rfl
  | some n =>
    obtain rfl := hd.start n hstart
    rcases open_or_first hstart p.names with hopen | ⟨front, name, rest, hnames, hopen, hfirst⟩
    · rw [hopen p.names (List.prefix_refl _)] at hnone
      cases hnone
    · have hvacant : d.node? (d.workDir ++ (front ++ [name])) = none := by
        cases hk : d.node? (d.workDir ++ (front ++ [name])) with
        | none => rfl
        | some n =>
          cases n with
          | dir => exact absurd hk hfirst
          | link target => exact absurd hk (hd.noLink _ target)
          | file =>
            have hshort : front ++ [name] ≠ p.names := fun heq => by
              rw [heq, hnone] at hk
              cases hk
            have hpre : front ++ [name] <+: p.names := ⟨rest, by simp [hnames]⟩
            exact absurd ⟨front, name, hpre, hshort, hopen, hk⟩ h
      obtain ⟨-, back, -, -, -, hadvance⟩ := advance_eq_of_open hp hnames hopen
        (hd.noLink _) hends
      rw [hvacant, if_neg (not_not_intro rfl)] at hadvance
      by_cases hback : back = []
      · rw [if_pos hback] at hadvance
        exact nodeAt_of_vacant (spotOf_eq hp hadvance) hvacant
      · rw [if_neg hback] at hadvance
        exact nodeAt_of_error (spotOf_eq hp hadvance)

/-! ## What the operations say -/

/-- The promise that a file system makes about a path at which nothing is. -/
structure TakesAsMissing (d : Disk) (p : Path) : Prop where
  contains : Disk.fileSystem.contains d p = .ok false
  list : ∀ accept, Disk.fileSystem.list d p accept = .ok []
  delete : Disk.fileSystem.delete d p = (.ok (), d)

/-- Each operation fails on the path for the same reason, and none changes the disk. -/
structure Refuses (d : Disk) (p : Path) (e : Error) : Prop where
  contains : Disk.fileSystem.contains d p = .error e
  list : ∀ accept, Disk.fileSystem.list d p accept = .error e
  delete : Disk.fileSystem.delete d p = (.error e, d)

theorem TakesAsMissing.not_refuses {e : Error} (h : d.TakesAsMissing p) : ¬d.Refuses p e := by
  intro hrefuses
  cases h.contains.symm.trans hrefuses.contains

/-- **The three operations take a failed look in the same way**: only that nothing was found is no
error to them, and either way the disk stays as it is. -/
theorem operations_of_error {e : SystemError}
    (h : ∀ aim, aim ≠ .file → d.nodeAt aim p.text = .error e) :
    Disk.fileSystem.contains d p = (if e = .notFound then .ok false else .error (.io e)) ∧
      (∀ accept, Disk.fileSystem.list d p accept =
        if e = .notFound then .ok [] else .error (.io e)) ∧
      Disk.fileSystem.delete d p = (if e = .notFound then .ok () else .error (.io e), d) := by
  refine ⟨?_, fun accept => ?_, ?_⟩
  · show (d.contains p).mapError Error.io = _
    rw [Disk.contains, h .target nofun]
    cases e <;> rfl
  · show (d.list p accept).mapError Error.io = _
    rw [Disk.list, h .target nofun]
    cases e <;> rfl
  · show ((d.delete p).1.mapError Error.io, (d.delete p).2) = _
    rw [Disk.delete, h .place nofun]
    cases e <;> rfl

theorem refuses_of_blocked (hp : p.IsPlain) (h : d.Blocked p.names) :
    d.Refuses p (.io .notDirectory) := by
  obtain ⟨hcontains, hlist, hdelete⟩ := operations_of_error fun _ => nodeAt_of_blocked hp h
  exact ⟨hcontains, hlist, hdelete⟩

theorem takesAsMissing_of_not_blocked (hd : d.LinkFree) (hp : p.IsPlain)
    (hnone : d.node? (d.workDir ++ p.names) = none) (h : ¬d.Blocked p.names) :
    d.TakesAsMissing p := by
  obtain ⟨hcontains, hlist, hdelete⟩ :=
    operations_of_error fun _ => nodeAt_of_not_blocked hd hp hnone h
  exact ⟨hcontains, hlist, hdelete⟩

/-- **The promise is kept exactly where no file stands on the way.** -/
theorem takesAsMissing_iff (hd : d.LinkFree) (hp : p.IsPlain)
    (hnone : d.node? (d.workDir ++ p.names) = none) :
    d.TakesAsMissing p ↔ ¬d.Blocked p.names :=
  ⟨fun h hblocked => h.not_refuses (refuses_of_blocked hp hblocked),
    takesAsMissing_of_not_blocked hd hp hnone⟩

/-- The promise is not kept at every plain path at which nothing is: a file on the way is no
directory to the system. -/
theorem not_forall_takesAsMissing :
    let d := (Disk.empty ["srv"]).put ["srv", "f"] .file
    let p : Path := ⟨"f/x"⟩
    d.LinkFree ∧ p.IsPlain ∧ d.node? (d.workDir ++ p.names) = none ∧
      Disk.fileSystem.contains d p = .error (.io .notDirectory) ∧
      Disk.fileSystem.list d p (fun _ => true) = .error (.io .notDirectory) ∧
      (Disk.fileSystem.delete d p).1 = .error (.io .notDirectory) ∧
      ¬∀ (d : Disk) (p : Path), d.LinkFree → p.IsPlain →
        d.node? (d.workDir ++ p.names) = none → d.TakesAsMissing p := by
  intro d p
  have hd : d.LinkFree := by decide +kernel
  have hp : p.IsPlain := by decide +kernel
  have hnone : d.node? (d.workDir ++ p.names) = none := by decide +kernel
  have hrefuses : d.Refuses p (.io .notDirectory) := refuses_of_blocked hp (by decide +kernel)
  refine ⟨hd, hp, hnone, hrefuses.contains, hrefuses.list _, ?_, fun h => ?_⟩
  · rw [hrefuses.delete]
  · exact (h d p hd hp hnone).not_refuses hrefuses

/-! ## What is left of a disk -/

/-- Whatever is on the disk `d'` is on `d`, and the two have the same working directory. -/
structure Shrunk (d d' : Disk) : Prop where
  workDir_eq : d'.workDir = d.workDir
  node?_of_some : ∀ l n, d'.node? l = some n → d.node? l = some n

theorem shrunk_refl (d : Disk) : Shrunk d d := ⟨rfl, fun _ _ h => h⟩

theorem Shrunk.trans {d'' : Disk} (h : Shrunk d d') (h' : Shrunk d' d'') : Shrunk d d'' :=
  ⟨h'.workDir_eq.trans h.workDir_eq, fun l n hn => h.node?_of_some l n (h'.node?_of_some l n hn)⟩

theorem Shrunk.node?_eq_none (h : Shrunk d d') {l : Location} (hnone : d.node? l = none) :
    d'.node? l = none := by
  rw [Option.eq_none_iff_forall_ne_some]
  intro n hn
  rw [h.node?_of_some l n hn] at hnone
  cases hnone

theorem Shrunk.linkFree (h : Shrunk d d') (hd : d.LinkFree) : d'.LinkFree where
  noLink l target hlink := hd.noLink l target (h.node?_of_some l _ hlink)
  start n hn := hd.start n (h.node?_of_some _ n (h.workDir_eq ▸ hn))

theorem Shrunk.blocked (h : Shrunk d d') (hblocked : d'.Blocked ns) : d.Blocked ns := by
  obtain ⟨front, name, hpre, hne, hopen, hfile⟩ := hblocked
  rw [h.workDir_eq] at hopen hfile
  exact ⟨front, name, hpre, hne, fun m hm => h.node?_of_some _ _ (hopen m hm),
    h.node?_of_some _ _ hfile⟩

theorem shrunk_without (d : Disk) (l : Location) : Shrunk d (d.without l) := by
  refine ⟨rfl, fun k n hn => ?_⟩
  rw [node?, without] at hn
  rw [node?]
  split at hn
  · next hk => rw [if_pos hk, hn]
  · next hk =>
    rw [ExtTreeMap.getElem?_erase] at hn
    split at hn
    · cases hn
    · rw [if_neg hk, hn]

theorem shrunk_emptied (d : Disk) (l : Location) : Shrunk d (d.emptied l) := by
  refine ⟨rfl, fun k n hn => ?_⟩
  rw [node?, emptied] at hn
  rw [node?]
  split at hn
  · next hk => rw [if_pos hk, hn]
  · next hk =>
    rw [ExtTreeMap.getElem?_filter'] at hn
    rw [if_neg hk]
    exact (Option.filter_eq_some_iff.1 hn).1

theorem shrunk_removeDir {path : String} (h : d.removeDir path = .ok d') : Shrunk d d' := by
  rw [removeDir] at h
  split at h
  · cases hnode : d.nodeAt .place (withoutSlashes path) with
    | error e =>
      rw [hnode] at h
      cases h
    | ok found =>
      rw [hnode] at h
      obtain ⟨l, n⟩ := found
      cases n with
      | dir =>
        obtain rfl : d.without l = d' := Except.ok.inj h
        exact shrunk_without d l
      | file => cases h
      | link target => cases h
  · cases hspot : d.spotOf .place (withoutSlashes path) <;> rw [hspot] at h <;> cases h
  · cases hspot : d.spotOf .place (withoutSlashes path) <;> rw [hspot] at h <;> cases h
  · cases h

/-- **A deletion only takes away**, whatever path is deleted and whatever it answers. -/
theorem shrunk_delete (d : Disk) (path : Path) : Shrunk d (d.delete path).2 := by
  rw [delete]
  split
  · next l _ =>
    have hemptied := shrunk_emptied d l
    dsimp only
    split
    · next d' hremoved => exact hemptied.trans (shrunk_removeDir hremoved)
    · exact hemptied
    · exact hemptied
  · exact shrunk_without d _
  · exact shrunk_refl d
  · exact shrunk_refl d

end Disk
end IndexShards
