import IndexShards.Persist.Codec
import IndexShards.Proofs.Json.Value

/-!
# Reading back what was stored

What a reader makes of a text depends on how many arrays and objects it may still enter.  A type
whose values are never nested deeper than some number of levels is read back wherever so many may
still be entered, and it is enough to show that for each of its parts.  Values that hold values of
their own kind have no such number, so for the two collections the exact answer is shown: they are
read back if all of their items are, and not at all otherwise.

Nothing here depends on the order in which a map is written.  Its entries have different names, so
every order of them is read as the same map.

## What is here

* `Stores depth a` — the value is written, and read back wherever `depth` arrays and objects may
  be entered.
* `Stores.read?_eq` — **what is stored is read back from its text**.
* `stores_text`, `stores_list`, `stores_map`, `stores_of_fields` — strings, lists, maps and
  structures are stored, if their parts are.
* `decode_list`, `decode_map` — what becomes of a list and of a map, some of whose items may lie
  too deep.
-/

set_option autoImplicit false

namespace IndexShards

open Std Decoder

variable {α β γ δ : Type}

/-! ## Stored values -/

/-- The value is written, and read back wherever `depth` arrays and objects may be entered. -/
structure Stores [Persistent α] (depth : Nat) (a : α) : Prop where
  isWritten : (encode a).IsWritten
  decode_encode : ∀ {room : Nat}, depth ≤ room → decode room (encode a) = some a

/-- The text of a value is read as far as its JSON value is. -/
theorem read?_write_eq_decode [Persistent α] {a : α} (h : (encode a).IsWritten) :
    (read? (write a) : Option α) = decode depthLimit (encode a) := by
  rw [read?, write, JsonValue.parse?_render h, Option.bind_some]

/-- **What is stored is read back from its text.** -/
theorem Stores.read?_eq [Persistent α] {depth : Nat} {a : α} (h : Stores depth a)
    (hdepth : depth ≤ depthLimit) : read? (write a) = some a :=
  (read?_write_eq_decode h.isWritten).trans (h.decode_encode hdepth)

/-! ## Strings and choices -/

theorem stores_text (s : String) : Stores 0 s := ⟨JsonValue.isWritten_text s, fun _ => rfl⟩

@[simp]
theorem decode_text (room : Nat) (s : String) : decode room (JsonValue.text s) = some s := rfl

/-- The name of a choice is read as the choice, if all choices have names of their own. -/
theorem choice_encodeChoice {all : List α} {key : α → String} (hmem : ∀ a, a ∈ all)
    (hkey : ∀ a ∈ all, ∀ b ∈ all, key b = key a → b = a) (room : Nat) (a : α) :
    choice all key room (encodeChoice key a) = some a := by
  have hfind : all.find? (fun b => key b == key a) = some a := by
    obtain ⟨b, hb⟩ : ∃ b, all.find? (fun b => key b == key a) = some b :=
      Option.isSome_iff_exists.1 (List.find?_isSome.2 ⟨a, hmem a, beq_self_eq_true _⟩)
    have hsame : key b = key a := by simpa using List.find?_some hb
    rw [hb, hkey a (hmem a) b (hmem b) hsame]
  cases room <;> exact hfind

/-! ## Collections -/

/-- If every item is read or not, depending on what it is, then so are all of them together. -/
theorem mapM_map_eq_ite {f : β → Option γ} {g : δ → β} {k : δ → γ} {P : δ → Bool} {l : List δ}
    (h : ∀ a ∈ l, f (g a) = if P a then some (k a) else none) :
    (l.map g).mapM f = if l.all P then some (l.map k) else none := by
  induction l with
  | nil => rfl
  | cons a l ih =>
    obtain ⟨ha, hl⟩ := List.forall_mem_cons.1 h
    rw [List.map_cons, List.mapM_cons, ha, ih hl, List.all_cons]
    cases P a <;> cases l.all P <;> rfl

theorem mapM_map_eq_some {f : β → Option γ} {g : δ → β} {k : δ → γ} {l : List δ}
    (h : ∀ a ∈ l, f (g a) = some (k a)) : (l.map g).mapM f = some (l.map k) := by
  have hall := mapM_map_eq_ite (P := fun _ => true) h
  rwa [if_pos (List.all_eq_true.2 fun _ _ => rfl)] at hall

/-- What becomes of a list, some of whose items may lie too deep. -/
theorem decode_list [Persistent α] {as : List α} {P : α → Bool} {room : Nat}
    (h : ∀ a ∈ as, decode room (encode a) = if P a then some a else none) :
    decode (room + 1) (encode as) = if as.all P then some as else none := by
  have hitems := mapM_map_eq_ite (k := id) h
  rwa [List.map_id] at hitems

theorem stores_list [Persistent α] {depth : Nat} {as : List α} (h : ∀ a ∈ as, Stores depth a) :
    Stores (depth + 1) as := by
  refine ⟨JsonValue.isWritten_array.2 (List.forall_mem_map.2 fun a ha => (h a ha).isWritten), ?_⟩
  rintro (_ | room) hroom
  · cases hroom
  · have hall := decode_list (P := fun _ => true) fun a ha =>
      (h a ha).decode_encode (Nat.le_of_succ_le_succ hroom)
    rwa [if_pos (List.all_eq_true.2 fun _ _ => rfl)] at hall

/-- Entries with the names of a map and its values make the map, in every order. -/
theorem foldl_insert_of_perm {m : ExtTreeMap String α} {entries : List (String × α)}
    (h : entries.Perm m.toList) :
    entries.foldl (fun m (name, a) => m.insert name a) ∅ = m := by
  have hdistinct : entries.Pairwise fun e e' => ¬compare e.1 e'.1 = .eq :=
    h.symm.pairwise ExtTreeMap.distinct_keys_toList fun hne heq =>
      hne (LawfulEqCmp.compare_eq_iff_eq.2 (LawfulEqCmp.compare_eq_iff_eq.1 heq).symm)
  have hmap : entries.foldl (fun m (name, a) => m.insert name a) ∅ =
      ExtTreeMap.ofList entries compare := by
    rw [ExtTreeMap.ofList_eq_insertMany_empty, ExtTreeMap.insertMany_list_eq_foldl]
  rw [hmap]
  refine ExtTreeMap.ext_getElem? fun name => ?_
  cases hget : m[name]? with
  | some a =>
    have hmem : (name, a) ∈ entries :=
      h.mem_iff.2 (ExtTreeMap.mem_toList_iff_getElem?_eq_some.2 hget)
    exact ExtTreeMap.getElem?_ofList_of_mem ReflCmp.compare_self hdistinct hmem
  | none =>
    refine ExtTreeMap.getElem?_ofList_of_contains_eq_false (Bool.eq_false_iff.2 fun hin => ?_)
    obtain ⟨⟨_, a⟩, he, rfl⟩ := List.mem_map.1 (List.contains_iff_mem.1 hin)
    rw [ExtTreeMap.mem_toList_iff_getElem?_eq_some.1 (h.mem_iff.1 he)] at hget
    cases hget

theorem namedFields_map (fields : List (String × JsonValue)) :
    namedFields (fields.map fun (name, v) => (some name, v)) = some fields := by
  rw [namedFields, mapM_map_eq_some (k := id), List.map_id]
  exact fun _ _ => rfl

/-- What becomes of a map, some of whose values may lie too deep. -/
theorem decode_map [Persistent α] {m : ExtTreeMap String α} {P : α → Bool} {room : Nat}
    (h : ∀ e ∈ m.toList, decode room (encode e.2) = if P e.2 then some e.2 else none) :
    decode (room + 1) (encode m) = if m.toList.all fun e => P e.2 then some m else none := by
  have hitems : (m.toList.map fun (name, a) => (name, encode a)).mapM
      (fun (name, v) => ((decode room v : Option α)).map (name, ·)) =
        if m.toList.all fun e => P e.2 then some m.toList else none := by
    have hentry : ∀ e ∈ m.toList, (decode room (encode e.2)).map (e.1, ·) =
        if P e.2 then some (id e) else none := fun e he => by
      rw [h e he]
      split <;> rfl
    exact (mapM_map_eq_ite hentry).trans (by rw [List.map_id])
  show (namedFields _).bind _ = _
  rw [namedFields_map, Option.bind_some]
  show Option.bind (List.mapM _ _) _ = _
  rw [hitems]
  split
  · exact congrArg some (foldl_insert_of_perm (List.Perm.refl _))
  · rfl

/-- A field that no other one shares its name with is the only one with its name. -/
theorem only?_of_nodup {fields : List (String × JsonValue)}
    (hnodup : (fields.map Prod.fst).Nodup) {f : String × JsonValue} (hf : f ∈ fields) :
    only? fields f.1 = some (some f.2) := by
  have hfilter : fields.filter (fun g => g.1 == f.1) = [f] := by
    induction fields with
    | nil => cases hf
    | cons g fields ih =>
      obtain ⟨hg, hfields⟩ := List.nodup_cons.1 hnodup
      rcases List.mem_cons.1 hf with rfl | hf
      · rw [List.filter_cons_of_pos (by simp)]
        refine congrArg (f :: ·) (List.filter_eq_nil_iff.2 fun g hmem hname => hg ?_)
        exact List.mem_map.2 ⟨g, hmem, by simpa using hname⟩
      · rw [List.filter_cons_of_neg, ih hfields hf]
        exact fun hname => hg (List.mem_map.2 ⟨f, hf, (by simpa using hname : g.1 = f.1).symm⟩)
  rw [only?, hfilter]

/-- Every field of an object is found under its name, if no two have the same. -/
theorem members_record {names : List String} {fields : List (String × JsonValue)}
    (hnames : fields.map Prod.fst = names) (hnodup : names.Nodup) (room : Nat) :
    members names (room + 1) (.record fields) = some (room, fields.map fun f => some f.2) := by
  subst hnames
  have honly : (fields.map Prod.fst).mapM (only? fields) =
      some (fields.map fun f => some f.2) :=
    mapM_map_eq_some fun _ => only?_of_nodup hnodup
  show (namedFields _).bind _ = _
  rw [namedFields_map, Option.bind_some]
  show Option.bind (List.mapM _ _) _ = _
  rw [honly]
  rfl

@[simp]
theorem field_some (d : Decoder α) (room : Nat) (v : JsonValue) :
    field d room (some v) = d room v := rfl

@[simp]
theorem fieldOr_some (default : α) (d : Decoder α) (room : Nat) (v : JsonValue) :
    fieldOr default d room (some v) = d room v := rfl

/-- A structure is stored if its reader makes it of what the fields hold, wherever the fields may
be entered. -/
theorem stores_of_fields [Persistent α] {names : List String} {fields : List (String × JsonValue)}
    {build : Nat × List (Option JsonValue) → Option α} {depth : Nat} {a : α}
    (hencode : encode a = .record fields)
    (hdecode : ∀ room v, decode room v = (members names room v).bind build)
    (hnames : fields.map Prod.fst = names) (hnodup : names.Nodup)
    (hwritten : ∀ f ∈ fields, f.2.IsWritten)
    (hbuild : ∀ room, depth ≤ room → build (room, fields.map fun f => some f.2) = some a) :
    Stores (depth + 1) a := by
  refine ⟨hencode ▸ JsonValue.isWritten_record.2 hwritten, ?_⟩
  rintro (_ | room) hroom
  · cases hroom
  · rw [hdecode, hencode, members_record hnames hnodup, Option.bind_some]
    exact hbuild room (Nat.le_of_succ_le_succ hroom)

end IndexShards
