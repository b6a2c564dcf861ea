import CallAttribution.Input
import CallAttribution.Proofs.FileTree
import CallAttribution.Proofs.Json.RoundTrip
import Mathlib.Data.List.Forall2

/-!
# Loading snapshots that are broken in parts

A document gives a snapshot exactly if its entries have the shape of entries and its interfaces are
an object. Of the interfaces only arrays are kept, and of these only the texts: what is cleaned
away is just what the shape of a table of interfaces would refuse. Nothing else in the document has
any effect.
-/

namespace CallAttribution

namespace Schema

variable {α : Type} {shape : Value → Checked α} {v : Value} {vs : List Value} {xs : List α}
  {ms : Table Value} {key : String}

theorem text_eq_accepted_iff {s : String} : text v = .accepted s ↔ v = .str s := by
  cases v <;> simp [text, Checked.refuse]

theorem elements_eq_accepted_iff {i : Nat} :
    elements shape i vs = .accepted xs ↔ List.Forall₂ (fun v x => shape v = .accepted x) vs xs := by
  induction vs generalizing i xs with
  | nil => cases xs <;> simp [elements]
  | cons v vs ih =>
    rw [elements, Checked.seq_eq_accepted_iff]
    simp only [Checked.map_eq_accepted_iff, Checked.under_eq_accepted_iff, ih]
    constructor
    · rintro ⟨_, xs, ⟨x, hx, rfl⟩, hxs, rfl⟩
      exact .cons hx hxs
    · rintro (_ | ⟨hx, hxs⟩)
      exact ⟨_, _, ⟨_, hx, rfl⟩, hxs, rfl⟩

theorem tuple_eq_accepted_iff : tuple shape v = .accepted xs ↔
    ∃ items, v = .arr items ∧ List.Forall₂ (fun v x => shape v = .accepted x) items xs := by
  cases v <;> simp [tuple, Checked.refuse, elements_eq_accepted_iff]

theorem members_accepted (ms : Table Value) : members .accepted ms = .accepted ms := by
  induction ms with
  | nil => rfl
  | cons m ms ih =>
    rw [members, ih]
    rfl

theorem table_accepted_iff {t : Table Value} : table .accepted v = .accepted t ↔ v = .obj t := by
  cases v <;> simp [table, Checked.refuse, members_accepted]

/-- The document has the value in this place, or it has nothing or `null` there. -/
def Optional (embed : α → Value) (found : Option Value) : Option α → Prop
  | some x => found = some (embed x)
  | none => found = none ∨ found = some .null

theorem nullable_eq_accepted_iff {embed : α → Value}
    (hshape : ∀ v x, shape v = .accepted x ↔ v = embed x) (hnull : ∀ x, embed x ≠ .null)
    {o : Option α} : nullable shape v = .accepted o ↔ Optional embed (some v) o := by
  cases v with
  | null => cases o <;> simp [nullable, Optional, (hnull _).symm]
  | _ => cases o <;> simp [nullable, Optional, Checked.map_eq_accepted_iff, hshape]

theorem defaulted_nullable_eq_accepted_iff {embed : α → Value}
    (hshape : ∀ v x, shape v = .accepted x ↔ v = embed x) (hnull : ∀ x, embed x ≠ .null)
    {o : Option α} :
    defaulted key none (nullable shape) ms = .accepted o ↔ Optional embed (ms.get? key) o := by
  unfold defaulted
  cases ms.get? key with
  | none => cases o <;> simp [Optional]
  | some v => exact Checked.under_eq_accepted_iff.trans (nullable_eq_accepted_iff hshape hnull)

theorem required_eq_accepted_iff {x : α} : required key shape ms = .accepted x ↔
    ∃ v, ms.get? key = some v ∧ shape v = .accepted x := by
  unfold required
  cases ms.get? key with
  | none => simp [Checked.refuse, Checked.under]
  | some v => simp [Checked.under_eq_accepted_iff]

theorem defaulted_eq_accepted_iff {default x : α} : defaulted key default shape ms = .accepted x ↔
    (ms.get? key = none ∧ default = x) ∨ ∃ v, ms.get? key = some v ∧ shape v = .accepted x := by
  unfold defaulted
  cases ms.get? key with
  | none => simp
  | some v => simp [Checked.under_eq_accepted_iff]

end Schema

open Schema

/-- The document of an entry: an object with the address and, unless they are unknown, the name,
the kind and the recorded state. It may have other members. -/
inductive Entry.Document : Value → Entry → Prop
  | object {ms : Table Value} {e : Entry} (address : ms.get? "address" = some (.str e.address))
    (name : Optional .str (ms.get? "name") e.name) (kind : Optional .str (ms.get? "type") e.kind)
    (values : Optional .obj (ms.get? "values") e.values) : Document (.obj ms) e

theorem Entry.shape_eq_accepted_iff {v : Value} {e : Entry} :
    Entry.shape v = .accepted e ↔ Entry.Document v e := by
  have htext {ms : Table Value} (key : String) (o : Option String) :
      defaulted key none (nullable text) ms = .accepted o ↔ Optional .str (ms.get? key) o :=
    defaulted_nullable_eq_accepted_iff (fun _ _ => text_eq_accepted_iff) fun _ => Value.noConfusion
  have hvalues {ms : Table Value} (o : Option (Table Value)) :
      defaulted "values" none (nullable (table .accepted)) ms = .accepted o ↔
        Optional .obj (ms.get? "values") o :=
    defaulted_nullable_eq_accepted_iff (fun _ _ => table_accepted_iff) fun _ => Value.noConfusion
  rw [Entry.shape, record_eq_accepted_iff]
  simp only [Checked.seq_eq_accepted_iff, Checked.map_eq_accepted_iff, required_eq_accepted_iff,
    text_eq_accepted_iff, htext, hvalues, exists_eq_right]
  constructor
  · rintro ⟨ms, rfl, _, values, ⟨_, kind, ⟨_, name, ⟨address, ha, rfl⟩, hn, rfl⟩, hk, rfl⟩, hv, rfl⟩
    exact ⟨ha, hn, hk, hv⟩
  · rintro ⟨ha, hn, hk, hv⟩
    exact ⟨_, rfl, _, _, ⟨_, _, ⟨_, _, ⟨_, ha, rfl⟩, hn, rfl⟩, hk, rfl⟩, hv, rfl⟩

namespace Snapshot

/-- The interfaces that are recorded in an object: the members that are arrays, in their order, each
with the texts among its elements. -/
def signatures (recorded : Table Value) : Table (List String) :=
  recorded.filterMap fun e => e.2.arr?.map fun items => (e.1, items.filterMap Value.str?)

/-- The document of a snapshot: the entries in an array and the interfaces in an object. Either may
be missing, and there may be anything else. -/
structure Document (ms : Table Value) (s : Snapshot) : Prop where
  entries : (ms.get? "entries" = none ∧ s.entries = []) ∨
    ∃ items, ms.get? "entries" = some (.arr items) ∧ List.Forall₂ Entry.Document items s.entries
  interfaces : (ms.get? "abis" = none ∧ s.interfaces = []) ∨
    ∃ recorded, ms.get? "abis" = some (.obj recorded) ∧ s.interfaces = signatures recorded

variable {ms ms' : Table Value} {s : Snapshot}

theorem elements_filter (items : List Value) (i : Nat) :
    elements text i (items.filter fun v => v.str?.isSome) =
      .accepted (items.filterMap Value.str?) := by
  induction items generalizing i with
  | nil => rfl
  | cons v items ih =>
    cases v with
    | str s =>
      change List.cons <$> (Checked.accepted s).under (Text.showNat i) <*>
        elements text (i + 1) (items.filter fun v => v.str?.isSome) = _
      rw [ih]
      rfl
    | _ => exact ih i

/-- What is left of interfaces by cleaning has the shape of interfaces. -/
theorem members_cleaned (recorded : Table Value) :
    members (tuple text) (recorded.filterMap cleanInterface?) =
      .accepted (signatures recorded) := by
  induction recorded with
  | nil => rfl
  | cons e recorded ih =>
    obtain ⟨address, v⟩ := e
    cases v with
    | arr items =>
      change (fun i t => (address, i) :: t) <$>
        (elements text 0 (items.filter fun v => v.str?.isSome)).under address <*>
          members (tuple text) (recorded.filterMap cleanInterface?) = _
      rw [elements_filter, ih]
      rfl
    | _ => exact ih

theorem table_cleanInterfaces_eq_accepted_iff {v : Value} {t : Table (List String)} :
    table (tuple text) (cleanInterfaces v) = .accepted t ↔
      ∃ recorded, v = .obj recorded ∧ t = signatures recorded := by
  cases v with
  | obj recorded =>
    have htable : table (tuple text) (cleanInterfaces (.obj recorded)) =
        .accepted (signatures recorded) := members_cleaned recorded
    rw [htable]
    simp [eq_comm]
  | _ => simp [cleanInterfaces, table, Checked.refuse]

theorem get?_relevant_entries (ms : Table Value) :
    (relevant ms).get? "entries" = ms.get? "entries" := by
  rw [relevant]
  cases ms.get? "entries" <;> cases ms.get? "abis" <;> rfl

theorem get?_relevant_interfaces (ms : Table Value) :
    (relevant ms).get? "abis" = (ms.get? "abis").map cleanInterfaces := by
  rw [relevant]
  cases ms.get? "entries" <;> cases ms.get? "abis" <;> rfl

/-- Only two members of a document have a say. -/
theorem relevant_congr (hentries : ms.get? "entries" = ms'.get? "entries")
    (hinterfaces : ms.get? "abis" = ms'.get? "abis") : relevant ms = relevant ms' := by
  rw [relevant, relevant, hentries, hinterfaces]

theorem fields_relevant_eq_accepted_iff : fields (relevant ms) = .accepted s ↔ Document ms s := by
  have hentries (es : List Entry) : defaulted "entries" [] (tuple Entry.shape) (relevant ms) =
      .accepted es ↔ (ms.get? "entries" = none ∧ es = []) ∨
        ∃ items, ms.get? "entries" = some (.arr items) ∧ List.Forall₂ Entry.Document items es := by
    rw [defaulted_eq_accepted_iff, get?_relevant_entries]
    cases ms.get? "entries" <;>
      simp [tuple_eq_accepted_iff, Entry.shape_eq_accepted_iff, eq_comm (a := [])]
  have hinterfaces (t : Table (List String)) :
      defaulted "abis" [] (table (tuple text)) (relevant ms) = .accepted t ↔
        (ms.get? "abis" = none ∧ t = []) ∨
          ∃ recorded, ms.get? "abis" = some (.obj recorded) ∧ t = signatures recorded := by
    rw [defaulted_eq_accepted_iff, get?_relevant_interfaces]
    cases ms.get? "abis" <;> simp [table_cleanInterfaces_eq_accepted_iff, eq_comm (a := [])]
  rw [fields]
  simp only [Checked.seq_eq_accepted_iff, Checked.map_eq_accepted_iff, hentries, hinterfaces]
  constructor
  · rintro ⟨_, t, ⟨es, hes, rfl⟩, ht, rfl⟩
    exact ⟨hes, ht⟩
  · rintro ⟨hes, ht⟩
    exact ⟨_, _, ⟨_, hes, rfl⟩, ht, rfl⟩

/-- An array whose elements are documents of entries. -/
def HoldsEntries (v : Value) : Prop :=
  ∃ items, v = .arr items ∧ ∀ item ∈ items, ∃ e, Entry.Document item e

theorem exists_forall₂_iff {α β : Type} {R : α → β → Prop} {xs : List α} :
    (∃ ys, List.Forall₂ R xs ys) ↔ ∀ x ∈ xs, ∃ y, R x y := by
  induction xs with
  | nil => simp
  | cons x xs ih =>
    rw [List.forall_mem_cons, ← ih]
    constructor
    · rintro ⟨_, hxy⟩
      cases hxy with
      | cons hx hxs => exact ⟨⟨_, hx⟩, _, hxs⟩
    · rintro ⟨⟨y, hx⟩, ys, hxs⟩
      exact ⟨y :: ys, .cons hx hxs⟩

theorem exists_defaulted_iff {α β : Type} {found : Option Value} {embed : β → Value}
    {R : β → α → Prop} {default : α} :
    (∃ x, (found = none ∧ x = default) ∨ ∃ y, found = some (embed y) ∧ R y x) ↔
      ∀ v, found = some v → ∃ y, v = embed y ∧ ∃ x, R y x := by
  cases found with
  | none => simp
  | some v =>
    constructor
    · rintro ⟨x, ⟨hnone, -⟩ | ⟨y, hy, hx⟩⟩ w hw
      · cases hnone
      · cases hw
        exact ⟨y, Option.some.inj hy, x, hx⟩
    · intro h
      obtain ⟨y, rfl, x, hx⟩ := h v rfl
      exact ⟨x, .inr ⟨y, rfl, hx⟩⟩

/-- A document gives a snapshot unless its entries or its interfaces are wrong. -/
theorem exists_document_iff : (∃ s, Document ms s) ↔
    (∀ v, ms.get? "entries" = some v → HoldsEntries v) ∧
      ∀ v, ms.get? "abis" = some v → ∃ recorded, v = .obj recorded := by
  have hentries : (∃ es, (ms.get? "entries" = none ∧ es = []) ∨
      ∃ items, ms.get? "entries" = some (.arr items) ∧ List.Forall₂ Entry.Document items es) ↔
        ∀ v, ms.get? "entries" = some v → HoldsEntries v := by
    rw [exists_defaulted_iff]
    simp only [exists_forall₂_iff, HoldsEntries]
  have hinterfaces : (∃ t, (ms.get? "abis" = none ∧ t = []) ∨
      ∃ recorded, ms.get? "abis" = some (.obj recorded) ∧ t = signatures recorded) ↔
        ∀ v, ms.get? "abis" = some v → ∃ recorded, v = .obj recorded := by
    rw [exists_defaulted_iff]
    simp only [exists_eq, and_true]
  rw [← hentries, ← hinterfaces]
  constructor
  · rintro ⟨s, hes, ht⟩
    exact ⟨⟨_, hes⟩, _, ht⟩
  · rintro ⟨⟨es, hes⟩, t, ht⟩
    exact ⟨⟨es, t⟩, hes, ht⟩

end Snapshot

theorem FileTree.read_ne_embeddedNull {t : FileTree} {p : Path} (h : p.isMalformed = false) :
    t.read p ≠ .error .embeddedNull := by
  intro hread
  rcases henter : t.enter [] p.parts with f | l
  · simp [read, stat, locate, h, henter, bind, Except.bind, Except.mapError] at hread
  · rcases hn : t.node? l with _ | _ | _ <;>
      simp [read, stat, locate, h, henter, hn, bind, Except.bind, Except.mapError] at hread

namespace Input

variable {t t' : FileTree} {p p' : Path} {s : Snapshot}

/-- Why a file gives no snapshot. -/
inductive Unloadable (t : FileTree) (p : Path) : Prop
  | unreadable {e : FileError} (h : t.read p = .error e)
  | notJson {b : Bytes} (hread : t.read p = .ok b) (h : Json.read? b = none)
  | notObject {b : Bytes} {v : Value} (hread : t.read p = .ok b) (hjson : Json.read? b = some v)
    (h : ∀ ms, v ≠ .obj ms)
  | wrongEntries {b : Bytes} {ms : Table Value} {v : Value} (hread : t.read p = .ok b)
    (hjson : Json.read? b = some (.obj ms)) (hv : ms.get? "entries" = some v)
    (h : ¬ Snapshot.HoldsEntries v)
  | wrongInterfaces {b : Bytes} {ms : Table Value} {v : Value} (hread : t.read p = .ok b)
    (hjson : Json.read? b = some (.obj ms)) (hv : ms.get? "abis" = some v)
    (h : ∀ recorded, v ≠ .obj recorded)

theorem readJson_eq_ok_iff {v : Value} :
    readJson t p = .ok v ↔ ∃ b, t.read p = .ok b ∧ Json.read? b = some v := by
  unfold readJson
  split
  · next h => simp [h]
  · next h => simp [h]
  · next b h => rcases hjson : Json.read? b with _ | w <;> simp [h, hjson]

theorem snapshotOf_eq_ok_iff {v : Value} :
    snapshotOf p v = .ok s ↔ ∃ ms, v = .obj ms ∧ Snapshot.Document ms s := by
  cases v with
  | obj ms =>
    simp [snapshotOf, mapError_eq_ok, Checked.toExcept_eq_ok_iff,
      Snapshot.fields_relevant_eq_accepted_iff]
  | _ => simp [snapshotOf]

theorem readSnapshot_eq_ok_iff : readSnapshot t p = .ok s ↔
    ∃ b ms, t.read p = .ok b ∧ Json.read? b = some (.obj ms) ∧ Snapshot.Document ms s := by
  rw [readSnapshot, bind_eq_ok]
  simp only [readJson_eq_ok_iff, snapshotOf_eq_ok_iff]
  constructor
  · rintro ⟨_, ⟨b, hread, hjson⟩, ms, rfl, hs⟩
    exact ⟨b, ms, hread, hjson, hs⟩
  · rintro ⟨b, ms, hread, hjson, hs⟩
    exact ⟨_, ⟨b, hread, hjson⟩, ms, rfl, hs⟩

theorem exists_readSnapshot_iff : (∃ s, readSnapshot t p = .ok s) ↔ ¬ Unloadable t p := by
  simp only [readSnapshot_eq_ok_iff]
  constructor
  · rintro ⟨s, b, ms, hread, hjson, hs⟩ h
    obtain ⟨hentries, hinterfaces⟩ := Snapshot.exists_document_iff.mp ⟨s, hs⟩
    cases h with
    | unreadable h => cases hread.symm.trans h
    | notJson hread' h =>
      cases hread.symm.trans hread'
      cases hjson.symm.trans h
    | notObject hread' hjson' h =>
      cases hread.symm.trans hread'
      cases hjson.symm.trans hjson'
      exact h ms rfl
    | wrongEntries hread' hjson' hv h =>
      cases hread.symm.trans hread'
      cases hjson.symm.trans hjson'
      exact h (hentries _ hv)
    | wrongInterfaces hread' hjson' hv h =>
      cases hread.symm.trans hread'
      cases hjson.symm.trans hjson'
      obtain ⟨recorded, hrecorded⟩ := hinterfaces _ hv
      exact h recorded hrecorded
  · intro h
    rcases hread : t.read p with e | b
    · exact absurd (.unreadable hread) h
    rcases hjson : Json.read? b with _ | v
    · exact absurd (.notJson hread hjson) h
    obtain ⟨ms, rfl⟩ : ∃ ms, v = .obj ms :=
      by_contra fun hno => h (.notObject hread hjson (not_exists.mp hno))
    obtain ⟨s, hs⟩ := Snapshot.exists_document_iff.mpr
      ⟨fun v hv => by_contra fun hno => h (.wrongEntries hread hjson hv hno),
        fun v hv => by_contra fun hno => h (.wrongInterfaces hread hjson hv (not_exists.mp hno))⟩
    exact ⟨s, b, ms, rfl, hjson, hs⟩

/-- Only the path can be to blame for an error that is not about the file. -/
theorem readSnapshot_ne_badPath (hp : p.isMalformed = false) :
    readSnapshot t p ≠ .error .badPath := by
  intro h
  rcases hread : t.read p with e | b
  · have hnull := FileTree.read_ne_embeddedNull (t := t) hp
    cases e with
    | embeddedNull => exact hnull hread
    | _ => simp [readSnapshot, readJson, hread, bind, Except.bind] at h
  · rcases hjson : Json.read? b with _ | v
    · simp [readSnapshot, readJson, hread, hjson, bind, Except.bind] at h
    · have hof : snapshotOf p v = .error .badPath := by
        simpa [readSnapshot, readJson, hread, hjson, bind, Except.bind] using h
      cases v with
      | obj ms =>
        rw [snapshotOf] at hof
        cases hfields : Snapshot.fields (Snapshot.relevant ms) <;>
          simp [hfields, Checked.toExcept, Except.mapError] at hof
      | _ => simp [snapshotOf] at hof

/-- Loading fails exactly for the reasons that make a file unloadable. Otherwise the snapshot has
the entries of the document in their order, and of its interfaces those that are arrays, in their
order, each with its texts in their order. Documents that have the same entries and the same
interfaces give the same snapshot or none. -/
theorem snapshot_of_broken_file (hp : p.isMalformed = false) :
    ((∃ e, e ≠ .badPath ∧ readSnapshot t p = .error e) ↔ Unloadable t p) ∧
    ((∃ s, readSnapshot t p = .ok s) ↔ ¬ Unloadable t p) ∧
    (∀ s, readSnapshot t p = .ok s ↔
      ∃ b ms, t.read p = .ok b ∧ Json.read? b = some (.obj ms) ∧ Snapshot.Document ms s) ∧
    ∀ {t' : FileTree} {p' : Path} {b b' : Bytes} {ms ms' : Table Value},
      t.read p = .ok b → Json.read? b = some (.obj ms) →
      t'.read p' = .ok b' → Json.read? b' = some (.obj ms') →
      ms.get? "entries" = ms'.get? "entries" → ms.get? "abis" = ms'.get? "abis" →
        (readSnapshot t p).toOption = (readSnapshot t' p').toOption := by
  refine ⟨?_, exists_readSnapshot_iff, fun s => readSnapshot_eq_ok_iff, ?_⟩
  · rw [← not_iff_not, ← exists_readSnapshot_iff]
    rcases hs : readSnapshot t p with e | s
    · have hne : e ≠ .badPath := fun he => readSnapshot_ne_badPath hp (he ▸ hs)
      simp [hne]
    · simp
  · intro t' p' b b' ms ms' hread hjson hread' hjson' hentries hinterfaces
    rw [readSnapshot, readSnapshot, readJson_eq_ok_iff.mpr ⟨b, hread, hjson⟩,
      readJson_eq_ok_iff.mpr ⟨b', hread', hjson'⟩]
    change (snapshotOf p (.obj ms)).toOption = (snapshotOf p' (.obj ms')).toOption
    rw [snapshotOf, snapshotOf, Snapshot.relevant_congr hentries hinterfaces]
    cases Snapshot.fields (Snapshot.relevant ms') <;> rfl

/-- Of the interfaces of the first document one is no array and another one holds more than texts.
The second document lacks a member that nothing reads, and has the others in another order. -/
theorem snapshot_of_broken_file_partly :
    let entries : Json :=
      .arr [.obj [("address", .str "0xA"), ("type", .str "Contract"), ("x", .int 1)]]
    let abis : Json :=
      .obj [("0xB", .null), ("0xA", .arr [.int 1, .str "f", .null, .str "g"]), ("0xC", .arr [])]
    let d : Json := .obj [("entries", entries), ("version", .arr [.int 2]), ("abis", abis)]
    let e : Json := .obj [("abis", abis), ("entries", entries)]
    let t : FileTree := ⟨[(["d"], .file (Text.encode (String.ofList d.compact))),
      (["e"], .file (Text.encode (String.ofList e.compact)))], by decide⟩
    let s : Snapshot := ⟨[⟨"0xA", none, some "Contract", none⟩], [("0xA", ["f", "g"]), ("0xC", [])]⟩
    readSnapshot t ⟨.root, ["d"]⟩ = .ok s ∧ (readSnapshot t ⟨.root, ["e"]⟩).toOption = some s := by
  intro entries abis d e t s
  have hd : Json.read? (Text.encode (String.ofList d.compact)) = some d.toValue :=
    Json.read?_compact (by simp [d, entries, abis, Json.Readable, Json.ReadableAll,
      Json.ReadableMembers, Json.maxDepth, Json.inRange])
  have he : Json.read? (Text.encode (String.ofList e.compact)) = some e.toValue :=
    Json.read?_compact (by simp [e, entries, abis, Json.Readable, Json.ReadableAll,
      Json.ReadableMembers, Json.maxDepth, Json.inRange])
  obtain ⟨-, -, hok, hsame⟩ := snapshot_of_broken_file (t := t) (p := ⟨.root, ["d"]⟩) (by decide)
  have hs : readSnapshot t ⟨.root, ["d"]⟩ = .ok s := by
    refine (hok s).mpr ⟨_, _, rfl, hd, .inr ⟨_, rfl, ?_⟩, .inr ⟨_, rfl, rfl⟩⟩
    exact .cons (.object rfl (.inl rfl) rfl (.inl rfl)) .nil
  refine ⟨hs, ?_⟩
  rw [← hsame rfl hd rfl he rfl rfl, hs]
  rfl

end Input

end CallAttribution
