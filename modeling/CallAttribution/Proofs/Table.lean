import CallAttribution.Table
import Mathlib.Data.List.Induction
import Mathlib.Data.List.Nodup
import Mathlib.Tactic.SplitIfs

/-!
# Tables of entries

Entries whose keys differ are a table as they stand, and each of them is found under its key. When
entries have a key in common, the last of them is found. Entering two sequences of entries one after
the other comes to the table of the second one entered over that of the first.
-/

namespace CallAttribution.Table

variable {α : Type}

theorem insert_of_notMem {t : Table α} {x : String} (h : x ∉ t.keys) (v : α) :
    t.insert x v = t ++ [(x, v)] := by
  induction t with
  | nil => rfl
  | cons e t ih =>
    obtain ⟨k, w⟩ := e
    simp only [keys, List.map_cons, List.mem_cons, not_or] at h
    rw [insert, if_neg (Ne.symm h.1), ih h.2, List.cons_append]

theorem foldl_insert (t : Table α) {entries : List (String × α)}
    (h : (t.keys ++ entries.map Prod.fst).Nodup) :
    entries.foldl (fun t e => t.insert e.1 e.2) t = t ++ entries := by
  induction entries generalizing t with
  | nil => simp
  | cons e entries ih =>
    have hd := List.nodup_append.mp h
    have he : e.1 ∉ t.keys := fun hm => hd.2.2 e.1 hm e.1 (by simp) rfl
    rw [List.foldl_cons, insert_of_notMem he, ih]
    · simp
    · simpa [keys] using h

theorem ofEntries_eq_self {entries : List (String × α)} (h : (entries.map Prod.fst).Nodup) :
    ofEntries entries = entries := by
  rw [ofEntries, foldl_insert [] (by simpa [keys] using h), List.nil_append]

/-- Every entry is found under its key. -/
theorem get?_of_mem {t : Table α} (h : t.keys.Nodup) {x : String} {v : α} (hm : (x, v) ∈ t) :
    t.get? x = some v := by
  induction t with
  | nil => cases hm
  | cons e t ih =>
    obtain ⟨k, w⟩ := e
    obtain ⟨hk, ht⟩ := List.nodup_cons.mp h
    rw [get?]
    rcases List.mem_cons.mp hm with heq | hm
    · cases heq
      rw [if_pos rfl]
    · have hne : k ≠ x := fun hkx => hk (List.mem_map.mpr ⟨(x, v), hm, hkx.symm⟩)
      rw [if_neg hne, ih ht hm]

/-- What is found under a key is entered there. -/
theorem mem_of_get? {t : Table α} {x : String} {v : α} (h : t.get? x = some v) : (x, v) ∈ t := by
  induction t with
  | nil => cases h
  | cons e t ih =>
    obtain ⟨k, w⟩ := e
    by_cases hk : k = x
    · rw [get?, if_pos hk] at h
      cases h
      exact hk ▸ List.mem_cons_self
    · rw [get?, if_neg hk] at h
      exact List.mem_cons_of_mem _ (ih h)

theorem mem_keys_iff {t : Table α} {x : String} : x ∈ t.keys ↔ (t.get? x).isSome := by
  induction t with
  | nil => simp [keys, get?]
  | cons e t ih =>
    obtain ⟨k, w⟩ := e
    have hkeys : keys ((k, w) :: t) = k :: keys t := rfl
    rw [hkeys, List.mem_cons, get?, ih]
    by_cases hk : k = x
    · simp [hk]
    · simp [hk, Ne.symm hk]

theorem get?_eq_find? (t : Table α) (x : String) :
    t.get? x = (t.find? fun e => e.1 == x).map Prod.snd := by
  induction t with
  | nil => rfl
  | cons e t ih =>
    obtain ⟨k, w⟩ := e
    rw [get?, List.find?_cons]
    by_cases hk : k = x
    · rw [if_pos hk, beq_iff_eq.mpr hk]
      rfl
    · rw [if_neg hk, beq_eq_false_iff_ne.mpr hk, ih]

/-- The value is entered under a key that fits, and no key before it fits. -/
def FirstWhere (p : String → Prop) (t : Table α) (v : α) : Prop :=
  ∃ before key after, t = before ++ (key, v) :: after ∧ p key ∧ ∀ e ∈ before, ¬ p e.1

theorem find?_map_eq_some_iff {p : String → Prop} {q : String → Bool} (hq : ∀ k, q k = true ↔ p k)
    {t : Table α} {v : α} :
    (t.find? fun e => q e.1).map Prod.snd = some v ↔ FirstWhere p t v := by
  rw [Option.map_eq_some_iff]
  constructor
  · rintro ⟨⟨key, w⟩, hfind, rfl⟩
    obtain ⟨hkey, before, after, ht, hbefore⟩ := List.find?_eq_some_iff_append.mp hfind
    refine ⟨before, key, after, ht, (hq key).mp hkey, fun e he hp => ?_⟩
    simpa [(hq e.1).mpr hp] using hbefore e he
  · rintro ⟨before, key, after, ht, hkey, hbefore⟩
    refine ⟨(key, v), List.find?_eq_some_iff_append.mpr ?_, rfl⟩
    refine ⟨(hq key).mpr hkey, before, after, ht, fun e he => ?_⟩
    rw [Bool.not_eq_true', ← Bool.not_eq_true, hq]
    exact hbefore e he

variable {entries : List (String × α)} {x : String} {v : α}

theorem ofEntries_append_singleton (entries : List (String × α)) (e : String × α) :
    ofEntries (entries ++ [e]) = (ofEntries entries).insert e.1 e.2 := by
  rw [ofEntries, List.foldl_append]
  rfl

theorem get?_ofEntries_append (entries : List (String × α)) (e : String × α) (x : String) :
    (ofEntries (entries ++ [e])).get? x =
      if e.1 = x then some e.2 else (ofEntries entries).get? x := by
  rw [ofEntries_append_singleton, get?_insert]

/-- The last entry of a key is the one that is found. -/
theorem get?_ofEntries_eq_some_iff : (ofEntries entries).get? x = some v ↔
    ∃ before after, entries = before ++ (x, v) :: after ∧ ∀ e ∈ after, e.1 ≠ x := by
  induction entries using List.reverseRecOn with
  | nil => simp [ofEntries, get?]
  | append_singleton entries e ih =>
    rw [get?_ofEntries_append]
    constructor
    · intro h
      split_ifs at h with he
      · cases h
        exact ⟨entries, [], by rw [← he], List.forall_mem_nil _⟩
      · obtain ⟨before, after, hentries, hafter⟩ := ih.mp h
        refine ⟨before, after ++ [e], by rw [hentries, List.append_assoc]; rfl, ?_⟩
        intro e' he'
        rcases List.mem_append.mp he' with he' | he'
        · exact hafter e' he'
        · rw [List.mem_singleton.mp he']
          exact he
    · rintro ⟨before, after, hentries, hafter⟩
      -- the new entry is the one that is looked for, or it comes after it and has another key
      rcases List.eq_nil_or_concat after with rfl | ⟨after, e', rfl⟩
      · obtain ⟨-, he⟩ := List.append_inj' hentries rfl
        cases he
        rw [if_pos rfl]
      · rw [List.concat_eq_append] at hentries hafter
        rw [← List.cons_append, ← List.append_assoc] at hentries
        obtain ⟨hinit, hlast⟩ := List.append_inj' hentries rfl
        cases hlast
        rw [if_neg (hafter e (List.mem_append_right _ List.mem_cons_self))]
        exact ih.mpr ⟨before, after, hinit, fun e' he' => hafter e' (List.mem_append_left _ he')⟩

/-- The same with entries that are made of the elements of a list, some of which make none. -/
theorem get?_ofEntries_filterMap {β : Type} {f : β → Option (String × α)} {ls : List β} :
    (ofEntries (ls.filterMap f)).get? x = some v ↔ ∃ before l after,
      ls = before ++ l :: after ∧ f l = some (x, v) ∧ ∀ l' ∈ after, ∀ w, f l' ≠ some (x, w) := by
  rw [get?_ofEntries_eq_some_iff]
  constructor
  · rintro ⟨before, after, hentries, hafter⟩
    obtain ⟨ls₁, ls₂, rfl, -, h⟩ := List.filterMap_eq_append_iff.mp hentries
    obtain ⟨ls₃, l, ls₄, rfl, -, hl, rfl⟩ := List.filterMap_eq_cons_iff.mp h
    refine ⟨ls₁ ++ ls₃, l, ls₄, by rw [List.append_assoc], hl, fun l' hl' w hw => ?_⟩
    exact hafter _ (List.mem_filterMap.mpr ⟨l', hl', hw⟩) rfl
  · rintro ⟨before, l, after, rfl, hl, hafter⟩
    refine ⟨before.filterMap f, after.filterMap f, ?_, ?_⟩
    · rw [List.filterMap_append, List.filterMap_cons_some hl]
    · intro e he hx
      obtain ⟨l', hl', hw⟩ := List.mem_filterMap.mp he
      exact hafter l' hl' e.2 (hw.trans (by rw [← hx]))

/-- The entries of the second table are entered into the first. -/
def override (t u : Table α) : Table α :=
  u.foldl (fun t e => t.insert e.1 e.2) t

theorem override_cons (t : Table α) (e : String × α) (u : Table α) :
    t.override (e :: u) = (t.insert e.1 e.2).override u :=
  rfl

theorem mem_keys_insert {t : Table α} {y : String} :
    y ∈ (t.insert x v).keys ↔ x = y ∨ y ∈ t.keys := by
  rw [mem_keys_iff, mem_keys_iff, get?_insert]
  split_ifs with h <;> simp [h]

theorem keys_insert_of_mem {t : Table α} (h : x ∈ t.keys) (v : α) :
    (t.insert x v).keys = t.keys := by
  induction t with
  | nil => cases h
  | cons e t ih =>
    obtain ⟨k, w⟩ := e
    by_cases hk : k = x
    · rw [insert, if_pos hk]
      rfl
    · have ht : x ∈ keys t := List.mem_of_ne_of_mem (Ne.symm hk) h
      rw [insert, if_neg hk]
      exact congrArg (k :: ·) (ih ht)

theorem nodup_keys_insert {t : Table α} (h : t.keys.Nodup) (x : String) (v : α) :
    (t.insert x v).keys.Nodup := by
  by_cases hx : x ∈ t.keys
  · rwa [keys_insert_of_mem hx]
  · have hkeys : (t.insert x v).keys = t.keys ++ [x] := by
      rw [insert_of_notMem hx, keys, List.map_append]
      rfl
    rw [hkeys, List.nodup_append]
    refine ⟨h, List.nodup_singleton x, ?_⟩
    intro y hy z hz hyz
    rw [List.mem_singleton.mp hz] at hyz
    exact hx (hyz ▸ hy)

theorem nodup_keys_ofEntries (entries : List (String × α)) : (ofEntries entries).keys.Nodup := by
  induction entries using List.reverseRecOn with
  | nil => exact List.nodup_nil
  | append_singleton entries e ih =>
    rw [ofEntries_append_singleton]
    exact nodup_keys_insert ih e.1 e.2

theorem insert_insert (t : Table α) (x : String) (v w : α) :
    (t.insert x v).insert x w = t.insert x w := by
  induction t with
  | nil => simp [insert]
  | cons e t ih =>
    obtain ⟨k, u⟩ := e
    by_cases hk : k = x
    · simp [insert, hk]
    · simp [insert, hk, ih]

/-- A key that is there already keeps its place, whatever other key is entered first. -/
theorem insert_comm {t : Table α} {y : String} (hne : x ≠ y) (hx : x ∈ t.keys) (v w : α) :
    (t.insert y w).insert x v = (t.insert x v).insert y w := by
  induction t with
  | nil => cases hx
  | cons e t ih =>
    obtain ⟨k, u⟩ := e
    by_cases hkx : k = x
    · subst hkx
      simp [insert, hne]
    · have ht : x ∈ keys t := List.mem_of_ne_of_mem (Ne.symm hkx) hx
      by_cases hky : k = y
      · subst hky
        simp [insert, hkx]
      · simp [insert, hkx, hky, ih ht]

theorem insert_override {t u : Table α} (hu : x ∉ u.keys) (hx : x ∈ t.keys) (v : α) :
    (t.override u).insert x v = (t.insert x v).override u := by
  induction u generalizing t with
  | nil => rfl
  | cons e u ih =>
    obtain ⟨hne, hu⟩ := List.ne_and_not_mem_of_not_mem_cons hu
    rw [override_cons, override_cons, ih hu (mem_keys_insert.mpr (Or.inr hx)),
      insert_comm hne hx]

/-- One more entry comes to the whole by coming to the table on top. -/
theorem override_insert (t : Table α) {u : Table α} (hu : u.keys.Nodup) (x : String) (v : α) :
    t.override (u.insert x v) = (t.override u).insert x v := by
  induction u generalizing t with
  | nil => rfl
  | cons e u ih =>
    obtain ⟨k, w⟩ := e
    obtain ⟨hk, hu⟩ := List.nodup_cons.mp hu
    by_cases hkx : k = x
    · subst hkx
      have hmem : k ∈ (t.insert k w).keys := mem_keys_insert.mpr (Or.inl rfl)
      rw [insert, if_pos rfl, override_cons, override_cons, insert_override hk hmem,
        insert_insert]
    · rw [insert, if_neg hkx, override_cons, override_cons, ih _ hu]

theorem ofEntries_append (as bs : List (String × α)) :
    ofEntries (as ++ bs) = (ofEntries as).override (ofEntries bs) := by
  induction bs using List.reverseRecOn with
  | nil =>
    rw [List.append_nil]
    rfl
  | append_singleton bs e ih =>
    rw [← List.append_assoc, ofEntries_append_singleton, ofEntries_append_singleton, ih,
      override_insert _ (nodup_keys_ofEntries bs)]

/-- What is entered in the table on top is found, and otherwise what is entered below. -/
theorem get?_override (t : Table α) {u : Table α} (hu : u.keys.Nodup) (x : String) :
    (t.override u).get? x = (u.get? x).or (t.get? x) := by
  induction u generalizing t with
  | nil => rfl
  | cons e u ih =>
    obtain ⟨k, w⟩ := e
    obtain ⟨hk, hu⟩ := List.nodup_cons.mp hu
    rw [override_cons, ih _ hu, get?_insert, get?]
    split_ifs with hkx
    · subst hkx
      have hnone : get? u k = none := by
        rw [← Option.not_isSome_iff_eq_none, ← mem_keys_iff]
        exact hk
      rw [hnone, Option.none_or, Option.some_or]
    · rfl

end CallAttribution.Table
