import CallAttribution.Proofs.Delivery
import CallAttribution.Proofs.Json.RoundTrip
import Mathlib.Tactic.SplitIfs

/-!
# Documents of records and summaries

The document of a record or of a summary has the shape that is checked when it is read, and it
denotes the same record or summary again. A record is only accepted with a confidence within its
bounds, and a summary is only readable with counts in range.
-/

namespace CallAttribution

open Schema

namespace Schema

/-- The elements of an array that denotes a list are accepted as this list. -/
theorem elements_toValues {α : Type} {shape : Value → Checked α} {toJson : α → Json} {xs : List α}
    (h : ∀ x ∈ xs, shape (toJson x).toValue = .accepted x) (i : Nat) :
    elements shape i (Json.toValues (xs.map toJson)) = .accepted xs := by
  induction xs generalizing i with
  | nil => rfl
  | cons x xs ih =>
    obtain ⟨hx, hxs⟩ := List.forall_mem_cons.mp h
    simp only [List.map_cons, Json.toValues, elements, hx, ih hxs, Checked.under_accepted,
      Checked.map_accepted, Checked.accepted_seq_accepted]

theorem members_toMembers (t : Table Int) :
    members integer (Json.toMembers (t.map fun e => (e.1, .int e.2))) = .accepted t := by
  induction t with
  | nil => rfl
  | cons e t ih =>
    simp only [List.map_cons, Json.toMembers, Json.toValue, members, integer, ih,
      Checked.under_accepted, Checked.map_accepted, Checked.accepted_seq_accepted]

end Schema

theorem CallSite.shape_toJson (c : CallSite) : shape c.toJson.toValue = .accepted c := rfl

theorem Candidate.shape_toJson (c : Candidate) : shape c.toJson.toValue = .accepted c := by
  obtain ⟨address, name⟩ := c
  cases name <;> rfl

namespace Decision

theorem confidenceShape_int {i : Int} (h : 0 ≤ i ∧ i ≤ maxConfidence) :
    confidenceShape (.int i) = .accepted i := by
  have hmost : atMost maxConfidence (integer (.int i)) = .accepted i := if_neg (by omega)
  rw [confidenceShape, hmost]
  exact if_neg (by omega)

theorem shape_toJson {d : Decision} (h : 0 ≤ d.confidence ∧ d.confidence ≤ maxConfidence) :
    shape d.toJson.toValue = .accepted d := by
  have hm : tuple Candidate.shape (.arr (Json.toValues (d.candidates.map Candidate.toJson))) =
      .accepted d.candidates :=
    elements_toValues (fun c _ => c.shape_toJson) 0
  change mk <$> Checked.accepted d.heuristic
    <*> (tuple Candidate.shape (.arr (Json.toValues (d.candidates.map Candidate.toJson)))).under
      "matches"
    <*> (confidenceShape (.int d.confidence)).under "confidence" = _
  rw [hm, confidenceShape_int h]
  rfl

end Decision

namespace Record

theorem shape_toJson {r : Record} (h : r.Consistent) : shape r.toJson.toValue = .accepted r := by
  obtain ⟨version, caller, call, resolved, decision⟩ := r
  cases decision with
  | none => rfl
  | some d =>
    have hd := Decision.shape_toJson (h.confidence d rfl)
    change mk <$> Checked.accepted version <*> Checked.accepted caller
      <*> Checked.accepted call <*> Checked.accepted resolved
      <*> (some <$> Decision.shape d.toJson.toValue).under "decision" = _
    rw [hd]
    rfl

end Record

namespace Summary

theorem shape_toJson (s : Summary) : shape s.toJson.toValue = .accepted s := by
  have ht := members_toMembers s.byHeuristic
  change mk <$> Checked.accepted s.version <*> Checked.accepted s.total
    <*> Checked.accepted s.resolved <*> Checked.accepted s.unresolved
    <*> (members integer
      (Json.toMembers (s.byHeuristic.map fun e => (e.1, .int e.2)))).under "by_heuristic"
    <*> Checked.accepted s.cancelled = _
  rw [ht]
  rfl

end Summary

namespace Json

theorem readableAll_map {α : Type} {toJson : α → Json} {room : Nat} {xs : List α}
    (h : ∀ x ∈ xs, (toJson x).Readable room) : ReadableAll room (xs.map toJson) := by
  induction xs with
  | nil => trivial
  | cons x xs ih =>
    obtain ⟨hx, hxs⟩ := List.forall_mem_cons.mp h
    exact ⟨hx, ih hxs⟩

mutual

/-- What is read for what it was written for has no whole number that does not fit. -/
theorem fits_of_readable {room : Nat} (j : Json) (h : j.Readable room) : j.fits = true := by
  match j with
  | .null | .bool _ | .str _ => rfl
  | .int i => exact h
  | .arr js => exact fitsAll_of_readable js h.2
  | .obj ms => exact fitsMembers_of_readable ms h.2.2

theorem fitsAll_of_readable {room : Nat} (js : List Json) (h : ReadableAll room js) :
    fitsAll js = true := by
  match js with
  | [] => rfl
  | j :: js =>
    rw [fitsAll, fits_of_readable j h.1, fitsAll_of_readable js h.2]
    rfl

theorem fitsMembers_of_readable {room : Nat} (ms : List (String × Json))
    (h : ReadableMembers room ms) : fitsMembers ms = true := by
  match ms with
  | [] => rfl
  | (_, j) :: ms =>
    rw [fitsMembers, fits_of_readable j h.1, fitsMembers_of_readable ms h.2]
    rfl

end

theorem readableMembers_of_fits {room : Nat} {t : Table Int}
    (h : fitsMembers (t.map fun e => (e.1, .int e.2)) = true) :
    ReadableMembers room (t.map fun e => (e.1, .int e.2)) := by
  induction t with
  | nil => trivial
  | cons e t ih =>
    simp only [List.map_cons, fitsMembers, Bool.and_eq_true] at h
    exact ⟨h.1, ih h.2⟩

end Json

theorem CallSite.readable_toJson (c : CallSite) {room : Nat} (h : 0 < room) :
    c.toJson.Readable room :=
  ⟨h, by simp, trivial, trivial, trivial, trivial⟩

theorem Candidate.readable_toJson (c : Candidate) {room : Nat} (h : 0 < room) :
    c.toJson.Readable room := by
  obtain ⟨address, name⟩ := c
  cases name <;> exact ⟨h, by simp, trivial, trivial, trivial⟩

theorem Decision.readable_toJson {d : Decision}
    (h : 0 ≤ d.confidence ∧ d.confidence ≤ maxConfidence) {room : Nat} (hr : 3 ≤ room) :
    d.toJson.Readable room := by
  have hc : Json.inRange d.confidence = true := by
    have hle : d.confidence ≤ 100 := h.2
    simp only [Json.inRange, Bool.and_eq_true, decide_eq_true_eq]
    omega
  have hm : Json.ReadableAll (room - 1 - 1) (d.candidates.map Candidate.toJson) :=
    Json.readableAll_map fun c _ => c.readable_toJson (by omega)
  exact ⟨by omega, by simp, hc, trivial, ⟨by omega, hm⟩, trivial⟩

theorem Record.readable_toJson {r : Record} (h : r.Consistent) {room : Nat} (hr : 4 ≤ room) :
    r.toJson.Readable room := by
  have hcall : r.call.toJson.Readable (room - 1) := r.call.readable_toJson (by omega)
  have hv : Json.inRange r.version = true := by
    rw [h.version]
    rfl
  obtain ⟨version, caller, call, resolved, decision⟩ := r
  cases decision with
  | none => exact ⟨by omega, by simp, hcall, trivial, trivial, trivial, hv, trivial⟩
  | some d =>
    have hd : d.toJson.Readable (room - 1) :=
      Decision.readable_toJson (h.confidence d rfl) (by omega)
    exact ⟨by omega, by simp, hcall, trivial, hd, trivial, hv, trivial⟩

theorem Record.Consistent.fits {r : Record} (h : r.Consistent) : r.toJson.fits = true :=
  Json.fits_of_readable r.toJson (r.readable_toJson h (Nat.le_refl 4))

namespace Summary

/-- The names of a table are strictly increasing. -/
def Increasing (t : Table Int) : Prop :=
  t.keys.Pairwise (· < ·)

theorem mem_keys_count {name k : String} {t : Table Int} (h : k ∈ (count name t).keys) :
    k = name ∨ k ∈ t.keys := by
  induction t with
  | nil => simpa [count, Table.keys] using h
  | cons e t ih =>
    obtain ⟨x, n⟩ := e
    rw [count] at h
    split_ifs at h with h₁ h₂
    · simpa [Table.keys] using h
    · exact Or.inr (by simpa [Table.keys] using h)
    · rcases List.mem_cons.mp h with rfl | h
      · simp [Table.keys]
      · rcases ih h with hk | hk
        · exact Or.inl hk
        · exact Or.inr (List.mem_cons_of_mem _ hk)

theorem increasing_count (name : String) {t : Table Int} (h : Increasing t) :
    Increasing (count name t) := by
  induction t with
  | nil => simp [count, Increasing, Table.keys]
  | cons e t ih =>
    obtain ⟨k, n⟩ := e
    obtain ⟨hk, ht⟩ := List.pairwise_cons.mp h
    rw [count]
    split_ifs with h₁ h₂
    · refine List.pairwise_cons.mpr ⟨fun x hx => ?_, h⟩
      rcases List.mem_cons.mp hx with rfl | hx
      · exact h₁
      · exact String.lt_trans h₁ (hk x hx)
    · exact h
    · refine List.pairwise_cons.mpr ⟨fun x hx => ?_, ih ht⟩
      rcases mem_keys_count hx with rfl | hx
      · exact String.not_le.mp fun hle => h₂ (String.le_antisymm (String.not_lt.mp h₁) hle)
      · exact hk x hx

theorem increasing_tally (records : List Record) : Increasing (tally records) := by
  unfold tally
  induction records.filterMap (·.decision) with
  | nil => exact List.Pairwise.nil
  | cons d ds ih => exact increasing_count d.heuristic ih

theorem nodup_keys_tally (records : List Record) : (tally records).keys.Nodup :=
  (increasing_tally records).imp fun hlt => String.ne_of_lt hlt

/-- The summary of records is readable as soon as its counts are in range. -/
theorem readable_toJson {records : List Record} {cancelled : Bool}
    (h : (ofRecords records cancelled).toJson.fits = true) {room : Nat} (hr : 2 ≤ room) :
    (ofRecords records cancelled).toJson.Readable room := by
  have hkeys := nodup_keys_tally records
  simp only [toJson, Json.fits, Json.fitsMembers, Bool.and_eq_true] at h
  obtain ⟨ht, -, hres, hv, htot, hun, -⟩ := h
  have hm : Json.ReadableMembers (room - 1 - 1) _ := Json.readableMembers_of_fits ht
  have hn : ((tally records).map fun e => (e.1, Json.int e.2)).map Prod.fst =
      (tally records).keys := by
    simp [Table.keys]
  exact ⟨by omega, by simp, ⟨by omega, hn ▸ hkeys, hm⟩, trivial, hres, hv, htot, hun, trivial⟩

end Summary

end CallAttribution
