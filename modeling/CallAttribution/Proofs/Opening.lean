import CallAttribution.Json.Reader
import CallAttribution.Proofs.FileTree
import CallAttribution.Proofs.Toml.Digits
import CallAttribution.Toml.Reader

/-!
# How documents begin

The first character of a JSON document that is no blank tells whether the document is an object: an
object begins with a brace. No statement of a TOML document begins with one. So no text is a
configuration and an object of JSON at the same time.
-/

namespace CallAttribution

namespace Json

open State

/-- The outermost of the open containers is an array. -/
def InArray (fs : List Frame) : Prop :=
  ∃ items, fs.getLast? = some (.arr items)

def IsObject : Value → Prop
  | .obj _ => True
  | _ => False

/-- What is being read outside of all containers is no object. -/
def Mode.IsScalar : Mode → Prop
  | .done v | .word _ v => ¬ IsObject v
  | .text _ _ | .escaped _ _ | .codeUnit _ _ _ _ _ | .secondHalf _ _ _ _ | .number _ => True
  | _ => False

def Mode.IsDone : Mode → Prop
  | .done _ => True
  | _ => False

/-- A document has been begun that will not turn out to be an object. -/
inductive Aside : State → Prop
  | inArray {fs : List Frame} {mode : Mode} (h : InArray fs) (hmode : ¬ mode.IsDone) :
    Aside ⟨fs, mode⟩
  | scalar {mode : Mode} (h : mode.IsScalar) : Aside ⟨[], mode⟩

theorem inArray_cons {f : Frame} {fs : List Frame} :
    InArray (f :: fs) ↔ InArray fs ∨ fs = [] ∧ ∃ items, f = .arr items := by
  cases fs <;> simp [InArray]

theorem not_inArray_nil : ¬ InArray [] := by
  simp [InArray]

/-- These containers may take a value without the document becoming an object. -/
def Takes (fs : List Frame) (v : Value) : Prop :=
  InArray fs ∨ fs = [] ∧ ¬ IsObject v

theorem aside_complete {fs : List Frame} {v : Value} (h : Takes fs v) :
    Aside (complete fs v) := by
  rcases h with h | ⟨rfl, hv⟩
  · cases fs with
    | nil => exact absurd h not_inArray_nil
    | cons f fs =>
      rw [inArray_cons] at h
      cases f with
      | arr items =>
        refine .inArray (inArray_cons.mpr ?_) id
        exact h.imp_right fun h => ⟨h.1, v :: items, rfl⟩
      | obj members key =>
        refine .inArray (inArray_cons.mpr (Or.inl ?_)) id
        exact h.resolve_right fun ⟨_, _, hf⟩ => by cases hf
  · exact .scalar hv

theorem aside_completeText {fs : List Frame} {isKey : Bool} {chars : List Char}
    (h : InArray fs ∨ fs = []) : Aside (completeText fs isKey chars) := by
  have htakes (s : String) : Takes fs (.str s) := h.imp_right fun h => ⟨h, id⟩
  unfold completeText
  split
  · rw [inArray_cons] at h
    refine .inArray (inArray_cons.mpr (Or.inl ?_)) id
    simpa using h
  · exact aside_complete (htakes _)

theorem aside_close? {fs : List Frame} {c : Char} {s : State} (h : InArray fs)
    (hs : close? fs c = some s) : Aside s := by
  cases fs with
  | nil => cases hs
  | cons f fs =>
    rw [inArray_cons] at h
    cases f with
    | arr items =>
      simp only [close?, Option.ite_none_right_eq_some, Option.some.injEq] at hs
      rw [← hs.2]
      exact aside_complete (h.imp_right fun h => ⟨h.1, id⟩)
    | obj members key =>
      simp only [close?, Option.ite_none_right_eq_some, Option.some.injEq] at hs
      rw [← hs.2]
      exact aside_complete (Or.inl (h.resolve_right fun ⟨_, _, hf⟩ => by cases hf))

theorem aside_push? {fs : List Frame} {f : Frame} {mode : Mode} {s : State}
    (h : InArray (f :: fs)) (hmode : ¬ mode.IsDone) (hs : push? fs f mode = some s) :
    Aside s := by
  simp only [push?, Option.ite_none_right_eq_some, Option.some.injEq] at hs
  rw [← hs.2]
  exact .inArray h hmode

/-- A value inside of an array, or one outside of all containers that does not begin with a
brace. -/
theorem aside_begin? {fs : List Frame} {c : Char} {s : State}
    (h : InArray fs ∨ fs = [] ∧ c ≠ '\x7b') (hs : begin? fs c = some s) : Aside s := by
  have hstart {mode : Mode} (hmode : ¬ mode.IsDone) (hscalar : mode.IsScalar) :
      Aside ⟨fs, mode⟩ := by
    rcases h with h | ⟨rfl, -⟩
    · exact .inArray h hmode
    · exact .scalar hscalar
  unfold begin? at hs
  split_ifs at hs with h₁ h₂ h₃ h₄ h₅ h₆
  · cases hs
    exact hstart id trivial
  · exact aside_push? (inArray_cons.mpr (h.imp_right fun h => ⟨h.1, [], rfl⟩)) id hs
  · refine aside_push? (inArray_cons.mpr (Or.inl ?_)) id hs
    exact h.resolve_right fun h => h.2 h₃
  · cases hs
    exact hstart id id
  · cases hs
    exact hstart id id
  · cases hs
    exact hstart id id
  · obtain ⟨n, -, rfl⟩ := Option.map_eq_some_iff.mp hs
    exact hstart id trivial

theorem aside_afterValue? {fs : List Frame} {c : Char} {s : State} (h : InArray fs)
    (hs : afterValue? fs c = some s) : Aside s := by
  unfold afterValue? at hs
  split_ifs at hs
  · split at hs <;> cases hs
    · exact .inArray h id
    · exact .inArray h id
  · exact aside_close? h hs

theorem aside_between? {fs : List Frame} {mode : Mode} {c : Char} {s : State}
    (h : Aside ⟨fs, mode⟩) (hs : between? fs mode c = some s) : Aside s := by
  unfold between? at hs
  by_cases hblank : isBlank c = true
  · rw [if_pos hblank] at hs
    cases hs
    exact h
  · rw [if_neg hblank] at hs
    cases h with
    | scalar hscalar =>
      -- outside of all containers only a complete document waits, and only for blanks
      split at hs <;> first | exact hscalar.elim | cases hs
    | inArray h hmode =>
      split at hs
      · exact aside_begin? (Or.inl h) hs
      · split_ifs at hs
        · exact aside_close? h hs
        · exact aside_begin? (Or.inl h) hs
      · split_ifs at hs
        · cases hs
          exact .inArray h id
        · exact aside_close? h hs
      · split_ifs at hs
        cases hs
        exact .inArray h id
      · split_ifs at hs
        cases hs
        exact .inArray h id
      · exact aside_afterValue? h hs
      · cases hs

/-- Where a document stands inside of a string, a numeral or a word. -/
theorem Aside.of_scalar {fs : List Frame} {mode mode' : Mode} (h : Aside ⟨fs, mode⟩)
    (hscalar : mode'.IsScalar) (hdone : ¬ mode'.IsDone) : Aside ⟨fs, mode'⟩ := by
  cases h with
  | inArray h _ => exact .inArray h hdone
  | scalar _ => exact .scalar hscalar

theorem Aside.frames {fs : List Frame} {mode : Mode} (h : Aside ⟨fs, mode⟩) :
    InArray fs ∨ fs = [] := by
  cases h with
  | inArray h _ => exact Or.inl h
  | scalar _ => exact Or.inr rfl

theorem aside_completeUnit? {fs : List Frame} {mode : Mode} {isKey : Bool} {chars : List Char}
    {high : Option Nat} {code : Nat} {s : State} (h : Aside ⟨fs, mode⟩)
    (hs : completeUnit? fs isKey chars high code = some s) : Aside s := by
  unfold completeUnit? at hs
  split at hs <;> split_ifs at hs <;> cases hs <;> exact h.of_scalar trivial id

theorem not_isObject_of_value? {n : Numeral} {v : Value} (h : n.value? = some v) :
    ¬ IsObject v := by
  have hreal {x : Binary64} {w : Value} (hw : Numeral.real? x = some w) : ¬ IsObject w := by
    obtain ⟨-, hw⟩ := Option.ite_none_right_eq_some.mp hw
    cases hw
    exact id
  unfold Numeral.value? at h
  split at h
  · split_ifs at h
    · cases h
      exact id
    · exact hreal h
  · split_ifs at h
    · cases h
      exact id
    · exact hreal h
  · exact hreal h
  · exact hreal h
  · cases h

theorem aside_afterNumber? {fs : List Frame} {n : Numeral} {c : Char} {s : State}
    (h : Aside ⟨fs, .number n⟩) (hs : afterNumber? fs n c = some s) : Aside s := by
  obtain ⟨v, hv, hs⟩ := Option.bind_eq_some_iff.mp hs
  have htakes : Takes fs v := h.frames.imp_right fun h => ⟨h, not_isObject_of_value? hv⟩
  exact aside_between? (aside_complete htakes) hs

/-- A document that is no object so far does not become one by any further character. -/
theorem aside_step {s s' : State} {c : Char} (h : Aside s) (hs : s.step c = some s') :
    Aside s' := by
  obtain ⟨fs, mode⟩ := s
  cases mode with
  | text isKey chars =>
    simp only [step] at hs
    split_ifs at hs <;> cases hs
    · exact aside_completeText h.frames
    · exact h.of_scalar trivial id
    · exact h.of_scalar trivial id
  | escaped isKey chars =>
    simp only [step] at hs
    split_ifs at hs
    · cases hs
      exact h.of_scalar trivial id
    · obtain ⟨d, -, rfl⟩ := Option.map_eq_some_iff.mp hs
      exact h.of_scalar trivial id
  | codeUnit isKey chars high left code =>
    obtain ⟨d, -, hs⟩ := Option.bind_eq_some_iff.mp hs
    split_ifs at hs
    · exact aside_completeUnit? h hs
    · cases hs
      exact h.of_scalar trivial id
  | secondHalf isKey chars high slash =>
    simp only [step] at hs
    split_ifs at hs <;> cases hs
    · exact h.of_scalar trivial id
    · exact h.of_scalar trivial id
  | number n =>
    simp only [step] at hs
    split at hs
    · cases hs
      exact h.of_scalar trivial id
    · exact aside_afterNumber? h hs
  | word left v =>
    cases left with
    | nil => cases hs
    | cons d left =>
      simp only [step] at hs
      split_ifs at hs <;> cases hs
      · cases h with
        | inArray h _ => exact aside_complete (Or.inl h)
        | scalar h => exact aside_complete (Or.inr ⟨rfl, h⟩)
      · cases h with
        | inArray h _ => exact .inArray h id
        | scalar h => exact .scalar h
  | value => exact aside_between? h hs
  | item => exact aside_between? h hs
  | member => exact aside_between? h hs
  | key => exact aside_between? h hs
  | colon => exact aside_between? h hs
  | rest => exact aside_between? h hs
  | done v => exact aside_between? h hs

theorem not_isObject_of_finish? {s : State} {v : Value} (h : Aside s)
    (hv : s.finish? = some v) : ¬ IsObject v := by
  cases h with
  | @inArray fs mode h hmode =>
    cases mode with
    | done w => exact absurd trivial hmode
    | number n =>
      cases fs with
      | nil => exact absurd h not_inArray_nil
      | cons f fs => cases hv
    | _ => cases hv
  | @scalar mode h =>
    cases mode with
    | done w =>
      cases hv
      exact h
    | number n => exact not_isObject_of_value? hv
    | _ => cases hv

theorem not_isObject_of_foldlM {cs : List Char} {s s' : State} {v : Value} (h : Aside s)
    (hs : cs.foldlM step s = some s') (hv : s'.finish? = some v) : ¬ IsObject v := by
  induction cs generalizing s with
  | nil =>
    cases hs
    exact not_isObject_of_finish? h hv
  | cons c cs ih =>
    obtain ⟨t, ht, hs⟩ := Option.bind_eq_some_iff.mp (List.foldlM_cons.symm.trans hs)
    exact ih (aside_step h ht) hs

/-- The first character that is no blank opens the document. -/
def opening? (cs : List Char) : Option Char :=
  cs.find? fun c => !isBlank c

theorem opening?_blank {c : Char} (h : isBlank c = true) (cs : List Char) :
    opening? (c :: cs) = opening? cs := by
  simp [opening?, h]

theorem opening?_cons {c : Char} (h : isBlank c = false) (cs : List Char) :
    opening? (c :: cs) = some c := by
  simp [opening?, h]

/-- A document that is an object begins with a brace. -/
theorem opening?_of_obj {cs : List Char} {ms : Table Value}
    (h : readChars? cs = some (.obj ms)) : opening? cs = some '\x7b' := by
  obtain ⟨s, hs, hv⟩ := Option.bind_eq_some_iff.mp h
  clear h
  induction cs with
  | nil =>
    cases hs
    cases hv
  | cons c cs ih =>
    obtain ⟨t, ht, hs⟩ := Option.bind_eq_some_iff.mp (List.foldlM_cons.symm.trans hs)
    change between? [] .value c = some t at ht
    unfold between? at ht
    cases hc : isBlank c with
    | true =>
      rw [if_pos hc] at ht
      cases ht
      rw [opening?_blank hc]
      exact ih hs
    | false =>
      rw [if_neg (by simp [hc])] at ht
      rw [opening?_cons hc, Option.some.injEq]
      refine Decidable.byContradiction fun hne => ?_
      exact not_isObject_of_foldlM (aside_begin? (Or.inr ⟨rfl, hne⟩) ht) hs hv trivial

end Json

namespace Toml

open Json (opening? opening?_blank opening?_cons)

theorem isBlank_of_isBlank {c : Char} (h : isBlank c = true) : Json.State.isBlank c = true := by
  simp only [isBlank, Json.State.isBlank, Bool.or_eq_true] at h ⊢
  exact Or.inl (Or.inl h)

theorem opening?_dropWhile (cs : List Char) : opening? (cs.dropWhile isBlank) = opening? cs := by
  induction cs with
  | nil => rfl
  | cons c cs ih =>
    cases hc : isBlank c with
    | true => rw [List.dropWhile_cons_of_pos hc, ih, opening?_blank (isBlank_of_isBlank hc)]
    | false => rw [List.dropWhile_cons_of_neg (by simp [hc])]

/-- Line ends are blanks, and so is what is left of them. -/
theorem opening?_unifyLineEnds (cs : List Char) : opening? (unifyLineEnds cs) = opening? cs := by
  fun_induction unifyLineEnds cs with
  | case1 cs ih => rw [opening?_blank rfl, opening?_blank rfl, opening?_blank rfl, ih]
  | case2 c cs _ ih =>
    cases hc : Json.State.isBlank c with
    | true => rw [opening?_blank hc, opening?_blank hc, ih]
    | false => rw [opening?_cons hc, opening?_cons hc]
  | case3 => rfl

/-- Blank lines apart, a document begins with a statement, and no statement begins with a brace. -/
theorem opening?_of_statements {bound : Nat} {d d' : Document} {cs : List Char}
    (h : statements bound d cs = .ok d') (hbound : cs.length < bound) :
    opening? cs ≠ some '\x7b' := by
  induction bound generalizing d cs with
  | zero => exact absurd hbound (Nat.not_lt_zero _)
  | succ bound ih =>
    rw [statements] at h
    obtain ⟨⟨d₁, rest⟩, hstatement, h⟩ := bind_eq_ok.mp h
    have hlength : (cs.dropWhile isBlank).length ≤ cs.length := (List.dropWhile_suffix _).length_le
    rw [← opening?_dropWhile]
    cases hcs : cs.dropWhile isBlank with
    | nil => simp [opening?]
    | cons c r =>
      rw [hcs] at hstatement hlength
      cases hc : Json.State.isBlank c with
      | false =>
        rw [opening?_cons hc, ne_eq, Option.some.injEq]
        rintro rfl
        cases hstatement
      | true =>
        -- of the blanks of JSON only the line feed ends a statement, which was empty
        obtain rfl : c = '\n' := by
          simp only [Json.State.isBlank, Bool.or_eq_true, beq_iff_eq] at hc
          rcases hc with ((rfl | rfl) | rfl) | rfl
          · cases hstatement
          · cases hstatement
          · rfl
          · cases hstatement
        cases hstatement
        rw [opening?_blank hc]
        exact ih h (by simp only [List.length_cons] at hlength; omega)

theorem opening?_of_read {cs : List Char} {document : Table Value}
    (h : read cs = .ok document) : opening? cs ≠ some '\x7b' := by
  obtain ⟨d, hd, -⟩ := bind_eq_ok.mp h
  rw [← opening?_unifyLineEnds]
  exact opening?_of_statements hd (Nat.lt_succ_self _)

end Toml

/-- What can be read as TOML is no object of JSON. -/
theorem read?_ne_obj_of_toml {b : Bytes} {cs : List Char} {document ms : Table Value}
    (hb : Text.decode? b = some cs) (h : Toml.read cs = .ok document) :
    Json.read? b ≠ some (.obj ms) := by
  rw [Json.read?, hb]
  exact fun hj => Toml.opening?_of_read h (Json.opening?_of_obj hj)

end CallAttribution
