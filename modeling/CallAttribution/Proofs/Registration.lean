import CallAttribution.Batch
import CallAttribution.Proofs.Selection

/-!
# Engines in use

Once it is made, an engine is asked to register more heuristics and to resolve call sites, in any
order. A heuristic whose name is taken is refused with an error, and the engine stays as it is; it
stays so too when it resolves a call site. At every point the engine therefore has, of all
heuristics that were ever to be registered, those that were the first of their names, in the order
in which they came. What was refused leaves nothing behind: leave it out, and everything else is
answered as before.
-/

namespace CallAttribution.Engine

/-- The engine is made from these heuristics: they are registered one after another, or they are
those that a configuration chooses. -/
inductive Made : List Heuristic → Engine → Prop
  | registered {hs : List Heuristic} {e : Engine} (h : empty.registerAll hs = .ok e) : Made hs e
  | configured (c : Config) : Made (c.heuristics.order.map (·.toHeuristic c.addressPrefix)) c.engine

/-- What an engine is asked to do. A call site is resolved in the plain mode or, with a reporter, in
the suspending one. -/
inductive Operation where
  | register (h : Heuristic)
  | resolve (c : Context) (reporter : Option Reporter)

inductive Response where
  | registered
  | refused (error : AlreadyRegistered)
  | resolved (events : List Event) (decision : Option Decision)

def Response.isRefused : Response → Bool
  | refused _ => true
  | _ => false

/-- The heuristic that is to be registered. -/
def Operation.attempt? : Operation → Option Heuristic
  | register h => some h
  | resolve _ _ => none

/-- The heuristics that were to be registered, whether they were or not. -/
def attempts (ops : List Operation) : List Heuristic :=
  ops.filterMap Operation.attempt?

/-- What becomes of the engine, and what it answers. -/
def perform (e : Engine) : Operation → Engine × Response
  | .register h =>
    match e.register h with
    | .ok e' => (e', .registered)
    | .error x => (e, .refused x)
  | .resolve c none =>
    let (events, d) := e.resolvePlain c
    (e, .resolved events d)
  | .resolve c (some r) =>
    let p := e.resolveSuspending c r
    (e, .resolved p.events p.result.1)

/-- The engine after some operations. -/
def after (e : Engine) (ops : List Operation) : Engine :=
  ops.foldl (fun e op => (e.perform op).1) e

/-- The operations with what was answered to them. -/
def transcript (e : Engine) : List Operation → List (Operation × Response)
  | [] => []
  | op :: ops => (op, (e.perform op).2) :: (e.perform op).1.transcript ops

/-- The part of the transcript that is left without the refused attempts. -/
def admitted (e : Engine) (ops : List Operation) : List (Operation × Response) :=
  (e.transcript ops).filter fun x => !x.2.isRefused

/-- The engine has those heuristics of the list that are the first of their names, in their
order. -/
structure HasFirstOf (hs : List Heuristic) (e : Engine) : Prop where
  distinct : e.names.Nodup
  names_eq : e.names = (hs.map (·.name)).eraseDups
  first : ∀ h ∈ e.heuristics, hs.find? (fun g => g.name == h.name) = some h

/-- What an operation does to an engine, whatever is found at a call site. -/
inductive Performs (e : Engine) : Operation → Engine → Response → Prop
  | refused {g : Heuristic} (hg : g.name ∈ e.names) :
    Performs e (.register g) e (.refused ⟨g.name⟩)
  | registered {g : Heuristic} {e' : Engine} (hg : g.name ∉ e.names)
    (he' : e'.heuristics = e.heuristics ++ [g]) : Performs e (.register g) e' .registered
  | resolved {c : Context} {reporter : Option Reporter} {events : List Event}
    {d : Option Decision} : Performs e (.resolve c reporter) e (.resolved events d)

variable {e e' : Engine} {g : Heuristic} {hs : List Heuristic} {op : Operation} {r : Response}

theorem perform_register_of_mem (hg : g.name ∈ e.names) :
    e.perform (.register g) = (e, .refused ⟨g.name⟩) := by
  have hregister : e.register g = .error ⟨g.name⟩ := by rw [Engine.register, dif_pos hg]
  rw [perform, hregister]

theorem perform_register_of_notMem (hg : g.name ∉ e.names) :
    ∃ e', e.perform (.register g) = (e', .registered) ∧ e'.heuristics = e.heuristics ++ [g] := by
  obtain ⟨e', hregister, he'⟩ := register_of_fresh hg
  exact ⟨e', by rw [perform, hregister], he'⟩

theorem perform_resolve_fst (e : Engine) (c : Context) (reporter : Option Reporter) :
    (e.perform (.resolve c reporter)).1 = e := by
  cases reporter <;> rfl

theorem performs_perform (e : Engine) (op : Operation) :
    Performs e op (e.perform op).1 (e.perform op).2 := by
  cases op with
  | register g =>
    by_cases hg : g.name ∈ e.names
    · rw [perform_register_of_mem hg]
      exact .refused hg
    · obtain ⟨e', hperform, he'⟩ := perform_register_of_notMem hg
      rw [hperform]
      exact .registered hg he'
  | resolve c reporter => cases reporter <;> exact .resolved

theorem Performs.eq_of_isRefused (h : Performs e op e' r) (hr : r.isRefused = true) : e' = e := by
  cases h with
  | refused => rfl
  | registered => cases hr
  | resolved => cases hr

theorem Performs.keeps_places (h : Performs e op e' r) :
    e.heuristics <+: e'.heuristics := by
  cases h with
  | refused => exact List.prefix_refl _
  | registered hg he' => exact ⟨_, he'.symm⟩
  | resolved => exact List.prefix_refl _

theorem eraseDups_append_of_mem {x : String} {xs : List String} (h : x ∈ xs) :
    (xs ++ [x]).eraseDups = xs.eraseDups := by
  have hknown : [x].removeAll xs = [] := by simp [List.removeAll, h]
  rw [List.eraseDups_append, hknown, List.eraseDups_nil, List.append_nil]

theorem eraseDups_append_of_notMem {x : String} {xs : List String} (h : x ∉ xs) :
    (xs ++ [x]).eraseDups = xs.eraseDups ++ [x] := by
  have hfresh : [x].removeAll xs = [x] := by simp [List.removeAll, h]
  rw [List.eraseDups_append, hfresh]
  rfl

theorem hasFirstOf_empty : HasFirstOf [] empty where
  distinct := List.nodup_nil
  names_eq := rfl
  first := List.forall_mem_nil _

namespace HasFirstOf

theorem mem_names_iff (h : HasFirstOf hs e) {x : String} :
    x ∈ e.names ↔ x ∈ hs.map (·.name) := by
  rw [h.names_eq, List.mem_eraseDups]

theorem refuse (h : HasFirstOf hs e) (hg : g.name ∈ e.names) : HasFirstOf (hs ++ [g]) e where
  distinct := h.distinct
  names_eq := by
    rw [List.map_append, List.map_singleton, eraseDups_append_of_mem (h.mem_names_iff.mp hg),
      h.names_eq]
  first := by
    intro k hk
    rw [List.find?_append, h.first k hk, Option.some_or]

theorem register (h : HasFirstOf hs e) (hg : g.name ∉ e.names)
    (he' : e'.heuristics = e.heuristics ++ [g]) : HasFirstOf (hs ++ [g]) e' where
  distinct := e'.distinct
  names_eq := by
    have hnames : e'.names = e.names ++ [g.name] := by
      rw [Engine.names, he', List.map_append]
      rfl
    rw [List.map_append, List.map_singleton,
      eraseDups_append_of_notMem (h.mem_names_iff.not.mp hg), hnames, h.names_eq]
  first := by
    intro k hk
    rw [he'] at hk
    rcases List.mem_append.mp hk with hk | hk
    · rw [List.find?_append, h.first k hk, Option.some_or]
    · -- nothing before it has its name
      rw [List.mem_singleton.mp hk]
      have hnone : hs.find? (fun k => k.name == g.name) = none := by
        rw [List.find?_eq_none]
        intro k hk hname
        refine hg (h.mem_names_iff.mpr ?_)
        rw [← beq_iff_eq.mp hname]
        exact List.mem_map_of_mem hk
      rw [List.find?_append, hnone, Option.none_or, List.find?_singleton, beq_self_eq_true,
        if_pos rfl]

theorem performs (h : HasFirstOf hs e) (hp : Performs e op e' r) :
    HasFirstOf (hs ++ op.attempt?.toList) e' := by
  cases hp with
  | refused hg => exact h.refuse hg
  | registered hg he' => exact h.register hg he'
  | resolved => exact (List.append_nil hs).symm ▸ h

theorem after (h : HasFirstOf hs e) (ops : List Operation) :
    HasFirstOf (hs ++ attempts ops) (e.after ops) := by
  induction ops generalizing hs e with
  | nil => exact (List.append_nil hs).symm ▸ h
  | cons op ops ih =>
    have hattempts : attempts (op :: ops) = op.attempt?.toList ++ attempts ops := by
      cases op <;> rfl
    rw [hattempts, ← List.append_assoc]
    exact ih (h.performs (e.performs_perform op))

end HasFirstOf

theorem after_append (e : Engine) (ops more : List Operation) :
    e.after (ops ++ more) = (e.after ops).after more :=
  List.foldl_append

theorem heuristics_prefix_after (e : Engine) (ops : List Operation) :
    e.heuristics <+: (e.after ops).heuristics := by
  induction ops generalizing e with
  | nil => exact List.prefix_refl _
  | cons op ops ih => exact (e.performs_perform op).keeps_places.trans (ih (e.perform op).1)

/-- To make an engine of some heuristics is to register them in an engine that has none. -/
theorem after_register (h : e.registerAll hs = .ok e') :
    e.after (hs.map .register) = e' := by
  induction hs generalizing e with
  | nil =>
    cases h
    rfl
  | cons g hs ih =>
    obtain ⟨e₁, hregister, hrest⟩ := bind_eq_ok.mp h
    have hperform : (e.perform (.register g)).1 = e₁ := by rw [Engine.perform, hregister]
    rw [List.map_cons, Engine.after, List.foldl_cons, hperform]
    exact ih hrest

theorem attempts_register (hs : List Heuristic) : attempts (hs.map .register) = hs := by
  rw [attempts, List.filterMap_map]
  exact List.filterMap_some

theorem Made.registerAll_eq (h : Made hs e) : empty.registerAll hs = .ok e := by
  cases h with
  | registered h => exact h
  | configured c => exact registerAll_eq_ok_iff.mpr rfl

theorem Made.hasFirstOf (h : Made hs e) : HasFirstOf hs e := by
  have hafter := hasFirstOf_empty.after (hs.map .register)
  rwa [after_register h.registerAll_eq, attempts_register, List.nil_append] at hafter

/-- Without what was refused a run comes to the same engine and answers everything else as
before. -/
theorem replay_admitted (e : Engine) (ops : List Operation) :
    e.after ((e.admitted ops).map Prod.fst) = e.after ops ∧
      e.transcript ((e.admitted ops).map Prod.fst) = e.admitted ops := by
  induction ops generalizing e with
  | nil => exact ⟨rfl, rfl⟩
  | cons op ops ih =>
    obtain ⟨hengine, htranscript⟩ := ih (e.perform op).1
    by_cases hrefused : (e.perform op).2.isRefused = true
    · have hsame : (e.perform op).1 = e := (e.performs_perform op).eq_of_isRefused hrefused
      have hskip : e.admitted (op :: ops) = (e.perform op).1.admitted ops := by
        rw [admitted, transcript, List.filter_cons_of_neg (by simp [hrefused])]
        rfl
      have hafter : e.after (op :: ops) = (e.perform op).1.after ops := rfl
      rw [hskip, hafter]
      rw [hsame] at hengine htranscript ⊢
      exact ⟨hengine, htranscript⟩
    · have hkeep : e.admitted (op :: ops) =
          (op, (e.perform op).2) :: (e.perform op).1.admitted ops := by
        rw [admitted, transcript, List.filter_cons_of_pos (by simp [hrefused])]
        rfl
      rw [hkeep, List.map_cons, transcript, htranscript]
      exact ⟨hengine, rfl⟩

/-- At every point an engine has the heuristics that were the first of their names among those that
it was made from and those that were to be registered since, in this order. A heuristic is refused
exactly if its name is taken, and comes last otherwise; neither a refusal nor a resolution changes
the engine, whose heuristics keep their places from then on. The same run without the refused
attempts comes to the same engine, with the same lines and decisions. -/
theorem first_registration_stands (made : Made hs e) (ops : List Operation) :
    HasFirstOf (hs ++ attempts ops) (e.after ops) ∧
      (∀ g, g.name ∈ (e.after ops).names →
        (e.after ops).perform (.register g) = (e.after ops, .refused ⟨g.name⟩)) ∧
      (∀ g, g.name ∉ (e.after ops).names →
        ∃ e', (e.after ops).perform (.register g) = (e', .registered) ∧
          e'.heuristics = (e.after ops).heuristics ++ [g]) ∧
      (∀ c reporter, ((e.after ops).perform (.resolve c reporter)).1 = e.after ops) ∧
      (∀ more, (e.after ops).heuristics <+: (e.after (ops ++ more)).heuristics) ∧
      e.after ((e.admitted ops).map Prod.fst) = e.after ops ∧
      e.transcript ((e.admitted ops).map Prod.fst) = e.admitted ops := by
  refine ⟨made.hasFirstOf.after ops, fun g => perform_register_of_mem,
    fun g => perform_register_of_notMem, (e.after ops).perform_resolve_fst, fun more => ?_,
    e.replay_admitted ops⟩
  rw [after_append]
  exact (e.after ops).heuristics_prefix_after more

/-- A more confident heuristic comes too late for its name, between two call sites, and one that
ties comes last. The decision is still that of the heuristic that was there first. -/
theorem first_registration_stands_late :
    let tied : Finding := ⟨[⟨"0xA", none⟩], 40, by simp, by decide⟩
    let higher : Finding := ⟨[⟨"0xB", none⟩], 90, by simp, by decide⟩
    let fixed := fun (name : String) (f : Option Finding) => (⟨name, "", fun _ => f⟩ : Heuristic)
    let hs := [fixed "first" (some tied), fixed "silent" none]
    let c : Context := ⟨⟨"v", "IToken", "f"⟩, "0x1", ⟨[], []⟩, []⟩
    let ops : List Operation := [.resolve c none, .register (fixed "silent" (some higher)),
      .register (fixed "second" (some tied)), .resolve c (some (.fresh .one))]
    ∃ e, Made hs e ∧ (e.after ops).names = ["first", "silent", "second"] ∧
      (e.after ops).perform (.register (fixed "second" (some higher))) =
        (e.after ops, .refused ⟨"second"⟩) ∧
      (∃ e', (e.after ops).perform (.register (fixed "third" none)) = (e', .registered)) ∧
      e.transcript [.resolve c none, .register (fixed "second" (some tied)),
        .resolve c (some (.fresh .one))] = e.admitted ops ∧
      ((e.after ops).resolvePlain c).2 = some ⟨"first", [⟨"0xA", none⟩], 40⟩ := by
  intro tied higher fixed hs c ops
  let e : Engine := ⟨hs, by decide⟩
  have made : Made hs e := .registered (registerAll_eq_ok_iff.mpr rfl)
  obtain ⟨hfirst, hrefuse, hregister, -, -, -, hreplay⟩ := first_registration_stands made ops
  have hnames : (e.after ops).names = ["first", "silent", "second"] := by
    rw [hfirst.names_eq]
    decide +kernel
  obtain ⟨e', hthird, -⟩ := hregister (fixed "third" none) (by rw [hnames]; decide)
  have hdecision : ((e.after ops).resolvePlain c).2 = some ⟨"first", [⟨"0xA", none⟩], 40⟩ := by
    rw [resolvePlain, result_resolve]
    rfl
  exact ⟨e, made, hnames, hrefuse _ (by rw [hnames]; decide), ⟨e', hthird⟩, hreplay, hdecision⟩

end CallAttribution.Engine
