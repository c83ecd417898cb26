import PageBridge.Proofs.Installation.Plan
import PageBridge.Proofs.Text.Blank

/-!
# Why a request is refused

A request needs five things, and they are looked at in one order: a namespace that is a name, a key
that is not blank, and the scripts of the page half, the bridge half and the channel, the last one only
if a path for it is given.  `Lacks` says what it means to lack one of them, and with which error.  A
request has no plan exactly when it lacks something, and it fails with the error of the first thing
that it lacks (`resolve_refuses_first_lack`).  User scripts are no such thing: with others the request
fails in the same way, or has the same plan with other user scripts (`Plan.resolve_withScripts`).
-/

namespace PageBridge.Installation

open PageBridge.Script (Descriptor Loader Loaded)
open PageBridge.Text

/-! ## Checks in a row -/

/-- Of two computations in a row the first one fails, or the second one with what the first one
gives. -/
theorem bind_eq_error_iff {α β : Type} {x : Except Error α} {f : α → Except Error β} {e : Error} :
    x >>= f = .error e ↔ x = .error e ∨ ∃ a, x = .ok a ∧ f a = .error e := by
  cases x with
  | error e' =>
      refine ⟨fun h => Or.inl (congrArg Except.error (Except.error.inj h)), ?_⟩
      rintro (h | ⟨a, h, -⟩)
      · exact congrArg Except.error (Except.error.inj h)
      · cases h
  | ok a =>
      refine ⟨fun h => Or.inr ⟨a, rfl, h⟩, ?_⟩
      rintro (h | ⟨a', h, herror⟩)
      · cases h
      · rwa [← Except.ok.inj h] at herror

/-- What is made of its result is nothing to a computation that fails. -/
theorem map_eq_error_iff {α β : Type} {x : Except Error α} {f : α → β} {e : Error} :
    x.map f = .error e ↔ x = .error e := by
  cases x with
  | error e' =>
      exact ⟨fun h => congrArg Except.error (Except.error.inj h),
        fun h => congrArg Except.error (Except.error.inj h)⟩
  | ok a => exact ⟨nofun, nofun⟩

/-- A chain of checks fails with the error of the first check that fails. -/
theorem forM_eq_error_iff {α : Type} {check : α → Except Error Unit} {items : List α} {e : Error} :
    items.forM check = .error e ↔ ∃ before item after, items = before ++ item :: after ∧
      check item = .error e ∧ ∀ earlier ∈ before, check earlier = .ok () := by
  induction items with
  | nil =>
      refine ⟨nofun, ?_⟩
      rintro ⟨before, item, after, hnil, -⟩
      exact absurd hnil.symm (List.append_ne_nil_of_right_ne_nil before (List.cons_ne_nil _ _))
  | cons first items ih =>
      have hchain : (first :: items).forM check = check first >>= fun _ => items.forM check := rfl
      rw [hchain, bind_eq_error_iff, ih]
      constructor
      · rintro (hfirst | ⟨u, hfirst, before, item, after, rfl, hitem, hbefore⟩)
        · exact ⟨[], first, items, rfl, hfirst, nofun⟩
        · exact ⟨first :: before, item, after, rfl, hitem,
            List.forall_mem_cons.mpr ⟨hfirst, hbefore⟩⟩
      · rintro ⟨before, item, after, hitems, hitem, hbefore⟩
        -- the check that fails is the first one, or the first one has passed
        cases before with
        | nil =>
            obtain ⟨rfl, -⟩ := List.cons.inj hitems
            exact Or.inl hitem
        | cons other before =>
            obtain ⟨rfl, rfl⟩ := List.cons.inj hitems
            obtain ⟨hfirst, hlater⟩ := List.forall_mem_cons.mp hbefore
            exact Or.inr ⟨(), hfirst, before, item, after, rfl, hitem, hlater⟩

/-- Every check of a chain that passes has passed. -/
theorem check_of_forM_eq_ok {α : Type} {check : α → Except Error Unit} {items : List α}
    (h : items.forM check = .ok ()) {item : α} (hmem : item ∈ items) : check item = .ok () := by
  induction items with
  | nil => cases hmem
  | cons first items ih =>
      obtain ⟨u, hfirst, hrest⟩ := exists_of_bind h
      rcases List.mem_cons.mp hmem with rfl | hmem
      · exact hfirst
      · exact ih hrest hmem

/-! ## Names -/

/-- The letters of ASCII, `_` and `$`. -/
def StartsName (c : Char) : Prop :=
  ('A' ≤ c ∧ c ≤ 'Z') ∨ ('a' ≤ c ∧ c ≤ 'z') ∨ c = '_' ∨ c = '$'

/-- Whether a text has the form `[A-Za-z_$][A-Za-z0-9_$]*`. -/
def IsName (text : String) : Prop :=
  ∃ c cs, text.toList = c :: cs ∧ StartsName c ∧ ∀ d ∈ cs, StartsName d ∨ ('0' ≤ d ∧ d ≤ '9')

/-- The check of a first character knows exactly these characters. -/
theorem startsIdentifier_iff {c : Char} : startsIdentifier c = true ↔ StartsName c := by
  simp [startsIdentifier, StartsName, Char.isAlpha, Char.isUpper, Char.isLower, Char.le_def,
    or_assoc]

/-- Behind the first character digits are let in as well. -/
theorem continuesIdentifier_iff {c : Char} :
    continuesIdentifier c = true ↔ StartsName c ∨ ('0' ≤ c ∧ c ≤ '9') := by
  rw [← startsIdentifier_iff]
  simp [continuesIdentifier, startsIdentifier, Char.isAlphanum, Char.isDigit, Char.le_def, or_assoc,
    or_comm, or_left_comm]

/-- The check of a namespace lets in exactly the names. -/
theorem isIdentifier_iff {text : String} : isIdentifier text = true ↔ IsName text := by
  rw [isIdentifier, IsName]
  cases text.toList with
  | nil => simp
  | cons c cs =>
      simp [startsIdentifier_iff, continuesIdentifier_iff]

/-! ## What a request needs -/

/-- What a request needs for a plan. -/
inductive Need where
  | nspace
  | key
  | pageScript
  | bridgeScript
  | channelScript
deriving DecidableEq, Repr

namespace Need

/-- All needs, in the order in which they are looked at. -/
def order : List Need := [nspace, key, pageScript, bridgeScript, channelScript]

/-- No need is forgotten. -/
theorem mem_order (need : Need) : need ∈ order := by
  cases need <;> decide

/-- The path of the script that has to be loaded for a need. -/
def path? (request : Request) : Need → Option String
  | nspace | key => none
  | pageScript => some Script.pageBootstrapPath
  | bridgeScript => some Script.bridgeBootstrapPath
  | channelScript => request.channelPath?

/-- The error of a namespace that is no name. -/
def nspaceError (nspace : String) : Error :=
  .configuration ("namespace " ++ Quoted.quote nspace ++ " is not a valid JavaScript identifier")

/-- The error of a blank key. -/
def keyError : Error :=
  .configuration "invoke key must not be empty"

/-- Looks at one need. -/
def check (loader : Loader) (request : Request) : Need → Except Error Unit
  | nspace => if isIdentifier request.nspace then .ok () else .error (nspaceError request.nspace)
  | key => if blank request.invokeKey then .error keyError else .ok ()
  | need => (loadOptional loader (need.path? request)).map fun _ => ()

end Need

/-- A request lacks what it needs, with the error that says so: its namespace is no name, its key has no
character but white space, or a script that it needs cannot be loaded. -/
inductive Lacks (loader : Loader) (request : Request) : Need → Error → Prop where
  | nspace (h : ¬ IsName request.nspace) :
    Lacks loader request .nspace (Need.nspaceError request.nspace)
  | key (h : ∀ c ∈ request.invokeKey.toList, c.toNat ∈ whiteSpace) :
    Lacks loader request .key Need.keyError
  | script {need : Need} {path : String} {e : Error} (asks : need.path? request = some path)
    (fails : loader path = .error e) : Lacks loader request need e

section Lacks

variable {loader : Loader} {request : Request} {need : Need} {e : Error}

/-- A script that a request needs is lacking when it cannot be loaded. -/
theorem loadOptional_map_eq_error_iff {path? : Option String} :
    (loadOptional loader path?).map (fun _ => ()) = .error e ↔
      ∃ path, path? = some path ∧ loader path = .error e := by
  cases path? with
  | none => exact ⟨nofun, nofun⟩
  | some path =>
      simp only [map_eq_error_iff, loadOptional, Option.some.injEq, exists_eq_left']

namespace Need

/-- A need for a script can be lacking in one way only. -/
theorem lacks_script_iff (hscript : need ≠ .nspace ∧ need ≠ .key) :
    Lacks loader request need e ↔ ∃ path, need.path? request = some path ∧ loader path = .error e := by
  constructor
  · intro h
    cases h with
    | nspace => exact absurd rfl hscript.1
    | key => exact absurd rfl hscript.2
    | script asks fails => exact ⟨_, asks, fails⟩
  · rintro ⟨path, asks, fails⟩
    exact .script asks fails

/-- Looking at a need fails when the request lacks it. -/
theorem check_eq_error_iff :
    need.check loader request = .error e ↔ Lacks loader request need e := by
  cases need with
  | nspace =>
      rw [check]
      constructor
      · intro h
        split at h
        · cases h
        · case isFalse hname =>
          rw [isIdentifier_iff] at hname
          rw [← Except.error.inj h]
          exact .nspace hname
      · intro h
        cases h with
        | nspace hname => rw [if_neg fun h => hname (isIdentifier_iff.mp h)]
        | script asks => cases asks
  | key =>
      rw [check]
      constructor
      · intro h
        split at h
        · case isTrue hblank =>
          rw [← Except.error.inj h]
          exact .key (blank_iff.mp hblank)
        · cases h
      · intro h
        cases h with
        | key hblank => rw [if_pos (blank_iff.mpr hblank)]
        | script asks => cases asks
  | pageScript | bridgeScript | channelScript =>
      exact loadOptional_map_eq_error_iff.trans (lacks_script_iff (by decide)).symm

/-- Looking at a need passes when the request does not lack it. -/
theorem check_eq_ok_iff :
    need.check loader request = .ok () ↔ ∀ e, ¬ Lacks loader request need e := by
  simp only [← check_eq_error_iff]
  cases need.check loader request with
  | error e => simp
  | ok u => simp

end Need

/-! ## Plans -/

namespace Plan

/-- Making a plan fails as looking at the needs of the request does, one after the other. -/
theorem resolve_map_unit (loader : Loader) (request : Request) :
    (resolve loader request).map (fun _ => ()) = Need.order.forM (Need.check loader request) := by
  have hload : ∀ path, loadOptional loader (some path) = (loader path).map some := fun _ => rfl
  rw [resolve, Request.validate]
  simp only [Need.order, List.forM, Need.check, Need.path?, hload]
  -- the checks follow each other as the steps of the plan do
  cases isIdentifier request.nspace
  · rfl
  cases blank request.invokeKey
  · cases loader Script.pageBootstrapPath
    · rfl
    cases loader Script.bridgeBootstrapPath
    · rfl
    cases loadOptional loader request.channelPath? <;> rfl
  · rfl

/-- A request fails with the error of the first thing that it lacks. -/
theorem resolve_eq_error_iff : resolve loader request = .error e ↔
    ∃ before need after, Need.order = before ++ need :: after ∧ Lacks loader request need e ∧
      ∀ earlier ∈ before, ∀ e', ¬ Lacks loader request earlier e' := by
  rw [← map_eq_error_iff, resolve_map_unit, forM_eq_error_iff]
  simp only [Need.check_eq_error_iff, Need.check_eq_ok_iff]

/-- The plan with other user scripts. -/
def withScripts (plan : Plan) (scripts : List Loaded) : Plan :=
  { plan with userScripts := scripts }

/-- A request with other user scripts fails in the same way, or has the same plan with other user
scripts. -/
theorem resolve_withScripts (loader : Loader) (request : Request) (scripts : List Descriptor) :
    resolve loader { request with userScripts := scripts } =
      (resolve loader request).map (·.withScripts (Script.loadAll loader scripts)) := by
  have hvalidate : { request with userScripts := scripts }.validate = request.validate := rfl
  have hchannel : { request with userScripts := scripts }.channelPath? = request.channelPath? := rfl
  rw [resolve, resolve, hvalidate, hchannel]
  cases request.validate
  · rfl
  cases loader Script.pageBootstrapPath
  · rfl
  cases loader Script.bridgeBootstrapPath
  · rfl
  cases loadOptional loader request.channelPath? <;> rfl

end Plan

/-- What a request lacks of a store that loads scripts is said by an error of its own kind: a script
that is missing by its path in normal form, and anything else as a fault of the configuration. -/
theorem Lacks.error_of_store {disk : File.Disk} {store : Script.Store}
    (h : Lacks (store.load disk) request need e) :
    (need.path? request = none ∧ ∃ reason, e = .configuration reason) ∨
      ∃ path reason, need.path? request = some path ∧
        e = .scriptLoad (Script.normalizePath path) reason := by
  cases h with
  | nspace => exact Or.inl ⟨rfl, _, rfl⟩
  | key => exact Or.inl ⟨rfl, _, rfl⟩
  | script asks fails =>
      obtain ⟨reason, rfl⟩ := Script.Store.exists_of_load_eq_error fails
      exact Or.inr ⟨_, reason, asks, rfl⟩

end Lacks

/-- A request is refused exactly when it lacks something that it needs, and the error is that of the
first thing that it lacks: one of the configuration for its namespace or its key, and that of the loader
for a script.  User scripts take no part in this: with any two lists of them the request is refused with
the same error, or has plans that agree on everything else. -/
theorem resolve_refuses_first_lack (loader : Loader) (request : Request) :
    (∀ e, Plan.resolve loader request = .error e ↔
        ∃ before need after, Need.order = before ++ need :: after ∧ Lacks loader request need e ∧
          ∀ earlier ∈ before, ∀ e', ¬ Lacks loader request earlier e') ∧
      ((∃ e, Plan.resolve loader request = .error e) ↔ ∃ need e, Lacks loader request need e) ∧
      (∀ disk store need e, Lacks (Script.Store.load disk store) request need e →
        (need.path? request = none ∧ ∃ reason, e = .configuration reason) ∨
          ∃ path reason, need.path? request = some path ∧
            e = .scriptLoad (Script.normalizePath path) reason) ∧
      ∀ scripts scripts' : List Descriptor,
        let outcome := fun scripts => Plan.resolve loader { request with userScripts := scripts }
        (∃ e, outcome scripts = .error e ∧ outcome scripts' = .error e) ∨
          ∃ plan plan', outcome scripts = .ok plan ∧ outcome scripts' = .ok plan' ∧
            plan' = { plan with userScripts := plan'.userScripts } := by
  refine ⟨fun e => Plan.resolve_eq_error_iff, ⟨?_, ?_⟩, fun disk store need e h => h.error_of_store,
    fun scripts scripts' => ?_⟩
  · rintro ⟨e, hfails⟩
    obtain ⟨before, need, after, -, hlacks, -⟩ := Plan.resolve_eq_error_iff.mp hfails
    exact ⟨need, e, hlacks⟩
  · rintro ⟨need, e, hlacks⟩
    cases hresolve : Plan.resolve loader request with
    | error e' => exact ⟨e', rfl⟩
    | ok plan =>
        have hchecks : Need.order.forM (Need.check loader request) = .ok () := by
          rw [← Plan.resolve_map_unit, hresolve]
          rfl
        have hcheck := check_of_forM_eq_ok hchecks need.mem_order
        exact absurd hlacks (Need.check_eq_ok_iff.mp hcheck e)
  · intro outcome
    have houtcome : ∀ scripts, outcome scripts =
        (Plan.resolve loader request).map (·.withScripts (Script.loadAll loader scripts)) :=
      Plan.resolve_withScripts loader request
    rw [houtcome, houtcome]
    cases Plan.resolve loader request with
    | error e => exact Or.inl ⟨e, rfl, rfl⟩
    | ok plan => exact Or.inr ⟨_, _, rfl, rfl, rfl⟩

end PageBridge.Installation
